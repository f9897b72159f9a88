import PanelQuery.Proofs.Progress.Owner

/-! # What a report reaches

A reporter knows its run by the query id. While the run goes on, its reports are counted into the
registration of that run and into no other. Afterwards they are refused as long as the id is free.
Once the id has been started again they are counted in there, although the reporter was made for the
run before. -/

namespace PanelQuery

namespace System

variable {s t v : System} {queryId : String} {i : Nat}

/-- The registry differs by a report on one registration: it is added to the counters there, and who
receives the reports on it gets the new counters. -/
structure CountsIn (s : System) (i : Nat) (report : Counters) (r : Registry) : Prop where
  capacity : r.capacity = s.registry.capacity
  running : r.running = s.registry.running
  registrations : ∀ k, r.registrations[k]? = s.registry.registrations[k]?.map fun g =>
    if k = i then { g with counters := g.counters.add report } else g
  registrationOf : ∀ j, r.registrationOf j = s.registry.registrationOf j
  stream : ∀ j, r.stream j =
    if s.Receives i j then
      (s.stream j).push s.registry.capacity ((s.registry.countersAt i).add report)
    else s.stream j

theorem countsIn_publish (hs : s.Consistent) (i : Nat) (report : Counters) :
    s.CountsIn i report (s.registry.publish i report) := by
  constructor
  case capacity => exact s.registry.capacity_publish i report
  case running => exact s.registry.running_publish i report
  case registrations => exact s.registry.registrations_publish i report
  case registrationOf => exact s.registry.registrationOf_publish i report
  case stream =>
    intro j
    have hj : (s.registry.registrationOf j).isSome ∧ j ∈ s.registry.attachedAt i ↔
        s.Receives i j := by
      rw [hs.attached]
      exact ⟨And.right, fun h => ⟨h.isSome, h⟩⟩
    simp only [Registry.stream_publish, hj, System.stream]

theorem report_of_find? {r : Registry} (h : r.find? queryId = some i) (report : Counters) :
    r.report queryId report = .ok (r.publish i report) := by
  simp only [Registry.report, Registry.find, h]
  rfl

theorem report_of_free {r : Registry} (h : r.find? queryId = none) (report : Counters) :
    r.report queryId report = .error (Registry.missing queryId) := by
  simp only [Registry.report, Registry.find, h]
  rfl

/-- **What a report reaches.** Whatever ran before a run was started and whatever runs with it, a
report by its reporter is counted into its registration and nowhere else while its guard lives. Once
the guard is dropped a report fails unless the id is running again; then it is counted into that
other registration. -/
theorem report_reaches {buffer : Nat} {before live later : List Action} {g : Guard} {r : Registry}
    (hbefore : (new buffer).run? before = some s) (hstart : s.registry.start queryId = .ok (g, r))
    (hlive : { s with registry := r }.run? live = some t) (hguard : .remove queryId ∉ live)
    (hlater : t.run? (.remove queryId :: later) = some v) (report : Counters) :
    (∃ r', g.reporter.report t.registry report = .ok r' ∧
      t.CountsIn s.registry.registrations.length report r') ∧
    (v.registry.find? queryId = none →
      g.reporter.report v.registry report = .error (Registry.missing queryId)) ∧
    (∀ k, v.registry.find? queryId = some k → k ≠ s.registry.registrations.length ∧
      ∃ r', g.reporter.report v.registry report = .ok r' ∧ v.CountsIn k report r') ∧
    (.start queryId ∉ later → v.registry.find? queryId = none) := by
  obtain ⟨hfree, rfl, -⟩ := Registry.start_ok hstart
  have hs : s.Consistent := (consistent_new buffer).run? hbefore
  have ht : t.Consistent := (hs.step (step_start hstart)).run? hlive
  have hv : v.Consistent := ht.run? hlater
  have hfound : t.registry.find? queryId = some s.registry.registrations.length := by
    refine leads_run? ?_ hguard hlive
    obtain ⟨-, hafter⟩ := step_ok (step_start hstart)
    rw [hafter]
    exact find?_after_start hfree
  obtain ⟨ended, hremove, hrest⟩ := run?_cons hlater
  obtain ⟨-, rfl⟩ := step_ok hremove
  have hapart : v.Apart queryId s.registry.registrations.length :=
    (apart_remove (ht.bound hfound)).run? hrest
  refine ⟨?_, fun hnone => report_of_free hnone report, fun k hk => ?_, fun hlater => ?_⟩
  · exact ⟨_, report_of_find? hfound report, countsIn_publish ht _ report⟩
  · have hother : k ≠ s.registry.registrations.length := fun he => hapart.apart (he ▸ hk)
    exact ⟨hother, _, report_of_find? hk report, countsIn_publish hv k report⟩
  · exact free_run? (find?_after_remove t queryId) hlater hrest

end System

/-- A run ends, and its id is started again. -/
def restarted : List Action := [.remove "q", .closeAll 0, .start "q"]

/-- A reporter of the first run reports late: the report is counted into the second run. -/
theorem report_reaches_restarted : ∃ (g : Guard) (r : Registry) (v : System) (r' : Registry),
    (Registry.new 1).start "q" = .ok (g, r) ∧ { registry := r : System }.run? restarted = some v ∧
    g.reporter.report v.registry { readRows := 1 } = .ok r' ∧
    r'.registrations[1]?.map (·.counters) = some { readRows := 1 } := by
  have hrun : ∃ g r, (Registry.new 1).start "q" = .ok (g, r) ∧ ∃ v,
      { registry := r : System }.run? restarted = some v ∧ v.registry.find? "q" = some 1 ∧
      v.registry.registrations[1]? = some ({} : Registration) := ⟨_, _, rfl, _, rfl, rfl, rfl⟩
  obtain ⟨g, r, hstart, v, hv, hfound, hnew⟩ := hrun
  have hbefore : (System.new 1).run? [] = some (System.new 1) := rfl
  have hlive : { registry := r : System }.run? [] = some { registry := r } := rfl
  obtain ⟨-, -, hlate, -⟩ :=
    System.report_reaches hbefore hstart hlive List.not_mem_nil hv { readRows := 1 }
  obtain ⟨-, r', hr', hcounts⟩ := hlate 1 hfound
  refine ⟨g, r, v, r', hstart, hv, hr', ?_⟩
  rw [hcounts.registrations, hnew]
  rfl

end PanelQuery
