import PanelQuery.Proofs.Progress.Ending
import PanelQuery.Proofs.Run.Statements

/-! # What a run leaves behind

A run starts its id, performs its task and ends what runs under the id. Meanwhile others use the
registry as well: they report, subscribe, and start and end runs of their own. The steps of the run
itself touch nothing but its own registration, and no id leads there when it is over. -/

namespace PanelQuery

variable {σ : Type}

/-! ## The steps of the run itself -/

namespace Registry

/-- The registries differ at most in one registration, its streams and where one id leads. -/
structure AlikeBut (queryId : String) (i : Nat) (r r' : Registry) : Prop where
  capacity : r'.capacity = r.capacity
  find : ∀ p ≠ queryId, r'.find? p = r.find? p
  registrations : ∀ k ≠ i, r'.registrations[k]? = r.registrations[k]?
  registrationOf : ∀ j, r'.registrationOf j = r.registrationOf j
  stream : ∀ j, r.registrationOf j ≠ some i → r'.stream j = r.stream j

variable {r : Registry} {queryId : String} {i : Nat}

theorem alikeBut_started (r : Registry) (queryId : String) :
    r.AlikeBut queryId r.registrations.length (r.started queryId) := by
  constructor
  case capacity => rfl
  case find =>
    intro p hp
    rw [find?, started, List.lookup_cons, beq_eq_false_iff_ne.mpr hp, find?]
  case registrations =>
    intro k hk
    simp only [started, List.getElem?_append, List.getElem?_singleton]
    grind
  case registrationOf => exact fun _ => rfl
  case stream => exact fun _ _ => rfl

theorem finish_of_find? (h : r.find? queryId = some i) :
    r.finish ⟨queryId⟩ = (r.remove queryId).closeAll i := by
  simp only [finish, h]

theorem find?_finish (r : Registry) (queryId : String) :
    (r.finish ⟨queryId⟩).find? queryId = none := by
  cases h : r.find? queryId with
  | none => simp only [finish, h]
  | some i =>
    rw [finish_of_find? h, find?, running_closeAll]
    exact (r.find?_remove queryId queryId).trans (if_pos rfl)

theorem find?_started (r : Registry) (queryId : String) :
    (r.started queryId).find? queryId = some r.registrations.length := List.lookup_cons_self

theorem remove_started (h : r.find? queryId = none) :
    (r.started queryId).remove queryId = { r with registrations := r.registrations ++ [{}] } := by
  have hrunning : ∀ p ∈ r.running, p.1 ≠ queryId := fun p hp he =>
    bne_iff_ne.mp (List.lookup_eq_none_iff.mp h p hp) he.symm
  have hkept : r.running.filter (·.1 ≠ queryId) = r.running :=
    List.filter_eq_self.mpr fun p hp => decide_eq_true (hrunning p hp)
  simp only [remove, started, List.filter_cons, ne_eq, not_true_eq_false, decide_false] at hkept ⊢
  rw [hkept]
  rfl

theorem changeStreams_nil (r : Registry) (change : Stream → Stream) :
    r.changeStreams change [] = r := by
  have hsame : r.subscriptions.mapIdx (fun _ s => s) = r.subscriptions :=
    List.ext_getElem? fun j => by simp
  simp [changeStreams, hsame]

/-- Without anything in between, starting and ending a run leaves a closed registration that no id
leads to. -/
theorem finish_started (h : r.find? queryId = none) :
    (r.started queryId).finish ⟨queryId⟩ =
      { r with registrations := r.registrations ++ [{ closed := true }] } := by
  rw [finish_of_find? (find?_started r queryId), remove_started h, closeAll]
  simp only [List.getElem?_concat_length, changeStreams_nil]
  simp

end Registry

namespace System

variable {s s' : System} {queryId : String} {i : Nat}

/-- Only streams of the run are closed when it ends. -/
theorem alikeBut_finish (hs : s.Consistent) (h : s.registry.find? queryId = some i) :
    s.registry.AlikeBut queryId i (s.registry.finish ⟨queryId⟩) := by
  rw [Registry.finish_of_find? h]
  constructor
  case capacity => rw [Registry.capacity_closeAll, Registry.remove]
  case find =>
    intro p hp
    rw [Registry.find?, Registry.running_closeAll]
    exact (s.registry.find?_remove queryId p).trans (if_neg hp)
  case registrations =>
    intro k hk
    rw [Registry.registrations_closeAll, Registry.remove]
    simp [hk]
  case registrationOf =>
    intro j
    rw [Registry.registrationOf_closeAll]
    rfl
  case stream =>
    intro j hj
    have hattached : j ∉ (s.registry.remove queryId).attachedAt i := fun hmem =>
      hj ((hs.attached i j).mp hmem).1
    rw [Registry.stream_closeAll, if_neg fun hmem => hattached hmem.2]
    rfl

end System

/-! ## The others -/

/-- The registry of a world with the operations that others have under way. -/
def company (others : σ → System) (world : Registry × σ) : System :=
  { others world.2 with registry := world.1 }

/-- While the store works on a statement of the run, it and others take steps, but nobody ends the
run. -/
def Store.Plays (store : Store σ) (others : σ → System) (queryId : String) : Prop :=
  ∀ statement world, ∃ actions, .remove queryId ∉ actions ∧
    (company others world).run? actions =
      some (company others (store ⟨queryId⟩ statement world).2)

variable {store : Store σ} {others : σ → System} {queryId : String}

/-- What the work on every statement keeps, performing a task keeps. -/
theorem Task.perform_keeps {P : Registry × σ → Prop}
    (h : ∀ statement world, P world → P (store ⟨queryId⟩ statement world).2) (panel : Panel)
    (task : Task) {world : Registry × σ} (hworld : P world) :
    P (task.perform store panel ⟨queryId⟩ world).2 := by
  induction task generalizing world with
  | done result => exact hworld
  | send statement next ih =>
    have hnext := h statement world hworld
    rw [Task.perform]
    generalize store ⟨queryId⟩ statement world = answer at hnext ⊢
    obtain ⟨reply, after⟩ := answer
    cases reply with
    | rows rows => exact ih rows hnext
    | failed | timedOut | abandoned => exact hnext

/-- While a task is performed, all steps are taken by the store and others. -/
theorem Store.Plays.perform (h : store.Plays others queryId) (panel : Panel) (task : Task)
    (world : Registry × σ) : ∃ actions, .remove queryId ∉ actions ∧
      (company others world).run? actions =
        some (company others (task.perform store panel ⟨queryId⟩ world).2) := by
  refine Task.perform_keeps (P := fun after => ∃ actions, .remove queryId ∉ actions ∧
    (company others world).run? actions = some (company others after)) ?_ panel task
    ⟨[], List.not_mem_nil, rfl⟩
  rintro statement after ⟨actions, hguard, hrun⟩
  obtain ⟨more, hmore, hrest⟩ := h statement after
  exact ⟨actions ++ more, by simp [hguard, hmore], System.run?_append.mpr ⟨_, hrun, hrest⟩⟩

/-! ## The whole run -/

/-- A run led from one state to the other: it started its id, others took their steps, and it ended.
Its own steps touched nothing but its own registration, which is at an end, and no id leads
there. -/
structure System.Passed (queryId : String) (s s' : System) : Prop where
  steps : ∃ actions started last, .remove queryId ∉ actions ∧
    s.step (.start queryId) = some started ∧ started.run? actions = some last ∧
    last.run? [.remove queryId, .closeAll s.registry.registrations.length] = some s' ∧
    s.registry.AlikeBut queryId s.registry.registrations.length started.registry ∧
    last.registry.AlikeBut queryId s.registry.registrations.length s'.registry
  ended : s'.Ended s.registry.registrations.length
  apart : ∀ p, s'.registry.find? p ≠ some s.registry.registrations.length

theorem passed_run (e : Engine) (r : CompileRequest) {world : Registry × σ}
    (hs : (company others world).Consistent) (hfree : world.1.find? queryId = none)
    (hplays : store.Plays others queryId) :
    (company others world).Passed queryId (company others (run e store queryId r world).2) := by
  obtain ⟨actions, hguard, hrun⟩ := hplays.perform r.panel (Task.ofRequest e r)
    (world.1.started queryId, world.2)
  have hstart := System.step_start (s := company others world) (Registry.start_of_free hfree)
  have hlast := (hs.step hstart).run? hrun
  have hfound := System.leads_run? (Registry.find?_started world.1 queryId) hguard hrun
  have hfinish := System.run?_finish (g := ⟨queryId⟩) hfound
  rw [run_of_free e store r hfree]
  generalize (Task.ofRequest e r).perform store r.panel ⟨queryId⟩
    (world.1.started queryId, world.2) = performed at *
  obtain ⟨ending, registry, state⟩ := performed
  constructor
  case steps =>
    exact ⟨actions, _, _, hguard, hstart, hrun, hfinish, world.1.alikeBut_started queryId,
      System.alikeBut_finish hlast hfound⟩
  case ended =>
    obtain ⟨removed, hremove, hclose⟩ := System.run?_cons hfinish
    obtain ⟨ended, hclose, hend⟩ := System.run?_cons hclose
    cases hend
    exact System.ended_closeAll (hlast.step hremove) hclose
  case apart =>
    intro p
    by_cases hp : p = queryId
    · subst hp
      rw [company, Registry.find?_finish]
      exact nofun
    · have hstarted := System.apart_start hs hfree hp
      obtain ⟨-, hafter⟩ := System.step_ok hstart
      rw [← hafter] at hstarted
      have hapart := (hstarted.run? hrun).apart
      rwa [← (System.alikeBut_finish hlast hfound).find p hp] at hapart

/-- **A run leaves nothing behind.** Whatever the store replies and whatever others do meanwhile:
a run sends one statement, or a ranking and a statement that is bound to the groups it has found,
and a value panel gets one row at most. An id that is running is refused, and nothing happens.
Otherwise the id is free again in the end; what the run itself has changed is one registration,
closed and out of reach. -/
theorem run_leaves_nothing (e : Engine) (store : Store σ) (queryId : String) (r : CompileRequest)
    (world : Registry × σ) :
    e.Sends r (exchanges e store queryId r world) ∧
    (∀ rows, r.panel = .value → (run e store queryId r world).1 = .rows rows → rows.length ≤ 1) ∧
    (∀ i, world.1.find? queryId = some i →
      run e store queryId r world =
          (.failed (.alreadyExists ("query " ++ queryId ++ " already started")), world) ∧
        exchanges e store queryId r world = []) ∧
    (world.1.find? queryId = none →
      (run e store queryId r world).2.1.find? queryId = none ∧
      ((∀ statement world, (store ⟨queryId⟩ statement world).2.1 = world.1) →
        (run e store queryId r world).2.1 =
          { world.1 with registrations := world.1.registrations ++ [{ closed := true }] }) ∧
      ∀ others buffer before, (System.new buffer).run? before = some (company others world) →
        store.Plays others queryId →
        (company others world).Passed queryId
          (company others (run e store queryId r world).2)) := by
  cases hi : world.1.find? queryId with
  | some i =>
    obtain ⟨hrun, hsent⟩ := run_of_running e store r hi
    rw [hrun, hsent]
    exact ⟨e.sends_nil r, nofun, fun _ _ => ⟨rfl, rfl⟩, nofun⟩
  | none =>
    have hcourse := course_run e store r hi
    refine ⟨Engine.sends_of_course hcourse, fun rows hpanel hrows => ?_, nofun,
      fun _ => ⟨?_, ?_, ?_⟩⟩
    · rw [hpanel, hrows] at hcourse
      exact hcourse.length_le_one
    · rw [run_of_free e store r hi]
      exact Registry.find?_finish _ queryId
    · intro hquiet
      have hstarted : (world.1.started queryId, world.2).1 = world.1.started queryId := rfl
      have hkept := Task.perform_keeps (P := fun after => after.1 = world.1.started queryId)
        (fun statement after h => (hquiet statement after).trans h) r.panel (Task.ofRequest e r)
        hstarted
      rw [run_of_free e store r hi]
      exact (congrArg (Registry.finish · ⟨queryId⟩) hkept).trans (Registry.finish_started hi)
    · intro others buffer before hbefore hplays
      exact passed_run e r ((System.consistent_new buffer).run? hbefore) hi hplays

/-- A ranked graph of the requests by method. -/
def requestsByMethod : CompileRequest where
  start := 1700000000000
  stop := 1700000060000
  panel := .graph
  query :=
    { signal := .logs
      aggregateOperator := .count
      groupBy := [{ name := "method", dataType := .scalar .string, kind := .tag }]
      stepInterval := 60
      limit := 10 }

/-- A store that reports one row and finds it. -/
def oneRow : Store Unit := fun reporter _ (registry, state) =>
  (.rows [[("method", .str "GET")]],
    (reporter.report registry { readRows := 1 }).toOption.getD registry, state)

/-- Nobody but the store is about. -/
def alone : Unit → System := fun _ => System.new 4

theorem oneRow_plays : oneRow.Plays alone "q" := by
  rintro statement ⟨registry, state⟩
  cases h : registry.report "q" { readRows := 1 } with
  | error e =>
    refine ⟨[], List.not_mem_nil, ?_⟩
    simp [oneRow, Reporter.report, h, Except.toOption]
    rfl
  | ok after =>
    obtain ⟨i, hrun⟩ := System.run?_report (s := company alone (registry, state)) h
    refine ⟨[.findToReport "q", .publish i { readRows := 1 }], by simp, hrun.trans ?_⟩
    simp [oneRow, Reporter.report, h, Except.toOption, company]

/-- The ranking finds a group, so there are two statements, and the store reports on each. -/
theorem run_leaves_nothing_requestsByMethod :
    let world : Registry × Unit := (Registry.new 4, ())
    let final := (run {} oneRow "q" requestsByMethod world).2
    (exchanges {} oneRow "q" requestsByMethod world).length = 2 ∧ final.1.find? "q" = none ∧
      (company alone world).Passed "q" (company alone final) := by
  intro world final
  obtain ⟨-, -, -, hfree⟩ := run_leaves_nothing {} oneRow "q" requestsByMethod world
  obtain ⟨hfind, -, hpassed⟩ := hfree rfl
  have hnew : (System.new 4).run? [] = some (company alone world) := rfl
  exact ⟨by decide +kernel, hfind, hpassed alone 4 [] hnew oneRow_plays⟩

end PanelQuery
