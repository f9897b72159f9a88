import PanelQuery.Proofs.Run.Tracking

/-! # Live guards

A guard ends what runs under its id, and ids are used again. Guards and registrations still do not
get mixed up: an id runs as long as the one guard lives that its registration was given out with. So
a dropped guard ends its own registration, and an operation changes no more than one registration,
which belongs to the id that the operation is about. -/

namespace PanelQuery

open scoped List

namespace Tracking

variable {t t' : Tracking} {op : Operation} {ops : List Operation} {queryId : String}

/-! ## What an operation reaches -/

/-- An operation that reaches no registration is refused. -/
theorem after_of_target_none (hop : t.Allowed op) (h : t.target op = none) : t.after op = t := by
  cases op with
  | start queryId =>
    cases hfound : t.registry.find? queryId with
    | some i => exact after_start_of_running hfound
    | none => simp [target, Registry.isRunning, hfound] at h
  | drop g => cases h
  | report queryId delta => rw [after_report, show t.registry.find? queryId = none from h]
  | subscribe queryId => rw [after_subscribe, show t.registry.find? queryId = none from h]
  | unsubscribe j | take j =>
    rw [Allowed, show t.registry.registrationOf j = none from h] at hop
    cases hop

theorem target_start {i : Nat} (h : t.target (.start queryId) = some i) :
    t.registry.find? queryId = none ∧ i = t.registry.registrations.length := by
  unfold target Registry.isRunning at h
  cases hfound : t.registry.find? queryId with
  | some k => simp [hfound] at h
  | none => simpa [hfound, eq_comm] using h

theorem Accurate.onlyAt_after (ht : t.Accurate) (hop : t.Allowed op) {i : Nat}
    (h : t.target op = some i) : t.registry.OnlyAt i (t.after op).registry := by
  cases op with
  | start queryId =>
    obtain ⟨hfree, rfl⟩ := target_start h
    rw [after_start_of_free hfree]
    exact (t.registry.alikeBut_started queryId).onlyAt
  | drop g =>
    cases h
    exact (System.alikeBut_finish ht.consistent ((ht.held g).mp hop)).onlyAt
  | report queryId delta =>
    rw [after_report, show t.registry.find? queryId = some i from h]
    exact Registry.onlyAt_publish (fun j hj => ((ht.consistent.attached i j).mp hj).1) delta
  | subscribe queryId =>
    rw [after_subscribe, show t.registry.find? queryId = some i from h]
    exact t.registry.onlyAt_attach i
  | unsubscribe j => exact Registry.onlyAt_unsubscribe h
  | take j => exact Registry.onlyAt_take h

theorem Accurate.own_of_find? (ht : t.Accurate) {i : Nat}
    (h : t.registry.find? queryId = some i) : t.names[i]? = some queryId :=
  ht.own ⟨queryId, i⟩ ((ht.held _).mpr h)

/-- A registration keeps its id. -/
theorem names_after {k : Nat} {p : String} (h : t.names[k]? = some p) :
    (t.after op).names[k]? = some p := by
  by_cases hstart : ∃ queryId, op = .start queryId
  · obtain ⟨queryId, rfl⟩ := hstart
    cases hfound : t.registry.find? queryId with
    | some i => rwa [after_start_of_running hfound]
    | none =>
      rw [after_start_of_free hfound]
      exact (List.getElem?_append_left (List.getElem?_eq_some_iff.mp h).1).trans h
  · cases op with
    | start queryId => exact absurd ⟨queryId, rfl⟩ hstart
    | drop g => exact h
    | report | subscribe | unsubscribe | take =>
      rwa [(quiet_after (t := t) (by simp) (by simp)).names]

/-- The registration that an operation reaches belongs to the id that the operation is about. -/
theorem Accurate.named_target (ht : t.Accurate) (hop : t.Allowed op) {i : Nat}
    (h : t.target op = some i) : ∃ p, t.subject op = some p ∧ (t.after op).names[i]? = some p := by
  cases op with
  | start queryId =>
    obtain ⟨hfree, rfl⟩ := target_start h
    refine ⟨queryId, rfl, ?_⟩
    rw [after_start_of_free hfree, ← ht.named]
    exact List.getElem?_concat_length
  | drop g =>
    cases h
    exact ⟨g.queryId, rfl, ht.own g hop⟩
  | report queryId delta => exact ⟨queryId, rfl, names_after (ht.own_of_find? h)⟩
  | subscribe queryId => exact ⟨queryId, rfl, names_after (ht.own_of_find? h)⟩
  | unsubscribe j | take j =>
    have hj : t.registry.registrationOf j = some i := h
    have hi := ht.subscribed j i hj
    rw [← ht.named] at hi
    have hname := List.getElem?_eq_getElem hi
    exact ⟨t.names[i], by rw [subject, subscribedTo, hj]; exact hname, names_after hname⟩

/-! ## What an operation leaves alone -/

/-- Nothing of what belongs to the id is different: whether and where it runs, its registrations
with their counters, and the streams of its subscribers. -/
structure SameFor (p : String) (t t' : Tracking) : Prop where
  find : t'.registry.find? p = t.registry.find? p
  names : ∀ k : Nat, t'.names[k]? = some p ↔ t.names[k]? = some p
  registrations : ∀ k : Nat, t.names[k]? = some p →
    t'.registry.registrations[k]? = t.registry.registrations[k]?
  subscribedTo : ∀ j, t'.subscribedTo j = some p ↔ t.subscribedTo j = some p
  stream : ∀ j, t.subscribedTo j = some p → t'.registry.stream j = t.registry.stream j

theorem Accurate.find?_after (ht : t.Accurate) (hop : t.Allowed op) {p : String}
    (hp : t.subject op ≠ some p) : (t.after op).registry.find? p = t.registry.find? p := by
  cases op with
  | start queryId =>
    have hne : p ≠ queryId := fun he => hp (congrArg some he.symm)
    cases hfound : t.registry.find? queryId with
    | some i => rw [after_start_of_running hfound]
    | none =>
      rw [after_start_of_free hfound]
      exact (t.registry.alikeBut_started queryId).find p hne
  | drop g =>
    have hne : p ≠ g.queryId := fun he => hp (congrArg some he.symm)
    exact (System.alikeBut_finish ht.consistent ((ht.held g).mp hop)).find p hne
  | report | subscribe | unsubscribe | take => exact (quiet_after (by simp) (by simp)).find p

theorem names_of_after {k : Nat} {p : String} (hp : t.subject op ≠ some p)
    (h : (t.after op).names[k]? = some p) : t.names[k]? = some p := by
  cases op with
  | start queryId =>
    have hne : queryId ≠ p := fun he => hp (congrArg some he)
    cases hfound : t.registry.find? queryId with
    | some i => rwa [after_start_of_running hfound] at h
    | none =>
      rw [after_start_of_free hfound, List.getElem?_append] at h
      split at h
      · exact h
      · have hlast := List.mem_of_getElem? h
        rw [List.mem_singleton] at hlast
        exact absurd hlast.symm hne
  | drop g => exact h
  | report | subscribe | unsubscribe | take =>
    rwa [(quiet_after (t := t) (by simp) (by simp)).names] at h

theorem subscribedTo_eq_some_iff {j : Nat} {p : String} :
    t.subscribedTo j = some p ↔
      ∃ k, t.registry.registrationOf j = some k ∧ t.names[k]? = some p :=
  Option.bind_eq_some_iff

theorem Accurate.sameFor_after (ht : t.Accurate) (hop : t.Allowed op) {p : String}
    (hp : t.subject op ≠ some p) : t.SameFor p (t.after op) := by
  cases hi : t.target op with
  | none =>
    rw [after_of_target_none hop hi]
    exact ⟨rfl, fun _ => Iff.rfl, fun _ _ => rfl, fun _ => Iff.rfl, fun _ _ => rfl⟩
  | some i =>
    have honly := ht.onlyAt_after hop hi
    obtain ⟨own, hown, hname⟩ := ht.named_target hop hi
    have hnames : ∀ k : Nat, (t.after op).names[k]? = some p ↔ t.names[k]? = some p := fun k =>
      ⟨names_of_after hp, names_after⟩
    -- The registration that is reached has another id.
    have hother : ∀ k : Nat, t.names[k]? = some p → k ≠ i := by
      rintro k hk rfl
      rw [← hnames, hname] at hk
      exact hp (hown.trans hk)
    constructor
    case find => exact ht.find?_after hop hp
    case names => exact hnames
    case registrations => exact fun k hk => honly.registrations k (hother k hk)
    case subscribedTo =>
      intro j
      simp only [subscribedTo_eq_some_iff, hnames]
      exact exists_congr fun k => and_congr_left fun hk => honly.registrationOf j k (hother k hk)
    case stream =>
      intro j hj
      obtain ⟨k, hj, hk⟩ := subscribedTo_eq_some_iff.mp hj
      exact honly.stream j k (hother k hk) hj

/-! ## Guards and runs -/

/-- The live guards of an id. -/
def guardsOf (t : Tracking) (queryId : String) : List Held :=
  t.guards.filter fun g => g.queryId = queryId

theorem Accurate.guardsOf_eq (ht : t.Accurate) (queryId : String) :
    t.guardsOf queryId = (t.registry.find? queryId).toList.map fun i => ⟨queryId, i⟩ := by
  have hmem : ∀ g, g ∈ t.guardsOf queryId ↔
      g.queryId = queryId ∧ t.registry.find? queryId = some g.registration := by
    intro g
    rw [guardsOf, List.mem_filter, ht.held, decide_eq_true_iff, and_comm]
    exact and_congr_right fun he => by rw [he]
  cases hfound : t.registry.find? queryId with
  | none =>
    refine List.eq_nil_iff_forall_not_mem.mpr fun g hg => ?_
    have hg := ((hmem g).mp hg).2
    rw [hfound] at hg
    cases hg
  | some i =>
    have hnodup : (t.guardsOf queryId).Nodup := ht.nodup.of_map.filter _
    have hperm : t.guardsOf queryId ~ [⟨queryId, i⟩] := by
      refine (List.perm_ext_iff_of_nodup hnodup (List.nodup_singleton _)).mpr fun g => ?_
      rw [hmem, hfound, List.mem_singleton]
      obtain ⟨p, k⟩ := g
      simp [eq_comm]
    exact List.perm_singleton.mp hperm

theorem Accurate.isRunning_iff (ht : t.Accurate) (queryId : String) :
    (t.registry.isRunning queryId = true ↔ ∃ g, t.guardsOf queryId = [g]) ∧
      (t.registry.isRunning queryId = false ↔ t.guardsOf queryId = []) := by
  rw [ht.guardsOf_eq, Registry.isRunning]
  cases t.registry.find? queryId <;> simp

/-- The registry has a new registration under the id. Its counters are zero, it takes subscribers
and has none, and nothing else is different. -/
structure Fresh (t : Tracking) (queryId : String) (r : Registry) : Prop where
  found : r.find? queryId = some t.registry.registrations.length
  zero : r.registrations[t.registry.registrations.length]? = some {}
  alone : ∀ j, r.registrationOf j ≠ some t.registry.registrations.length
  others : t.registry.AlikeBut queryId t.registry.registrations.length r

theorem Accurate.fresh_started (ht : t.Accurate) (queryId : String) :
    t.Fresh queryId (t.registry.started queryId) := by
  constructor
  case found => exact t.registry.find?_started queryId
  case zero => simp [Registry.started]
  case alone =>
    intro j hj
    exact absurd (ht.subscribed j _ hj) (Nat.lt_irrefl _)
  case others => exact t.registry.alikeBut_started queryId

/-- The run of a guard is over: its id leads nowhere, its registration is closed like all streams of
its subscribers, and nothing else is different. -/
structure Dropped (t : Tracking) (g : Held) (t' : Tracking) : Prop where
  free : t'.registry.find? g.queryId = none
  ended : t'.system.Ended g.registration
  closed : ∀ j, t'.registry.registrationOf j = some g.registration →
    (t'.registry.stream j).closed = true
  others : t.registry.AlikeBut g.queryId g.registration t'.registry

theorem Accurate.dropped (ht : t.Accurate) {g : Held} (hg : g ∈ t.guards) :
    t.Dropped g (t.after (.drop g)) := by
  have hfound := (ht.held g).mp hg
  have hconsistent : (t.after (.drop g)).system.Consistent := ht.consistent_after hg
  obtain ⟨removed, hremove, hclose⟩ :=
    System.run?_cons (System.run?_finish (s := t.system) (g := g.guard) hfound)
  obtain ⟨ended, hclose, hend⟩ := System.run?_cons hclose
  cases hend
  have hended : (t.after (.drop g)).system.Ended g.registration :=
    System.ended_closeAll (ht.consistent.step hremove) hclose
  constructor
  case free => exact Registry.find?_finish _ _
  case ended => exact hended
  case closed =>
    intro j hj
    by_contra hopen
    exact hended.not_receives hconsistent j
      ⟨hj, Bool.eq_false_iff.mpr hopen, List.not_mem_nil⟩
  case others => exact System.alikeBut_finish ht.consistent hfound

/-- **The registry is the set of live guards.** Whatever operations came before: an id is running if
and only if it has one live guard, and otherwise it has none. Only an id that is not running is
started; it gets a new registration, and a start that is refused changes nothing. A dropped guard
ends its own run and no other. An operation reaches one registration at most, so that nothing of any
other id is different after it. -/
theorem guards_exact {buffer : Nat} (h : (new buffer).run? ops = some t) :
    (∀ queryId,
      (t.registry.isRunning queryId = true ↔ ∃ g, t.guardsOf queryId = [g]) ∧
      (t.registry.isRunning queryId = false ↔ t.guardsOf queryId = [])) ∧
    (∀ queryId,
      ((∃ g r, t.registry.start queryId = .ok (g, r)) ↔ t.registry.isRunning queryId = false) ∧
      (∀ g r, t.registry.start queryId = .ok (g, r) → g = ⟨queryId⟩ ∧ t.Fresh queryId r) ∧
      (∀ e, t.registry.start queryId = .error e →
        e = .alreadyExists ("query " ++ queryId ++ " already started") ∧
        t.after (.start queryId) = t)) ∧
    (∀ g ∈ t.guards, t.Dropped g (t.after (.drop g))) ∧
    ∀ op, t.Allowed op →
      (∀ i, t.target op = some i → t.registry.OnlyAt i (t.after op).registry) ∧
      (t.target op = none → t.after op = t) ∧
      ∀ p, t.subject op ≠ some p → t.SameFor p (t.after op) := by
  have ht : t.Accurate := (accurate_new buffer).run? h
  refine ⟨ht.isRunning_iff, fun queryId => ?_, fun g hg => ht.dropped hg, fun op hop => ?_⟩
  · cases hfound : t.registry.find? queryId with
    | none =>
      have hstart := Registry.start_of_free hfound
      have hidle : t.registry.isRunning queryId = false := by simp [Registry.isRunning, hfound]
      refine ⟨⟨fun _ => hidle, fun _ => ⟨_, _, hstart⟩⟩, fun g r hok => ?_, fun e herror => ?_⟩
      · obtain ⟨-, hg, rfl⟩ := Registry.start_ok hok
        exact ⟨hg, ht.fresh_started queryId⟩
      · rw [hstart] at herror
        cases herror
    | some i =>
      have hstart := Registry.start_of_running hfound
      have hrunning := Registry.isRunning_of_find? hfound
      refine ⟨⟨fun hstarts => ?_, fun hidle => ?_⟩, fun g r hok => ?_, fun e herror => ?_⟩
      · obtain ⟨g, r, hok⟩ := hstarts
        rw [hstart] at hok
        cases hok
      · rw [hrunning] at hidle
        cases hidle
      · rw [hstart] at hok
        cases hok
      · rw [hstart] at herror
        cases herror
        exact ⟨rfl, after_start_of_running hfound⟩
  · exact ⟨fun i hi => ht.onlyAt_after hop hi, after_of_target_none hop,
      fun p hp => ht.sameFor_after hop hp⟩

/-- An id is used again after a run with a subscriber, who then leaves, and leaves once more. -/
def usedAgain : List Operation :=
  [.start "q", .start "p", .subscribe "q", .report "q" { readRows := 3 }, .drop ⟨"q", 0⟩,
    .start "q", .unsubscribe 0, .unsubscribe 0]

/-- The late subscriber of the first run reaches that run only, and the second has its own guard. -/
theorem guards_exact_usedAgain : ∃ t, (new 1).run? usedAgain = some t ∧
    t.registry.find? "q" = some 2 ∧ (∃ g, t.guardsOf "q" = [g]) ∧
    t.Dropped ⟨"q", 2⟩ (t.after (.drop ⟨"q", 2⟩)) ∧
    t.registry.OnlyAt 0 (t.after (.unsubscribe 0)).registry ∧
    t.SameFor "p" (t.after (.unsubscribe 0)) := by
  have hrun : ∃ t, (new 1).run? usedAgain = some t ∧ t.registry.find? "q" = some 2 ∧
      t.guards = [⟨"q", 2⟩, ⟨"p", 1⟩] ∧ t.registry.registrationOf 0 = some 0 ∧
      t.subscribedTo 0 = some "q" := ⟨_, rfl, rfl, rfl, rfl, rfl⟩
  obtain ⟨t, h, hfound, hguards, hsubscribed, hsubject⟩ := hrun
  obtain ⟨hrunning, -, hdropped, hreached⟩ := guards_exact h
  have hleave : t.Allowed (.unsubscribe 0) := by
    rw [Allowed, hsubscribed]
    rfl
  obtain ⟨honly, -, hsame⟩ := hreached (.unsubscribe 0) hleave
  have hother : t.subject (.unsubscribe 0) ≠ some "p" := by
    rw [subject, hsubject]
    decide
  refine ⟨t, h, hfound, ?_, ?_, honly 0 hsubscribed, hsame "p" hother⟩
  · exact (hrunning "q").1.mp (Registry.isRunning_of_find? hfound)
  · exact hdropped _ (by simp [hguards])

end Tracking

end PanelQuery
