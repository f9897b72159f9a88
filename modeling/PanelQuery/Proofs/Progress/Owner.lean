import PanelQuery.Proofs.Progress.System

/-! # The registration of a run

A query id that is started leads to a new registration, and it does so until it is taken out. It
never leads there again, and no other id ever does. -/

namespace PanelQuery

namespace Registry

theorem lookup_filter_ne (l : List (String × Nat)) (p queryId : String) :
    (l.filter (·.1 ≠ p)).lookup queryId = if queryId = p then none else l.lookup queryId := by
  induction l with
  | nil => simp
  | cons e l ih => grind

/-- A removed id leads nowhere, and every other one where it did. -/
theorem find?_remove (r : Registry) (p queryId : String) :
    (r.remove p).find? queryId = if queryId = p then none else r.find? queryId :=
  lookup_filter_ne r.running p queryId

theorem isRunning_of_find? {r : Registry} {queryId : String} {i : Nat}
    (h : r.find? queryId = some i) : r.isRunning queryId = true := by
  rw [isRunning, h, Option.isSome_some]

/-- The registry with a fresh registration under the id. -/
def started (r : Registry) (queryId : String) : Registry :=
  { r with
    running := (queryId, r.registrations.length) :: r.running
    registrations := r.registrations ++ [{}] }

theorem start_of_free {r : Registry} {queryId : String} (h : r.find? queryId = none) :
    r.start queryId = .ok (⟨queryId⟩, r.started queryId) := by
  rw [start, isRunning, h]
  rfl

theorem start_of_running {r : Registry} {queryId : String} {i : Nat}
    (h : r.find? queryId = some i) :
    r.start queryId = .error (.alreadyExists ("query " ++ queryId ++ " already started")) := by
  rw [start, if_pos (isRunning_of_find? h)]

/-- Only a free id is started. -/
theorem start_ok {r r' : Registry} {queryId : String} {g : Guard}
    (h : r.start queryId = .ok (g, r')) :
    r.find? queryId = none ∧ g = ⟨queryId⟩ ∧ r' = r.started queryId := by
  cases hi : r.find? queryId with
  | some i =>
    rw [start_of_running hi] at h
    cases h
  | none =>
    rw [start_of_free hi] at h
    cases h
    exact ⟨rfl, rfl, rfl⟩

end Registry

namespace System

variable {s s' : System} {a b : Action} {actions : List Action} {queryId : String} {i : Nat}

/-! ## Where an id leads -/

/-- Only starting and removing an id change where it leads. -/
theorem find?_after (queryId : String) (hstart : a ≠ .start queryId)
    (hremove : a ≠ .remove queryId) :
    (s.after a).registry.find? queryId = s.registry.find? queryId := by
  cases a with
  | start p =>
    have hp : queryId ≠ p := fun h => hstart (by rw [h])
    rw [after_start]
    split
    · rfl
    · rw [Registry.find?, List.lookup_cons, beq_eq_false_iff_ne.mpr hp, Registry.find?]
  | remove p =>
    have hp : queryId ≠ p := fun h => hremove (by rw [h])
    exact (s.registry.find?_remove p queryId).trans (if_neg hp)
  | publish | closeAll | detach => simp [after, Registry.find?]
  | findToReport | findToSubscribe | attach | close | take => rfl

/-- A free id that is started leads to a new registration. -/
theorem find?_after_start (h : s.registry.find? queryId = none) :
    (s.after (.start queryId)).registry.find? queryId = some s.registry.registrations.length := by
  rw [after, Registry.start_of_free h]
  exact List.lookup_cons_self

theorem step_start {g : Guard} {r : Registry} (h : s.registry.start queryId = .ok (g, r)) :
    s.step (.start queryId) = some { s with registry := r } := by
  simp [step, Allowed, after, h]

/-- The registration that an id leads to exists. -/
theorem Consistent.bound (hs : s.Consistent) (h : s.registry.find? queryId = some i) :
    i < s.registry.registrations.length := by
  simpa using hs.running _ (mem_running_of_find? h)

/-- A removed id leads nowhere. -/
theorem find?_after_remove (s : System) (queryId : String) :
    (s.after (.remove queryId)).registry.find? queryId = none :=
  (s.registry.find?_remove queryId queryId).trans (if_pos rfl)

/-- What every step but one keeps, every run without that step keeps. -/
theorem run?_keeps_without {P : System → Prop} (hstep : ∀ {s a}, a ≠ b → P s → P (s.after a))
    (hb : b ∉ actions) (hs : P s) (h : s.run? actions = some s') : P s' := by
  induction actions generalizing s with
  | nil =>
    cases h
    exact hs
  | cons a actions ih =>
    obtain ⟨next, ha, hrest⟩ := run?_cons h
    obtain ⟨-, rfl⟩ := step_ok ha
    rw [List.mem_cons, not_or] at hb
    exact ih hb.2 (hstep (Ne.symm hb.1) hs) hrest

/-- An id that leads somewhere does so until it is removed. -/
theorem leads_run? (hi : s.registry.find? queryId = some i) (ha : .remove queryId ∉ actions)
    (h : s.run? actions = some s') : s'.registry.find? queryId = some i := by
  refine run?_keeps_without (P := fun s => s.registry.find? queryId = some i) ?_ ha hi h
  intro s a ha hi
  by_cases hs : a = .start queryId
  · subst hs
    rwa [after_start, if_pos (Registry.isRunning_of_find? hi)]
  · rwa [find?_after queryId hs ha]

/-- An id that is not running is not before it is started. -/
theorem free_run? (hfree : s.registry.find? queryId = none) (ha : .start queryId ∉ actions)
    (h : s.run? actions = some s') : s'.registry.find? queryId = none := by
  refine run?_keeps_without (P := fun s => s.registry.find? queryId = none) ?_ ha hfree h
  intro s a ha hfree
  by_cases hr : a = .remove queryId
  · subst hr
    exact find?_after_remove s queryId
  · rwa [find?_after queryId ha hr]

/-! ## Where an id does not lead any more -/

/-- The registration exists, and the id does not lead to it. -/
structure Apart (s : System) (queryId : String) (i : Nat) : Prop where
  bound : i < s.registry.registrations.length
  apart : s.registry.find? queryId ≠ some i

theorem length_registrations_after (s : System) (a : Action) :
    s.registry.registrations.length ≤ (s.after a).registry.registrations.length := by
  by_contra hlt
  have hlast := Nat.lt_of_not_le hlt
  obtain ⟨g, hg, -⟩ := registrations_after (List.getElem?_eq_getElem hlast) a
  exact absurd (List.getElem?_eq_some_iff.mp hg).1 (Nat.lt_irrefl _)

theorem apart_remove (hi : i < s.registry.registrations.length) :
    (s.after (.remove queryId)).Apart queryId i :=
  ⟨hi, by simp [find?_after_remove]⟩

/-- A new registration belongs to the id that was started. -/
theorem apart_start (hs : s.Consistent) (hfree : s.registry.find? queryId = none) {p : String}
    (hp : p ≠ queryId) :
    (s.after (.start queryId)).Apart p s.registry.registrations.length := by
  have hallowed : s.Allowed (.start queryId) := trivial
  have hstart : Action.start queryId ≠ .start p := fun he => hp (Action.start.inj he).symm
  refine ⟨(hs.after hallowed).bound (find?_after_start hfree), fun h => ?_⟩
  rw [find?_after p hstart Action.noConfusion] at h
  exact absurd (hs.bound h) (Nat.lt_irrefl _)

theorem Apart.after (h : s.Apart queryId i) (a : Action) : (s.after a).Apart queryId i := by
  refine ⟨Nat.lt_of_lt_of_le h.bound (length_registrations_after s a), ?_⟩
  by_cases hstart : a = .start queryId
  · subst hstart
    cases hk : s.registry.find? queryId with
    | some k =>
      rw [after_start, if_pos (Registry.isRunning_of_find? hk)]
      exact h.apart
    | none =>
      rw [find?_after_start hk]
      exact fun he => absurd (Option.some.inj he ▸ h.bound) (Nat.lt_irrefl _)
  · by_cases hremove : a = .remove queryId
    · subst hremove
      simp [find?_after_remove]
    · rw [find?_after queryId hstart hremove]
      exact h.apart

theorem Apart.run? (h : s.Apart queryId i) (hrun : s.run? actions = some s') :
    s'.Apart queryId i := by
  refine run?_keeps (P := fun s => s.Apart queryId i) (fun h ha => ?_) h hrun
  obtain ⟨-, rfl⟩ := step_ok ha
  exact Apart.after h _

end System

end PanelQuery
