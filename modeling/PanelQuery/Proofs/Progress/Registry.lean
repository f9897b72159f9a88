import PanelQuery.Progress.Registry

/-! # What the steps of a registry change

Every step changes the registrations and subscriptions one by one, so it is described by what stands
at a position after it. The positions of missing registrations and subscriptions are covered: there
nothing is attached, and nothing waits. -/

namespace PanelQuery

section

variable {α : Type} {l : List α} {i : Nat}

theorem getElem?_set_map {a : α} (h : l[i]? = some a) (f : α → α) (k : Nat) :
    (l.set i (f a))[k]? = l[k]?.map fun x => if k = i then f x else x := by
  rw [List.getElem?_set]
  by_cases hk : i = k
  · subst hk
    have hi := (List.getElem?_eq_some_iff.mp h).1
    rw [h]
    simp [hi]
  · simp [hk, Ne.symm hk]

theorem getElem?_map_of_none (h : l[i]? = none) (f : α → α) (k : Nat) :
    l[k]? = l[k]?.map fun x => if k = i then f x else x := by
  by_cases hk : k = i
  · subst hk
    rw [h, Option.map_none]
  · simp [hk]

end

namespace Registry

variable (r : Registry)

/-- The subscriptions attached to a registration. -/
def attachedAt (i : Nat) : List Nat := (r.registrations[i]?.map (·.attached)).getD []

/-- The registration of a subscription. -/
def registrationOf (j : Nat) : Option Nat := r.subscriptions[j]?.map (·.registration)

theorem stream_of_none {j : Nat} (h : r.registrationOf j = none) : r.stream j = {} := by
  unfold stream
  rw [Option.map_eq_none_iff.mp h]

/-! ## Streams -/

@[simp] theorem registrationOf_changeStreams (change : Stream → Stream) (listed : List Nat)
    (k : Nat) : (r.changeStreams change listed).registrationOf k = r.registrationOf k := by
  simp only [registrationOf, changeStreams, List.getElem?_mapIdx]
  cases r.subscriptions[k]? with
  | none => rfl
  | some u =>
    simp only [Option.map_some]
    split <;> rfl

theorem stream_changeStreams (change : Stream → Stream) (listed : List Nat) (k : Nat) :
    (r.changeStreams change listed).stream k =
      if (r.registrationOf k).isSome ∧ k ∈ listed then change (r.stream k) else r.stream k := by
  simp only [stream, changeStreams, List.getElem?_mapIdx]
  cases hu : r.subscriptions[k]? with
  | none => simp [registrationOf, hu]
  | some u =>
    have hsome : (r.registrationOf k).isSome = true := by simp [registrationOf, hu]
    simp only [Option.map_some, hsome, true_and]
    split <;> rfl

@[simp] theorem registrationOf_closeStream (j k : Nat) :
    (r.closeStream j).registrationOf k = r.registrationOf k :=
  r.registrationOf_changeStreams _ _ k

theorem stream_closeStream (j k : Nat) :
    (r.closeStream j).stream k =
      if (r.registrationOf k).isSome ∧ k = j then (r.stream k).close else r.stream k := by
  simp only [closeStream, stream_changeStreams, List.mem_singleton]

@[simp] theorem registrationOf_take (j k : Nat) :
    (r.take j).2.registrationOf k = r.registrationOf k :=
  r.registrationOf_changeStreams _ _ k

/-- Only the stream that is read changes. -/
theorem stream_take (j k : Nat) :
    (r.take j).2.stream k =
      if (r.registrationOf k).isSome ∧ k = j then (r.stream k).take.2 else r.stream k := by
  simp only [take, withStream, stream_changeStreams, List.mem_singleton]
  split
  · next hk => rw [hk.2]
  · rfl

/-- A reader that waits changes a registry as one that does not. -/
theorem poll_snd (j : Nat) : (r.poll j).2 = (r.take j).2 := by
  unfold poll take Stream.poll
  dsimp only
  split <;> simp_all

/-! ## Publishing -/

theorem registrations_publish (i : Nat) (report : Counters) (k : Nat) :
    (r.publish i report).registrations[k]? = r.registrations[k]?.map fun g =>
      if k = i then { g with counters := g.counters.add report } else g := by
  unfold publish
  cases hg : r.registrations[i]? with
  | none => exact getElem?_map_of_none hg _ k
  | some g =>
    exact getElem?_set_map hg (fun g => { g with counters := g.counters.add report }) k

@[simp] theorem running_publish (i : Nat) (report : Counters) :
    (r.publish i report).running = r.running := by
  unfold publish
  split <;> rfl

@[simp] theorem capacity_publish (i : Nat) (report : Counters) :
    (r.publish i report).capacity = r.capacity := by
  unfold publish
  split <;> rfl

/-- Publishing attaches and detaches nothing. -/
@[simp] theorem attachedAt_publish (i : Nat) (report : Counters) (k : Nat) :
    (r.publish i report).attachedAt k = r.attachedAt k := by
  unfold attachedAt
  rw [registrations_publish]
  cases r.registrations[k]? with
  | none => rfl
  | some g =>
    simp only [Option.map_some, Option.getD_some]
    split <;> rfl

@[simp] theorem registrationOf_publish (i : Nat) (report : Counters) (k : Nat) :
    (r.publish i report).registrationOf k = r.registrationOf k := by
  unfold publish
  split
  · rfl
  · exact registrationOf_changeStreams _ _ _ k

theorem stream_publish (i : Nat) (report : Counters) (k : Nat) :
    (r.publish i report).stream k =
      if (r.registrationOf k).isSome ∧ k ∈ r.attachedAt i then
        (r.stream k).push r.capacity ((r.countersAt i).add report)
      else r.stream k := by
  unfold publish attachedAt countersAt
  cases r.registrations[i]? with
  | none => simp
  | some g => exact stream_changeStreams _ _ _ k

/-! ## Attaching and detaching -/

theorem isOpen_iff {i : Nat} :
    r.isOpen i = true ↔ ∃ g, r.registrations[i]? = some g ∧ g.closed = false := by
  unfold isOpen
  cases r.registrations[i]? <;> simp

theorem registrations_attach (i k : Nat) :
    (r.attach i).2.registrations[k]? = r.registrations[k]?.map fun g =>
      if k = i ∧ g.closed = false then { g with attached := g.attached ++ [r.subscriptions.length] }
      else g := by
  unfold attach
  dsimp only
  split
  · next ho =>
    obtain ⟨g, hg, hopen⟩ := r.isOpen_iff.mp ho
    rw [List.getElem?_modify]
    by_cases hk : i = k
    · subst hk
      simp [hg, hopen]
    · simp [hk, Ne.symm hk]
  · next ho =>
    cases hk : r.registrations[k]? with
    | none => rfl
    | some g =>
      have hne : ¬ (k = i ∧ g.closed = false) := by
        rintro ⟨rfl, hopen⟩
        exact ho (r.isOpen_iff.mpr ⟨g, hk, hopen⟩)
      simp [hne]

theorem attachedAt_attach (i k : Nat) :
    (r.attach i).2.attachedAt k =
      if k = i ∧ r.isOpen i = true then r.attachedAt k ++ [r.subscriptions.length]
      else r.attachedAt k := by
  unfold attachedAt
  rw [registrations_attach]
  cases hk : r.registrations[k]? with
  | none =>
    have hclosed : ¬ (k = i ∧ r.isOpen i = true) := by
      rintro ⟨rfl, ho⟩
      obtain ⟨g, hg, -⟩ := r.isOpen_iff.mp ho
      rw [hk] at hg
      cases hg
    simp [hclosed]
  | some g =>
    have hopen : (k = i ∧ g.closed = false) ↔ (k = i ∧ r.isOpen i = true) := by
      refine and_congr_right fun he => ?_
      subst he
      simp [isOpen_iff, hk]
    simp only [hopen, Option.map_some, Option.getD_some]
    split <;> rfl

/-- A new subscription takes the first free position. -/
theorem registrationOf_attach (i k : Nat) :
    (r.attach i).2.registrationOf k =
      if k = r.subscriptions.length then some i else r.registrationOf k := by
  simp only [registrationOf, attach, List.getElem?_append, List.getElem?_singleton]
  grind

/-- A subscription to a run that has ended is closed from the start. -/
theorem stream_attach (i k : Nat) :
    (r.attach i).2.stream k =
      if k = r.subscriptions.length then { closed := !r.isOpen i } else r.stream k := by
  simp only [stream, attach, List.getElem?_append, List.getElem?_singleton]
  grind

theorem registrationOf_eq_none_iff {k : Nat} :
    r.registrationOf k = none ↔ r.subscriptions.length ≤ k := by
  simp [registrationOf]

theorem registrationOf_length : r.registrationOf r.subscriptions.length = none :=
  r.registrationOf_eq_none_iff.mpr (Nat.le_refl _)

theorem registrations_detach (j k : Nat) :
    (r.detach j).registrations[k]? = r.registrations[k]?.map fun g =>
      if r.registrationOf j = some k then { g with attached := g.attached.filter (· ≠ j) }
      else g := by
  unfold detach registrationOf
  cases r.subscriptions[j]? with
  | none => simp
  | some u => simp [List.getElem?_modify]

@[simp] theorem running_detach (j : Nat) : (r.detach j).running = r.running := by
  unfold detach
  split <;> rfl

@[simp] theorem capacity_detach (j : Nat) : (r.detach j).capacity = r.capacity := by
  unfold detach
  split <;> rfl

theorem attachedAt_detach (j k : Nat) :
    (r.detach j).attachedAt k =
      if r.registrationOf j = some k then (r.attachedAt k).filter (· ≠ j) else r.attachedAt k := by
  unfold attachedAt
  rw [registrations_detach]
  cases r.registrations[k]? with
  | none => simp
  | some g =>
    simp only [Option.map_some, Option.getD_some]
    split <;> rfl

theorem subscriptions_detach (j : Nat) : (r.detach j).subscriptions = r.subscriptions := by
  unfold detach
  split <;> rfl

@[simp] theorem registrationOf_detach (j k : Nat) :
    (r.detach j).registrationOf k = r.registrationOf k := by
  rw [registrationOf, subscriptions_detach, registrationOf]

@[simp] theorem stream_detach (j k : Nat) : (r.detach j).stream k = r.stream k := by
  rw [stream, subscriptions_detach, stream]

/-! ## Starting and ending -/

/-- A fresh registration has nothing attached to it, as none at its position had. -/
theorem attachedAt_append (running : List (String × Nat)) (k : Nat) :
    { r with running, registrations := r.registrations ++ [({} : Registration)] }.attachedAt k =
      r.attachedAt k := by
  unfold attachedAt
  simp only [List.getElem?_append, List.getElem?_singleton]
  split
  · rfl
  · next hk =>
    rw [List.getElem?_eq_none (Nat.le_of_not_lt hk)]
    split <;> rfl

theorem registrations_closeAll (i k : Nat) :
    (r.closeAll i).registrations[k]? = r.registrations[k]?.map fun g =>
      if k = i then { g with closed := true, attached := [] } else g := by
  unfold closeAll
  cases hg : r.registrations[i]? with
  | none => exact getElem?_map_of_none hg _ k
  | some g => exact getElem?_set_map hg (fun g => { g with closed := true, attached := [] }) k

@[simp] theorem running_closeAll (i : Nat) : (r.closeAll i).running = r.running := by
  unfold closeAll
  split <;> rfl

@[simp] theorem capacity_closeAll (i : Nat) : (r.closeAll i).capacity = r.capacity := by
  unfold closeAll
  split <;> rfl

theorem attachedAt_closeAll (i k : Nat) :
    (r.closeAll i).attachedAt k = if k = i then [] else r.attachedAt k := by
  unfold attachedAt
  rw [registrations_closeAll]
  cases r.registrations[k]? with
  | none => simp
  | some g =>
    simp only [Option.map_some, Option.getD_some]
    split <;> rfl

@[simp] theorem registrationOf_closeAll (i k : Nat) :
    (r.closeAll i).registrationOf k = r.registrationOf k := by
  unfold closeAll
  split
  · rfl
  · exact registrationOf_changeStreams _ _ _ k

theorem stream_closeAll (i k : Nat) :
    (r.closeAll i).stream k =
      if (r.registrationOf k).isSome ∧ k ∈ r.attachedAt i then (r.stream k).close
      else r.stream k := by
  unfold closeAll attachedAt
  cases r.registrations[i]? with
  | none => simp
  | some g => exact stream_changeStreams _ _ _ k

end Registry

end PanelQuery
