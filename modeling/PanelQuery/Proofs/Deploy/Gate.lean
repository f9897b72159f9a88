import Mathlib.Data.List.Induction
import Mathlib.Logic.ExistsUnique
import PanelQuery.Deploy.Gate

/-! # One permit at a time

Callers take permits at a gate and give them back, in any order. A permit that is released by name
is given back twice, the second time when it is dropped, and others may have been at the gate in
between. The gate is busy exactly while one permit is out, and the second time does nothing. -/

namespace PanelQuery.Gate

/-- What somebody does at a gate. All clones of a gate are the same gate. -/
inductive Event where
  | acquire
  | giveBack (permit : Nat)
  deriving DecidableEq

def after (g : Gate) : Event → Gate
  | .acquire =>
    match g.acquire with
    | .ok (_, g) => g
    | .error _ => g
  | .giveBack permit => g.giveBack permit

def run (g : Gate) (events : List Event) : Gate := events.foldl after g

/-- The permit was handed out in the course of the events and has not been given back since. -/
def Out (events : List Event) (permit : Nat) : Prop :=
  ∃ before later g, events = before ++ .acquire :: later ∧
    (run {} before).acquire = .ok (permit, g) ∧ .giveBack permit ∉ later

/-- The gate knows the permit as held. -/
def Holds (g : Gate) (permit : Nat) : Prop := g.held[permit]? = some true

variable {g : Gate} {p q : Nat} {events later : List Event} {e : Event}

theorem run_append (g : Gate) (events : List Event) (e : Event) :
    run g (events ++ [e]) = (run g events).after e := List.foldl_append ..

/-! ## Single steps -/

theorem acquire_of_busy (h : g.busy = true) :
    g.acquire = .error (.busy "config push already in flight") := if_pos h

theorem acquire_of_free (h : g.busy = false) :
    g.acquire = .ok (g.held.length, ⟨true, g.held ++ [true]⟩) := by
  rw [acquire, h]
  rfl

theorem acquire_eq_ok_iff {g' : Gate} : g.acquire = .ok (p, g') ↔
    g.busy = false ∧ p = g.held.length ∧ g' = ⟨true, g.held ++ [true]⟩ := by
  cases h : g.busy with
  | true => simp [acquire_of_busy h]
  | false => simp [acquire_of_free h, eq_comm]

theorem holds_append {busy : Bool} :
    Holds ⟨busy, g.held ++ [true]⟩ p ↔ g.Holds p ∨ p = g.held.length := by
  simp only [Holds, List.getElem?_append, List.getElem?_singleton]
  split
  · next hp => simp [Nat.ne_of_lt hp]
  · next hp =>
    rw [List.getElem?_eq_none (Nat.le_of_not_lt hp)]
    simp
    omega

/-- Giving a permit back, whether it is held or not. -/
theorem holds_giveBack : (g.giveBack q).Holds p ↔ g.Holds p ∧ p ≠ q := by
  unfold giveBack
  split
  · next hq =>
    simp only [Holds, List.getElem?_set]
    by_cases h : q = p
    · subst h
      simp
    · simp [h, Ne.symm h]
  · next hq =>
    refine ⟨fun hp => ⟨hp, ?_⟩, And.left⟩
    rintro rfl
    exact hq hp

theorem giveBack_of_holds (h : g.Holds p) : g.giveBack p = ⟨false, g.held.set p false⟩ := if_pos h

theorem giveBack_of_not_holds (h : ¬ g.Holds p) : g.giveBack p = g := if_neg h

/-- Nothing is left to give back when a released permit is dropped at once. -/
theorem release_eq_giveBack (g : Gate) (permit : Nat) : g.release permit = g.giveBack permit := by
  refine giveBack_of_not_holds fun h => ?_
  exact (holds_giveBack.mp h).2 rfl

/-! ## The gate and its permits -/

/-- At most one permit is held, and the gate is busy if and only if one is. -/
structure Sound (g : Gate) : Prop where
  unique : ∀ p q, g.Holds p → g.Holds q → p = q
  busy : g.busy = true ↔ ∃ p, g.Holds p

theorem sound_new : Sound {} := by
  constructor <;> simp [Holds]

theorem Sound.not_holds (hg : g.Sound) (h : g.busy = false) (p : Nat) : ¬ g.Holds p := by
  intro hp
  have hbusy := hg.busy.mpr ⟨p, hp⟩
  rw [h] at hbusy
  cases hbusy

/-- Without the only permit there is none. -/
theorem Sound.not_holds_giveBack (hg : g.Sound) (hp : g.Holds p) (q : Nat) :
    ¬ (g.giveBack p).Holds q := by
  intro hq
  obtain ⟨hq, hne⟩ := holds_giveBack.mp hq
  exact hne (hg.unique q p hq hp)

theorem Sound.acquire (hg : g.Sound) (h : g.busy = false) : Sound ⟨true, g.held ++ [true]⟩ where
  unique p q hp hq := by
    rcases holds_append.mp hp with hp | rfl
    · exact absurd hp (hg.not_holds h p)
    · rcases holds_append.mp hq with hq | rfl
      · exact absurd hq (hg.not_holds h q)
      · rfl
  busy := iff_of_true rfl ⟨g.held.length, holds_append.mpr (.inr rfl)⟩

theorem Sound.giveBack (hg : g.Sound) (p : Nat) : (g.giveBack p).Sound := by
  by_cases hp : g.Holds p
  · constructor
    case unique => exact fun q _ hq => absurd hq (hg.not_holds_giveBack hp q)
    case busy =>
      refine iff_of_false ?_ fun ⟨q, hq⟩ => hg.not_holds_giveBack hp q hq
      rw [giveBack_of_holds hp]
      exact Bool.false_ne_true
  · rwa [giveBack_of_not_holds hp]

theorem Sound.after (hg : g.Sound) (e : Event) : (g.after e).Sound := by
  cases e with
  | acquire =>
    cases h : g.busy with
    | true => simpa only [Gate.after, acquire_of_busy h] using hg
    | false => simpa only [Gate.after, acquire_of_free h] using hg.acquire h
  | giveBack p => exact hg.giveBack p

theorem Sound.run (hg : g.Sound) (events : List Event) : (g.run events).Sound := by
  induction events generalizing g with
  | nil => exact hg
  | cons e events ih => exact ih (hg.after e)

/-! ## What the gate knows is what happened -/

theorem out_acquire : Out (events ++ [.acquire]) p ↔
    Out events p ∨ ∃ g, (run {} events).acquire = .ok (p, g) := by
  constructor
  · rintro ⟨before, later, g, hevents, hg, hlater⟩
    rcases List.eq_nil_or_concat later with rfl | ⟨later, e, rfl⟩
    · obtain ⟨rfl, -⟩ := List.append_inj' hevents rfl
      exact .inr ⟨g, hg⟩
    · rw [List.concat_eq_append, ← List.cons_append, ← List.append_assoc] at hevents
      obtain ⟨rfl, -⟩ := List.append_inj' hevents rfl
      refine .inl ⟨before, later, g, rfl, hg, fun h => hlater ?_⟩
      rw [List.concat_eq_append]
      exact List.mem_append_left _ h
  · rintro (⟨before, later, g, rfl, hg, hlater⟩ | ⟨g, hg⟩)
    · refine ⟨before, later ++ [.acquire], g, by simp, hg, ?_⟩
      simpa using hlater
    · exact ⟨events, [], g, rfl, hg, List.not_mem_nil⟩

theorem out_giveBack : Out (events ++ [.giveBack q]) p ↔ Out events p ∧ p ≠ q := by
  constructor
  · rintro ⟨before, later, g, hevents, hg, hlater⟩
    rcases List.eq_nil_or_concat later with rfl | ⟨later, e, rfl⟩
    · obtain ⟨-, h⟩ := List.append_inj' hevents rfl
      cases h
    · rw [List.concat_eq_append, ← List.cons_append, ← List.append_assoc] at hevents
      obtain ⟨rfl, h⟩ := List.append_inj' hevents rfl
      cases h
      rw [List.concat_eq_append, List.mem_append, List.mem_singleton, not_or] at hlater
      refine ⟨⟨before, later, g, rfl, hg, hlater.1⟩, ?_⟩
      rintro rfl
      exact hlater.2 rfl
  · rintro ⟨⟨before, later, g, rfl, hg, hlater⟩, hne⟩
    refine ⟨before, later ++ [.giveBack q], g, by simp, hg, ?_⟩
    simpa [hne] using hlater

/-- A permit is known as held if and only if it is out. -/
theorem holds_run_iff : (run {} events).Holds p ↔ Out events p := by
  induction events using List.reverseRecOn generalizing p with
  | nil => simp [run, Holds, Out]
  | append_singleton events e ih =>
    rw [run_append]
    cases e with
    | acquire =>
      rw [out_acquire, ← ih]
      cases h : (run {} events).busy with
      | true => simp [after, acquire_of_busy h]
      | false => simp [after, acquire_of_free h, holds_append, eq_comm]
    | giveBack q => rw [out_giveBack, ← ih, after, holds_giveBack]

/-! ## Permits that have been given back -/

theorem given_after (h : g.held[p]? = some false) (e : Event) :
    (g.after e).held[p]? = some false := by
  have hp := (List.getElem?_eq_some_iff.mp h).1
  cases e with
  | acquire =>
    cases hb : g.busy with
    | true => simpa only [after, acquire_of_busy hb] using h
    | false =>
      simp only [after, acquire_of_free hb]
      rwa [List.getElem?_append_left hp]
  | giveBack q =>
    by_cases hq : g.Holds q
    · have hne : q ≠ p := by
        rintro rfl
        rw [Holds, h] at hq
        cases hq
      rwa [after, giveBack_of_holds hq, List.getElem?_set_ne hne]
    · rwa [after, giveBack_of_not_holds hq]

/-- A permit that has been given back is so for good. -/
theorem given_run (h : g.held[p]? = some false) (events : List Event) :
    (g.run events).held[p]? = some false := by
  induction events generalizing g with
  | nil => exact h
  | cons e events ih => exact ih (given_after h e)

theorem given_giveBack (h : g.Holds p) : (g.giveBack p).held[p]? = some false := by
  rw [giveBack_of_holds h, List.getElem?_set_self (List.getElem?_eq_some_iff.mp h).1]

/-- To give it back once more does nothing. -/
theorem giveBack_of_given (h : g.held[p]? = some false) : g.giveBack p = g := by
  refine giveBack_of_not_holds fun hp => ?_
  rw [Holds, h] at hp
  cases hp

/-- The drop of a permit that was released, whoever passed the gate in between. -/
theorem giveBack_run_of_out (h : Out events p) (later : List Event) :
    (run {} (events ++ .giveBack p :: later)).giveBack p =
      run {} (events ++ .giveBack p :: later) := by
  have hrun : run {} (events ++ .giveBack p :: later) = ((run {} events).giveBack p).run later :=
    List.foldl_append ..
  rw [hrun]
  exact giveBack_of_given (given_run (given_giveBack (holds_run_iff.mpr h)) later)

/-! ## The gate -/

theorem busy_run_iff (events : List Event) :
    (run {} events).busy = true ↔ ∃! p, Out events p := by
  have hsound := sound_new.run events
  rw [hsound.busy]
  constructor
  · rintro ⟨p, hp⟩
    exact ⟨p, holds_run_iff.mp hp, fun q hq => hsound.unique q p (holds_run_iff.mpr hq) hp⟩
  · rintro ⟨p, hp, -⟩
    exact ⟨p, holds_run_iff.mpr hp⟩

theorem acquire_run_iff (events : List Event) :
    (∃ p g, (run {} events).acquire = .ok (p, g)) ↔ ¬ ∃ p, Out events p := by
  have hsome : (∃ p, Out events p) ↔ (run {} events).busy = true := by
    rw [(sound_new.run events).busy]
    exact exists_congr fun p => holds_run_iff.symm
  rw [hsome, Bool.not_eq_true]
  constructor
  · rintro ⟨p, g, h⟩
    exact (acquire_eq_ok_iff.mp h).1
  · exact fun h => ⟨_, _, acquire_of_free h⟩

end PanelQuery.Gate
