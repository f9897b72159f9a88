import PanelQuery.Proofs.Progress.System

/-! # Waiting for a snapshot

A receiver looks at its stream. If nothing waits there and the stream is open, it goes to sleep until
it is signalled. Whoever changes the stream gives a signal afterwards; others may take steps in
between. A signal wakes the receiver that sleeps. If none does it is kept, and the next one that is
about to sleep looks again instead. So a receiver may look in vain, but it does not sleep through a
snapshot or the end of its stream. -/

namespace PanelQuery

/-- Where a receiver stands. -/
inductive Receiver.Phase where
  | away
  | looking
  /-- It has found nothing, and does not sleep yet. -/
  | unanswered
  | asleep
  deriving DecidableEq, Repr

/-- A system and the receiver of one of its subscriptions. -/
structure Receiver where
  system : System
  phase : Receiver.Phase := .away
  /-- A signal was given while nobody slept. -/
  kept : Bool := false
  /-- How many changes of the stream have not been signalled yet. -/
  due : Nat := 0

namespace Receiver

inductive Action where
  /-- A step of anyone, an attempt of the owner to take a snapshot without waiting included. -/
  | system (a : PanelQuery.Action)
  | signal
  | enter
  | look
  | sleep
  /-- The owner gives up receiving. -/
  | leave

/-- The stream is to be looked at: a snapshot waits, or it is closed. -/
def HasNews (w : Receiver) (j : Nat) : Prop :=
  (w.system.stream j).waiting ≠ [] ∨ (w.system.stream j).closed = true

/-- The receiver of the subscription `j` after a step. A signal that wakes it is kept if it gives up
before it has looked. -/
def step (j : Nat) (w : Receiver) : Action → Option Receiver
  | .system a => (w.system.step a).map fun system =>
    { w with
      system
      due := if a = .take j ∨ system.stream j = w.system.stream j then w.due else w.due + 1 }
  | .signal =>
    if w.due = 0 then none
    else if w.phase = .asleep then some { w with due := w.due - 1, phase := .looking }
    else some { w with due := w.due - 1, kept := true }
  | .enter => if w.phase = .away then some { w with phase := .looking } else none
  | .look =>
    if w.phase = .looking then
      match w.system.registry.poll j with
      | (.pending, _) => some { w with phase := .unanswered }
      | (_, registry) => some { w with phase := .away, system := { w.system with registry } }
    else none
  | .sleep =>
    if w.phase = .unanswered then
      if w.kept then some { w with phase := .looking, kept := false }
      else some { w with phase := .asleep }
    else none
  | .leave => some { w with phase := .away, kept := w.kept || w.phase == .looking }

/-- What can become of a receiver, from an empty registry on. -/
inductive Reachable (buffer j : Nat) : Receiver → Prop
  | new : Reachable buffer j ⟨.new buffer, .away, false, 0⟩
  | step {w w' : Receiver} {a : Action} (h : Reachable buffer j w) (ha : w.step j a = some w') :
    Reachable buffer j w'

/-- A receiver that has found nothing, asleep or not, will hear of what has come since: the signal
is kept or still to be given. None is kept while it sleeps. -/
structure Attentive (w : Receiver) (j : Nat) : Prop where
  hears : w.phase = .unanswered ∨ w.phase = .asleep → w.HasNews j → w.kept = true ∨ 0 < w.due
  asleep : w.phase = .asleep → w.kept = false

variable {buffer j : Nat} {w w' : Receiver} {a : Action}

theorem not_hasNews_of_pending (h : (w.system.registry.poll j).1 = .pending) : ¬ w.HasNews j := by
  unfold Registry.poll Stream.poll Stream.take at h
  cases hw : (w.system.registry.stream j).waiting with
  | cons c rest => simp [hw] at h
  | nil =>
    cases hc : (w.system.registry.stream j).closed with
    | true => simp [hw, hc] at h
    | false => simp [HasNews, System.stream, hw, hc]

/-- What others do is signalled, or it brings nothing that was not there before. -/
theorem hasNews_of_step {s : System} {b : PanelQuery.Action} (hb : w.system.step b = some s)
    (hquiet : b = .take j ∨ s.stream j = w.system.stream j)
    (h : { w with system := s }.HasNews j) : w.HasNews j := by
  rcases hquiet with rfl | hsame
  · obtain ⟨-, rfl⟩ := System.step_ok hb
    have htake := w.system.registry.stream_take j j
    change ((w.system.registry.take j).2.stream j).waiting ≠ [] ∨
      ((w.system.registry.take j).2.stream j).closed = true at h
    rw [htake] at h
    split at h
    · exact h.imp_left fun hne hnil => hne (congrArg List.tail hnil)
    · exact h
  · rwa [HasNews, hsame] at h

theorem Attentive.step (hw : w.Attentive j) (h : w.step j a = some w') : w'.Attentive j := by
  cases a with
  | system b =>
    obtain ⟨s, hs, rfl⟩ := Option.map_eq_some_iff.mp h
    refine ⟨fun hphase hnews => ?_, hw.asleep⟩
    dsimp only
    split
    · next hquiet => exact hw.hears hphase (hasNews_of_step hs hquiet hnews)
    · exact .inr (Nat.succ_pos _)
  | signal =>
    simp only [Receiver.step] at h
    split at h
    · cases h
    split at h
    · cases h
      exact ⟨by simp, by simp⟩
    · next hawake =>
      cases h
      exact ⟨fun _ _ => .inl rfl, fun hasleep => absurd hasleep hawake⟩
  | enter =>
    simp only [Receiver.step] at h
    split at h
    · cases h
      exact ⟨by simp, by simp⟩
    · cases h
  | look =>
    simp only [Receiver.step] at h
    split at h
    · split at h
      · next hpoll =>
        cases h
        refine ⟨fun _ hnews => absurd hnews (not_hasNews_of_pending (w := w) ?_), by simp⟩
        rw [hpoll]
      · cases h
        exact ⟨by simp, by simp⟩
    · cases h
  | sleep =>
    simp only [Receiver.step] at h
    split at h
    · next hphase =>
      split at h
      · cases h
        exact ⟨by simp, by simp⟩
      · next hkept =>
        cases h
        refine ⟨fun _ hnews => hw.hears (.inl hphase) hnews, fun _ => by simpa using hkept⟩
    · cases h
  | leave =>
    cases h
    exact ⟨by simp, by simp⟩

theorem Reachable.attentive (h : Reachable buffer j w) : w.Attentive j := by
  induction h with
  | new => exact ⟨by simp, by simp⟩
  | step _ ha ih => exact ih.step ha

/-- A look that finds something is a step of the system, and the other steps of a receiver are
none. -/
theorem run?_of_step (h : w.step j a = some w') : ∃ actions, w.system.run? actions =
    some w'.system := by
  cases a with
  | system b =>
    obtain ⟨s, hs, rfl⟩ := Option.map_eq_some_iff.mp h
    exact ⟨[b], (System.run?_of_step hs []).trans rfl⟩
  | look =>
    simp only [Receiver.step] at h
    split at h
    · split at h
      · cases h
        exact ⟨[], rfl⟩
      · next reading registry hfound hpoll =>
        cases h
        have hallowed : w.system.Allowed (.take j) := by
          by_contra hnone
          have hempty := w.system.registry.stream_of_none
            (Option.not_isSome_iff_eq_none.mp hnone)
          simp only [Registry.poll, hempty] at hpoll
          exact hfound (congrArg Prod.fst hpoll).symm
        have hregistry : (w.system.registry.take j).2 = registry := by
          rw [← Registry.poll_snd, hpoll]
        refine ⟨[.take j], (System.run?_of_step (if_pos hallowed) []).trans ?_⟩
        rw [System.after, hregistry]
        rfl
    · cases h
  | signal | enter | sleep =>
    simp only [Receiver.step] at h
    repeat' split at h
    all_goals
      cases h
      try exact ⟨[], rfl⟩
  | leave =>
    cases h
    exact ⟨[], rfl⟩

/-- Whatever the receiver does, its system has been run. -/
theorem Reachable.exists_run (h : Reachable buffer j w) :
    ∃ actions, (System.new buffer).run? actions = some w.system := by
  induction h with
  | new => exact ⟨[], rfl⟩
  | step _ ha ih =>
    obtain ⟨actions, hrun⟩ := ih
    obtain ⟨more, hmore⟩ := run?_of_step ha
    exact ⟨actions ++ more, System.run?_append.mpr ⟨_, hrun, hmore⟩⟩

/-- A system has been run if and only if a receiver can have it, and all changes of the stream can
have been signalled then. -/
theorem exists_reachable_iff (j : Nat) {s : System} :
    (∃ w, Reachable buffer j w ∧ w.system = s ∧ w.due = 0) ↔
      ∃ actions, (System.new buffer).run? actions = some s := by
  constructor
  · rintro ⟨w, hw, rfl, -⟩
    exact hw.exists_run
  · rintro ⟨actions, hrun⟩
    have hstep : ∀ {s s' : System} {a : PanelQuery.Action},
        (∃ w, Reachable buffer j w ∧ w.system = s ∧ w.due = 0 ∧ w.phase = .away) →
          s.step a = some s' →
            ∃ w, Reachable buffer j w ∧ w.system = s' ∧ w.due = 0 ∧ w.phase = .away := by
      rintro _ s' a ⟨w, hw, rfl, hdue, hphase⟩ ha
      by_cases hquiet : a = .take j ∨ s'.stream j = w.system.stream j
      · have hmove : w.step j (.system a) = some { w with system := s' } := by
          simp [step, ha, hquiet]
        exact ⟨_, hw.step hmove, rfl, hdue, hphase⟩
      · have hmove : w.step j (.system a) = some { w with system := s', due := 1 } := by
          simp [step, ha, hquiet, hdue]
        -- a receiver that is away keeps the signal
        have hsignal : step j { w with system := s', due := 1 } .signal =
            some { w with system := s', due := 0, kept := true } := by
          simp [step, hphase]
        exact ⟨_, (hw.step hmove).step hsignal, rfl, rfl, hphase⟩
    obtain ⟨w, hw, hs, hdue, -⟩ :=
      System.run?_keeps hstep ⟨_, .new, rfl, rfl, rfl⟩ hrun
    exact ⟨w, hw, hs, hdue⟩

/-- Once all changes have been signalled, a receiver with news does not sleep, and will not without
looking again. -/
theorem Reachable.awake (h : Reachable buffer j w) (hnews : w.HasNews j) (hdue : w.due = 0) :
    w.phase ≠ .asleep ∧ (w.phase = .unanswered → w.kept = true) := by
  have hkept : w.phase = .unanswered ∨ w.phase = .asleep → w.kept = true := fun hphase =>
    (h.attentive.hears hphase hnews).resolve_right (by omega)
  refine ⟨fun hasleep => ?_, fun hphase => hkept (.inl hphase)⟩
  have hnone := h.attentive.asleep hasleep
  rw [hkept (.inr hasleep)] at hnone
  cases hnone

end Receiver

end PanelQuery
