import PanelQuery.Proofs.Progress.Waking

/-! # The end of a run

Clients that looked a registration up before it ended may still subscribe to it and report on it
afterwards. Its end is final all the same: nothing is attached to it any more, so its streams take
nothing in, and all of them are closed, except for one whose owner is just about to close it. Nobody
sleeps through the end. -/

namespace PanelQuery

namespace System

variable {s s' : System} {a : Action} {actions : List Action} {i j : Nat}

/-! ## Ended registrations -/

/-- The registration is closed, and nothing is attached to it. -/
structure Ended (s : System) (i : Nat) : Prop where
  closed : ∃ g, s.registry.registrations[i]? = some g ∧ g.closed = true
  attached : s.registry.attachedAt i = []

theorem Ended.not_isOpen (he : s.Ended i) : s.registry.isOpen i ≠ true := by
  intro ho
  obtain ⟨g, hg, hclosed⟩ := he.closed
  obtain ⟨g', hg', hopen⟩ := s.registry.isOpen_iff.mp ho
  rw [hg] at hg'
  cases hg'
  rw [hclosed] at hopen
  cases hopen

theorem Ended.after (he : s.Ended i) (a : Action) : (s.after a).Ended i := by
  obtain ⟨g, hg, hclosed⟩ := he.closed
  obtain ⟨g', hg', hkept⟩ := registrations_after hg a
  refine ⟨⟨g', hg', hkept hclosed⟩, ?_⟩
  have hattached := he.attached
  cases a with
  | start queryId =>
    rw [after_start]
    split
    · exact hattached
    · rw [Registry.attachedAt_append, hattached]
  | publish k report => rw [System.after, Registry.attachedAt_publish, hattached]
  | attach k =>
    have hnot : ¬ (i = k ∧ s.registry.isOpen k = true) := by
      rintro ⟨rfl, ho⟩
      exact he.not_isOpen ho
    rw [System.after, Registry.attachedAt_attach, if_neg hnot, hattached]
  | closeAll k =>
    rw [System.after, Registry.attachedAt_closeAll, hattached]
    exact ite_self _
  | detach k =>
    rw [System.after, Registry.attachedAt_detach, hattached]
    exact ite_self _
  | findToReport | findToSubscribe | remove | close | take => exact hattached

theorem Ended.step (he : s.Ended i) (h : s.step a = some s') : s'.Ended i := by
  obtain ⟨-, rfl⟩ := step_ok h
  exact he.after a

theorem ended_closeAll (hs : s.Consistent) (h : s.step (.closeAll i) = some s') : s'.Ended i := by
  obtain ⟨ha, rfl⟩ := step_ok h
  obtain ⟨g, hg⟩ := Option.isSome_iff_exists.mp (hs.ending i ha)
  constructor
  case closed =>
    refine ⟨{ g with closed := true, attached := [] }, ?_, rfl⟩
    simp [System.after, Registry.registrations_closeAll, hg]
  case attached => simp [System.after, Registry.attachedAt_closeAll]

theorem Ended.not_receives (he : s.Ended i) (hs : s.Consistent) (j : Nat) : ¬ s.Receives i j := by
  rw [← hs.attached, he.attached]
  exact List.not_mem_nil

/-! ## Streams that take nothing in -/

/-- Nothing comes in during the run: no report is for the subscription at any moment of it. -/
def Silent (s : System) (j : Nat) (actions : List Action) : Prop :=
  ∀ before rest mid, actions = before ++ rest → s.run? before = some mid →
    ∀ i, ¬ mid.Receives i j

theorem Silent.tail (h : s.Silent j (a :: actions)) (ha : s.step a = some s') :
    s'.Silent j actions := by
  rintro before rest mid rfl hmid
  exact h (a :: before) rest mid rfl ((run?_of_step ha before).trans hmid)

/-- A stream that takes nothing in is only read. -/
theorem stream_run? (hs : s.Consistent) (hsilent : s.Silent j actions)
    (h : s.run? actions = some s') :
    (s'.stream j).waiting = (s.stream j).waiting.drop (actions.count (.take j)) ∧
      (s'.stream j).dropped = (s.stream j).dropped := by
  induction actions generalizing s with
  | nil =>
    cases h
    exact ⟨rfl, rfl⟩
  | cons a actions ih =>
    obtain ⟨next, ha, hrest⟩ := run?_cons h
    obtain ⟨hw, hd⟩ := ih (hs.step ha) (hsilent.tail ha) hrest
    obtain ⟨hallowed, rfl⟩ := step_ok ha
    rw [hw, hd]
    generalize ht : (s.after a).stream j = t
    cases seen_after hs hallowed ht with
    | taken => simp [Stream.take]
    | pushed hr => exact absurd hr (hsilent [] _ s rfl rfl _)
    | kept htake _ hwaiting hdropped _ =>
      rw [List.count_cons_of_ne htake, hwaiting, hdropped]
      exact ⟨rfl, rfl⟩

theorem registrationOf_run? (h : s.run? actions = some s')
    (hj : s.registry.registrationOf j = some i) : s'.registry.registrationOf j = some i := by
  refine run?_keeps (P := fun s => s.registry.registrationOf j = some i) ?_ hj h
  intro s s' a hj ha
  obtain ⟨-, rfl⟩ := step_ok ha
  exact registrationOf_after hj a

theorem closed_run? (hs : s.Consistent) (h : s.run? actions = some s')
    (hj : (s.stream j).closed = true) : (s'.stream j).closed = true := by
  refine (run?_keeps (P := fun s => s.Consistent ∧ (s.stream j).closed = true) ?_ ⟨hs, hj⟩ h).2
  rintro s s' a ⟨hs, hj⟩ ha
  refine ⟨hs.step ha, ?_⟩
  obtain ⟨hallowed, rfl⟩ := step_ok ha
  exact (seen_after hs hallowed rfl).closed hj

/-- The subscriptions to an ended registration take nothing in. -/
theorem silent_of_ended (hs : s.Consistent) (he : s.Ended i) (h : s.run? actions = some s')
    (hj : s'.registry.registrationOf j = some i) : s.Silent j actions := by
  rintro before rest mid rfl hmid k hr
  obtain ⟨mid', hmid', hrest⟩ := run?_append.mp h
  obtain rfl := Option.some.inj (hmid.symm.trans hmid')
  have hk := registrationOf_run? hrest hr.1
  rw [hj] at hk
  cases hk
  exact (run?_keeps Ended.step he hmid).not_receives (hs.run? hmid) j hr

/-- A closed stream takes nothing in. -/
theorem silent_of_closed (hs : s.Consistent) (hj : (s.stream j).closed = true)
    (actions : List Action) : s.Silent j actions := by
  rintro before rest mid - hmid k hr
  have hc := closed_run? hs hmid hj
  rw [hr.2.1] at hc
  cases hc

theorem poll_eq_ended {r : Registry} (hc : (r.stream j).closed = true)
    (hw : (r.stream j).waiting = []) : (r.poll j).1 = .ended := by
  simp [Registry.poll, Stream.poll, Stream.take, hc, hw]

/-- **The end of a run is final.** Whatever ran before a registration is closed and whatever runs
after it: no subscription to it, early or late, gets another snapshot, and each of them is closed
unless its owner is about to close it. A closed stream stays closed, and a reader that has taken
what waits in it is told so. A receiver that waited for it has been woken, or looks again before it
sleeps, as soon as the signals are given. -/
theorem closeAll_final {buffer : Nat} {before later : List Action} {s ended s' : System}
    (hbefore : (new buffer).run? before = some s) (hclose : s.step (.closeAll i) = some ended)
    (hlater : ended.run? later = some s') :
    (∀ j, s'.registry.registrationOf j = some i →
      ((s'.stream j).closed = true ∨ j ∈ s'.leaving) ∧
      (s'.stream j).waiting = (ended.stream j).waiting.drop (later.count (.take j)) ∧
      (s'.stream j).dropped = (ended.stream j).dropped) ∧
    ∀ j, (s'.stream j).closed = true → ∀ more last, s'.run? more = some last →
      (last.stream j).closed = true ∧
      (last.stream j).waiting = (s'.stream j).waiting.drop (more.count (.take j)) ∧
      ((s'.stream j).waiting.length ≤ more.count (.take j) →
        (last.registry.poll j).1 = .ended) ∧
      ∀ w : Receiver, Receiver.Reachable buffer j w → w.system = last → w.due = 0 →
        w.phase ≠ .asleep ∧ (w.phase = .unanswered → w.kept = true) := by
  have hs : s.Consistent := (consistent_new buffer).run? hbefore
  have hended : ended.Ended i := ended_closeAll hs hclose
  have hs' : s'.Consistent := (hs.step hclose).run? hlater
  have hfinal : s'.Ended i := run?_keeps Ended.step hended hlater
  refine ⟨fun j hj => ⟨?_, ?_⟩, fun j hc more last hmore => ?_⟩
  · by_cases hleaving : j ∈ s'.leaving
    · exact .inr hleaving
    · by_cases hclosed : (s'.stream j).closed = true
      · exact .inl hclosed
      · exact absurd ⟨hj, Bool.eq_false_iff.mpr hclosed, hleaving⟩ (hfinal.not_receives hs' j)
  · exact stream_run? (hs.step hclose) (silent_of_ended (hs.step hclose) hended hlater hj) hlater
  · have hlast := closed_run? hs' hmore hc
    obtain ⟨hwaiting, -⟩ := stream_run? hs' (silent_of_closed hs' hc more) hmore
    refine ⟨hlast, hwaiting, fun hcount => poll_eq_ended hlast ?_, ?_⟩
    · exact hwaiting.trans (List.drop_eq_nil_of_le hcount)
    · rintro w hw rfl
      exact hw.awake (.inr hlast)

end System

/-- One client is subscribed to a run, another one and a reporter have looked it up, and its id is
taken out. -/
def lookedUp : List Action :=
  [.start "q", .findToSubscribe "q", .attach 0, .findToSubscribe "q", .findToReport "q",
    .remove "q"]

/-- The run ends before the second client subscribes and the report comes in: nobody gets the
report, and both streams are closed. -/
theorem closeAll_final_lookedUp : ∃ s ended s' : System,
    (System.new 1).run? lookedUp = some s ∧ s.step (.closeAll 0) = some ended ∧
    ended.run? [.attach 0, .publish 0 { readRows := 1 }] = some s' ∧
    ∀ j < 2, (s'.stream j).closed = true ∧ (s'.stream j).waiting = [] ∧
      (s'.registry.poll j).1 = .ended := by
  have hrun : ∃ s, (System.new 1).run? lookedUp = some s ∧
      ∃ ended, s.step (.closeAll 0) = some ended ∧
      ∃ s', ended.run? [.attach 0, .publish 0 { readRows := 1 }] = some s' ∧ s'.leaving = [] ∧
      ∀ j < 2, s'.registry.registrationOf j = some 0 ∧ (ended.stream j).waiting = [] :=
    ⟨_, rfl, _, rfl, _, rfl, rfl, by decide⟩
  obtain ⟨s, hs, ended, he, s', hs', hleaving, hstart⟩ := hrun
  obtain ⟨hended, hclosed⟩ := System.closeAll_final hs he hs'
  refine ⟨s, ended, s', hs, he, hs', fun j hj => ?_⟩
  obtain ⟨hreg, hempty⟩ := hstart j hj
  obtain ⟨hc, hw, -⟩ := hended j hreg
  rw [hempty, List.drop_nil] at hw
  have hc : (s'.stream j).closed = true := hc.resolve_right (by simp [hleaving])
  obtain ⟨-, -, hpoll, -⟩ := hclosed j hc [] s' rfl
  exact ⟨hc, hw, hpoll (by simp [hw])⟩

end PanelQuery
