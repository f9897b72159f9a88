import PanelQuery.Proofs.Progress.System
import Mathlib.Data.List.Basic

/-! # What reaches a subscriber

A run has two histories for each subscription: the snapshots published to it and those its reader
took. What is taken and what still waits comes from the first history in its order; only the oldest
snapshots of a full stream are missing, and they are counted. No other reader has a part in it. -/

namespace PanelQuery

/-! ## One stream -/

/-- A stream between what was published to it and what was taken from it. -/
structure Stream.Delivers (capacity : Nat) (published taken : List Counters) (s : Stream) :
    Prop where
  /-- Nothing is reordered or repeated. -/
  order : (taken ++ s.waiting).Sublist published
  /-- What waits is the latest of what was published. -/
  recent : s.waiting <:+ published
  bounded : s.waiting.length ≤ capacity
  /-- Nothing is lost without being counted. -/
  counted : taken.length + s.waiting.length + s.dropped = published.length

namespace Stream.Delivers

variable {capacity : Nat} {published taken : List Counters} {s t : Stream}

theorem kept (h : s.Delivers capacity published taken) (hw : t.waiting = s.waiting)
    (hd : t.dropped = s.dropped) : t.Delivers capacity published taken := by
  obtain ⟨order, recent, bounded, counted⟩ := h
  rw [← hw] at order recent bounded counted
  rw [← hd] at counted
  exact ⟨order, recent, bounded, counted⟩

theorem take (h : s.Delivers capacity published taken) :
    s.take.2.Delivers capacity published (taken ++ s.take.1.toList) := by
  have hparts : s.take.1.toList ++ s.take.2.waiting = s.waiting := by
    cases hw : s.waiting <;> simp [Stream.take, hw]
  have hlength := congrArg List.length hparts
  rw [List.length_append] at hlength
  constructor
  case order =>
    rw [List.append_assoc, hparts]
    exact h.order
  case recent => exact (List.tail_suffix _).trans h.recent
  case bounded =>
    have hbounded := h.bounded
    omega
  case counted =>
    have hcounted := h.counted
    have hdropped : s.take.2.dropped = s.dropped := rfl
    rw [List.length_append, hdropped]
    omega

theorem push (h : s.Delivers capacity published taken) (hcapacity : 0 < capacity)
    (hopen : s.closed = false) (c : Counters) :
    (s.push capacity c).Delivers capacity (published ++ [c]) taken := by
  have hbounded := h.bounded
  have hcounted := h.counted
  have hmore : (published ++ [c]).length = published.length + 1 := by simp
  unfold Stream.push
  rw [if_neg (by simp [hopen])]
  split
  · next hfull =>
    have hlength : (s.waiting.tail ++ [c]).length = s.waiting.length := by
      rw [List.length_append, List.length_tail, List.length_singleton]
      omega
    constructor
    case order =>
      have htail : (taken ++ s.waiting.tail).Sublist published :=
        ((List.tail_sublist _).append_left taken).trans h.order
      rw [← List.append_assoc]
      exact htail.append_right [c]
    case recent =>
      obtain ⟨front, hfront⟩ := (List.tail_suffix s.waiting).trans h.recent
      exact ⟨front, by rw [← List.append_assoc, hfront]⟩
    case bounded =>
      dsimp only
      omega
    case counted =>
      dsimp only
      omega
  · next hroom =>
    have hlength : (s.waiting ++ [c]).length = s.waiting.length + 1 := by simp
    constructor
    case order =>
      rw [← List.append_assoc]
      exact h.order.append_right [c]
    case recent =>
      obtain ⟨front, hfront⟩ := h.recent
      exact ⟨front, by rw [← List.append_assoc, hfront]⟩
    case bounded =>
      dsimp only
      omega
    case counted =>
      dsimp only
      omega

end Stream.Delivers

namespace System

variable {s s' t : System} {a : Action} {actions : List Action} {j : Nat}

/-! ## Histories -/

/-- The snapshot that a step publishes to a subscription. -/
def published (j : Nat) (s : System) : Action → List Counters
  | .publish i report => if s.Receives i j then [(s.registry.countersAt i).add report] else []
  | _ => []

/-- The snapshot that a step takes from the stream of a subscription. -/
def taken (j : Nat) (s : System) : Action → List Counters
  | .take k => if k = j then (s.stream j).take.1.toList else []
  | _ => []

/-- What the steps of a run add to a history, one after the other. -/
def history (event : System → Action → List Counters) (s : System) : List Action → List Counters
  | [] => []
  | a :: actions => event s a ++ (s.after a).history event actions

theorem delivers_after {p q : List Counters} (hs : s.Consistent) (ha : s.Allowed a)
    (h : (s.stream j).Delivers s.registry.capacity p q) :
    ((s.after a).stream j).Delivers s.registry.capacity (p ++ published j s a)
      (q ++ taken j s a) := by
  generalize ht : (s.after a).stream j = t
  cases seen_after hs ha ht with
  | taken =>
    simp only [published, taken, if_true, List.append_nil]
    exact h.take
  | pushed hr =>
    simp only [published, taken, if_pos hr, List.append_nil]
    exact h.push s.registry.capacity_pos hr.2.1 _
  | kept htake hpublish hwaiting hdropped _ =>
    have hp : published j s a = [] := by
      cases a with
      | publish i report => exact if_neg (hpublish i report rfl)
      | _ => rfl
    have hq : taken j s a = [] := by
      cases a with
      | take k => exact if_neg fun hk => htake (by rw [hk])
      | _ => rfl
    rw [hp, hq, List.append_nil, List.append_nil]
    exact h.kept hwaiting hdropped

theorem delivers_run? {p q : List Counters} (hs : s.Consistent) (h : s.run? actions = some s')
    (hd : (s.stream j).Delivers s.registry.capacity p q) :
    (s'.stream j).Delivers s.registry.capacity (p ++ s.history (published j) actions)
      (q ++ s.history (taken j) actions) := by
  induction actions generalizing s p q with
  | nil =>
    cases h
    simpa [history] using hd
  | cons a actions ih =>
    obtain ⟨next, hstep, hrest⟩ := run?_cons h
    obtain ⟨ha, rfl⟩ := step_ok hstep
    have hnext := delivers_after hs ha hd
    rw [← capacity_after s a] at hnext
    have hfinal := ih (hs.after ha) hrest hnext
    rw [capacity_after] at hfinal
    simpa only [history, List.append_assoc] using hfinal

/-! ## Other readers -/

/-- The systems differ at most in the streams of other subscriptions. -/
structure AlikeFor (j : Nat) (s t : System) : Prop where
  capacity : s.registry.capacity = t.registry.capacity
  running : s.registry.running = t.registry.running
  registrations : s.registry.registrations = t.registry.registrations
  registrationOf : ∀ k, s.registry.registrationOf k = t.registry.registrationOf k
  stream : s.stream j = t.stream j
  reporting : s.reporting = t.reporting
  subscribing : s.subscribing = t.subscribing
  ending : s.ending = t.ending
  leaving : s.leaving = t.leaving

theorem AlikeFor.refl (j : Nat) (s : System) : s.AlikeFor j s := by
  constructor <;> simp

theorem AlikeFor.allowed (h : s.AlikeFor j t) (a : Action) : s.Allowed a ↔ t.Allowed a := by
  cases a <;>
    simp only [Allowed, h.reporting, h.subscribing, h.ending, h.leaving, h.registrationOf]

theorem AlikeFor.receives (h : s.AlikeFor j t) (i : Nat) : s.Receives i j ↔ t.Receives i j := by
  simp only [Receives, h.registrationOf, h.stream, h.leaving]

theorem AlikeFor.published (h : s.AlikeFor j t) (a : Action) :
    published j s a = published j t a := by
  cases a <;>
    simp only [System.published, h.receives, Registry.countersAt, h.registrations]

theorem AlikeFor.taken (h : s.AlikeFor j t) (a : Action) : taken j s a = taken j t a := by
  cases a <;> simp only [System.taken, h.stream]

theorem AlikeFor.length (h : s.AlikeFor j t) :
    s.registry.subscriptions.length = t.registry.subscriptions.length := by
  apply Nat.le_antisymm
  · rw [← Registry.registrationOf_eq_none_iff, h.registrationOf]
    exact t.registry.registrationOf_length
  · rw [← Registry.registrationOf_eq_none_iff, ← h.registrationOf]
    exact s.registry.registrationOf_length

theorem AlikeFor.attachedAt (h : s.AlikeFor j t) (i : Nat) :
    s.registry.attachedAt i = t.registry.attachedAt i := by
  rw [Registry.attachedAt, h.registrations, Registry.attachedAt]

theorem AlikeFor.isOpen (h : s.AlikeFor j t) (i : Nat) :
    s.registry.isOpen i = t.registry.isOpen i := by
  rw [Registry.isOpen, h.registrations, Registry.isOpen]

theorem AlikeFor.find? (h : s.AlikeFor j t) (queryId : String) :
    s.registry.find? queryId = t.registry.find? queryId := by
  rw [Registry.find?, h.running, Registry.find?]

theorem AlikeFor.after_start (h : s.AlikeFor j t) (queryId : String) :
    (s.after (.start queryId)).AlikeFor j (t.after (.start queryId)) := by
  have hrunning : s.registry.isRunning queryId = t.registry.isRunning queryId := by
    rw [Registry.isRunning, h.find?, Registry.isRunning]
  rw [System.after_start, System.after_start, hrunning]
  split
  · exact h
  · exact ⟨h.capacity, by simp only [h.running, h.registrations], by simp only [h.registrations],
      h.registrationOf, h.stream, h.reporting, h.subscribing, h.ending, h.leaving⟩

theorem AlikeFor.running_after (h : s.AlikeFor j t) (a : Action) :
    (s.after a).registry.running = (t.after a).registry.running := by
  cases a with
  | start queryId => exact (h.after_start queryId).running
  | remove queryId => simp only [System.after, Registry.remove, h.running]
  | publish | closeAll | detach => simpa [System.after] using h.running
  | findToReport | findToSubscribe | attach | close | take => exact h.running

theorem AlikeFor.registrations_after (h : s.AlikeFor j t) (a : Action) :
    (s.after a).registry.registrations = (t.after a).registry.registrations := by
  cases a with
  | start queryId => exact (h.after_start queryId).registrations
  | publish i report =>
    ext1 k
    simp only [System.after, Registry.registrations_publish, h.registrations]
  | attach i =>
    ext1 k
    simp only [System.after, Registry.registrations_attach, h.registrations, h.length]
  | closeAll i =>
    ext1 k
    simp only [System.after, Registry.registrations_closeAll, h.registrations]
  | detach i =>
    ext1 k
    simp only [System.after, Registry.registrations_detach, h.registrations, h.registrationOf]
  | findToReport | findToSubscribe | remove | close | take => exact h.registrations

theorem AlikeFor.registrationOf_after (h : s.AlikeFor j t) (a : Action) (k : Nat) :
    (s.after a).registry.registrationOf k = (t.after a).registry.registrationOf k := by
  have hk := h.registrationOf k
  cases a with
  | start queryId => exact (h.after_start queryId).registrationOf k
  | attach i => simp only [System.after, Registry.registrationOf_attach, h.length, hk]
  | publish | closeAll | detach | close | take => simpa [System.after] using hk
  | findToReport | findToSubscribe | remove => exact hk

theorem AlikeFor.stream_after (h : s.AlikeFor j t) (a : Action) :
    (s.after a).stream j = (t.after a).stream j := by
  have hstream : s.registry.stream j = t.registry.stream j := h.stream
  cases a with
  | start queryId => exact (h.after_start queryId).stream
  | publish i report =>
    simp only [System.after, System.stream, Registry.stream_publish, Registry.countersAt,
      h.registrationOf, h.attachedAt, h.registrations, h.capacity, hstream]
  | attach i =>
    simp only [System.after, System.stream, Registry.stream_attach, h.length, h.isOpen, hstream]
  | closeAll i =>
    simp only [System.after, System.stream, Registry.stream_closeAll, h.registrationOf,
      h.attachedAt, hstream]
  | detach i => simp only [System.after, System.stream, Registry.stream_detach, hstream]
  | close i =>
    simp only [System.after, System.stream, Registry.stream_closeStream, h.registrationOf, hstream]
  | take i =>
    simp only [System.after, System.stream, Registry.stream_take, h.registrationOf, hstream]
  | findToReport | findToSubscribe | remove => exact h.stream

/-- A step does the same to both systems. -/
theorem AlikeFor.after (h : s.AlikeFor j t) (a : Action) :
    (s.after a).AlikeFor j (t.after a) := by
  constructor
  case capacity => rw [capacity_after, capacity_after, h.capacity]
  case running => exact h.running_after a
  case registrations => exact h.registrations_after a
  case registrationOf => exact h.registrationOf_after a
  case stream => exact h.stream_after a
  case reporting =>
    cases a with
    | start queryId => exact (h.after_start queryId).reporting
    | _ => simp only [System.after, h.find?, h.reporting]
  case subscribing =>
    cases a with
    | start queryId => exact (h.after_start queryId).subscribing
    | _ => simp only [System.after, h.find?, h.subscribing]
  case ending =>
    cases a with
    | start queryId => exact (h.after_start queryId).ending
    | _ => simp only [System.after, h.find?, h.ending]
  case leaving =>
    cases a with
    | start queryId => exact (h.after_start queryId).leaving
    | _ => simp only [System.after, h.leaving]

/-- What another reader takes makes no difference. -/
theorem AlikeFor.take (h : s.AlikeFor j t) {k : Nat} (hk : k ≠ j) :
    (s.after (.take k)).AlikeFor j t := by
  have hstream : (s.after (.take k)).stream j = s.stream j := by
    simp only [System.after, System.stream, Registry.stream_take, hk.symm, and_false, if_false]
  have hregistrationOf : ∀ i, (s.after (.take k)).registry.registrationOf i =
      s.registry.registrationOf i := fun i => s.registry.registrationOf_take k i
  exact ⟨h.capacity, h.running, h.registrations, fun i => (hregistrationOf i).trans (h.registrationOf i),
    hstream.trans h.stream, h.reporting, h.subscribing, h.ending, h.leaving⟩

/-- The step is not another reader's. -/
def concerns (j : Nat) : Action → Bool
  | .take k => k == j
  | _ => true

/-- Without the steps of other readers a run is still possible, and it is the same for the
subscription. -/
theorem AlikeFor.run? (h : s.AlikeFor j t) (hrun : s.run? actions = some s') :
    ∃ t', t.run? (actions.filter (concerns j)) = some t' ∧ s'.AlikeFor j t' ∧
      t.history (System.published j) (actions.filter (concerns j)) =
        s.history (System.published j) actions ∧
      t.history (System.taken j) (actions.filter (concerns j)) =
        s.history (System.taken j) actions := by
  induction actions generalizing s t with
  | nil =>
    cases hrun
    exact ⟨t, rfl, h, rfl, rfl⟩
  | cons a actions ih =>
    obtain ⟨next, hstep, hrest⟩ := run?_cons hrun
    obtain ⟨ha, rfl⟩ := step_ok hstep
    by_cases hc : concerns j a = true
    · obtain ⟨t', ht', halike, hp, hq⟩ := ih (h.after a) hrest
      have hnext : t.step a = some (t.after a) := if_pos ((h.allowed a).mp ha)
      rw [List.filter_cons_of_pos hc]
      refine ⟨t', (run?_of_step hnext _).trans ht', halike, ?_, ?_⟩
      · rw [history, history, hp, h.published]
      · rw [history, history, hq, h.taken]
    · obtain ⟨k, rfl, hk⟩ : ∃ k, a = .take k ∧ k ≠ j := by
        cases a with
        | take k => exact ⟨k, rfl, by simpa [concerns] using hc⟩
        | _ => exact absurd rfl hc
      obtain ⟨t', ht', halike, hp, hq⟩ := ih (h.take hk) hrest
      rw [List.filter_cons_of_neg hc]
      refine ⟨t', ht', halike, ?_, ?_⟩
      · rw [hp, history]
        rfl
      · rw [hq, history, System.taken, if_neg hk, List.nil_append]

/-- **Delivery.** At each moment of every run, what the reader of a subscription has taken and what
waits for it are in the order of what was published to it, nothing twice; what waits is the latest of
that and no more than the stream holds; and what is missing is counted. The same goes on at the
subscription, with the same histories, when no other reader takes anything. -/
theorem delivery {buffer : Nat} (h : (new buffer).run? actions = some s) (j : Nat) :
    (s.stream j).Delivers (max buffer 1) ((new buffer).history (published j) actions)
        ((new buffer).history (taken j) actions) ∧
      ∃ alone, (new buffer).run? (actions.filter (concerns j)) = some alone ∧
        alone.stream j = s.stream j ∧
        (new buffer).history (published j) (actions.filter (concerns j)) =
          (new buffer).history (published j) actions ∧
        (new buffer).history (taken j) (actions.filter (concerns j)) =
          (new buffer).history (taken j) actions := by
  have hempty : ((new buffer).stream j).Delivers (max buffer 1) [] [] :=
    ⟨List.Sublist.refl _, List.suffix_refl _, Nat.zero_le _, rfl⟩
  obtain ⟨alone, halone, halike, hp, hq⟩ := (AlikeFor.refl j (new buffer)).run? h
  refine ⟨?_, alone, halone, halike.stream.symm, hp, hq⟩
  exact delivers_run? (consistent_new buffer) h hempty

end System

/-- Two subscribers to one run; only the second of them reads. -/
def oneReader : List Action :=
  [.start "q", .findToSubscribe "q", .attach 0, .findToSubscribe "q", .attach 0,
    .findToReport "q", .publish 0 { readRows := 1 }, .take 1,
    .findToReport "q", .publish 0 { readRows := 2 }, .detach 1, .close 1]

/-- With room for one snapshot, the first subscriber has the latest, and one is counted as dropped;
the second has taken the first snapshot and still has the other. -/
theorem delivery_oneReader : ∃ s : System, (System.new 1).run? oneReader = some s ∧
    s.stream 0 = ⟨[{ readRows := 3 }], false, 1⟩ ∧ s.stream 1 = ⟨[{ readRows := 3 }], true, 0⟩ ∧
    (System.new 1).history (System.taken 1) oneReader = [{ readRows := 1 }] ∧
    ∀ j, (s.stream j).Delivers 1 ((System.new 1).history (System.published j) oneReader)
        ((System.new 1).history (System.taken j) oneReader) := by
  have hrun : ∃ s, (System.new 1).run? oneReader = some s ∧
      s.stream 0 = ⟨[{ readRows := 3 }], false, 1⟩ ∧ s.stream 1 = ⟨[{ readRows := 3 }], true, 0⟩ :=
    ⟨_, rfl, by decide, by decide⟩
  obtain ⟨s, h, hfirst, hsecond⟩ := hrun
  refine ⟨s, h, hfirst, hsecond, by decide, fun j => ?_⟩
  exact (System.delivery h j).1

end PanelQuery
