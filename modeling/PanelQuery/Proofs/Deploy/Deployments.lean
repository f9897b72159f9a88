import PanelQuery.Deploy.Coordinator
import PanelQuery.Proofs.Deploy.Gate

/-! # One push in flight

Many callers deploy at one coordinator. Each passes the gate, pushes and waits, and the others do
their steps in between; a caller may be cancelled while it pushes or waits, the push may fail, the
verdict may come, not come, or come too late. What a step does to the gate and to those inside is
said once, in `Deployments.Passed`. -/

namespace PanelQuery

deriving instance DecidableEq for Deployment

/-- A coordinator and the deployments on their way through it. -/
structure Deployments where
  coordinator : Coordinator := {}
  /-- The permits of those that push their payloads. -/
  pushing : List Nat := []
  /-- Those that wait for their verdicts. -/
  waiting : List Deployment := []
  /-- The permits that were released by name and are not dropped yet. -/
  released : List Nat := []

namespace Deployments

/-- A step of some caller, of the pusher or of the agents. -/
inductive Action where
  | enter
  | push (permit : Nat) (payload : Json) (outcome : Coordinator.PushOutcome)
  /-- The caller is cancelled while it pushes. -/
  | giveUp (permit : Nat)
  | poll (d : Deployment)
  /-- The time of the caller is over, or it is cancelled while it waits. -/
  | cancel (d : Deployment)
  /-- The drop of a permit that was released. -/
  | drop (permit : Nat)
  | acknowledge (channel : Nat) (v : Verdict)
  | close (channel : Nat)

/-- Only those inside push and wait. To the gate, the pusher and the agents anything may happen. -/
def Allowed (s : Deployments) : Action → Prop
  | .push permit _ _ | .giveUp permit => permit ∈ s.pushing
  | .poll d | .cancel d => d ∈ s.waiting
  | .drop permit => permit ∈ s.released
  | .enter | .acknowledge _ _ | .close _ => True

instance (s : Deployments) : DecidablePred s.Allowed
  | .push permit _ _ | .giveUp permit => inferInstanceAs (Decidable (permit ∈ s.pushing))
  | .poll d | .cancel d => inferInstanceAs (Decidable (d ∈ s.waiting))
  | .drop permit => inferInstanceAs (Decidable (permit ∈ s.released))
  | .enter | .acknowledge _ _ | .close _ => .isTrue trivial

/-- The deployments after a step. Whoever is turned away at the gate is gone. -/
def after (s : Deployments) : Action → Deployments
  | .enter =>
    match s.coordinator.enter with
    | .ok (permit, coordinator) => { s with coordinator, pushing := permit :: s.pushing }
    | .error _ => s
  | .push permit payload outcome =>
    match s.coordinator.push permit payload outcome with
    | (.waiting d, coordinator) =>
      { s with coordinator, pushing := s.pushing.erase permit, waiting := d :: s.waiting }
    | (.ended _, coordinator) => { s with coordinator, pushing := s.pushing.erase permit }
  | .giveUp permit =>
    { s with coordinator := s.coordinator.leave permit, pushing := s.pushing.erase permit }
  | .poll d =>
    match s.coordinator.poll d with
    | (some _, coordinator) =>
      { s with coordinator, waiting := s.waiting.erase d, released := d.permit :: s.released }
    | (none, coordinator) => { s with coordinator }
  | .cancel d =>
    { s with coordinator := s.coordinator.cancel d, waiting := s.waiting.erase d }
  | .drop permit =>
    { s with coordinator := s.coordinator.leave permit, released := s.released.erase permit }
  | .acknowledge channel v => { s with coordinator := (s.coordinator.acknowledge channel v).2 }
  | .close channel => { s with coordinator := s.coordinator.close channel }

def step (s : Deployments) (a : Action) : Option Deployments :=
  if s.Allowed a then some (s.after a) else none

/-- The deployments after steps taken one after the other. -/
def run? (s : Deployments) (actions : List Action) : Option Deployments := actions.foldlM step s

def gate (s : Deployments) : Gate := s.coordinator.gate

/-- The permits of those that have passed the gate and have not given their permit back. -/
def inside (s : Deployments) : List Nat := s.pushing ++ s.waiting.map (·.permit)

/-- The ways out: the push fails, the caller is cancelled while it pushes, there is a verdict or a
closed channel, the time is over or the caller is cancelled while it waits. -/
inductive Leaves (s : Deployments) : Action → Prop
  | pushFailed {permit : Nat} (h : permit ∈ s.pushing) (payload : Json) (text : String) :
    s.Leaves (.push permit payload (.failed text))
  | givenUp {permit : Nat} (h : permit ∈ s.pushing) : s.Leaves (.giveUp permit)
  | answered {d : Deployment} {result : DeployResult} (h : d ∈ s.waiting)
    (hresult : (s.coordinator.poll d).1 = some result) : s.Leaves (.poll d)
  | cancelled {d : Deployment} (h : d ∈ s.waiting) : s.Leaves (.cancel d)

variable {s s' : Deployments} {a : Action} {actions : List Action} {p : Nat} {d : Deployment}

/-! ## What a step does at the gate -/

/-- What a step may do to the gate and to those inside. -/
inductive Passed (s s' : Deployments) : Prop
  /-- Nobody passes. -/
  | stayed (hinside : s.inside.Perm s'.inside) (hgate : s'.gate = s.gate)
  | entered {permit : Nat} (hgate : s.gate.acquire = .ok (permit, s'.gate))
    (hinside : s'.inside = permit :: s.inside)
  | left {permit : Nat} (hinside : s.inside.Perm (permit :: s'.inside))
    (hgate : s'.gate = s.gate.giveBack permit)
  /-- A permit is given back for the second time. -/
  | dropped {permit : Nat} (hreleased : permit ∈ s.released) (hinside : s'.inside = s.inside)
    (hgate : s'.gate = s.gate.giveBack permit)

theorem perm_inside_of_pushing (h : p ∈ s.pushing) :
    s.inside.Perm (p :: (s.pushing.erase p ++ s.waiting.map (·.permit))) :=
  (List.perm_cons_erase h).append_right _

theorem perm_inside_of_waiting (h : d ∈ s.waiting) :
    s.inside.Perm (d.permit :: (s.pushing ++ (s.waiting.erase d).map (·.permit))) :=
  (((List.perm_cons_erase h).map _).append_left _).trans List.perm_middle

theorem gate_settle (c : Coordinator) (d : Deployment) :
    (c.settle d).gate = c.gate.giveBack d.permit := Gate.release_eq_giveBack c.gate d.permit

theorem poll_some {c : Coordinator} {result : DeployResult} (h : (c.poll d).1 = some result) :
    c.poll d = (some result, c.settle d) := by
  unfold Coordinator.poll at h ⊢
  split at h
  · cases h
    rfl
  · cases h

theorem poll_none {c : Coordinator} (h : (c.poll d).1 = none) : c.poll d = (none, c) := by
  unfold Coordinator.poll at h ⊢
  split at h
  · cases h
  · rfl

theorem gate_acknowledge (c : Coordinator) (channel : Nat) (v : Verdict) :
    (c.acknowledge channel v).2.gate = c.gate := by
  unfold Coordinator.acknowledge
  split <;> rfl

theorem enter_of_busy {c : Coordinator} (h : c.gate.busy = true) :
    c.enter = .error (.busy "config push already in flight") :=
  congrArg (· >>= _) (Gate.acquire_of_busy h)

theorem enter_of_free {c : Coordinator} (h : c.gate.busy = false) :
    c.enter = .ok (c.gate.held.length, { c with gate := ⟨true, c.gate.held ++ [true]⟩ }) :=
  congrArg (· >>= _) (Gate.acquire_of_free h)

theorem after_enter_of_busy (h : s.gate.busy = true) : s.after .enter = s := by
  rw [after, enter_of_busy h]

theorem passed_enter (s : Deployments) : s.Passed (s.after .enter) := by
  cases h : s.gate.busy with
  | true =>
    rw [after_enter_of_busy h]
    exact .stayed (List.Perm.refl _) rfl
  | false =>
    rw [after, enter_of_free h]
    exact .entered (Gate.acquire_of_free h) rfl

/-- Every way out is a way through the gate, with the permit given back. -/
theorem Leaves.left (h : s.Leaves a) : ∃ permit, s.inside.Perm (permit :: (s.after a).inside) ∧
    (s.after a).gate = s.gate.giveBack permit := by
  cases h with
  | pushFailed h => exact ⟨_, perm_inside_of_pushing h, rfl⟩
  | givenUp h => exact ⟨_, perm_inside_of_pushing h, rfl⟩
  | answered h hresult =>
    simp only [after, poll_some hresult]
    exact ⟨_, perm_inside_of_waiting h, gate_settle _ _⟩
  | cancelled h => exact ⟨_, perm_inside_of_waiting h, rfl⟩

theorem passed_of_leaves (h : s.Leaves a) : s.Passed (s.after a) := by
  obtain ⟨permit, hinside, hgate⟩ := h.left
  exact .left hinside hgate

theorem passed_after (ha : s.Allowed a) : s.Passed (s.after a) := by
  cases a with
  | enter => exact passed_enter s
  | push permit payload outcome =>
    cases outcome with
    | sent =>
      refine .stayed ?_ rfl
      exact (perm_inside_of_pushing ha).trans List.perm_middle.symm
    | failed text => exact passed_of_leaves (.pushFailed ha payload text)
  | giveUp permit => exact passed_of_leaves (.givenUp ha)
  | poll d =>
    cases h : (s.coordinator.poll d).1 with
    | some result => exact passed_of_leaves (.answered ha h)
    | none =>
      simp only [after, poll_none h]
      exact .stayed (List.Perm.refl _) rfl
  | cancel d => exact passed_of_leaves (.cancelled ha)
  | drop permit => exact .dropped ha rfl rfl
  | acknowledge channel v => exact .stayed (List.Perm.refl _) (gate_acknowledge _ channel v)
  | close channel => exact .stayed (List.Perm.refl _) rfl

/-! ## Calls of one caller -/

theorem step_of_allowed (h : s.Allowed a) : s.step a = some (s.after a) := if_pos h

theorem coordinator_push (s : Deployments) (permit : Nat) (payload : Json)
    (outcome : Coordinator.PushOutcome) : (s.after (.push permit payload outcome)).coordinator =
      (s.coordinator.push permit payload outcome).2 := by
  cases outcome <;> rfl

/-- The start of a deployment with nothing in between is a run of its two steps. -/
theorem run?_start {payload : Json} {outcome : Coordinator.PushOutcome}
    {started : Coordinator.Started} {c : Coordinator}
    (h : s.coordinator.start payload outcome = .ok (started, c)) :
    ∃ permit s', s.run? [.enter, .push permit payload outcome] = some s' ∧ s'.coordinator = c := by
  cases hfree : s.coordinator.gate.busy with
  | true =>
    rw [Coordinator.start, enter_of_busy hfree] at h
    cases h
  | false =>
    rw [Coordinator.start, enter_of_free hfree] at h
    have hpush := congrArg Prod.snd (Except.ok.inj h)
    let permit := s.coordinator.gate.held.length
    have henter : s.step .enter = some (s.after .enter) := step_of_allowed trivial
    have hinside : permit ∈ (s.after .enter).pushing := by
      rw [after, enter_of_free hfree]
      exact List.mem_cons_self
    have hstep := step_of_allowed (a := .push permit payload outcome) hinside
    refine ⟨permit, (s.after .enter).after (.push permit payload outcome), ?_, ?_⟩
    · simp only [run?, List.foldlM_cons, List.foldlM_nil, henter, hstep, Option.bind_eq_bind,
        Option.bind_some]
      rfl
    · rw [coordinator_push, after, enter_of_free hfree]
      exact hpush

/-- A wait with nothing in between comes to an end, with a verdict or without. -/
theorem wait_leaves (h : d ∈ s.waiting) :
    ∃ a, s.Leaves a ∧ (s.coordinator.wait d).2 = (s.after a).coordinator := by
  cases hpoll : (s.coordinator.poll d).1 with
  | some result =>
    refine ⟨.poll d, .answered h hpoll, ?_⟩
    simp only [after, Coordinator.wait, poll_some hpoll]
  | none =>
    refine ⟨.cancel d, .cancelled h, ?_⟩
    simp only [after, Coordinator.wait, poll_none hpoll]

/-! ## What holds between steps -/

/-- The permits that are held are those of the deployments inside, and what was released is given
back. -/
structure Orderly (s : Deployments) : Prop where
  sound : s.gate.Sound
  nodup : s.inside.Nodup
  holds : ∀ p, s.gate.Holds p ↔ p ∈ s.inside
  released : ∀ p ∈ s.released, s.gate.held[p]? = some false

theorem orderly_new : ({} : Deployments).Orderly := by
  constructor
  case sound => exact Gate.sound_new
  all_goals simp [gate, inside, Gate.Holds]

theorem Orderly.inside_eq_nil_iff (hs : s.Orderly) : s.inside = [] ↔ s.gate.busy = false := by
  rw [List.eq_nil_iff_forall_not_mem, ← Bool.not_eq_true, hs.sound.busy, not_exists]
  exact forall_congr' fun p => not_congr (hs.holds p).symm

/-- Two would hold two permits. -/
theorem Orderly.length_inside (hs : s.Orderly) : s.inside.length ≤ 1 := by
  have hnodup := hs.nodup
  have hunique : ∀ p ∈ s.inside, ∀ q ∈ s.inside, p = q := fun p hp q hq =>
    hs.sound.unique p q ((hs.holds p).mpr hp) ((hs.holds q).mpr hq)
  generalize s.inside = permits at hnodup hunique
  match permits with
  | [] => exact Nat.zero_le 1
  | [_] => exact Nat.le_refl 1
  | p :: q :: _ =>
    cases hunique p List.mem_cons_self q (List.mem_cons_of_mem p List.mem_cons_self)
    exact absurd List.mem_cons_self (List.nodup_cons.mp hnodup).1

/-- For the gate, a step is an event or none. -/
theorem Passed.events (h : s.Passed s') : ∃ events, s'.gate = s.gate.run events := by
  cases h with
  | stayed _ hgate => exact ⟨[], hgate⟩
  | entered hgate =>
    refine ⟨[.acquire], ?_⟩
    simp only [Gate.run, List.foldl_cons, List.foldl_nil, Gate.after, hgate]
  | left _ hgate | dropped _ _ hgate => exact ⟨[.giveBack _], hgate⟩

/-- Behind the only one who was inside there is nobody. -/
theorem Orderly.inside_of_left (hs : s.Orderly) (h : s.inside.Perm (p :: s'.inside)) :
    s'.inside = [] := by
  have hlength := hs.length_inside
  rw [h.length_eq, List.length_cons] at hlength
  exact List.length_eq_zero_iff.mp (by omega)

theorem Orderly.passed_inside (hs : s.Orderly) (h : s.Passed s') :
    s'.inside.Nodup ∧ ∀ p, s'.gate.Holds p ↔ p ∈ s'.inside := by
  cases h with
  | stayed hinside hgate =>
    refine ⟨hinside.nodup_iff.mp hs.nodup, fun p => ?_⟩
    rw [hgate, hs.holds, hinside.mem_iff]
  | entered hgate hinside =>
    obtain ⟨hfree, rfl, hheld⟩ := Gate.acquire_eq_ok_iff.mp hgate
    rw [hs.inside_eq_nil_iff.mpr hfree] at hinside
    refine ⟨hinside ▸ List.pairwise_singleton _ _, fun p => ?_⟩
    rw [hheld, hinside, Gate.holds_append, List.mem_singleton]
    exact or_iff_right (hs.sound.not_holds hfree p)
  | left hinside hgate =>
    have hempty := hs.inside_of_left hinside
    have hheld := (hs.holds _).mpr (hinside.mem_iff.mpr List.mem_cons_self)
    refine ⟨hempty ▸ List.nodup_nil, fun p => ?_⟩
    rw [hgate, hempty]
    exact iff_of_false (hs.sound.not_holds_giveBack hheld p) List.not_mem_nil
  | dropped hreleased hinside hgate =>
    rw [hgate, hinside, Gate.giveBack_of_given (hs.released _ hreleased)]
    exact ⟨hs.nodup, hs.holds⟩

/-- Only the end of a wait adds to the released permits, and it has given its permit back. -/
theorem Orderly.released_after (hs : s.Orderly) (ha : s.Allowed a)
    (hp : p ∈ (s.after a).released) : (s.after a).gate.held[p]? = some false := by
  have hold : p ∈ s.released → (s.after a).gate.held[p]? = some false := fun hp => by
    obtain ⟨events, hgate⟩ := (passed_after ha).events
    rw [hgate]
    exact Gate.given_run (hs.released p hp) events
  cases a with
  | poll d =>
    cases h : (s.coordinator.poll d).1 with
    | none =>
      refine hold ?_
      simpa only [after, poll_none h] using hp
    | some result =>
      simp only [after, poll_some h, List.mem_cons] at hp
      rcases hp with rfl | hp
      · have hd : d.permit ∈ s.inside :=
          List.mem_append_right _ (List.mem_map_of_mem ha)
        simp only [after, poll_some h, gate, gate_settle]
        exact Gate.given_giveBack ((hs.holds _).mpr hd)
      · exact hold hp
  | enter =>
    refine hold ?_
    cases h : s.gate.busy with
    | true => rwa [after_enter_of_busy h] at hp
    | false => simpa only [after, enter_of_free h] using hp
  | push permit payload outcome => cases outcome <;> exact hold hp
  | drop permit => exact hold (List.mem_of_mem_erase hp)
  | giveUp | cancel | acknowledge | close => exact hold hp

theorem Orderly.after (hs : s.Orderly) (ha : s.Allowed a) : (s.after a).Orderly where
  sound := by
    obtain ⟨events, hgate⟩ := (passed_after ha).events
    rw [hgate]
    exact hs.sound.run events
  nodup := (hs.passed_inside (passed_after ha)).1
  holds := (hs.passed_inside (passed_after ha)).2
  released _ := hs.released_after ha

theorem Orderly.run? (hs : s.Orderly) (h : s.run? actions = some s') : s'.Orderly := by
  induction actions generalizing s with
  | nil =>
    cases h
    exact hs
  | cons a actions ih =>
    simp only [Deployments.run?, List.foldlM_cons, Option.bind_eq_bind,
      Option.bind_eq_some_iff] at h
    obtain ⟨next, hstep, hrest⟩ := h
    unfold step at hstep
    split at hstep
    · next ha =>
      cases hstep
      exact ih (hs.after ha) hrest
    · cases hstep

theorem Orderly.leaves (hs : s.Orderly) (h : s.Leaves a) :
    (s.after a).inside = [] ∧ (s.after a).coordinator.isReady = true := by
  obtain ⟨permit, hinside, hgate⟩ := h.left
  have hempty := hs.inside_of_left hinside
  refine ⟨hempty, ?_⟩
  have hheld := (hs.holds permit).mpr (hinside.mem_iff.mpr List.mem_cons_self)
  have hbusy : (s.after a).gate.busy = false := by
    rw [hgate, Gate.giveBack_of_holds hheld]
  exact congrArg not hbusy

/-- **One push in flight.** Whatever happens at a gate, it is busy if and only if exactly one permit
is out, a permit is to be had if and only if none is, and to drop a permit that was released does
nothing, whoever has passed since. So in every run of deployments at a coordinator at most one is
inside; the coordinator is ready if and only if none is; who is turned away changes nothing, and
neither does a drop after a release; and after every way out, and every wait to the end, the
coordinator is ready. -/
theorem one_in_flight :
    (∀ events,
      ((Gate.run {} events).busy = true ↔ ∃! p, Gate.Out events p) ∧
      ((∃ p g, (Gate.run {} events).acquire = .ok (p, g)) ↔ ¬ ∃ p, Gate.Out events p) ∧
      ∀ p later, Gate.Out events p →
        (Gate.run {} (events ++ .giveBack p :: later)).giveBack p =
          Gate.run {} (events ++ .giveBack p :: later)) ∧
    ∀ actions s, ({} : Deployments).run? actions = some s →
      s.inside.length ≤ 1 ∧
      (s.coordinator.isReady = true ↔ s.inside = []) ∧
      (∀ e, s.coordinator.enter = .error e → s.inside ≠ [] ∧ s.after .enter = s) ∧
      (∀ p ∈ s.released, (s.after (.drop p)).coordinator = s.coordinator) ∧
      (∀ a, s.Leaves a → (s.after a).inside = [] ∧ (s.after a).coordinator.isReady = true) ∧
      ∀ d ∈ s.waiting, (s.coordinator.wait d).2.isReady = true := by
  refine ⟨fun events => ⟨Gate.busy_run_iff events, Gate.acquire_run_iff events,
    fun p later h => Gate.giveBack_run_of_out h later⟩, fun actions s h => ?_⟩
  have hs := orderly_new.run? h
  refine ⟨hs.length_inside, ?_, fun e he => ?_, fun p hp => ?_, fun a => hs.leaves, fun d hd => ?_⟩
  · rw [hs.inside_eq_nil_iff]
    exact Bool.not_eq_true' s.gate.busy ▸ Iff.rfl
  · cases hbusy : s.gate.busy with
    | true =>
      refine ⟨fun hempty => ?_, after_enter_of_busy hbusy⟩
      rw [hs.inside_eq_nil_iff, hbusy] at hempty
      cases hempty
    | false =>
      rw [enter_of_free hbusy] at he
      cases he
  · exact congrArg (fun gate => { s.coordinator with gate })
      (Gate.giveBack_of_given (hs.released p hp))
  · obtain ⟨a, ha, hwait⟩ := wait_leaves hd
    rw [hwait]
    exact (hs.leaves ha).2

end Deployments

/-- The first deployment gets its verdict and releases its permit; before it drops it, the second
passes the gate. The third is turned away. -/
def overlapping : List Deployments.Action :=
  [.enter, .push 0 .null .sent, .enter, .acknowledge 0 .accepted, .poll ⟨0, 0⟩, .enter, .drop 0,
    .enter]

/-- The late drop leaves the gate to the second, and when its push fails, the gate is free. -/
theorem one_in_flight_overlapping : ∃ s : Deployments,
    ({} : Deployments).run? overlapping = some s ∧ s.inside = [1] ∧ s.coordinator.isReady = false ∧
    (s.after (.push 1 .null (.failed "no agents"))).coordinator.isReady = true ∧
    ∃! p, Gate.Out [.acquire, .acquire, .giveBack 0, .acquire, .giveBack 0] p := by
  have hrun : ∃ s : Deployments, ({} : Deployments).run? overlapping = some s ∧
      s.pushing = [1] ∧ s.waiting = [] := ⟨_, rfl, rfl, rfl⟩
  obtain ⟨s, h, hpushing, hwaiting⟩ := hrun
  obtain ⟨hgate, hdeployments⟩ := Deployments.one_in_flight
  obtain ⟨-, hready, -, -, hleaves, -⟩ := hdeployments overlapping s h
  have hinside : s.inside = [1] := by
    rw [Deployments.inside, hpushing, hwaiting]
    rfl
  refine ⟨s, h, hinside, ?_, ?_, (hgate _).1.mp (by decide)⟩
  · rw [← Bool.not_eq_true, hready, hinside]
    exact List.cons_ne_nil 1 []
  · exact (hleaves _ (.pushFailed (hpushing ▸ List.mem_cons_self) _ _)).2

end PanelQuery
