import PanelQuery.Proofs.Agree
import PanelQuery.Proofs.Progress.Registry
import Mathlib.Tactic.Tauto

/-! # Many clients of one registry

Reporting, subscribing, ending a run and leaving it take two steps each, and the steps of other
clients may come between them. A system is a registry with the operations that are under way; a run
is any order of steps in which every second step follows a first. What a step does to the stream of
one subscription is said once, in `System.Seen`. -/

namespace PanelQuery

theorem Stream.closed_push (capacity : Nat) (snapshot : Counters) (s : Stream) :
    (s.push capacity snapshot).closed = s.closed := by
  unfold push
  split
  · rfl
  · split <;> rfl

/-- A registry and the operations between their two steps. -/
structure System where
  registry : Registry
  /-- The registrations found by reports that are not yet counted in. -/
  reporting : List Nat := []
  /-- The registrations found by subscribers that are not yet attached. -/
  subscribing : List Nat := []
  /-- The registrations taken out of the running queries and not yet closed. -/
  ending : List Nat := []
  /-- The subscriptions that are detached and not yet closed. -/
  leaving : List Nat := []

/-- A step of some client. Reading is to `take`, whether the reader waits for more or not. -/
inductive Action where
  | start (queryId : String)
  | findToReport (queryId : String)
  | publish (i : Nat) (report : Counters)
  | findToSubscribe (queryId : String)
  | attach (i : Nat)
  | remove (queryId : String)
  | closeAll (i : Nat)
  | detach (j : Nat)
  | close (j : Nat)
  | take (j : Nat)
  deriving DecidableEq

namespace System

/-- A registry that nobody uses yet. -/
def new (buffer : Nat) : System where
  registry := Registry.new buffer

/-- A second step follows a first, and only subscribers read or leave. -/
def Allowed (s : System) : Action → Prop
  | .publish i _ => i ∈ s.reporting
  | .attach i => i ∈ s.subscribing
  | .closeAll i => i ∈ s.ending
  | .detach j => (s.registry.registrationOf j).isSome ∧ j ∉ s.leaving
  | .close j => j ∈ s.leaving
  | .take j => (s.registry.registrationOf j).isSome
  | .start _ | .findToReport _ | .findToSubscribe _ | .remove _ => True

instance (s : System) : DecidablePred s.Allowed
  | .publish i _ => inferInstanceAs (Decidable (i ∈ s.reporting))
  | .attach i => inferInstanceAs (Decidable (i ∈ s.subscribing))
  | .closeAll i => inferInstanceAs (Decidable (i ∈ s.ending))
  | .detach j => inferInstanceAs (Decidable (_ ∧ j ∉ s.leaving))
  | .close j => inferInstanceAs (Decidable (j ∈ s.leaving))
  | .take j => inferInstanceAs (Decidable ((s.registry.registrationOf j).isSome = true))
  | .start _ | .findToReport _ | .findToSubscribe _ | .remove _ => .isTrue trivial

/-- The system after a step. What is refused, or finds nothing, changes nothing. -/
def after (s : System) : Action → System
  | .start queryId =>
    match s.registry.start queryId with
    | .ok (_, registry) => { s with registry }
    | .error _ => s
  | .findToReport queryId =>
    { s with reporting := (s.registry.find? queryId).toList ++ s.reporting }
  | .publish i report =>
    { s with registry := s.registry.publish i report, reporting := s.reporting.erase i }
  | .findToSubscribe queryId =>
    { s with subscribing := (s.registry.find? queryId).toList ++ s.subscribing }
  | .attach i =>
    { s with registry := (s.registry.attach i).2, subscribing := s.subscribing.erase i }
  | .remove queryId =>
    { s with
      registry := s.registry.remove queryId
      ending := (s.registry.find? queryId).toList ++ s.ending }
  | .closeAll i => { s with registry := s.registry.closeAll i, ending := s.ending.erase i }
  | .detach j => { s with registry := s.registry.detach j, leaving := j :: s.leaving }
  | .close j => { s with registry := s.registry.closeStream j, leaving := s.leaving.erase j }
  | .take j => { s with registry := (s.registry.take j).2 }

def step (s : System) (a : Action) : Option System := if s.Allowed a then some (s.after a) else none

/-- The system after steps taken one after the other. -/
def run? (s : System) (actions : List Action) : Option System := actions.foldlM step s

/-- The stream of a subscription. -/
def stream (s : System) (j : Nat) : Stream := s.registry.stream j

/-- The reports on a registration are for the subscription: its stream takes snapshots in, and its
owner is not about to leave. -/
def Receives (s : System) (i j : Nat) : Prop :=
  s.registry.registrationOf j = some i ∧ (s.stream j).closed = false ∧ j ∉ s.leaving

instance (s : System) (i j : Nat) : Decidable (s.Receives i j) :=
  inferInstanceAs (Decidable (_ ∧ _ ∧ _))

variable {s s' : System} {a : Action} {actions : List Action}

theorem after_start (s : System) (queryId : String) :
    s.after (.start queryId) =
      if s.registry.isRunning queryId = true then s
      else { s with registry := { s.registry with
        running := (queryId, s.registry.registrations.length) :: s.registry.running
        registrations := s.registry.registrations ++ [{}] } } := by
  simp only [after, Registry.start]
  by_cases h : s.registry.isRunning queryId = true
  · rw [if_pos h, if_pos h]
  · rw [if_neg h, if_neg h]

theorem step_ok (h : s.step a = some s') : s.Allowed a ∧ s' = s.after a := by
  unfold step at h
  split at h
  · next ha => exact ⟨ha, (Option.some.inj h).symm⟩
  · cases h

theorem run?_cons (h : s.run? (a :: actions) = some s') :
    ∃ next, s.step a = some next ∧ next.run? actions = some s' := by
  simpa only [run?, List.foldlM_cons, Option.bind_eq_bind, Option.bind_eq_some_iff] using h

theorem run?_of_step (ha : s.step a = some s') (actions : List Action) :
    s.run? (a :: actions) = s'.run? actions := by
  simp only [run?, List.foldlM_cons, ha, Option.bind_eq_bind, Option.bind_some]

theorem run?_append {before rest : List Action} : s.run? (before ++ rest) = some s' ↔
    ∃ mid, s.run? before = some mid ∧ mid.run? rest = some s' := by
  simp only [run?, List.foldlM_append, Option.bind_eq_bind, Option.bind_eq_some_iff]

/-- What every step keeps, every run keeps. -/
theorem run?_keeps {P : System → Prop} (hstep : ∀ {s s' a}, P s → s.step a = some s' → P s')
    (hs : P s) (h : s.run? actions = some s') : P s' := by
  induction actions generalizing s with
  | nil =>
    cases h
    exact hs
  | cons a actions ih =>
    obtain ⟨next, ha, hrest⟩ := run?_cons h
    exact ih (hstep hs ha) hrest

/-! ## Operations of one caller

An operation with nothing in between is a run of its two steps. -/

theorem find_ok {r : Registry} {queryId : String} {i : Nat} (h : r.find queryId = .ok i) :
    r.find? queryId = some i := by
  unfold Registry.find at h
  split at h
  · next hi =>
    cases h
    exact hi
  · cases h

theorem run?_report {queryId : String} {delta : Counters} {r : Registry}
    (h : s.registry.report queryId delta = .ok r) :
    ∃ i, s.run? [.findToReport queryId, .publish i delta] = some { s with registry := r } := by
  obtain ⟨i, hi, h⟩ := ok_of_bind h
  cases h
  have hfound := find_ok hi
  refine ⟨i, ?_⟩
  simp [run?, step, Allowed, after, hfound]

theorem run?_subscribe {queryId : String} {j : Nat} {r : Registry}
    (h : s.registry.subscribe queryId = .ok (j, r)) :
    ∃ i, s.run? [.findToSubscribe queryId, .attach i] = some { s with registry := r } := by
  obtain ⟨i, hi, h⟩ := ok_of_bind h
  have hr : (s.registry.attach i).2 = r := congrArg Prod.snd (Except.ok.inj h)
  have hfound := find_ok hi
  refine ⟨i, ?_⟩
  simp [run?, step, Allowed, after, hfound, hr]

theorem run?_finish {g : Guard} {i : Nat} (h : s.registry.find? g.queryId = some i) :
    s.run? [.remove g.queryId, .closeAll i] =
      some { s with registry := s.registry.finish g } := by
  simp [run?, step, Allowed, after, Registry.finish, h]

theorem run?_unsubscribe {j : Nat} (h : (s.registry.registrationOf j).isSome)
    (hj : j ∉ s.leaving) :
    s.run? [.detach j, .close j] = some { s with registry := s.registry.unsubscribe j } := by
  simp [run?, step, Allowed, after, Registry.unsubscribe, h, hj]

/-! ## What a step leaves as it is -/

theorem mem_running_of_find? {r : Registry} {queryId : String} {i : Nat}
    (h : r.find? queryId = some i) : (queryId, i) ∈ r.running := by
  obtain ⟨before, after, hrunning, -⟩ := List.lookup_eq_some_iff.mp h
  rw [hrunning]
  exact List.mem_append_right _ List.mem_cons_self

theorem capacity_after (s : System) (a : Action) :
    (s.after a).registry.capacity = s.registry.capacity := by
  cases a with
  | start queryId =>
    rw [after_start]
    split <;> rfl
  | _ => simp [after, Registry.attach, Registry.remove, Registry.closeStream,
      Registry.changeStreams, Registry.take, Registry.withStream]

/-- A subscription stays with its registration. -/
theorem registrationOf_after {j i : Nat} (h : s.registry.registrationOf j = some i) (a : Action) :
    (s.after a).registry.registrationOf j = some i := by
  cases a with
  | start queryId =>
    rw [after_start]
    split <;> exact h
  | attach k =>
    simp only [after, Registry.registrationOf_attach]
    split
    · next hj =>
      rw [hj, Registry.registrationOf_length] at h
      cases h
    · exact h
  | findToReport | findToSubscribe | remove => exact h
  | _ => simpa [after] using h

/-- A registration keeps its place, and an end is final. -/
theorem registrations_after {i : Nat} {g : Registration} (h : s.registry.registrations[i]? = some g)
    (a : Action) : ∃ g', (s.after a).registry.registrations[i]? = some g' ∧
      (g.closed = true → g'.closed = true) := by
  cases a with
  | start queryId =>
    rw [after_start]
    split
    · exact ⟨g, h, id⟩
    · exact ⟨g, (List.getElem?_append_left (List.getElem?_eq_some_iff.mp h).1).trans h, id⟩
  | publish k report =>
    have hg := s.registry.registrations_publish k report i
    rw [h, Option.map_some] at hg
    refine ⟨_, hg, ?_⟩
    split <;> exact id
  | attach k =>
    have hg := s.registry.registrations_attach k i
    rw [h, Option.map_some] at hg
    refine ⟨_, hg, ?_⟩
    split <;> exact id
  | closeAll k =>
    have hg := s.registry.registrations_closeAll k i
    rw [h, Option.map_some] at hg
    refine ⟨_, hg, ?_⟩
    split
    · exact fun _ => rfl
    · exact id
  | detach k =>
    have hg := s.registry.registrations_detach k i
    rw [h, Option.map_some] at hg
    refine ⟨_, hg, ?_⟩
    split <;> exact id
  | findToReport | findToSubscribe | remove | close | take => exact ⟨g, h, id⟩

/-! ## What holds between steps -/

/-- A registration has attached to it what receives its reports. What is looked up, or under way,
exists. -/
structure Consistent (s : System) : Prop where
  attached : ∀ i j, j ∈ s.registry.attachedAt i ↔ s.Receives i j
  running : ∀ p ∈ s.registry.running, (s.registry.registrations[p.2]?).isSome
  ending : ∀ i ∈ s.ending, (s.registry.registrations[i]?).isSome
  leaving : ∀ j ∈ s.leaving, (s.registry.registrationOf j).isSome

theorem consistent_new (buffer : Nat) : (new buffer).Consistent := by
  constructor <;> simp [new, Registry.new, Registry.attachedAt, Receives, Registry.registrationOf]

theorem isSome_registrations_after {i : Nat} (h : (s.registry.registrations[i]?).isSome)
    (a : Action) : ((s.after a).registry.registrations[i]?).isSome := by
  obtain ⟨g, hg⟩ := Option.isSome_iff_exists.mp h
  obtain ⟨g', hg', -⟩ := registrations_after hg a
  simp [hg']

theorem isSome_registrationOf_after {j : Nat} (h : (s.registry.registrationOf j).isSome)
    (a : Action) : ((s.after a).registry.registrationOf j).isSome := by
  obtain ⟨i, hi⟩ := Option.isSome_iff_exists.mp h
  simp [registrationOf_after hi a]

/-- A subscription in the first free position is nobody's. -/
theorem Consistent.not_leaving (hs : s.Consistent) :
    s.registry.subscriptions.length ∉ s.leaving := fun h => by
  have hsome := hs.leaving _ h
  rw [Registry.registrationOf_length] at hsome
  cases hsome

/-- What receives the reports on a registration is a subscription to it. -/
theorem Receives.isSome {i j : Nat} (h : s.Receives i j) :
    (s.registry.registrationOf j).isSome := by
  rw [h.1]
  rfl

theorem attached_publish (hs : s.Consistent) (k : Nat) (report : Counters) (i j : Nat) :
    j ∈ (s.after (.publish k report)).registry.attachedAt i ↔
      (s.after (.publish k report)).Receives i j := by
  simp only [after, Registry.attachedAt_publish, hs.attached i j, Receives, stream,
    Registry.registrationOf_publish]
  refine and_congr_right fun hj => ?_
  rw [Registry.stream_publish]
  split
  · rw [Stream.closed_push]
  · rfl

theorem attached_attach (hs : s.Consistent) (k i j : Nat) :
    j ∈ (s.after (.attach k)).registry.attachedAt i ↔ (s.after (.attach k)).Receives i j := by
  simp only [after, Registry.attachedAt_attach, Receives, stream, Registry.registrationOf_attach,
    Registry.stream_attach]
  by_cases hj : j = s.registry.subscriptions.length
  · subst hj
    have hnew : s.registry.subscriptions.length ∉ s.registry.attachedAt i := fun h => by
      have hsome := ((hs.attached i _).mp h).isSome
      rw [Registry.registrationOf_length] at hsome
      cases hsome
    have hleaving := hs.not_leaving
    by_cases ho : i = k ∧ s.registry.isOpen k = true
    · obtain ⟨rfl, ho⟩ := ho
      simp [ho, hleaving]
    · have hclosed : ¬ (k = i ∧ s.registry.isOpen k = true) := fun h => ho ⟨h.1.symm, h.2⟩
      simp [ho, hnew, hleaving, hclosed]
  · have hold := hs.attached i j
    simp only [Receives, stream] at hold
    rw [if_neg hj, if_neg hj, ← hold]
    split <;> simp [hj]

theorem attached_closeAll (hs : s.Consistent) (k i j : Nat) :
    j ∈ (s.after (.closeAll k)).registry.attachedAt i ↔ (s.after (.closeAll k)).Receives i j := by
  have hk := hs.attached k j
  have hi := hs.attached i j
  simp only [Receives, stream] at hk hi
  simp only [after, Registry.attachedAt_closeAll, Receives, stream,
    Registry.registrationOf_closeAll]
  by_cases hj : s.registry.registrationOf j = some i
  · rw [Registry.stream_closeAll]
    by_cases he : i = k
    · subst he
      by_cases hmem : j ∈ s.registry.attachedAt i
      · simp [hj, hmem, Stream.close]
      · simp only [hmem, false_iff] at hi
        simpa [hmem] using hi
    · have hother : j ∉ s.registry.attachedAt k := fun h => by
        have hreg := (hk.mp h).1
        rw [hj] at hreg
        exact he (Option.some.inj hreg)
      simp [he, hother, hi]
  · have hother : j ∉ s.registry.attachedAt i := fun h => hj (hi.mp h).1
    simp only [hj, false_and, iff_false]
    split
    · exact List.not_mem_nil
    · exact hother

theorem attached_detach (hs : s.Consistent) (k i j : Nat) :
    j ∈ (s.after (.detach k)).registry.attachedAt i ↔ (s.after (.detach k)).Receives i j := by
  have hi := hs.attached i j
  simp only [Receives, stream] at hi
  simp only [after, Registry.attachedAt_detach, Receives, stream, Registry.registrationOf_detach,
    Registry.stream_detach, List.mem_cons, not_or]
  split
  · simp only [List.mem_filter, hi, decide_eq_true_eq]
    tauto
  · next hk =>
    have hne : s.registry.registrationOf j = some i → j ≠ k := by
      rintro hj rfl
      exact hk hj
    rw [hi]
    tauto

theorem attached_close (hs : s.Consistent) {k : Nat} (hk : k ∈ s.leaving) (i j : Nat) :
    j ∈ (s.after (.close k)).registry.attachedAt i ↔ (s.after (.close k)).Receives i j := by
  have hi := hs.attached i j
  simp only [Receives, stream] at hi
  have hsame : (s.after (.close k)).registry.attachedAt i = s.registry.attachedAt i := rfl
  rw [hsame, hi]
  simp only [after, Receives, stream, Registry.registrationOf_closeStream]
  refine and_congr_right fun hj => ?_
  rw [Registry.stream_closeStream]
  by_cases he : j = k
  · subst he
    simp [hj, hk, Stream.close]
  · simp [he, List.mem_erase_of_ne he]

theorem attached_take (hs : s.Consistent) (k i j : Nat) :
    j ∈ (s.after (.take k)).registry.attachedAt i ↔ (s.after (.take k)).Receives i j := by
  have hi := hs.attached i j
  simp only [Receives, stream] at hi
  have hsame : (s.after (.take k)).registry.attachedAt i = s.registry.attachedAt i := rfl
  rw [hsame, hi]
  simp only [after, Receives, stream, Registry.registrationOf_take]
  refine and_congr_right fun hj => ?_
  rw [Registry.stream_take]
  split <;> rfl

theorem attached_after (hs : s.Consistent) (ha : s.Allowed a) (i j : Nat) :
    j ∈ (s.after a).registry.attachedAt i ↔ (s.after a).Receives i j := by
  cases a with
  | start queryId =>
    rw [after_start]
    split
    · exact hs.attached i j
    · rw [Registry.attachedAt_append]
      exact hs.attached i j
  | findToReport | findToSubscribe | remove => exact hs.attached i j
  | publish k report => exact attached_publish hs k report i j
  | attach k => exact attached_attach hs k i j
  | closeAll k => exact attached_closeAll hs k i j
  | detach k => exact attached_detach hs k i j
  | close k => exact attached_close hs ha i j
  | take k => exact attached_take hs k i j

theorem running_after {p : String × Nat} (h : p ∈ (s.after a).registry.running) :
    p ∈ s.registry.running ∨ ((s.after a).registry.registrations[p.2]?).isSome := by
  cases a with
  | start queryId =>
    rw [after_start] at h ⊢
    split at h
    · exact .inl h
    · next hfree =>
      rcases List.mem_cons.mp h with rfl | hold
      · exact .inr (by simp [hfree])
      · exact .inl hold
  | remove queryId => exact .inl (List.mem_filter.mp h).1
  | publish | closeAll | detach => exact .inl (by simpa [after] using h)
  | findToReport | findToSubscribe | attach | close | take => exact .inl h

theorem ending_after {i : Nat} (h : i ∈ (s.after a).ending) :
    i ∈ s.ending ∨ ∃ queryId, (queryId, i) ∈ s.registry.running := by
  cases a with
  | start queryId =>
    rw [after_start] at h
    split at h <;> exact .inl h
  | remove queryId =>
    rcases List.mem_append.mp h with hfound | hold
    · exact .inr ⟨queryId, mem_running_of_find? (Option.mem_toList.mp hfound)⟩
    · exact .inl hold
  | closeAll k => exact .inl (List.mem_of_mem_erase h)
  | findToReport | publish | findToSubscribe | attach | detach | close | take => exact .inl h

theorem leaving_after {j : Nat} (ha : s.Allowed a) (h : j ∈ (s.after a).leaving) :
    j ∈ s.leaving ∨ (s.registry.registrationOf j).isSome := by
  cases a with
  | start queryId =>
    rw [after_start] at h
    split at h <;> exact .inl h
  | detach k =>
    rcases List.mem_cons.mp h with rfl | hold
    · exact .inr ha.1
    · exact .inl hold
  | close k => exact .inl (List.mem_of_mem_erase h)
  | findToReport | publish | findToSubscribe | attach | remove | closeAll | take => exact .inl h

theorem Consistent.after (hs : s.Consistent) (ha : s.Allowed a) : (s.after a).Consistent := by
  constructor
  case attached => exact attached_after hs ha
  case running =>
    intro p hp
    rcases running_after hp with hold | hsome
    · exact isSome_registrations_after (hs.running p hold) a
    · exact hsome
  case ending =>
    intro i hi
    rcases ending_after hi with hold | ⟨queryId, hrunning⟩
    · exact isSome_registrations_after (hs.ending i hold) a
    · exact isSome_registrations_after (hs.running _ hrunning) a
  case leaving =>
    intro j hj
    rcases leaving_after ha hj with hold | hsome
    · exact isSome_registrationOf_after (hs.leaving j hold) a
    · exact isSome_registrationOf_after hsome a

theorem Consistent.step (hs : s.Consistent) (h : s.step a = some s') : s'.Consistent := by
  obtain ⟨ha, rfl⟩ := step_ok h
  exact hs.after ha

theorem Consistent.run? (hs : s.Consistent) (h : s.run? actions = some s') : s'.Consistent :=
  run?_keeps Consistent.step hs h

/-! ## What a step does to one stream -/

/-- What a step makes of the stream of a subscription: its reader takes a snapshot, a report that is
for it comes in, or nothing comes in and nothing is taken, and the stream may end. -/
inductive Seen (s : System) (j : Nat) : Action → Stream → Prop
  | taken : Seen s j (.take j) (s.stream j).take.2
  | pushed {i : Nat} {report : Counters} (h : s.Receives i j) :
      Seen s j (.publish i report)
        ((s.stream j).push s.registry.capacity ((s.registry.countersAt i).add report))
  | kept {a : Action} {t : Stream} (htake : a ≠ .take j)
      (hpublish : ∀ i report, a = .publish i report → ¬ s.Receives i j)
      (hwaiting : t.waiting = (s.stream j).waiting) (hdropped : t.dropped = (s.stream j).dropped)
      (hclosed : (s.stream j).closed = true → t.closed = true) : Seen s j a t

theorem Seen.same {j : Nat} {t : Stream} (ht : t = s.stream j) (htake : a ≠ .take j)
    (hpublish : ∀ i report, a = .publish i report → ¬ s.Receives i j) : s.Seen j a t := by
  subst ht
  exact .kept htake hpublish rfl rfl id

theorem seen_after (hs : s.Consistent) (ha : s.Allowed a) {j : Nat} {t : Stream}
    (ht : (s.after a).stream j = t) : s.Seen j a t := by
  cases a with
  | start queryId =>
    rw [after_start] at ht
    split at ht <;> exact .same ht.symm (by simp) (by simp)
  | publish k report =>
    have ht := (s.registry.stream_publish k report j).symm.trans ht
    split at ht
    · next hmem =>
      subst ht
      exact .pushed ((hs.attached k j).mp hmem.2)
    · next hmem =>
      refine .same ht.symm (by simp) fun i report he hr => ?_
      cases he
      exact hmem ⟨hr.isSome, (hs.attached k j).mpr hr⟩
  | attach k =>
    have ht := (s.registry.stream_attach k j).symm.trans ht
    split at ht
    · next hnew =>
      -- The position was free, so its stream was empty and stays so.
      have hempty : s.stream j = {} := by
        rw [hnew]
        exact s.registry.stream_of_none s.registry.registrationOf_length
      subst ht
      exact .kept (by simp) (by simp) (by rw [hempty]) (by rw [hempty]) (by simp [hempty])
    · exact .same ht.symm (by simp) (by simp)
  | closeAll k =>
    have ht := (s.registry.stream_closeAll k j).symm.trans ht
    split at ht
    · subst ht
      exact .kept (by simp) (by simp) rfl rfl fun _ => rfl
    · exact .same ht.symm (by simp) (by simp)
  | detach k => exact .same (ht.symm.trans (s.registry.stream_detach k j)) (by simp) (by simp)
  | close k =>
    have ht := (s.registry.stream_closeStream k j).symm.trans ht
    split at ht
    · subst ht
      exact .kept (by simp) (by simp) rfl rfl fun _ => rfl
    · exact .same ht.symm (by simp) (by simp)
  | take k =>
    have ht := (s.registry.stream_take k j).symm.trans ht
    split at ht
    · next hk =>
      subst ht
      obtain ⟨-, rfl⟩ := hk
      exact .taken
    · next hk =>
      refine .same ht.symm (fun he => ?_) (by simp)
      cases he
      exact hk ⟨ha, rfl⟩
  | findToReport | findToSubscribe | remove => exact .same ht.symm (by simp) (by simp)

/-- The end of a stream is final. -/
theorem Seen.closed {j : Nat} {t : Stream} (h : s.Seen j a t)
    (hc : (s.stream j).closed = true) : t.closed = true := by
  cases h with
  | taken => exact hc
  | pushed => rwa [Stream.closed_push]
  | kept _ _ _ _ hclosed => exact hclosed hc

end System

end PanelQuery
