import Mathlib.Data.List.Nodup
import PanelQuery.Proofs.Progress.Reporting
import PanelQuery.Proofs.Run.Registration

/-! # Operations on a registry

Callers start, report, subscribe, read, leave and drop guards, one operation after the other. A
tracking is a registry with the guards that live and the ids that its registrations were started
under. What it holds between operations is `Tracking.Accurate`: the live guards are those of the
running registrations. -/

namespace PanelQuery

open scoped List

/-! ## One registration -/

namespace Registry

/-- The registries differ at most in one registration and in what is subscribed to it. -/
structure OnlyAt (i : Nat) (r r' : Registry) : Prop where
  registrations : ∀ k ≠ i, r'.registrations[k]? = r.registrations[k]?
  registrationOf : ∀ j, ∀ k ≠ i, r'.registrationOf j = some k ↔ r.registrationOf j = some k
  stream : ∀ j, ∀ k ≠ i, r.registrationOf j = some k → r'.stream j = r.stream j

variable {r : Registry} {i j : Nat}

theorem AlikeBut.onlyAt {r' : Registry} {queryId : String} (h : r.AlikeBut queryId i r') :
    r.OnlyAt i r' := by
  constructor
  case registrations => exact h.registrations
  case registrationOf =>
    intro j k _
    rw [h.registrationOf]
  case stream =>
    intro j k hk hj
    exact h.stream j fun he => hk (Option.some.inj (hj.symm.trans he))

theorem onlyAt_publish (hr : ∀ j ∈ r.attachedAt i, r.registrationOf j = some i)
    (report : Counters) : r.OnlyAt i (r.publish i report) := by
  constructor
  case registrations =>
    intro k hk
    rw [registrations_publish]
    simp [hk]
  case registrationOf => simp
  case stream =>
    intro j k hk hj
    have hother : j ∉ r.attachedAt i := fun hmem =>
      hk (Option.some.inj (hj.symm.trans (hr j hmem)))
    rw [stream_publish, if_neg fun h => hother h.2]

theorem onlyAt_attach (r : Registry) (i : Nat) : r.OnlyAt i (r.attach i).2 := by
  constructor
  case registrations =>
    intro k hk
    rw [registrations_attach]
    simp [hk]
  case registrationOf =>
    intro j k hk
    rw [registrationOf_attach]
    split
    · next hj => simp [hj, registrationOf_length, Ne.symm hk]
    · rfl
  case stream =>
    intro j k _ hj
    have hold : j ≠ r.subscriptions.length := fun he => by
      rw [he, registrationOf_length] at hj
      cases hj
    rw [stream_attach, if_neg hold]

theorem onlyAt_unsubscribe (hj : r.registrationOf j = some i) : r.OnlyAt i (r.unsubscribe j) := by
  constructor
  case registrations =>
    intro k hk
    have hother : r.registrationOf j ≠ some k := fun he => hk (Option.some.inj (he.symm.trans hj))
    exact (r.registrations_detach j k).trans (by simp [hother])
  case registrationOf => simp [unsubscribe]
  case stream =>
    intro j' k hk hj'
    have hother : j' ≠ j := fun he => hk (Option.some.inj (hj'.symm.trans (he ▸ hj)))
    rw [unsubscribe, stream_closeStream, if_neg fun h => hother h.2, stream_detach]

theorem onlyAt_take (hj : r.registrationOf j = some i) : r.OnlyAt i (r.take j).2 := by
  constructor
  case registrations => exact fun _ _ => rfl
  case registrationOf => simp
  case stream =>
    intro j' k hk hj'
    have hother : j' ≠ j := fun he => hk (Option.some.inj (hj'.symm.trans (he ▸ hj)))
    rw [stream_take, if_neg fun h => hother h.2]

end Registry

/-! ## Operations and guards -/

/-- A guard together with the registration that was made for it. -/
structure Held where
  queryId : String
  registration : Nat
  deriving DecidableEq

def Held.guard (g : Held) : Guard := ⟨g.queryId⟩

/-- An operation of some caller. Reading is to `take`, and a subscription that is dropped is
unsubscribed. -/
inductive Operation where
  | start (queryId : String)
  | drop (g : Held)
  | report (queryId : String) (delta : Counters)
  | subscribe (queryId : String)
  | unsubscribe (j : Nat)
  | take (j : Nat)
  deriving DecidableEq

/-- A registry with the guards that live, and the ids that its registrations were started under. -/
structure Tracking where
  registry : Registry
  guards : List Held := []
  names : List String := []

namespace Tracking

/-- A registry that nobody uses yet. -/
def new (buffer : Nat) : Tracking where
  registry := Registry.new buffer

/-- Only a live guard is dropped, and only subscribers read or leave. They may leave again and after
the end of the run. -/
def Allowed (t : Tracking) : Operation → Prop
  | .drop g => g ∈ t.guards
  | .unsubscribe j | .take j => (t.registry.registrationOf j).isSome
  | .start _ | .report _ _ | .subscribe _ => True

instance (t : Tracking) : DecidablePred t.Allowed
  | .drop g => inferInstanceAs (Decidable (g ∈ t.guards))
  | .unsubscribe j | .take j =>
    inferInstanceAs (Decidable ((t.registry.registrationOf j).isSome = true))
  | .start _ | .report _ _ | .subscribe _ => .isTrue trivial

/-- The state after an operation. What is refused changes nothing. -/
def after (t : Tracking) : Operation → Tracking
  | .start queryId =>
    match t.registry.start queryId with
    | .ok (g, registry) =>
      { registry
        guards := ⟨g.queryId, t.registry.registrations.length⟩ :: t.guards
        names := t.names ++ [queryId] }
    | .error _ => t
  | .drop g => { t with registry := t.registry.finish g.guard, guards := t.guards.erase g }
  | .report queryId delta =>
    match t.registry.report queryId delta with
    | .ok registry => { t with registry }
    | .error _ => t
  | .subscribe queryId =>
    match t.registry.subscribe queryId with
    | .ok (_, registry) => { t with registry }
    | .error _ => t
  | .unsubscribe j => { t with registry := t.registry.unsubscribe j }
  | .take j => { t with registry := (t.registry.take j).2 }

def step (t : Tracking) (op : Operation) : Option Tracking :=
  if t.Allowed op then some (t.after op) else none

/-- The state after operations one after the other. -/
def run? (t : Tracking) (ops : List Operation) : Option Tracking := ops.foldlM step t

/-- The id that a subscription was made under. -/
def subscribedTo (t : Tracking) (j : Nat) : Option String :=
  (t.registry.registrationOf j).bind (t.names[·]?)

/-- The id that an operation is about. -/
def subject (t : Tracking) : Operation → Option String
  | .start queryId | .report queryId _ | .subscribe queryId => some queryId
  | .drop g => some g.queryId
  | .unsubscribe j | .take j => t.subscribedTo j

/-- The registration that an operation reaches, if there is one. -/
def target (t : Tracking) : Operation → Option Nat
  | .start queryId =>
    if t.registry.isRunning queryId then none else some t.registry.registrations.length
  | .drop g => some g.registration
  | .report queryId _ | .subscribe queryId => t.registry.find? queryId
  | .unsubscribe j | .take j => t.registry.registrationOf j

/-- The registry as a system with no operation under way. -/
def system (t : Tracking) : System := { registry := t.registry }

variable {t t' : Tracking} {op : Operation} {ops : List Operation} {queryId : String}

/-! ## What is refused and what is not -/

theorem after_start_of_free (h : t.registry.find? queryId = none) :
    t.after (.start queryId) =
      { registry := t.registry.started queryId
        guards := ⟨queryId, t.registry.registrations.length⟩ :: t.guards
        names := t.names ++ [queryId] } := by
  simp only [after, Registry.start_of_free h]

theorem after_start_of_running {i : Nat} (h : t.registry.find? queryId = some i) :
    t.after (.start queryId) = t := by
  simp only [after, Registry.start_of_running h]

theorem after_report (queryId : String) (delta : Counters) :
    t.after (.report queryId delta) = match t.registry.find? queryId with
      | some i => { t with registry := t.registry.publish i delta }
      | none => t := by
  simp only [after, Registry.report, Registry.find]
  cases t.registry.find? queryId <;> rfl

theorem after_subscribe (queryId : String) :
    t.after (.subscribe queryId) = match t.registry.find? queryId with
      | some i => { t with registry := (t.registry.attach i).2 }
      | none => t := by
  simp only [after, Registry.subscribe, Registry.find]
  cases t.registry.find? queryId <;> rfl

/-! ## What holds between operations -/

/-- The live guards are those of the running registrations, and each registration keeps the id it
was started under. -/
structure Accurate (t : Tracking) : Prop where
  consistent : t.system.Consistent
  named : t.names.length = t.registry.registrations.length
  held : ∀ g, g ∈ t.guards ↔ t.registry.find? g.queryId = some g.registration
  nodup : (t.guards.map Held.queryId).Nodup
  own : ∀ g ∈ t.guards, t.names[g.registration]? = some g.queryId
  subscribed : ∀ j i, t.registry.registrationOf j = some i → i < t.registry.registrations.length

theorem accurate_new (buffer : Nat) : (new buffer).Accurate := by
  constructor
  case consistent => exact System.consistent_new buffer
  case held =>
    intro g
    simp [new, Registry.new, Registry.find?]
  case subscribed =>
    intro j i h
    simp [new, Registry.new, Registry.registrationOf] at h
  all_goals simp [new, Registry.new]

/-- An operation is a run of steps with nothing in between. -/
theorem Accurate.exists_steps (ht : t.Accurate) (hop : t.Allowed op) :
    ∃ actions, t.system.run? actions = some (t.after op).system := by
  cases op with
  | start queryId =>
    cases hi : t.registry.find? queryId with
    | some i => exact ⟨[], by rw [after_start_of_running hi]; rfl⟩
    | none =>
      have hstep := System.step_start (s := t.system) (Registry.start_of_free hi)
      refine ⟨[.start queryId], ?_⟩
      rw [System.run?_of_step hstep, after_start_of_free hi]
      rfl
  | drop g => exact ⟨_, System.run?_finish (s := t.system) (g := g.guard) ((ht.held g).mp hop)⟩
  | report queryId delta =>
    cases hi : t.registry.find? queryId with
    | none => exact ⟨[], by rw [after_report, hi]; rfl⟩
    | some i =>
      obtain ⟨_, hrun⟩ := System.run?_report (s := t.system) (System.report_of_find? hi delta)
      exact ⟨_, by rw [after_report, hi]; exact hrun⟩
  | subscribe queryId =>
    cases hi : t.registry.find? queryId with
    | none => exact ⟨[], by rw [after_subscribe, hi]; rfl⟩
    | some i =>
      have hsubscribe : t.registry.subscribe queryId = .ok (t.registry.attach i) := by
        simp only [Registry.subscribe, Registry.find, hi]
        rfl
      obtain ⟨_, hrun⟩ := System.run?_subscribe (s := t.system) hsubscribe
      exact ⟨_, by rw [after_subscribe, hi]; exact hrun⟩
  | unsubscribe j => exact ⟨_, System.run?_unsubscribe (s := t.system) hop List.not_mem_nil⟩
  | take j =>
    have hstep : t.system.step (.take j) = some (t.after (.take j)).system := if_pos hop
    exact ⟨[.take j], by rw [System.run?_of_step hstep]; rfl⟩

theorem Accurate.consistent_after (ht : t.Accurate) (hop : t.Allowed op) :
    (t.after op).system.Consistent := by
  obtain ⟨actions, hrun⟩ := ht.exists_steps hop
  exact ht.consistent.run? hrun

/-- A live guard is the only one of its id. -/
theorem Accurate.eq_of_queryId (ht : t.Accurate) {g g' : Held} (hg : g ∈ t.guards)
    (hg' : g' ∈ t.guards) (h : g.queryId = g'.queryId) : g = g' :=
  List.inj_on_of_nodup_map ht.nodup hg hg' h

theorem Accurate.start (ht : t.Accurate) (hfree : t.registry.find? queryId = none) :
    (t.after (.start queryId)).Accurate := by
  have hconsistent : (t.after (.start queryId)).system.Consistent := ht.consistent_after trivial
  rw [after_start_of_free hfree] at hconsistent ⊢
  have hother : ∀ g ∈ t.guards, g.queryId ≠ queryId := by
    intro g hg he
    rw [ht.held, he, hfree] at hg
    cases hg
  constructor
  case consistent => exact hconsistent
  case named => simp [Registry.started, ht.named]
  case held =>
    intro g
    by_cases hg : g.queryId = queryId
    · have hnew : g ∉ t.guards := fun hmem => hother g hmem hg
      obtain ⟨p, i⟩ := g
      subst hg
      simp [Registry.find?_started, hnew, eq_comm]
    · have hne : g ≠ ⟨queryId, t.registry.registrations.length⟩ := fun he => hg (he ▸ rfl)
      rw [(t.registry.alikeBut_started queryId).find _ hg, ← ht.held]
      simp [hne]
  case nodup =>
    rw [List.map_cons, List.nodup_cons]
    refine ⟨fun hmem => ?_, ht.nodup⟩
    obtain ⟨g, hg, he⟩ := List.mem_map.mp hmem
    exact hother g hg he
  case own =>
    intro g hg
    rcases List.mem_cons.mp hg with rfl | hg
    · rw [← ht.named, List.getElem?_concat_length]
    · have hown := ht.own g hg
      rwa [List.getElem?_append_left (List.getElem?_eq_some_iff.mp hown).1]
  case subscribed =>
    intro j i h
    have hold := ht.subscribed j i h
    rw [Registry.started, List.length_append]
    omega

/-- Apart from starting, no operation makes registrations. -/
theorem length_registrations_after (hop : ∀ queryId, op ≠ .start queryId) :
    (t.after op).registry.registrations.length = t.registry.registrations.length := by
  cases op with
  | start queryId => exact absurd rfl (hop queryId)
  | drop g =>
    simp only [after, Registry.finish]
    split
    · rfl
    · unfold Registry.closeAll
      split <;> simp [Registry.remove, Registry.changeStreams]
  | report queryId delta =>
    rw [after_report]
    split
    · unfold Registry.publish
      split <;> simp [Registry.changeStreams]
    · rfl
  | subscribe queryId =>
    rw [after_subscribe]
    split
    · unfold Registry.attach
      dsimp only
      split <;> simp
    · rfl
  | unsubscribe j =>
    simp only [after, Registry.unsubscribe, Registry.detach, Registry.closeStream]
    split <;> simp [Registry.changeStreams]
  | take j => rfl

theorem Accurate.drop (ht : t.Accurate) {g : Held} (hg : g ∈ t.guards) :
    (t.after (.drop g)).Accurate := by
  have halike := System.alikeBut_finish ht.consistent ((ht.held g).mp hg)
  have hnodup : t.guards.Nodup := ht.nodup.of_map
  constructor
  case consistent => exact ht.consistent_after hg
  case named => exact ht.named.trans (length_registrations_after (by simp)).symm
  case held =>
    intro g'
    by_cases hsame : g'.queryId = g.queryId
    · have hgone : g' ∉ t.guards.erase g := by
        intro hmem
        obtain ⟨hne, hmem⟩ := hnodup.mem_erase_iff.mp hmem
        exact hne (ht.eq_of_queryId hmem hg hsame)
      have hfree : (t.after (.drop g)).registry.find? g'.queryId = none := by
        rw [hsame]
        exact Registry.find?_finish _ _
      simp [hfree, show g' ∉ (t.after (.drop g)).guards from hgone]
    · have hne : g' ≠ g := fun he => hsame (he ▸ rfl)
      have hfind : (t.after (.drop g)).registry.find? g'.queryId = t.registry.find? g'.queryId :=
        halike.find _ hsame
      rw [hfind, ← ht.held]
      exact List.mem_erase_of_ne hne
  case nodup => exact ht.nodup.sublist (List.erase_sublist.map _)
  case own => exact fun g' hg' => ht.own g' (List.mem_of_mem_erase hg')
  case subscribed =>
    intro j i h
    rw [length_registrations_after (by simp)]
    exact ht.subscribed j i ((halike.registrationOf j).symm.trans h)

/-- Only starting and dropping change where an id leads and which guards live. -/
structure Quiet (t t' : Tracking) : Prop where
  find : ∀ p, t'.registry.find? p = t.registry.find? p
  guards : t'.guards = t.guards
  names : t'.names = t.names

theorem quiet_after (hstart : ∀ queryId, op ≠ .start queryId) (hdrop : ∀ g, op ≠ .drop g) :
    t.Quiet (t.after op) := by
  cases op with
  | start queryId => exact absurd rfl (hstart queryId)
  | drop g => exact absurd rfl (hdrop g)
  | report queryId delta =>
    rw [after_report]
    split
    · exact ⟨fun p => by simp [Registry.find?], rfl, rfl⟩
    · exact ⟨fun _ => rfl, rfl, rfl⟩
  | subscribe queryId =>
    rw [after_subscribe]
    split <;> exact ⟨fun _ => rfl, rfl, rfl⟩
  | unsubscribe j =>
    refine ⟨fun p => ?_, rfl, rfl⟩
    simp [after, Registry.unsubscribe, Registry.find?, Registry.closeStream, Registry.changeStreams]
  | take j => exact ⟨fun _ => rfl, rfl, rfl⟩

/-- Apart from subscribing, no operation makes subscriptions, and that makes one to the registration
that the id leads to. -/
theorem registrationOf_after {j i : Nat} (h : (t.after op).registry.registrationOf j = some i) :
    t.registry.registrationOf j = some i ∨
      ∃ queryId, op = .subscribe queryId ∧ t.registry.find? queryId = some i := by
  cases op with
  | start queryId =>
    left
    cases hfound : t.registry.find? queryId with
    | some k => rwa [after_start_of_running hfound] at h
    | none => rwa [after_start_of_free hfound] at h
  | drop g =>
    left
    simp only [after, Registry.finish] at h
    split at h
    · exact h
    · rwa [Registry.registrationOf_closeAll] at h
  | report queryId delta =>
    left
    rw [after_report] at h
    split at h
    · rwa [Registry.registrationOf_publish] at h
    · exact h
  | subscribe queryId =>
    rw [after_subscribe] at h
    split at h
    · next k hk =>
      rw [Registry.registrationOf_attach] at h
      split at h
      · cases h
        exact .inr ⟨queryId, rfl, hk⟩
      · exact .inl h
    · exact .inl h
  | unsubscribe j =>
    left
    simpa [after, Registry.unsubscribe] using h
  | take j =>
    left
    simpa [after] using h

theorem Accurate.of_quiet (ht : t.Accurate) (hop : t.Allowed op)
    (hstart : ∀ queryId, op ≠ .start queryId) (hdrop : ∀ g, op ≠ .drop g) :
    (t.after op).Accurate := by
  have hquiet := quiet_after (t := t) hstart hdrop
  constructor
  case consistent => exact ht.consistent_after hop
  case named => rw [hquiet.names, length_registrations_after hstart, ht.named]
  case held =>
    intro g
    rw [hquiet.guards, hquiet.find, ht.held]
  case nodup =>
    rw [hquiet.guards]
    exact ht.nodup
  case own =>
    rw [hquiet.guards, hquiet.names]
    exact ht.own
  case subscribed =>
    intro j i h
    rw [length_registrations_after hstart]
    rcases registrationOf_after h with hold | ⟨queryId, -, hfound⟩
    · exact ht.subscribed j i hold
    · exact ht.consistent.bound hfound

theorem Accurate.after (ht : t.Accurate) (hop : t.Allowed op) : (t.after op).Accurate := by
  cases op with
  | start queryId =>
    cases hfound : t.registry.find? queryId with
    | some i => rwa [after_start_of_running hfound]
    | none => exact ht.start hfound
  | drop g => exact ht.drop hop
  | report | subscribe | unsubscribe | take => exact ht.of_quiet hop (by simp) (by simp)

theorem Accurate.run? (ht : t.Accurate) (h : t.run? ops = some t') : t'.Accurate := by
  induction ops generalizing t with
  | nil =>
    cases h
    exact ht
  | cons op ops ih =>
    rw [Tracking.run?, List.foldlM_cons, Option.bind_eq_bind, Option.bind_eq_some_iff] at h
    obtain ⟨next, hstep, hrest⟩ := h
    unfold step at hstep
    split at hstep
    · next hop =>
      cases hstep
      exact ih (ht.after hop) hrest
    · cases hstep

end Tracking

end PanelQuery
