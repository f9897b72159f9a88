import PanelQuery.Pipeline.Processor
import PanelQuery.Proofs.Agree

/-! # Pipelines are read one by one

The statements of a list of pipelines are those of its parts, one part after the other. What is
switched off is not looked at: it adds no statements, and what is wrong with it is not reported.
Of the rest the first fault is reported, and then there are no statements at all. -/

namespace PanelQuery

section

variable {α β : Type} {x : Except Fault α} {f : α → Except Fault β}

/-- What a computation fails with. -/
def faultOf : Except Fault α → Option Fault
  | .ok _ => none
  | .error fault => some fault

theorem faultOf_eq_some_iff {fault : Fault} : faultOf x = some fault ↔ x = .error fault := by
  cases x <;> simp [faultOf]

theorem faultOf_mapError (g : Fault → Fault) : faultOf (x.mapError g) = (faultOf x).map g := by
  cases x <;> rfl

/-- Of two computations the second is looked at only if the first does not fail. -/
theorem faultOf_bind {o : Option Fault} (h : ∀ a, x = .ok a → faultOf (f a) = o) :
    faultOf (x >>= f) = (faultOf x).or o := by
  cases x with
  | error fault => rfl
  | ok a => exact h a rfl

theorem faultOf_bind_pure (x : Except Fault α) (g : α → β) :
    faultOf (x >>= fun a => pure (g a)) = faultOf x := by
  cases x <;> rfl

/-- A list of computations fails with the first fault. -/
theorem faultOf_mapM (f : α → Except Fault β) (as : List α) :
    faultOf (as.mapM f) = as.findSome? fun a => faultOf (f a) := by
  induction as with
  | nil => rfl
  | cons a as ih =>
    rw [List.mapM_cons, faultOf_bind fun b _ => faultOf_bind_pure (as.mapM f) (b :: ·),
      List.findSome?_cons, ih]
    cases faultOf (f a) <;> rfl

end

namespace Pipeline

/-! ## What is switched on -/

/-- The pipeline is switched on and has an operator that is. -/
def works (p : Pipeline) : Bool := p.enabled && !p.active.isEmpty

/-- The pipelines that work, without their operators that are switched off. -/
def working (pipelines : List Pipeline) : List Pipeline :=
  (pipelines.filter works).map fun p => { p with operators := p.active }

theorem active_active (p : Pipeline) : active { p with operators := p.active } = p.active := by
  rw [active, active, List.filter_filter]
  exact List.filter_congr fun o _ => Bool.and_self _

/-- Operators that are switched off make no difference. -/
theorem namedStatements_active (p : Pipeline) :
    namedStatements { p with operators := p.active } = p.namedStatements := by
  rw [namedStatements, namedStatements, statements, statements, active_active]
  rfl

theorem enabled_of_works {p : Pipeline} (h : p.works = true) : p.enabled = true :=
  (Bool.and_eq_true_iff.mp h).1

theorem namedStatements_of_idle {p : Pipeline} (h : p.active = []) :
    p.namedStatements = .ok [] := by
  rw [namedStatements, statements, h]
  rfl

/-! ## One pipeline after the other -/

theorem allStatements_append (ps qs : List Pipeline) :
    allStatements (ps ++ qs) = (do return (← allStatements ps) ++ (← allStatements qs)) := by
  simp only [allStatements, List.filter_append, List.mapM_append, bind_assoc, pure_bind,
    List.flatten_append]

theorem allStatements_cons_of_enabled {p : Pipeline} (h : p.enabled = true) (ps : List Pipeline) :
    allStatements (p :: ps) = (do return (← p.namedStatements) ++ (← allStatements ps)) := by
  simp only [allStatements, List.filter_cons_of_pos h, List.mapM_cons, bind_assoc, pure_bind,
    List.flatten_cons]

/-- What does not work adds nothing. -/
theorem allStatements_cons_of_idle {p : Pipeline} (h : p.works = false) (ps : List Pipeline) :
    allStatements (p :: ps) = allStatements ps := by
  cases he : p.enabled with
  | false => rw [allStatements, List.filter_cons_of_neg (by simp [he]), ← allStatements]
  | true =>
    have hactive : p.active = [] := by simpa [works, he] using h
    rw [allStatements_cons_of_enabled he, namedStatements_of_idle hactive]
    exact bind_pure (allStatements ps)

/-- What is switched off can be taken out. -/
theorem allStatements_working (ps : List Pipeline) :
    allStatements (working ps) = allStatements ps := by
  induction ps with
  | nil => rfl
  | cons p ps ih =>
    cases h : p.works with
    | false =>
      rw [working, List.filter_cons_of_neg (by simp [h]), ← working, ih,
        allStatements_cons_of_idle h]
    | true =>
      have he := enabled_of_works h
      have htrimmed : enabled { p with operators := p.active } = true := he
      rw [working, List.filter_cons_of_pos h, List.map_cons, ← working,
        allStatements_cons_of_enabled htrimmed, ih, namedStatements_active,
        allStatements_cons_of_enabled he]

/-! ## Faults -/

/-- The first thing wrong with a pipeline: its filter comes before its operators, and these stand in
their order. -/
def fault? (p : Pipeline) : Option Fault :=
  (p.filter.bind fun filter => faultOf (Selection.ofFilter filter)).or
    (p.active.findSome? fun o => faultOf o.statements)

/-- The first pipeline that works and has a fault, with its fault. -/
def firstFault? (pipelines : List Pipeline) : Option (Pipeline × Fault) :=
  (pipelines.filter works).findSome? fun p => p.fault?.map (p, ·)

theorem faultOf_entry (p : Pipeline) :
    faultOf p.entry = p.filter.bind fun filter => faultOf (Selection.ofFilter filter) := by
  unfold entry
  cases p.filter with
  | none => rfl
  | some filter =>
    exact faultOf_bind_pure (Selection.ofFilter filter) _

theorem faultOf_namedStatements {p : Pipeline} (h : p.works = true) :
    faultOf p.namedStatements = p.fault?.map (.within ("pipeline " ++ p.title)) := by
  obtain ⟨-, hactive⟩ := Bool.and_eq_true_iff.mp h
  rw [namedStatements, faultOf_mapError]
  refine congrArg _ ?_
  unfold statements
  split
  · next hnone => simp [hnone] at hactive
  · rw [faultOf_bind fun _ _ => (faultOf_bind_pure _ _).trans (faultOf_mapM _ _), faultOf_entry,
      fault?]

/-- The fault of a list of pipelines is that of the first one that works and has a fault. -/
theorem faultOf_allStatements (ps : List Pipeline) :
    faultOf (allStatements ps) =
      (firstFault? ps).map fun (p, cause) => .within ("pipeline " ++ p.title) cause := by
  induction ps with
  | nil => rfl
  | cons p ps ih =>
    cases h : p.works with
    | false =>
      rw [allStatements_cons_of_idle h, ih, firstFault?, firstFault?,
        List.filter_cons_of_neg (by simp [h])]
    | true =>
      rw [allStatements_cons_of_enabled (enabled_of_works h),
        faultOf_bind fun a _ => faultOf_bind_pure (allStatements ps) (a ++ ·),
        faultOf_namedStatements h, ih, firstFault?, firstFault?, List.filter_cons_of_pos h,
        List.findSome?_cons]
      cases p.fault? <;> rfl

/-- A context goes in front of the text of a fault and leaves its kind. -/
theorem toError_within (context : String) (cause : Fault) :
    (Fault.within context cause).toError = cause.toError.inContext context := by
  have hkind : (Fault.within context cause).isUnsupported = cause.isUnsupported := rfl
  have htext : (Fault.within context cause).message = context ++ ": " ++ cause.message := rfl
  rw [Fault.toError, hkind, htext, Fault.toError]
  split <;> rfl

/-- Something is wrong with the filter of the pipeline, or with an operator that is switched on. -/
def Faulty (p : Pipeline) : Prop :=
  (∃ filter, p.filter = some filter ∧ ∃ cause, Selection.ofFilter filter = .error cause) ∨
    ∃ o ∈ p.operators, o.enabled = true ∧ ∃ cause, o.statements = .error cause

theorem isSome_faultOf_iff {α : Type} {x : Except Fault α} :
    (faultOf x).isSome ↔ ∃ cause, x = .error cause := by
  rw [Option.isSome_iff_exists]
  exact exists_congr fun cause => faultOf_eq_some_iff

theorem isSome_fault?_iff (p : Pipeline) : p.fault?.isSome ↔ p.Faulty := by
  rw [fault?, Option.isSome_or, Bool.or_eq_true]
  refine or_congr ?_ ?_
  · cases p.filter with
    | none => simp
    | some filter => simp [isSome_faultOf_iff]
  · simp only [List.isSome_findSome?, List.any_eq_true, isSome_faultOf_iff, active,
      List.mem_filter, and_assoc]

theorem isSome_firstFault?_iff (ps : List Pipeline) :
    (firstFault? ps).isSome ↔ ∃ p ∈ ps, p.works = true ∧ p.Faulty := by
  simp only [firstFault?, List.isSome_findSome?, List.any_eq_true, Option.isSome_map,
    isSome_fault?_iff, List.mem_filter, and_assoc]

/-- **Pipelines are read one by one.** The statements of two lists together are those of the first
and then those of the second. Taking out what is switched off, and the pipelines without an operator
that is switched on, changes neither statements nor faults. There are no statements if and only if a
pipeline that works has a faulty filter or operator; what is reported then is the fault of the first
such pipeline, with its title in front. -/
theorem allStatements_parts (ps qs : List Pipeline) :
    allStatements (ps ++ qs) = (do return (← allStatements ps) ++ (← allStatements qs)) ∧
    allStatements (working ps) = allStatements ps ∧
    ((∃ e, allStatements ps = .error e) ↔ ∃ p ∈ ps, p.works = true ∧ p.Faulty) ∧
    ∀ e, allStatements ps = .error e ↔ ∃ p cause, firstFault? ps = some (p, cause) ∧
      e = .within ("pipeline " ++ p.title) cause ∧
      e.toError = cause.toError.inContext ("pipeline " ++ p.title) := by
  refine ⟨allStatements_append ps qs, allStatements_working ps, ?_, fun e => ?_⟩
  · rw [← isSome_faultOf_iff, faultOf_allStatements, Option.isSome_map, isSome_firstFault?_iff]
  · rw [← faultOf_eq_some_iff, faultOf_allStatements, Option.map_eq_some_iff, Prod.exists]
    refine exists_congr fun p => exists_congr fun cause => and_congr_right fun _ => ?_
    constructor
    · rintro rfl
      exact ⟨rfl, toError_within _ cause⟩
    · exact fun h => h.1.symm

end Pipeline

end PanelQuery
