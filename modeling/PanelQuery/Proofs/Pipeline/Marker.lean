import PanelQuery.Pipeline.Processor
import PanelQuery.Proofs.Agree
import PanelQuery.Proofs.Pipeline.Record

/-! # Pipelines take the records that their filters select at the beginning

The statements of a pipeline mark the records that the filter selects, run on marked records only,
and take the mark off. So the filter is asked once, before the operators change anything, and the
next pipeline finds records without a mark. -/

namespace PanelQuery.Pipeline

/-! ## Written conditions -/

theorem join_ne_empty {sep part : String} (h : part ≠ "") (parts : List String) :
    Text.join sep (part :: parts) ≠ "" := by
  cases parts with
  | nil => exact h
  | cons next parts =>
    rw [Text.join]
    · simp [String.append_eq_empty_iff, h]
    · exact List.cons_ne_nil _ _

theorem Clause.written_ne_empty (c : Clause) : c.written ≠ "" := by
  cases c with
  | compare path c value => simp [written, String.append_eq_empty_iff]
  | matching path negated pattern => simp [written, String.append_eq_empty_iff]
  | presence path negated => cases negated <;> simp [written, String.append_eq_empty_iff]

/-- Only a selection of everything is not written. -/
theorem Selection.written_eq_empty_iff (s : Selection) : s.written = "" ↔ s.clauses = [] := by
  obtain ⟨op, clauses⟩ := s
  cases clauses with
  | nil => exact iff_of_true rfl rfl
  | cons c clauses =>
    refine iff_of_false ?_ (List.cons_ne_nil _ _)
    cases op with
    | and => exact join_ne_empty c.written_ne_empty _
    | or => simp [written, String.append_eq_empty_iff]

theorem Condition.written_marked_ne_empty (name : String) : (marked name).written ≠ "" := by
  simp [written, String.append_eq_empty_iff]

theorem Statement.wheres_onMarked (s : Statement) (name : String) :
    (s.onMarked name).wheres = .marked name :: s.wheres :=
  List.filter_cons_of_pos (decide_eq_true (Condition.written_marked_ne_empty name))

/-! ## Marked statements -/

namespace Interpretation

variable {V : Type} [DecidableEq V] {m : Interpretation V} {s : Statement}
  {statements : List Statement} {r : Record V}

theorem holds_marked (r : Record V) (name : String) :
    m.holds (r.put markerPath (m.text name)) (.marked name) = true := by
  rw [holds, Record.put_same, beq_self_eq_true]

/-- On a marked record the statement does what it does by itself. -/
theorem step_onMarked (h : m.Unaware s) (r : Record V) (name : String) :
    m.step (r.put markerPath (m.text name)) (s.onMarked name) =
      (m.step r s).put markerPath (m.text name) := by
  have hwheres := h.wheres (r.sameButMarker_put (m.text name))
  rw [step, Statement.wheres_onMarked, List.all_cons, holds_marked, Bool.true_and, ← hwheres, step]
  split
  · exact h.perform_put r _
  · rfl

/-- On a record without a mark it does nothing. -/
theorem step_onMarked_of_none (h : r markerPath = none) (s : Statement) (name : String) :
    m.step r (s.onMarked name) = r := by
  have hmarked : m.holds r (.marked name) = false := by
    rw [holds, h]
    rfl
  rw [step, Statement.wheres_onMarked, List.all_cons, hmarked, Bool.false_and,
    if_neg Bool.false_ne_true]

theorem run_onMarked (h : ∀ s ∈ statements, m.Unaware s) (r : Record V) (name : String) :
    m.run (statements.map (Statement.onMarked name)) (r.put markerPath (m.text name)) =
      (m.run statements r).put markerPath (m.text name) := by
  induction statements generalizing r with
  | nil => rfl
  | cons s statements ih =>
    rw [List.forall_mem_cons] at h
    rw [List.map_cons, run_cons, step_onMarked h.1, ih h.2, run_cons]

theorem run_onMarked_of_none (h : r markerPath = none) (statements : List Statement)
    (name : String) : m.run (statements.map (Statement.onMarked name)) r = r := by
  induction statements with
  | nil => rfl
  | cons s statements ih => rw [List.map_cons, run_cons, step_onMarked_of_none h, ih]

end Interpretation

/-! ## What a pipeline is for -/

/-- All statements of the operators that are switched on, in order. -/
def inner (p : Pipeline) : List Statement :=
  p.active.flatMap fun o => o.statements.toOption.getD []

theorem inner_eq {p : Pipeline} {lists : List (List Statement)}
    (h : p.active.mapM PipelineOperator.statements = .ok lists) : p.inner = lists.flatten := by
  rw [inner, List.flatMap]
  refine congrArg List.flatten ?_
  rw [← List.forall₂_eq_eq_eq, List.forall₂_map_left_iff]
  refine (mapM_ok_iff.mp h).imp fun o statements ho => ?_
  rw [ho]
  rfl

namespace Interpretation

variable {V : Type} [DecidableEq V] (m : Interpretation V)

/-- An item of a filter holds for a record. -/
def accepts (item : FilterItem) (r : Record V) : Bool :=
  match Clause.ofItem item with
  | .ok clause => m.test clause r
  | .error _ => false

/-- The filter of a pipeline holds for a record: all of its items or one of them, as its connective
asks. Without items it holds for every record. -/
def admits (p : Pipeline) (r : Record V) : Bool :=
  match p.filter with
  | none => true
  | some ⟨_, []⟩ => true
  | some ⟨.and, items⟩ => items.all (m.accepts · r)
  | some ⟨.or, items⟩ => items.any (m.accepts · r)

/-- A pipeline as it is drawn up: its operators work on the record if its filter holds to begin
with. -/
def apply (r : Record V) (p : Pipeline) : Record V :=
  if m.admits p r then m.run p.inner r else r

/-- The pipelines that are switched on and have an operator that is, one after the other. -/
def applyAll (pipelines : List Pipeline) (r : Record V) : Record V :=
  (pipelines.filter fun p => p.enabled && !p.active.isEmpty).foldl m.apply r

variable {m} {p : Pipeline} {r : Record V}

/-! ## One pipeline -/

omit [DecidableEq V] in
theorem all_accepts {items : List FilterItem} {clauses : List Clause}
    (h : List.Forall₂ (fun item c => Clause.ofItem item = .ok c) items clauses) (r : Record V) :
    items.all (m.accepts · r) = clauses.all (m.test · r) ∧
      items.any (m.accepts · r) = clauses.any (m.test · r) := by
  induction h with
  | nil => exact ⟨rfl, rfl⟩
  | @cons item c items clauses hc _ ih =>
    have haccepts : m.accepts item r = m.test c r := by rw [accepts, hc]
    exact ⟨by rw [List.all_cons, List.all_cons, haccepts, ih.1],
      by rw [List.any_cons, List.any_cons, haccepts, ih.2]⟩

theorem all_wheres_selected (editor : Editor) (s : Selection) (r : Record V) :
    (Statement.mk editor [.selected s]).wheres.all (m.holds r) =
      (s.clauses.isEmpty || m.selects s r) := by
  cases hc : s.clauses with
  | nil =>
    have hwritten : (Condition.selected s).written = "" := s.written_eq_empty_iff.mpr hc
    rw [Statement.wheres, List.filter_cons_of_neg (by simp [hwritten])]
    rfl
  | cons c clauses =>
    have hwritten : (Condition.selected s).written ≠ "" := by
      refine s.written_eq_empty_iff.not.mpr ?_
      rw [hc]
      exact List.cons_ne_nil _ _
    rw [Statement.wheres, List.filter_cons_of_pos (by simp [hwritten])]
    exact Bool.and_true _

/-- What stands after WHERE in the first statement of a pipeline is its filter. -/
theorem all_wheres_entry {conditions : List Condition} (h : p.entry = .ok conditions)
    (editor : Editor) (r : Record V) :
    (Statement.mk editor conditions).wheres.all (m.holds r) = m.admits p r := by
  unfold entry at h
  rw [admits]
  cases hf : p.filter with
  | none =>
    rw [hf] at h
    cases h
    rfl
  | some filter =>
    rw [hf] at h
    obtain ⟨selection, hs, h⟩ := ok_of_bind h
    cases h
    obtain ⟨clauses, hc, hs⟩ := ok_of_bind hs
    cases hs
    have hclauses := mapM_ok_iff.mp hc
    obtain ⟨hall, hany⟩ := all_accepts (m := m) hclauses r
    obtain ⟨op, items⟩ := filter
    rw [all_wheres_selected]
    cases hclauses with
    | nil => rfl
    | cons =>
      cases op with
      | and => exact hall.symm
      | or => exact hany.symm

/-- A record is marked if the filter holds. -/
theorem step_mark {conditions : List Condition} (h : p.entry = .ok conditions) (r : Record V)
    (name : String) : m.step r ⟨.mark name, conditions⟩ =
      if m.admits p r then r.put markerPath (m.text name) else r := by
  rw [step, all_wheres_entry h]
  rfl

/-- At the end of a pipeline the mark is taken off. -/
theorem step_unmark (r : Record V) (name : String) :
    m.step (r.put markerPath (m.text name)) ⟨.unmark, [.marked name]⟩ = r.erase markerPath := by
  have hwheres : (Statement.mk .unmark [.marked name]).wheres = [.marked name] :=
    Statement.wheres_onMarked ⟨.unmark, []⟩ name
  rw [step, hwheres, List.all_cons, holds_marked, List.all_nil, Bool.and_true, if_pos rfl]
  exact r.erase_put markerPath _

/-- The statements of a pipeline do what it is drawn up for. -/
theorem run_statements {statements : List Statement} (h : p.statements = .ok statements)
    (hun : ∀ s ∈ p.inner, m.Unaware s) (hr : r markerPath = none) :
    m.run statements r = if p.active.isEmpty then r else m.apply r p := by
  unfold Pipeline.statements at h
  split at h
  · next hactive =>
    cases h
    rw [hactive]
    rfl
  next hactive =>
    obtain ⟨conditions, hentry, h⟩ := ok_of_bind h
    obtain ⟨lists, hlists, h⟩ := ok_of_bind h
    cases h
    have hsome : p.active.isEmpty = false := List.isEmpty_eq_false_iff.mpr hactive
    rw [← inner_eq hlists, run_append, run_cons _ ⟨.mark p.marker, conditions⟩, step_mark hentry,
      hsome, if_neg Bool.false_ne_true, apply]
    split
    · rw [run_onMarked hun, run_cons, step_unmark, run_nil]
      exact Record.erase_of_none ((run_marker hun r).trans hr)
    · rw [run_onMarked_of_none hr]
      exact step_onMarked_of_none hr ⟨.unmark, []⟩ p.marker

theorem apply_marker (hun : ∀ s ∈ p.inner, m.Unaware s) (r : Record V) :
    m.apply r p markerPath = r markerPath := by
  unfold apply
  split
  · exact run_marker hun r
  · rfl

/-! ## All pipelines -/

/-- Pipelines one after the other. No mark is left between two of them. -/
theorem run_flatten {pipelines : List Pipeline} {lists : List (List Statement)}
    (h : List.Forall₂ (fun p statements => namedStatements p = .ok statements) pipelines lists)
    (hun : ∀ p ∈ pipelines, ∀ s ∈ p.inner, m.Unaware s) (hr : r markerPath = none) :
    m.run lists.flatten r = (pipelines.filter fun p => !p.active.isEmpty).foldl m.apply r ∧
      m.run lists.flatten r markerPath = none := by
  induction h generalizing r with
  | nil => exact ⟨rfl, hr⟩
  | @cons p statements pipelines lists hp _ ih =>
    rw [List.forall_mem_cons] at hun
    have hrun := run_statements (mapError_ok hp) hun.1 hr
    rw [List.flatten_cons, run_append, hrun]
    cases hactive : p.active.isEmpty with
    | true =>
      rw [if_pos rfl, List.filter_cons_of_neg (by simp [hactive])]
      exact ih hun.2 hr
    | false =>
      rw [if_neg Bool.false_ne_true, List.filter_cons_of_pos (by simp [hactive]), List.foldl_cons]
      exact ih hun.2 ((apply_marker hun.1 r).trans hr)

/-- **Pipelines work on the records they select.** Let no statement of an operator that is switched
on read or write the marker. On a record without a mark, the statements of all pipelines do together
what the pipelines are drawn up for: one after the other, each runs all its operators if its filter
holds at its beginning, whatever they change, and does nothing else. At the end the record has no
mark. Two pipelines may have one marker. What a statement runs by is what it is written with: its
editor, and after WHERE the conditions that are asked. -/
theorem run_allStatements {pipelines : List Pipeline} {statements : List Statement}
    (h : allStatements pipelines = .ok statements)
    (hun : ∀ p ∈ pipelines, p.enabled = true → ∀ s ∈ p.inner, m.Unaware s)
    (hr : r markerPath = none) :
    m.run statements r = m.applyAll pipelines r ∧ m.run statements r markerPath = none ∧
      ∀ s ∈ statements, s.written = s.editor.writtenWhere s.wheres := by
  obtain ⟨lists, hlists, h⟩ := ok_of_bind h
  cases h
  have hunaware : ∀ p ∈ pipelines.filter (·.enabled), ∀ s ∈ p.inner, m.Unaware s := fun p hp =>
    hun p (List.mem_filter.mp hp).1 (List.mem_filter.mp hp).2
  have hfilter : (pipelines.filter fun p => p.enabled && !p.active.isEmpty) =
      (pipelines.filter (·.enabled)).filter fun p => !p.active.isEmpty := by
    rw [List.filter_filter]
    exact List.filter_congr fun p _ => Bool.and_comm ..
  obtain ⟨hrun, hmarker⟩ := run_flatten (mapM_ok_iff.mp hlists) hunaware hr
  rw [applyAll, hfilter]
  exact ⟨hrun, hmarker, fun s _ => s.written_eq⟩

/-- A reading of records of texts. A copy of nothing leaves the target alone, and of comparisons
only those with a text are looked at. -/
def ofText : Interpretation String where
  text s := s
  edit
    | .assign field value, r => r.put (path field) value
    | .copy source target, r => (r (path source)).elim r (r.put (path target))
    | .delete target key, r => r.erase (target ++ "[" ++ key ++ "]")
    | _, r => r
  test
    | .compare path .eq (.text s), r => r path == some s
    | .compare path .ne (.text s), r => r path != some s
    | .presence path negated, r => (r path).isSome != negated
    | _, _ => false
  present path r := (r path).isSome

theorem unaware_assign {field : String} (h : path field ≠ markerPath) (value : String) :
    ofText.Unaware ⟨.assign field value, []⟩ where
  keeps r := r.put_of_ne h.symm value
  editor hr := hr.update (path field) (some value)
  conditions := by simp

theorem unaware_delete {target key path : String} (h : target ++ "[" ++ key ++ "]" ≠ markerPath)
    (hpath : path ≠ markerPath) : ofText.Unaware ⟨.delete target key, [.present path]⟩ where
  keeps _ := Function.update_of_ne h.symm ..
  editor hr := hr.update _ none
  conditions := by
    intro c hc r r' hr
    cases List.mem_singleton.mp hc
    exact congrArg Option.isSome (hr path hpath)

/-- A pipeline for the records of one level. -/
def forLevel (level : String) (operators : List PipelineOperator) : Pipeline where
  id := "1"
  title := "level"
  enabled := true
  filter := some ⟨.and, [⟨{ name := "level", kind := .tag }, .compare .eq, .text level⟩]⟩
  operators := operators

/-- The first pipeline raises the level that it asks for and goes on; the second, with the marker of
the first, then drops the new level. -/
theorem run_allStatements_raised :
    let pipelines :=
      [forLevel "warn"
        [{ kind := "add", enabled := true, field := "attributes.level", value := "error" },
         { kind := "add", enabled := true, field := "attributes.raised", value := "yes" }],
       forLevel "error" [{ kind := "remove", enabled := true, field := "attributes.level" }]]
    let r : Record String := Record.put (fun _ => none) (path "attributes.level") "warn"
    ∃ statements, allStatements pipelines = .ok statements ∧
      (∀ p ∈ pipelines, p.enabled = true → ∀ s ∈ p.inner, ofText.Unaware s) ∧
      r markerPath = none ∧
      ofText.run statements r = ofText.applyAll pipelines r ∧
      ofText.run statements r markerPath = none ∧
      ofText.run statements r (path "attributes.level") = none ∧
      ofText.run statements r (path "attributes.raised") = some "yes" := by
  intro pipelines r
  have hun : ∀ p ∈ pipelines, p.enabled = true → ∀ s ∈ p.inner, ofText.Unaware s := by
    have hlevel : path "attributes.level" ≠ markerPath := by decide +kernel
    have hraised : path "attributes.raised" ≠ markerPath := by decide +kernel
    have hdelete : "attributes" ++ "[" ++ "\"level\"" ++ "]" ≠ markerPath := by decide +kernel
    refine List.forall_mem_cons.mpr ⟨fun _ => ?_, List.forall_mem_singleton.mpr fun _ => ?_⟩
    · refine List.forall_mem_cons.mpr ⟨unaware_assign hlevel _, ?_⟩
      exact List.forall_mem_singleton.mpr (unaware_assign hraised _)
    · exact List.forall_mem_singleton.mpr (unaware_delete hdelete hlevel)
  have hr : r markerPath = none := by decide +kernel
  obtain ⟨statements, h⟩ : ∃ statements, allStatements pipelines = .ok statements := ⟨_, rfl⟩
  obtain ⟨hrun, hmarker, -⟩ := run_allStatements h hun hr
  refine ⟨statements, h, hun, hr, hrun, hmarker, ?_, ?_⟩
  · rw [hrun]
    decide +kernel
  · rw [hrun]
    decide +kernel

end Interpretation

end PanelQuery.Pipeline
