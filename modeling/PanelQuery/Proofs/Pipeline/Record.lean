import Mathlib.Logic.Function.Basic
import PanelQuery.Pipeline.Statement

/-! # Statements at work on a record

A record has values at paths. A statement performs its editor if all conditions that it is written
with hold for the record as it stands. What the editors and clauses of operators and filters do is
left open; only the marker is spelt out. -/

namespace PanelQuery.Pipeline

/-- The values of a log record by path. -/
abbrev Record (V : Type) := String → Option V

namespace Record

variable {V : Type}

def put (r : Record V) (path : String) (value : V) : Record V :=
  Function.update r path (some value)

def erase (r : Record V) (path : String) : Record V := Function.update r path none

/-- Two records that may differ in the marker, and in nothing else. -/
def SameButMarker (r r' : Record V) : Prop := ∀ path ≠ markerPath, r path = r' path

theorem put_same (r : Record V) (path : String) (value : V) : r.put path value path = some value :=
  Function.update_self ..

theorem put_of_ne (r : Record V) {path other : String} (h : other ≠ path) (value : V) :
    r.put path value other = r other := Function.update_of_ne h ..

theorem erase_put (r : Record V) (path : String) (value : V) :
    (r.put path value).erase path = r.erase path := Function.update_idem ..

/-- Nothing is erased where there is nothing. -/
theorem erase_of_none {r : Record V} {path : String} (h : r path = none) : r.erase path = r :=
  Function.update_eq_self_iff.mpr h.symm

theorem sameButMarker_put (r : Record V) (value : V) :
    r.SameButMarker (r.put markerPath value) := fun _ h => (r.put_of_ne h value).symm

variable {r r' : Record V}

/-- An update with one value keeps them so. -/
theorem SameButMarker.update (h : r.SameButMarker r') (path : String) (value : Option V) :
    SameButMarker (Function.update r path value) (Function.update r' path value) := by
  intro other ho
  by_cases hp : other = path
  · rw [hp, Function.update_self, Function.update_self]
  · rw [Function.update_of_ne hp, Function.update_of_ne hp, h other ho]

/-- With one marker in both, such records are equal. -/
theorem SameButMarker.eq (h : r.SameButMarker r') (hm : r markerPath = r' markerPath) :
    r = r' := by
  funext path
  by_cases hp : path = markerPath
  · rw [hp, hm]
  · exact h path hp

end Record

/-- What literals, the editors of operators and the clauses of filters mean to the collector. -/
structure Interpretation (V : Type) where
  text : String → V
  edit : Editor → Record V → Record V
  test : Clause → Record V → Bool
  present : String → Record V → Bool

/-- The conditions that a statement is written with. -/
def Statement.wheres (s : Statement) : List Condition := s.conditions.filter (·.written ≠ "")

/-- The text of an editor with conditions, all of which stand after WHERE. -/
def Editor.writtenWhere (e : Editor) (conditions : List Condition) : String :=
  match conditions.map Condition.written with
  | [] => e.written
  | texts => e.written ++ " where " ++ Text.join " and " texts

/-- They are what stands after WHERE. -/
theorem Statement.written_eq (s : Statement) : s.written = s.editor.writtenWhere s.wheres := by
  have hwheres : s.wheres.map Condition.written =
      (s.conditions.map Condition.written).filter (· ≠ "") := by
    rw [List.filter_map]
    rfl
  rw [Editor.writtenWhere, hwheres]
  rfl

namespace Interpretation

variable {V : Type} [DecidableEq V] (m : Interpretation V)

/-- The effect of an editor. -/
def perform : Editor → Record V → Record V
  | .mark name, r => r.put markerPath (m.text name)
  | .unmark, r => r.erase markerPath
  | e, r => m.edit e r

/-- All clauses of a selection hold, or one of them. -/
def selects (s : Selection) (r : Record V) : Bool :=
  match s.op with
  | .and => s.clauses.all (m.test · r)
  | .or => s.clauses.any (m.test · r)

def holds (r : Record V) : Condition → Bool
  | .marked name => r markerPath == some (m.text name)
  | .selected s => m.selects s r
  | .present path => m.present path r

/-- One statement. -/
def step (r : Record V) (s : Statement) : Record V :=
  if s.wheres.all (m.holds r) then m.perform s.editor r else r

/-- Statements one after the other. -/
def run (statements : List Statement) (r : Record V) : Record V := statements.foldl m.step r

theorem run_nil (r : Record V) : m.run [] r = r := rfl

theorem run_cons (s : Statement) (statements : List Statement) (r : Record V) :
    m.run (s :: statements) r = m.run statements (m.step r s) := rfl

theorem run_append (first rest : List Statement) (r : Record V) :
    m.run (first ++ rest) r = m.run rest (m.run first r) := List.foldl_append

/-- The statement neither reads the marker nor writes it. -/
structure Unaware (s : Statement) : Prop where
  keeps : ∀ r, m.perform s.editor r markerPath = r markerPath
  editor : ∀ {r r' : Record V}, r.SameButMarker r' →
    (m.perform s.editor r).SameButMarker (m.perform s.editor r')
  conditions : ∀ c ∈ s.conditions, ∀ {r r' : Record V}, r.SameButMarker r' →
    m.holds r c = m.holds r' c

variable {m} {s : Statement} {statements : List Statement}

namespace Unaware

theorem wheres (h : m.Unaware s) {r r' : Record V} (hr : r.SameButMarker r') :
    s.wheres.all (m.holds r) = s.wheres.all (m.holds r') := by
  rw [Bool.eq_iff_iff, List.all_eq_true, List.all_eq_true]
  refine forall₂_congr fun c hc => ?_
  rw [h.conditions c (List.mem_filter.mp hc).1 hr]

/-- Marking commutes with such an editor. -/
theorem perform_put (h : m.Unaware s) (r : Record V) (value : V) :
    m.perform s.editor (r.put markerPath value) = (m.perform s.editor r).put markerPath value := by
  have hsame := h.editor (r.sameButMarker_put value)
  refine Record.SameButMarker.eq (fun path hp => ?_) ?_
  · rw [Record.put_of_ne _ hp, hsame path hp]
  · rw [h.keeps, Record.put_same, Record.put_same]

theorem step_marker (h : m.Unaware s) (r : Record V) : m.step r s markerPath = r markerPath := by
  unfold step
  split
  · exact h.keeps r
  · rfl

end Unaware

theorem run_marker (h : ∀ s ∈ statements, m.Unaware s) (r : Record V) :
    m.run statements r markerPath = r markerPath := by
  induction statements generalizing r with
  | nil => rfl
  | cons s statements ih =>
    rw [List.forall_mem_cons] at h
    rw [run_cons, ih h.2, h.1.step_marker]

end Interpretation

end PanelQuery.Pipeline
