import PanelQuery.Pipeline.Selection

/-!
Statements of the transform language: an editor that runs on a record if every condition holds.
The marker is an attribute that tags the records of the pipeline at work.
-/

namespace PanelQuery.Pipeline

/-- The attribute that holds the marker. -/
def markerAttribute : String := "__matched-log-pipeline__"

/-- What a statement does to a record. -/
inductive Editor where
  | mark (name : String)
  | unmark
  | assign (field value : String)
  | copy (source target : String)
  | delete (target key : String)

/-- When a statement runs. -/
inductive Condition where
  | marked (name : String)
  | selected (s : Selection)
  | present (path : String)

structure Statement where
  editor : Editor
  conditions : List Condition := []

def markerPath : String := "attributes" ++ index markerAttribute

def Editor.written : Editor → String
  | .mark name => "set(" ++ markerPath ++ ", " ++ quote name ++ ")"
  | .unmark => "delete_key(attributes, " ++ quote markerAttribute ++ ")"
  | .assign field value => "set(" ++ path field ++ ", " ++ quote value ++ ")"
  | .copy source target => "set(" ++ path target ++ ", " ++ path source ++ ")"
  | .delete target key => "delete_key(" ++ target ++ ", " ++ key ++ ")"

/-- A condition as text; one that always holds is empty. -/
def Condition.written : Condition → String
  | .marked name => markerPath ++ " == " ++ quote name
  | .selected s => s.written
  | .present path => path ++ " != nil"

def Statement.written (s : Statement) : String :=
  match (s.conditions.map Condition.written).filter (· ≠ "") with
  | [] => s.editor.written
  | conditions => s.editor.written ++ " where " ++ Text.join " and " conditions

end PanelQuery.Pipeline
