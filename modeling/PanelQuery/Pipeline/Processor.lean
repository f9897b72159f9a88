import PanelQuery.Json.Value
import PanelQuery.Pipeline.Basic
import PanelQuery.Pipeline.Statement

/-!
Pipelines as one processor of the collector. Every pipeline first marks the records it selects, its
operators then run on marked records only, and the mark is taken off at the end: an operator that
changes a field of the filter does not cut its own pipeline short.
-/

namespace PanelQuery

/-- The deletion of a field that is there. -/
def PipelineOperator.deletion (field : String) : Except Fault Pipeline.Statement :=
  let path := Pipeline.path field
  match Pipeline.cut? path with
  | some (target, key) => .ok ⟨.delete target key, [.present path]⟩
  | none => .error (.fieldNotDeletable field)

/-- The statements of an operator, without the test of the mark. -/
def PipelineOperator.statements (o : PipelineOperator) : Except Fault (List Pipeline.Statement) :=
  match o.kind with
  | "add" => .ok [⟨.assign o.field o.value, []⟩]
  | "remove" => do return [← deletion o.field]
  | "copy" => .ok [⟨.copy o.source o.target, []⟩]
  | "move" => do return [⟨.copy o.source o.target, []⟩, ← deletion o.source]
  | kind => .error (.pipelineOperator kind)

namespace Pipeline

/-- The statement runs on records marked with `name` only. -/
def Statement.onMarked (name : String) (s : Statement) : Statement :=
  { s with conditions := .marked name :: s.conditions }

/-- The conditions under which a record is marked. -/
def entry (p : Pipeline) : Except Fault (List Condition) :=
  match p.filter with
  | none => .ok []
  | some filter => do return [.selected (← Selection.ofFilter filter)]

/-- The statements of a pipeline; none if no operator is switched on. -/
def statements (p : Pipeline) : Except Fault (List Statement) :=
  match p.active with
  | [] => .ok []
  | operators => do
    let conditions ← p.entry
    let inner ← operators.mapM PipelineOperator.statements
    return ⟨.mark p.marker, conditions⟩ :: inner.flatten.map (Statement.onMarked p.marker)
      ++ [⟨.unmark, [.marked p.marker]⟩]

/-- A fault of a pipeline tells its title. -/
def namedStatements (p : Pipeline) : Except Fault (List Statement) :=
  p.statements.mapError (.within ("pipeline " ++ p.title))

/-- The statements of all pipelines that are switched on, in order. -/
def allStatements (pipelines : List Pipeline) : Except Fault (List Statement) := do
  return (← (pipelines.filter (·.enabled)).mapM namedStatements).flatten

end Pipeline

/-! ## The collector's configuration -/

/-- The name of the processor. -/
def processorName : String := "signoztransform/logs-pipelines"

/-- The processors for given statements: none without statements, else one. -/
def processorsJson (statements : List Pipeline.Statement) : Json :=
  match statements with
  | [] => .obj [("names", .arr []), ("processors", .obj [])]
  | statements => .obj
    [("names", .arr [.str processorName]),
     ("processors", .obj [(processorName, .obj
       [("error_mode", .str "ignore"),
        ("log_statements", .arr [.obj
          [("context", .str "log"),
           ("statements", .arr (statements.map fun s => .str s.written))]])])])]

end PanelQuery
