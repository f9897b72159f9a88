import PanelQuery.Error
import PanelQuery.Pipeline.Path

/-!
Which records a pipeline applies to. A filter set becomes clauses on paths under the connective of
the set; only then is it written down. Lists have no counterpart in the transform language, and
neither have patterns of the `like` kind.
-/

namespace PanelQuery.Pipeline

/-- A literal of the transform language. -/
inductive Literal where
  | nil
  | bare (text : String)
  | text (s : String)

/-- One test of a record. -/
inductive Clause where
  | compare (path : String) (c : Comparison) (value : Literal)
  | matching (path : String) (negated : Bool) (pattern : String)
  | presence (path : String) (negated : Bool)

structure Selection where
  op : Connective
  clauses : List Clause

/-! ## From filters -/

/-- The path of a key. -/
def keyPath (key : AttributeKey) : String :=
  match key.kind with
  | .tag => "attributes" ++ index key.name
  | .resource => "resource.attributes" ++ index key.name
  | .unspecified => key.name

def Literal.ofValue : FilterValue → Except Fault Literal
  | .null => .ok .nil
  | .text s => .ok (.text s)
  | .array _ => .error .pipelineArrayValue
  | v => .ok (.bare v.plain)

/-- The characters with a meaning of their own in a regular expression. -/
def metaChars : List Char :=
  ['\\', '.', '+', '*', '?', '(', ')', '|', '[', ']', '\x7b', '\x7d', '^', '$']

/-- A regular expression for exactly the text `s`. -/
def verbatim (s : String) : String :=
  String.ofList (s.toList.flatMap fun c => if metaChars.contains c then ['\\', c] else [c])

def Clause.ofItem (item : FilterItem) : Except Fault Clause :=
  let path := keyPath item.key
  match item.op with
  | .compare c => do return .compare path c (← Literal.ofValue item.value)
  | .regex negated => .ok (.matching path negated item.value.plain)
  | .contains negated => .ok (.matching path negated (verbatim item.value.plain))
  | .presence negated => .ok (.presence path negated)
  | op => .error (.pipelineFilterOperator op)

def Selection.ofFilter (filter : FilterSet) : Except Fault Selection := do
  return ⟨filter.op, ← filter.items.mapM Clause.ofItem⟩

/-! ## Writing -/

def Literal.written : Literal → String
  | .nil => "nil"
  | .bare word => word
  | .text s => quote s

/-- The sign of a comparison; equality is doubled. -/
def sign (c : Comparison) : String := if c = .eq then "==" else c.word

def Clause.written : Clause → String
  | .compare path c value => path ++ " " ++ sign c ++ " " ++ value.written
  | .matching path negated pattern =>
    path ++ " != nil and " ++ (if negated then "not " else "") ++ "IsMatch(" ++ path ++ ", "
      ++ quote pattern ++ ")"
  | .presence path negated => path ++ (if negated then " == nil" else " != nil")

/-- The whole condition; nothing for a selection of everything. Alternatives are set in
parentheses one by one and together, because a clause may itself be a conjunction. -/
def Selection.written (s : Selection) : String :=
  match s.clauses, s.op with
  | [], _ => ""
  | clauses, .and => Text.join " and " (clauses.map Clause.written)
  | clauses, .or =>
    "(" ++ Text.join " or " (clauses.map fun c => "(" ++ c.written ++ ")") ++ ")"

end PanelQuery.Pipeline
