import PanelQuery.Text.Blank

/-!
Places in a log record as the transform language writes them. A field is given with dots, and the
parts below `attributes` and `resource` become quoted indices. A deletion names the place above the
field and its key apart: the written path is cut at its last opening bracket.
-/

namespace PanelQuery.Pipeline

/-! ## Quoted text -/

/-- A character inside a double-quoted literal. -/
def escapeChar (c : Char) : List Char :=
  if c = '\\' then ['\\', '\\'] else if c = '"' then ['\\', '"'] else [c]

/-- `s` as it stands inside a double-quoted literal. -/
def escape (s : String) : String := String.ofList (s.toList.flatMap escapeChar)

/-- `s` as a double-quoted literal. -/
def quote (s : String) : String := "\"" ++ escape s ++ "\""

/-! ## Paths -/

/-- One step down a map. -/
def index (key : String) : String := "[" ++ quote key ++ "]"

/-- The map that the first part of a field stands for. -/
def root? (part : String) : Option String :=
  if part = "attributes" then some "attributes"
  else if part = "resource" then some "resource.attributes"
  else none

/-- The path of a field; one that lies in no map is its own path. -/
def path (field : String) : String :=
  match (Text.splitOnChar '.' field.toList).map String.ofList with
  | [] => field
  | first :: keys =>
    match root? first with
    | some root => keys.foldl (fun written key => written ++ index key) root
    | none => field

/-- The place above a written path and the key below it, without closing brackets. -/
def cut? (written : String) : Option (String × String) :=
  match Text.splitLast '[' written.toList with
  | none => none
  | some ([], _) => none
  | some (target, key) =>
    some (String.ofList target,
      String.ofList (key.reverse.dropWhile (· == ']')).reverse)

example : path "attributes.a.b\"" = "attributes[\"a\"][\"b\\\"\"]" := by decide +kernel
example : cut? (path "resource.host") = some ("resource.attributes", "\"host\"") := by
  decide +kernel

end PanelQuery.Pipeline
