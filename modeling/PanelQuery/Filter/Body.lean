import PanelQuery.Filter.Test
import PanelQuery.Sql.Value

/-!
Fields nested in a JSON log body. A key `body.a.b[*]` names the path `$.a.b[*]`; anything that is
not `body` followed by well-formed segments is refused before the rest of the item is looked at.
-/

namespace PanelQuery.Body

/-- A character of a segment name. -/
def isNameChar (c : Char) : Bool := c.isAlphanum || c == '_' || c == '-' || c == '@'

/-- An index between brackets: a star, or decimal digits. -/
def isIndex (cs : List Char) : Bool := cs == ['*'] || (!cs.isEmpty && cs.all Char.isDigit)

def isSegmentName (cs : List Char) : Bool := !cs.isEmpty && cs.all isNameChar

/-- A name, with at most one index after it. -/
def isSegment (cs : List Char) : Bool :=
  match Text.splitFirst '[' cs with
  | none => isSegmentName cs
  | some (name, rest) =>
    match rest.getLast? with
    | some ']' => isSegmentName name && isIndex rest.dropLast
    | _ => false

/-- The JSON path of a key rooted at the body. -/
def path (key : String) : Except Fault String :=
  match Text.splitOnChar '.' key.toList with
  | [] => .error (.bodyPathRoot key)
  | root :: segments =>
    if root ≠ "body".toList then .error (.bodyPathRoot key)
    else if segments.isEmpty then .error (.bodyPathEmpty key)
    else match segments.find? (fun s => !isSegment s) with
      | some bad => .error (.bodyPathSegment key (String.ofList bad))
      | none => .ok (String.ofList ('$' :: segments.flatMap ('.' :: ·)))

/-- The type a typed field is extracted as; texts and untyped fields are read as they are. -/
def extractType : DataType → Option String
  | .unspecified | .scalar .string => none
  | .scalar .int64 => some "Int64"
  | .scalar .float64 => some "Float64"
  | .scalar .bool => some "Bool"
  | .array .string => some "Array(String)"
  | .array .int64 => some "Array(Int64)"
  | .array .float64 => some "Array(Float64)"
  | .array .bool => some "Array(Bool)"

/-- The expression that reads the field of type `t` at `key`. -/
def accessor (key : String) (t : DataType) : Except Fault Sql := do
  let path ← path key
  return match extractType t with
    | none => Sql.raw "JSON_VALUE(body, " ++ Sql.literal path ++ Sql.raw ")"
    | some target =>
      Sql.raw "JSONExtract(JSON_QUERY(body, " ++ Sql.literal path ++ Sql.raw "), "
        ++ [.quoted [.fixed target]] ++ Sql.raw ")"

def notIf (negated : Bool) (sql : Sql) : Sql := if negated then Sql.raw "NOT " ++ sql else sql

/-- Membership of a value in an array field. -/
def hasSql (accessor : Sql) (negated : Bool) (value : FilterValue) : Sql :=
  notIf negated (Sql.raw "has(" ++ accessor ++ Sql.raw ", " ++ value.literal ++ Sql.raw ")")

/-- Pattern match that ignores case. -/
def ilikeSql (accessor : Sql) (negated : Bool) (pattern : Sql) : Sql :=
  accessor ++ Sql.raw (if negated then " NOT ILIKE " else " ILIKE ") ++ pattern

/-- A test of a field that holds a single value. -/
def scalarCondition (item : FilterItem) (accessor : Sql) : Test → Except Fault Sql
  | .compare c v => .ok (accessor ++ Sql.raw (" " ++ c.word ++ " ") ++ v.literal)
  | .like negated v => .ok (ilikeSql accessor negated (v.pattern false))
  | .contains negated v => .ok (ilikeSql accessor negated (v.pattern true))
  | .regex negated v =>
    .ok (notIf negated
      (Sql.raw "match(" ++ accessor ++ Sql.raw ", " ++ v.pattern false ++ Sql.raw ")"))
  | .member negated items =>
    .ok (accessor ++ Sql.raw (if negated then " NOT IN " else " IN ")
      ++ (FilterValue.array items).literal)
  | .has .. => .error (.bodyScalarOperator item.op item.key.name item.key.dataType)
  | .presence negated => do
    let path ← path item.key.name
    return notIf negated (Sql.raw "JSON_EXISTS(body, " ++ Sql.literal path ++ Sql.raw ")")

/-- The condition of an item on a body field. An array field is only asked for its members. -/
def condition (item : FilterItem) : Except Fault Sql := do
  let field ← accessor item.key.name item.key.dataType
  match item.op with
  | .presence negated => scalarCondition item field (.presence negated)
  | _ =>
    if item.key.dataType.isArray then
      match item.op with
      | .has negated => return hasSql field negated (← item.valueAs item.key.dataType.element)
      | _ => .error (.bodyArrayOperator item.op item.key.name)
    else scalarCondition item field (← item.test)

end PanelQuery.Body
