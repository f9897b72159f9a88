import PanelQuery.Query.Filter
import PanelQuery.Sql.Piece

/-!
Filter values as literals: texts are quoted, doubles have six places, arrays stand in brackets.
`patternText` is the text a value contributes to a pattern.
-/

namespace PanelQuery.FilterValue

mutual

/-- The literal of a value. -/
def literal : FilterValue → Sql
  | .null => Sql.raw "NULL"
  | .bool b => Sql.raw (ofBool b)
  | .int n => [.int n.toInt]
  | .float x => [.float x]
  | .text s => Sql.literal s
  | .array items => Sql.raw "[" ++ itemLiterals items ++ Sql.raw "]"

def itemLiterals : List FilterValue → Sql
  | [] => []
  | [item] => item.literal
  | item :: items => item.literal ++ Sql.raw "," ++ itemLiterals items

end

/-- The value's plain text as a pattern, between per-cent signs if `anywhere`. -/
def pattern (v : FilterValue) (anywhere : Bool) : Sql :=
  if anywhere then [.quoted [.fixed "%", .given v.plain, .fixed "%"]]
  else [.quoted [.given v.plain]]

/-- Several values in parentheses, as one group of a Top-N panel. -/
def tuple (values : List FilterValue) : Sql := Sql.parens (Sql.join "," (values.map literal))

end PanelQuery.FilterValue
