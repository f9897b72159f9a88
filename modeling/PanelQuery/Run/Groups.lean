import PanelQuery.Decimal.Numeral
import PanelQuery.Error
import PanelQuery.Json.Value
import PanelQuery.Sql.Value

/-!
The groups that the first pass of a Top-N panel found, as the list of tuples that fills the hole of
the second pass.
-/

namespace PanelQuery

/-- A row of a result: its columns by name. -/
abbrev Row := List (String × Json)

mutual

/-- The value in a cell. An object counts as its JSON text, and an integer beyond a signed word as a
double. -/
def FilterValue.ofCell : Json → FilterValue
  | .null => .null
  | .bool b => .bool b
  | .int n => match Decimal.int64Of? n with
    | some word => .int word
    | none => .float (Decimal.floatOfInt n)
  | .float x => .float x
  | .str s => .text s
  | .arr items => .array (FilterValue.ofCells items)
  | .obj members => .text (Json.obj members).sorted.render

def FilterValue.ofCells : List Json → List FilterValue
  | [] => []
  | cell :: cells => .ofCell cell :: FilterValue.ofCells cells

end

/-- The group that a row names. -/
def groupTuple (groupBy : List AttributeKey) (row : Row) : Except ServiceError Sql := do
  let values ← groupBy.mapM fun key => match row.lookup key.name with
    | some cell => .ok (FilterValue.ofCell cell)
    | none => .error (.internal ("top-n row is missing group column " ++ key.name))
  return FilterValue.tuple values

/-- The groups of all rows, in order. -/
def groupTuples (groupBy : List AttributeKey) (rows : List Row) : Except ServiceError String := do
  return (Sql.join "," (← rows.mapM (groupTuple groupBy))).text

end PanelQuery
