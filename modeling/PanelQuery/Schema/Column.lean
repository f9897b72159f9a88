import PanelQuery.Sql.Piece

/-!
Physical columns and the predicates that tell whether a field is present in a row.
-/

namespace PanelQuery

/-- What a key reads: a column by its name, a column whose name is always quoted, or an entry of a
map column. -/
inductive Column where
  | named (name : String)
  | materialized (name : String)
  | entry (map key : String)
  deriving DecidableEq, Repr

namespace Column

def sql : Column → Sql
  | .named name => [.name name]
  | .materialized name => [.backticked name]
  | .entry map key => Sql.raw (map ++ "[") ++ Sql.literal key ++ Sql.raw "]"

/-- The same column with its name quoted. -/
def alwaysQuoted : Column → Column
  | .named name => .materialized name
  | column => column

end Column

/-- The value that stands for absence in a column without a presence flag. -/
inductive Zero where
  | number | bool | text
  deriving DecidableEq, Repr

def Zero.word : Zero → String
  | .number => "0"
  | .bool => "false"
  | .text => "''"

/-- How presence is told: by a value other than zero, by a key of a map column, or by a flag
column. -/
inductive Presence where
  | nonZero (column : String) (zero : Zero)
  | mapKey (map key : String)
  | flag (column : String)
  deriving DecidableEq, Repr

/-- The predicate of presence, or of absence if `negated`; `notWord` is the schema's spelling of
negation. -/
def Presence.sql (notWord : String) (negated : Bool) : Presence → Sql
  | .nonZero column zero =>
    [.name column] ++ Sql.raw ((if negated then " = " else " != ") ++ zero.word)
  | .mapKey map key =>
    Sql.raw ((if negated then notWord ++ " " else "") ++ "mapContains(" ++ map ++ ", ")
      ++ Sql.literal key ++ Sql.raw ")"
  | .flag column =>
    [.backticked column] ++ Sql.raw (if negated then "=false" else "=true")

end PanelQuery
