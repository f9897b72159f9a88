import PanelQuery.Query.Basic
import PanelQuery.Sql.Value

/-!
Conditions on the aggregated value. They are always on `value`, whatever column a request names.
-/

namespace PanelQuery

def Having.sql (h : Having) : Sql := Sql.raw ("value " ++ h.op.word ++ " ") ++ h.value.literal

def havingConditions (having : List Having) : Sql := Sql.join " AND " (having.map Having.sql)

/-- The HAVING clause with a blank in front, or nothing. -/
def havingClause (having : List Having) : Sql :=
  if having.isEmpty then [] else Sql.raw " having " ++ havingConditions having

end PanelQuery
