import PanelQuery.Filter.Body
import PanelQuery.Schema.Basic

/-!
The condition of a single filter item on the logs or traces table, without the guard that may
accompany it. The log body is matched without regard to case.
-/

namespace PanelQuery.Schema

/-- A pattern match on a column. -/
def likeSql (s : Schema) (key : AttributeKey) (negated : Bool) (pattern : Sql) : Sql :=
  if key.name == "body" && s.isTopLevel key then
    Sql.raw ("lower(body) " ++ (if negated then "NOT LIKE" else "LIKE") ++ " lower(") ++ pattern
      ++ Sql.raw ")"
  else (s.column key).sql ++ Sql.raw (" " ++ s.likeWord negated ++ " ") ++ pattern

/-- A test of the column that `key` reads. -/
def testSql (s : Schema) (key : AttributeKey) : Test → Sql
  | .compare c v => (s.column key).sql ++ Sql.raw (" " ++ c.word ++ " ") ++ v.literal
  | .like negated v => s.likeSql key negated (v.pattern false)
  | .contains negated v => s.likeSql key negated (v.pattern true)
  | .regex negated v =>
    Body.notIf negated
      (Sql.raw "match(" ++ (s.column key).sql ++ Sql.raw ", " ++ v.pattern false ++ Sql.raw ")")
  | .member negated items =>
    (s.column key).sql ++ Sql.raw (if negated then " NOT IN " else " IN ")
      ++ (FilterValue.array items).literal
  | .has negated v => Body.hasSql (s.column key).sql negated v
  | .presence negated => s.guard key negated

/-- The condition of an item. -/
def itemCondition (s : Schema) (item : FilterItem) : Except Fault Sql :=
  if item.key.isJson then Body.condition item
  else do return s.testSql item.key (← item.test)

end PanelQuery.Schema
