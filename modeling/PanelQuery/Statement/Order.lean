import PanelQuery.Error
import PanelQuery.Schema.Basic

/-!
The ORDER BY of logs and traces statements. A requested order is the aggregated value, a grouped
key, or on list panels a column; anything else is left out. If nothing is left the order is by
value, or by time on list panels, descending.
-/

namespace PanelQuery

open Sql (Direction)

/-- The requested direction. -/
def OrderBy.direction (o : OrderBy) : Except Fault Direction :=
  match Direction.ofText? o.order with
  | some d => .ok d
  | none => .error (.invalidDirection o.order o.column)

inductive OrderItem where
  | value (d : Direction)
  | key (name : String) (d : Direction)
  | column (c : Column) (d : Direction)

namespace OrderItem

def sql : OrderItem → Sql
  | .value d => Sql.raw "value " ++ [.direction d]
  | .key name d => [.backticked name, .fixed " ", .direction d]
  | .column c d => c.sql ++ Sql.raw " " ++ [.direction d]

/-- The order without a request. -/
def default (panel : Panel) : OrderItem :=
  if panel = .list then .column (.named "timestamp") .descending else .value .descending

end OrderItem

namespace Schema

/-- The column of an order on a list panel; a column flag asks for its name in quotes. -/
def orderColumn (s : Schema) (o : OrderBy) : Column :=
  if o.isColumn then (s.column o.target).alwaysQuoted else s.column o.target

/-- The item of a requested order, if the statement has one for it. -/
def orderItem? (s : Schema) (panel : Panel) (groupBy : List AttributeKey) (o : OrderBy) :
    Except Fault (Option OrderItem) := do
  let d ← o.direction
  return if o.isValue then some (.value d)
    else if groupBy.any (·.name == o.column) then some (.key o.column d)
    else if panel = .list then some (.column (s.orderColumn o) d)
    else none

def orderItems (s : Schema) (panel : Panel) (orderBy : List OrderBy)
    (groupBy : List AttributeKey) : Except Fault (List OrderItem) := do
  let items := (← orderBy.mapM (s.orderItem? panel groupBy)).filterMap id
  return if items.isEmpty then [.default panel] else items

end Schema

/-- Order items separated by commas. -/
def orderSql (items : List OrderItem) : Sql := Sql.join "," (items.map OrderItem.sql)

end PanelQuery
