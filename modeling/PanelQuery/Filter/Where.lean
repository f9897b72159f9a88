import PanelQuery.Filter.Item
import PanelQuery.Query.Basic
import PanelQuery.Sql.Condition

/-!
The conditions that a query puts on the main table: those of its filter items, combined by the
connective of the set, then a guard for every grouped key and for the aggregated attribute. Guards
of keys and attribute stand beside the filter set, never inside its OR group.
-/

namespace PanelQuery

open Sql (Condition)

/-- What one filter item contributes: its condition, and the guard of its key if it needs one. -/
structure FilterUnit where
  condition : Sql
  guard : Option Sql

namespace FilterUnit

/-- The unit as conjuncts. -/
def conjuncts (u : FilterUnit) : List Condition := .atom u.condition :: (u.guard.map .atom).toList

/-- The unit as one condition. -/
def whole (u : FilterUnit) : Condition :=
  match u.guard with
  | none => .atom u.condition
  | some _ => .group .and u.conjuncts

/-- The conjuncts that say that all units hold, or that at least one does. -/
def combine (op : Connective) (units : List FilterUnit) : List Condition :=
  match op, units with
  | .and, units => units.flatMap conjuncts
  | .or, [] => []
  | .or, [u] => [u.whole]
  | .or, units => [.group .or (units.map whole)]

end FilterUnit

namespace Schema

/-- An item on an attribute is guarded unless it asks for presence itself. -/
def needsGuard (s : Schema) (item : FilterItem) : Bool :=
  s.guardsItems && !item.key.isColumn && !item.key.isJson && !item.op.isExistence

def unit (s : Schema) (item : FilterItem) : Except Fault FilterUnit := do
  let condition ← s.itemCondition item
  return ⟨condition, if s.needsGuard item then some (s.guard item.key false) else none⟩

/-- The guard of a key that is read by a label or by the aggregate. -/
def referenceGuard (s : Schema) (key : AttributeKey) : Option Sql :=
  if key.isJson || s.isTopLevel key then none else some (s.guard key false)

/-- What besides the filter set decides about the conditions. -/
structure Scope where
  groupBy : List AttributeKey
  aggregated : AttributeKey
  operator : AggregateOperator
  skipResources : Bool

/-- Resource keys are left to the fingerprint lookup. -/
def Scope.skips (scope : Scope) (key : AttributeKey) : Bool :=
  scope.skipResources && key.kind == .resource

/-- The keys whose presence the statement relies on. -/
def Scope.references (scope : Scope) : List AttributeKey :=
  scope.groupBy.filter (fun key => !scope.skips key) ++
    if !scope.aggregated.isEmpty && !scope.skips scope.aggregated && scope.operator.guardsAttribute
    then [scope.aggregated] else []

/-- The conditions on the main table. -/
def conditions (s : Schema) (filters : Option FilterSet) (scope : Scope) :
    Except Fault (List Condition) := do
  let (op, items) := match filters with
    | some set => (set.op, set.items)
    | none => (.and, [])
  let units ← (items.filter fun item => !scope.skips item.key).mapM s.unit
  return FilterUnit.combine op units ++ (scope.references.filterMap s.referenceGuard).map .atom

end Schema

end PanelQuery
