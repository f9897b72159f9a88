import PanelQuery.Query.Cast

/-!
Filter items whose value has been checked. `FilterItem.test` casts the value to the type of the key
and refuses membership in anything but an array; whoever writes a test as SQL need not check again.
-/

namespace PanelQuery

/-- A comparison with a checked value. -/
inductive Test where
  | compare (c : Comparison) (value : FilterValue)
  | like (negated : Bool) (value : FilterValue)
  | contains (negated : Bool) (value : FilterValue)
  | regex (negated : Bool) (value : FilterValue)
  | member (negated : Bool) (items : List FilterValue)
  | presence (negated : Bool)
  | has (negated : Bool) (value : FilterValue)

namespace FilterItem

/-- The item's value as a value of type `t`. -/
def valueAs (item : FilterItem) (t : DataType) : Except Fault FilterValue :=
  match item.value.cast t with
  | .ok v => .ok v
  | .error cause => .error (.castFailed item.key.name cause)

/-- The item's value as a value of its key's type. -/
def checkedValue (item : FilterItem) : Except Fault FilterValue := item.valueAs item.key.dataType

/-- The items of a value that has to be an array. -/
def itemsOf (item : FilterItem) : FilterValue → Except Fault (List FilterValue)
  | .array items => .ok items
  | _ => .error (.arrayRequired item.op item.key.name)

def test (item : FilterItem) : Except Fault Test :=
  match item.op with
  | .presence negated => .ok (.presence negated)
  | .compare c => do return .compare c (← item.checkedValue)
  | .like negated => do return .like negated (← item.checkedValue)
  | .contains negated => do return .contains negated (← item.checkedValue)
  | .regex negated => do return .regex negated (← item.checkedValue)
  | .has negated => do return .has negated (← item.checkedValue)
  | .member negated => do return .member negated (← item.itemsOf (← item.checkedValue))

end FilterItem

end PanelQuery
