import PanelQuery.Decimal.Numeral
import PanelQuery.Error

/-!
Checking a value against the declared type of its key. A scalar is turned into a value of that very
type; the items of an array are checked one by one and the array is kept as it was given.
-/

namespace PanelQuery.FilterValue

/-- The words for the two truth values, white space and ASCII case aside. -/
def boolOfText? (s : String) : Option Bool :=
  let word := Text.asciiLower (Text.trim s)
  if word = "true" ∨ word = "t" ∨ word = "1" then some true
  else if word = "false" ∨ word = "f" ∨ word = "0" then some false
  else none

/-- An integral double as an integer; beyond 64 bits it becomes the nearest bound. -/
def wordOfFloat? (x : Float) : Option Int64 :=
  (Decimal.Double.ofFloat x).toInt?.map fun n => Int64.ofInt (Decimal.clampInt64 n)

/-- A single value as a value of type `t`. -/
def castTo? (t : ScalarType) (v : FilterValue) : Option FilterValue :=
  match t, v with
  | .bool, .bool b => some (.bool b)
  | .bool, .text s => (boolOfText? s).map .bool
  | .int64, .int n => some (.int n)
  | .int64, .float x => (wordOfFloat? x).map .int
  | .int64, .text s => (Decimal.int64OfText? (Text.trim s)).map .int
  | .float64, .float x => some (.float x)
  | .float64, .int n => some (.float (Decimal.floatOfInt n.toInt))
  | .float64, .text s => (Decimal.floatOfText? (Text.trim s)).map .float
  | .string, .text s => some (.text s)
  | .string, .int n => some (.text (FilterValue.int n).plain)
  | .string, .float x => some (.text (FilterValue.float x).plain)
  | .string, .bool b => some (.text (FilterValue.bool b).plain)
  | _, _ => none

def castScalar (t : ScalarType) (v : FilterValue) : Except CastFault FilterValue :=
  match castTo? t v with
  | some r => .ok r
  | none => .error ⟨.scalar t, v.kind⟩

/-- Every item fits `t`, and none is an array. -/
def checkItems (t : ScalarType) : List FilterValue → Except CastFault Unit
  | [] => .ok ()
  | item :: items => do
    let _ ← castScalar t item
    checkItems t items

def castOrCheck (t : ScalarType) : FilterValue → Except CastFault FilterValue
  | .array items => do
    checkItems t items
    .ok (.array items)
  | v => castScalar t v

/-- `v` as a value of type `t`; without a declared type every value is fine. -/
def cast (t : DataType) (v : FilterValue) : Except CastFault FilterValue :=
  match t with
  | .unspecified => .ok v
  | .scalar t | .array t => castOrCheck t v

end PanelQuery.FilterValue
