/-!
Reading numbers. `Numeral` is the lexical form of a decimal number; `nearest` rounds it to a double
once. Typed values accept a sign, a missing part on one side of the point and the words for
infinity and not-a-number; integers accept a sign and nothing else.
-/

namespace PanelQuery.Decimal

def digitValue (c : Char) : Nat := c.toNat - 48

/-- The number that decimal digits spell. -/
def ofDigits (ds : List Char) : Nat := ds.foldl (fun n c => n * 10 + digitValue c) 0

/-- `whole.fraction · 10^exponent`, the parts as digit lists. -/
structure Numeral where
  negative : Bool
  whole : List Char
  fraction : List Char
  exponent : Int

/-- A sign in front of `cs`, if any: whether it is a minus, and what follows. -/
def takeSign : List Char → Bool × List Char
  | '-' :: rest => (true, rest)
  | '+' :: rest => (false, rest)
  | rest => (false, rest)

/-- One or more decimal digits and nothing else. -/
def naturalOf? (cs : List Char) : Option Nat :=
  if cs.isEmpty || !cs.all Char.isDigit then none else some (ofDigits cs)

/-- An optional sign and decimal digits. -/
def integerOf? (cs : List Char) : Option Int :=
  let (negative, rest) := takeSign cs
  (naturalOf? rest).map fun n => if negative then -(n : Int) else n

/-- Bounds of a signed 64-bit word. -/
def int64Min : Int := -9223372036854775808
def int64Max : Int := 9223372036854775807
/-- Largest unsigned 64-bit word. -/
def uint64Max : Nat := 18446744073709551615

/-- `n` as a signed word, if it is one. -/
def int64Of? (n : Int) : Option Int64 :=
  if int64Min ≤ n ∧ n ≤ int64Max then some (Int64.ofInt n) else none

/-- `n` as an unsigned word, if it is one. -/
def uint64Of? (n : Int) : Option UInt64 :=
  if 0 ≤ n ∧ n ≤ uint64Max then some (UInt64.ofNat n.toNat) else none

/-- The nearest signed word. -/
def clampInt64 (n : Int) : Int := max int64Min (min n int64Max)

/-- The signed word with the same lowest 64 bits. -/
def wrapInt64 (n : Int) : Int := (Int64.ofInt n).toInt

/-- The text of a signed 64-bit integer: optional sign, digits, in range. -/
def int64OfText? (s : String) : Option Int64 := (integerOf? s.toList).bind int64Of?

/-- The text of an unsigned 64-bit integer; a leading plus is allowed. -/
def uint64OfText? (s : String) : Option UInt64 :=
  match s.toList with
  | '-' :: _ => none
  | cs => (integerOf? cs).bind uint64Of?

/-- The exponent part of a number: nothing, or `e`, an optional sign and digits. -/
def exponentOf? : List Char → Option Int
  | [] => some 0
  | c :: rest => if c = 'e' ∨ c = 'E' then integerOf? rest else none

/-- Digits with an optional point and exponent; one side of the point may be empty. -/
def numeralOf? (cs : List Char) : Option Numeral :=
  let (negative, body) := takeSign cs
  let whole := body.takeWhile Char.isDigit
  let afterWhole := body.dropWhile Char.isDigit
  let (fraction, afterFraction) := match afterWhole with
    | '.' :: rest => (rest.takeWhile Char.isDigit, rest.dropWhile Char.isDigit)
    | rest => ([], rest)
  if whole.isEmpty && fraction.isEmpty then none
  else (exponentOf? afterFraction).map fun e => ⟨negative, whole, fraction, e⟩

def negateIf (negative : Bool) (x : Float) : Float := if negative then -x else x

def infinity : Float := 1 / 0

/-- The double nearest to the numeral. Magnitudes far outside the range of doubles are decided by
their digit count alone, so that no huge power is computed. -/
def Numeral.nearest (n : Numeral) : Float :=
  let ds := (n.whole ++ n.fraction).dropWhile (· == '0')
  let exponent := n.exponent - n.fraction.length
  let point := exponent + ds.length
  let magnitude : Float :=
    if ds.isEmpty then 0
    else if 310 < point then infinity
    else if point < -330 then 0
    else Float.ofScientific (ofDigits ds) (decide (exponent < 0)) exponent.natAbs
  negateIf n.negative magnitude

/-- A number text or one of the words `inf`, `infinity`, `nan` in any ASCII case. -/
def floatOfText? (s : String) : Option Float :=
  let (negative, body) := takeSign s.toList
  let word := String.ofList (body.map Char.toLower)
  if word = "inf" ∨ word = "infinity" then some (negateIf negative infinity)
  else if word = "nan" then some (negateIf negative (0 / 0))
  else (numeralOf? s.toList).map Numeral.nearest

/-- The double nearest to an integer. -/
def floatOfInt (n : Int) : Float :=
  negateIf (n < 0) (Float.ofScientific n.natAbs false 0)

end PanelQuery.Decimal
