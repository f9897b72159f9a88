/-!
A double taken apart: `Double.ofFloat` reads sign, significand and exponent out of the 64 bits, so
that every text form below is computed in exact natural numbers.
-/

namespace PanelQuery.Decimal

/-- Powers of two. -/
def twoTo (k : Nat) : Nat := Nat.pow 2 k

/-- Powers of ten. -/
def tenTo (k : Nat) : Nat := Nat.pow 10 k

/-- `finite s m q` is `m · 2^q`, negated if `s`. -/
inductive Double where
  | finite (negative : Bool) (significand : Nat) (exponent : Int)
  | infinite (negative : Bool)
  | notANumber

def Double.ofFloat (x : Float) : Double :=
  let bits := x.toBits.toNat
  let negative := bits / twoTo 63 == 1
  let exponent : Nat := bits / twoTo 52 % 2048
  let fraction := bits % twoTo 52
  if exponent = 2047 then
    if fraction = 0 then .infinite negative else .notANumber
  else if exponent = 0 then .finite negative fraction (-1074)
  else .finite negative (fraction + twoTo 52) ((exponent : Int) - 1075)

/-- The integer that a finite double equals, if there is one. -/
def Double.toInt? : Double → Option Int
  | .finite negative m q =>
    let magnitude : Option Nat :=
      if 0 ≤ q then some (m * twoTo q.toNat)
      else if m % twoTo (-q).toNat = 0 then some (m / twoTo (-q).toNat) else none
    magnitude.map fun n => if negative then -(n : Int) else n
  | _ => none

/-- The text with a minus sign in front of negative numbers, zero included. -/
def signed (negative : Bool) (text : String) : String := if negative then "-" ++ text else text

/-- Decimal digits of `n`. -/
def digits (n : Nat) : List Char := Nat.toDigits 10 n

def digitCount (n : Nat) : Nat := (digits n).length

/-- `ds` with zeros in front, up to `width`. -/
def padLeft (width : Nat) (ds : List Char) : List Char :=
  List.replicate (width - ds.length) '0' ++ ds

end PanelQuery.Decimal
