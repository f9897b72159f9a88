import PanelQuery.Decimal.Double

/-!
Six decimal places of a double, the form in which numbers are written into statements. The exact
binary value is rounded, and a tie goes to the even neighbour.
-/

namespace PanelQuery.Decimal

/-- `num / den` to the nearest integer, a tie to the even one. -/
def roundHalfEven (num den : Nat) : Nat :=
  let quotient := num / den
  let twice := 2 * (num % den)
  if twice < den then quotient
  else if den < twice then quotient + 1
  else if quotient % 2 = 0 then quotient else quotient + 1

/-- Millionths of `m · 2^q`. -/
def millionths (m : Nat) (q : Int) : Nat :=
  if 0 ≤ q then m * twoTo q.toNat * 1000000
  else roundHalfEven (m * 1000000) (twoTo (-q).toNat)

/-- A count of millionths as digits, a point and six places. -/
def placesOfMillionths (n : Nat) : String :=
  String.ofList (digits (n / 1000000) ++ '.' :: padLeft 6 (digits (n % 1000000)))

def Double.fixed : Double → String
  | .finite negative m q => signed negative (placesOfMillionths (millionths m q))
  | .infinite negative => signed negative "inf"
  | .notANumber => "NaN"

/-- `x` with six decimal places. -/
def fixed (x : Float) : String := (Double.ofFloat x).fixed

end PanelQuery.Decimal
