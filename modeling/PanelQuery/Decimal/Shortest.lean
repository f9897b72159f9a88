import PanelQuery.Decimal.Double

/-!
The shortest decimal text that reads back as the same double. `shortest` looks for the coarsest
power-of-ten grid with a point in the interval of reals that round to the value, and takes the
nearer of the value's two neighbours on it.

Two notations print the result: `text` writes all digits and never an exponent, and a tie goes up;
`jsonText` keeps numbers apart from integers by a trailing `.0`, uses an exponent with a sign far
from the point, and a tie goes to the even digit.
-/

namespace PanelQuery.Decimal

/-- The decimal `coefficient · 10^exponent`. -/
structure Scaled where
  coefficient : Nat
  exponent : Int

/-- Four times the bounds of the reals that round to `m · 2^q`: half a unit on both sides, or a
quarter below the smallest significand of a binade. -/
def quarterBounds (m : Nat) (q : Int) : Nat × Nat :=
  (if m = twoTo 52 ∧ -1074 < q then 4 * m - 1 else 4 * m - 2, 4 * m + 2)

/-- Largest `e` with `10^e ≤ b · 2^r`, for positive `b`. -/
def magnitude (b : Nat) (r : Int) : Int :=
  if 0 ≤ r then (digitCount (b * twoTo r.toNat) : Int) - 1
  else
    let den := twoTo (-r).toNat
    if den ≤ b then (digitCount (b / den) : Int) - 1
    else -(digitCount ((den + b - 1) / b - 1) : Int)

/-- Which of two equally near neighbours is taken. -/
inductive Tie where
  | up
  | toEven
  deriving DecidableEq, Repr

/-- The neighbour above `floor` is taken, as far as `above` and `below` from the value. -/
def Tie.goesUp (tie : Tie) (floor above below : Nat) : Bool :=
  above < below || (above == below && (tie = .up || floor % 2 == 1))

/-- A neighbour of `m · 2^q` on the grid of multiples of `10^k` that rounds to it, the nearer one if
both do. -/
def onGrid (tie : Tie) (m : Nat) (q k : Int) : Option Scaled :=
  let r := q - 2
  let left := tenTo k.toNat * twoTo (-r).toNat
  let right := twoTo r.toNat * tenTo (-k).toNat
  let (low, high) := quarterBounds m q
  let closed := m % 2 == 0
  let inside (c : Nat) : Bool :=
    let point := c * left
    (low * right < point || (closed && low * right == point)) &&
      (point < high * right || (closed && point == high * right))
  let value := 4 * m * right
  let floor := value / left
  let below := value - floor * left
  let above := left - below
  if inside floor then
    if inside (floor + 1) && tie.goesUp floor above below then some ⟨floor + 1, k⟩ else some ⟨floor, k⟩
  else if inside (floor + 1) then some ⟨floor + 1, k⟩
  else none

/-- Shortest decimal of `m · 2^q` for positive `m`; seventeen digits always suffice. -/
def shortest (tie : Tie) (m : Nat) (q : Int) : Scaled :=
  let top := magnitude (4 * m) (q - 2) + 1
  ((List.range 19).findSome? fun (n : Nat) => onGrid tie m q (top - n)).getD ⟨0, 0⟩

/-- All digits of `coefficient · 10^exponent`, with a point if there are places after it. -/
def Scaled.positional (d : Scaled) : String :=
  let ds := digits d.coefficient
  if 0 ≤ d.exponent then String.ofList (ds ++ List.replicate d.exponent.toNat '0')
  else
    let places := (-d.exponent).toNat
    let padded := padLeft (places + 1) ds
    String.ofList
      (padded.take (padded.length - places) ++ '.' :: padded.drop (padded.length - places))

def Double.text : Double → String
  | .finite negative m q =>
    signed negative (if m = 0 then "0" else (shortest .up m q).positional)
  | .infinite negative => signed negative "inf"
  | .notANumber => "NaN"

/-- `x` in full decimal notation. -/
def text (x : Float) : String := (Double.ofFloat x).text

/-- Digits, point and exponent of a JSON number: positional from `1e-5` up to below `1e16`. The
exponent has a sign and no leading zeros. -/
def Scaled.exponential (d : Scaled) : String :=
  let ds := digits d.coefficient
  let point : Int := ds.length + d.exponent
  if 0 ≤ d.exponent ∧ point ≤ 16 then d.positional ++ ".0"
  else if -5 < point ∧ point ≤ 16 then d.positional
  else
    let tail := match ds with
      | [] | [_] => ds
      | first :: rest => first :: '.' :: rest
    String.ofList tail ++ (if 0 < point then "e+" else "e") ++ toString (point - 1)

def Double.jsonText : Double → String
  | .finite negative m q =>
    signed negative (if m = 0 then "0.0" else (shortest .toEven m q).exponential)
  | .infinite _ | .notANumber => "null"

/-- `x` as a JSON number; what JSON has no number for is null. -/
def jsonText (x : Float) : String := (Double.ofFloat x).jsonText

end PanelQuery.Decimal
