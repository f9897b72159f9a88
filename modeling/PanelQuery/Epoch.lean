import PanelQuery.Decimal.Double
import PanelQuery.Decimal.Numeral

/-!
Instants in seconds, milliseconds, microseconds or nanoseconds since the epoch. The unit is told by
the number of decimal digits: a number is scaled until it has nineteen, which is what nanoseconds
of the present have.
-/

namespace PanelQuery.Epoch

/-- Decimal digits of an instant, the sign aside. -/
def digitCount (t : Int) : Nat := Decimal.digitCount t.natAbs

/-- The instant in nanoseconds, the nearest 64-bit value if that is too large. -/
def nanos (t : Int) : Int :=
  if 19 ≤ digitCount t then t else Decimal.clampInt64 (t * Decimal.tenTo (19 - digitCount t))

/-- The instant in milliseconds, rounded toward zero. -/
def millis (t : Int) : Int := (nanos t).tdiv 1000000

/-- Whole seconds of an instant in nanoseconds, rounded toward zero. -/
def secondsOfNanos (t : Int) : Int := t.tdiv 1000000000

end PanelQuery.Epoch
