import PanelQuery.Decimal.Numeral

/-!
The range a rule evaluation reads. It ends a delay before the tick, spans the window, and both ends
are moved down to whole minutes, so that a minute still being written is never read. Instants are
words: shifting an end stops at the first word, moving it down to a minute wraps around.
-/

namespace PanelQuery.Rule

def minuteMs : Int := 60 * 1000

/-- The number of points that the step of a range is computed for. -/
def maxPoints : Int := 300

/-- A range in milliseconds. -/
structure Range where
  start : Int
  stop : Int
  deriving DecidableEq, Repr

/-- The start of the minute that holds `t`, as a word. -/
def floorMinute (t : Int) : Int := Decimal.wrapInt64 (t - t % minuteMs)

/-- A length of time as a word; what is longer counts as the longest. -/
def lengthMs (b : Nat) : Int := min (b : Int) Decimal.int64Max

/-- `a - b` within 64 bits. -/
def subtractMs (a : Int) (b : Nat) : Int := Decimal.clampInt64 (a - lengthMs b)

/-- The range for a tick; all arguments are milliseconds. -/
def Range.atTick (tick : Int) (window delay : Nat) : Range :=
  let stop := subtractMs tick delay
  ⟨floorMinute (subtractMs stop window), floorMinute stop⟩

/-- The step in seconds that cuts the range into `maxPoints` points, brought down to a whole number,
and from a minute on to whole minutes. The length of the range is taken as a word. -/
def minStep (r : Range) : Int :=
  let step := ((Decimal.wrapInt64 (r.stop - r.start)).tdiv maxPoints).tdiv 1000
  if step < 60 then step else step - step.tmod 60

end PanelQuery.Rule
