import PanelQuery.Decimal.Numeral
import PanelQuery.Error
import PanelQuery.Sql.Piece

/-!
The aggregate expression of logs and traces statements. Rates divide by seconds, or by minutes when
rates per minute are preferred.
-/

namespace PanelQuery

/-- What a rate over `seconds` is divided by. -/
def rateDivisor (seconds : Int) (perMinute : Bool) : Float :=
  if perMinute then Decimal.floatOfInt seconds / 60 else Decimal.floatOfInt seconds

namespace AggregateOperator

/-- The operand of an operator that cannot do without. -/
def required (op : AggregateOperator) (operand : Option Sql) : Except Fault Sql :=
  match operand with
  | some a => .ok a
  | none => .error (.attributeRequired op)

/-- The expression of the aggregate over `operand`. -/
def valueSql (op : AggregateOperator) (operand : Option Sql) (divisor : Float) :
    Except Fault Sql := do
  match op with
  | .percentile p =>
    return Sql.raw ("quantile(" ++ p.fraction ++ ")(") ++ (← op.required operand) ++ Sql.raw ")"
  | .count => return Sql.raw "toFloat64(count(*))"
  | .countDistinct =>
    return Sql.raw "toFloat64(count(distinct(" ++ (← op.required operand) ++ Sql.raw ")))"
  | .plain f => return Sql.raw (f.word ++ "(") ++ (← op.required operand) ++ Sql.raw ")"
  | .rate => return Sql.raw "count(" ++ operand.getD [] ++ Sql.raw ")/" ++ [.float divisor]
  | .rateOf f =>
    return Sql.raw (f.word ++ "(") ++ (← op.required operand) ++ Sql.raw ")/" ++ [.float divisor]
  | .noop | .ofRate _ | .histogramQuantile _ => .error (.aggregateUnsupported op)

end AggregateOperator

end PanelQuery
