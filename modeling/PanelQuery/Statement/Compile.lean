import PanelQuery.Epoch
import PanelQuery.Statement.Table

/-!
From a logs or traces query to its statement. The two signals share everything but the row filter,
the time bounds and the moment at which an impossible Top-N pass is noticed: spans notice it before
the aggregate and the order are looked at, logs after.
-/

namespace PanelQuery

/-- Resource buckets are written up to this many seconds before the rows they describe. -/
def bucketLookback : Int := 1800

/-- The statement's range in nanoseconds. -/
structure NanoRange where
  first : Int
  last : Int
  deriving DecidableEq, Repr

def NanoRange.ofInstants (start stop : Int) : NanoRange := ⟨Epoch.nanos start, Epoch.nanos stop⟩

namespace NanoRange

/-- The bucket starts of rows in the range. -/
def buckets (r : NanoRange) : BucketRange :=
  ⟨Epoch.secondsOfNanos r.first - bucketLookback, Epoch.secondsOfNanos r.last⟩

/-- Seconds of the range, at least one. Its length is taken as a word. -/
def seconds (r : NanoRange) : Int :=
  max (Epoch.secondsOfNanos (Decimal.wrapInt64 (r.last - r.first))) 1

def bounds (r : NanoRange) : Schema → TimeBounds
  | .logs => .logs r.first r.last r.buckets
  | .traces => .traces r.first r.last

end NanoRange

namespace Query

/-- The parts of a query that decide about the conditions on the main table. -/
def scope (q : Query) (s : Schema) : Schema.Scope :=
  ⟨q.groupBy, q.aggregateAttribute, q.aggregateOperator, s == .logs⟩

/-- The rows a query reads. Resource filters of logs go to the lookup of fingerprints. -/
def rowFilter (q : Query) (s : Schema) (buckets : Option BucketRange) : Except Fault RowFilter := do
  let main ← s.conditions q.filters (q.scope s)
  match s with
  | .logs => return ⟨main, ← ResourceLookup.ofQuery q buckets⟩
  | .traces => return ⟨main, none⟩

/-- A Top-N pass needs groups to rank and a number of them to keep. -/
def checkPass (q : Query) (pass : TopNPass) : Except Fault Unit :=
  if pass ≠ .none ∧ (q.groupBy.isEmpty ∨ q.limit = 0) then .error .topNWithoutGroups else .ok ()

/-- The page of rows of a query without aggregate. -/
def listStatement (q : Query) (s : Schema) (time : TimeBounds) (filter : RowFilter)
    (panel : Panel) : Except Fault TableStatement := do
  if panel ≠ .list then .error (.noopOnPanel panel)
  let order ← s.orderItems panel q.orderBy q.groupBy
  return .list s time filter order (← Page.ofQuery q)

/-- The expression that reads the aggregated attribute, if the query names one. -/
def attributeSql (q : Query) (s : Schema) : Option Sql :=
  if q.aggregateAttribute.isEmpty then none else some (s.column q.aggregateAttribute).sql

/-- The aggregation of a query, its pass checked at the schema's moment. -/
def aggregation (q : Query) (s : Schema) (range : NanoRange) (filter : RowFilter) (panel : Panel)
    (options : QueryOptions) : Except Fault Aggregation := do
  if s = .traces then q.checkPass options.pass
  let seconds := if panel = .table then range.seconds else q.stepInterval.toInt
  let value ← q.aggregateOperator.valueSql (q.attributeSql s)
    (rateDivisor seconds options.preferRpm)
  let order ← s.orderItems panel q.orderBy q.groupBy
  if s = .logs then q.checkPass options.pass
  return ⟨s, range.bounds s, filter, s.labels q.groupBy, value, q.having, order⟩

/-- The statement of an aggregation for a pass and a panel. -/
def aggregationStatement (q : Query) (a : Aggregation) (panel : Panel) (pass : TopNPass) :
    TableStatement :=
  match pass with
  | .first => .groups a q.limit.toNat
  | pass =>
    .series a (if panel = .table then .whole else .interval q.stepInterval.toInt)
      (pass == .second)
      (if panel = .table ∧ q.limit ≠ 0 then some q.limit.toNat else none)
      (if panel = .value then some q.reduceTo else none)

/-- The statement of a query whose rows are known. -/
def rangeStatement (q : Query) (s : Schema) (range : NanoRange) (filter : RowFilter)
    (panel : Panel) (options : QueryOptions) : Except Fault TableStatement := do
  if q.aggregateOperator = .noop then q.listStatement s (range.bounds s) filter panel
  else if panel = .list then .error (.aggregateOnList q.aggregateOperator)
  else if panel ≠ .table ∧ q.stepInterval.toInt ≤ 0 then
    .error (.stepNotPositive q.stepInterval.toInt)
  else
    let a ← q.aggregation s range filter panel options
    return q.aggregationStatement a panel options.pass

/-- The statement of a logs or traces query. Only logs have a live tail. -/
def tableStatement (q : Query) (s : Schema) (start stop : Int) (panel : Panel)
    (options : QueryOptions) : Except Fault TableStatement := do
  if options.liveTail then
    match s with
    | .logs => return .tail s (← q.rowFilter s none)
    | .traces => .error .liveTailOnTraces
  else
    let range := NanoRange.ofInstants start stop
    let filter ← q.rowFilter s (some range.buckets)
    q.rangeStatement s range filter panel options

end Query

end PanelQuery
