import PanelQuery.Epoch
import PanelQuery.Metrics.Stage
import PanelQuery.Statement.Order

/-!
From a metrics query to its statement. A query with a time aggregation is compiled in two steps over
the tiered tables; any other follows its operator, with one pipeline for increments, one for totals
and one for totals over a whole table.
-/

namespace PanelQuery.Metrics

open Sql (Direction)

/-- What the pipelines need to know of a query. -/
structure Context where
  query : Query
  first : Int
  last : Int
  perMinute : Bool
  /-- Group keys, with the bucket bound of histograms among them. -/
  tags : List String
  /-- Group keys of the result, never the bucket bound. -/
  outerTags : List String

namespace Context

/-- The query computes a quantile over histogram buckets. -/
def isHistogram (q : Query) : Bool :=
  q.aggregateOperator.quantileFraction.isSome ||
    (q.metricType == .histogram && (q.spaceAggregation.bind (·.quantile?)).isSome)

/-- Group keys of the stages below the result. -/
def innerTags (q : Query) : List String :=
  let names := q.groupBy.map (·.name)
  if isHistogram q && !names.contains leTag then names ++ [leTag] else names

/-- Requested directions are checked here, also those of columns no stage has. -/
def ofQuery (q : Query) (first last : Int) (perMinute : Bool) : Except Fault Context := do
  let _ ← q.orderBy.mapM OrderBy.direction
  return ⟨q, first, last, perMinute, innerTags q,
    (q.groupBy.map (·.name)).filter (· ≠ leTag)⟩

def metric (c : Context) : String := c.query.aggregateAttribute.name

def step (c : Context) : Int := c.query.stepInterval.toInt

def range (c : Context) : SampleRange := ⟨c.metric, c.first, c.last⟩

/-- The direction requested for a key, ascending without a request. -/
def direction (c : Context) (tag : String) : Direction :=
  match c.query.orderBy.find? (·.column == tag) with
  | some o => (Direction.ofText? o.order).getD .ascending
  | none => .ascending

def ordered (c : Context) (tags : List String) : List OrderedTag :=
  tags.map fun tag => ⟨tag, c.direction tag⟩

/-- Seconds of the range, both ends included. -/
def seconds (c : Context) : Int := (c.last - c.first + 1).tdiv 1000

/-- The lookup over the single table. Plain samples and rates keep all labels. -/
def lookup (c : Context) : Except Fault SeriesLookup := do
  let conditions ← labelConditions c.query.filterItems
  let labels := match c.query.aggregateOperator with
    | .noop | .rate => LookupLabels.all
    | _ => .keys c.tags
  return .single c.metric (c.query.temporality == .delta) labels conditions

end Context

/-! ## Operators -/

/-- The expression of an operator that aggregates samples directly. -/
def plainValue? : AggregateOperator → Option Sql
  | .percentile p => some (Sql.raw ("quantile(" ++ p.fraction ++ ")(value)"))
  | .plain f => some (Sql.raw (f.word ++ "(value)"))
  | .count => some (Sql.raw "toFloat64(count(*))")
  | .countDistinct => some (Sql.raw "toFloat64(count(distinct(value)))")
  | _ => none

/-- A function of the value. -/
def ofValue (f : Reduction) : Sql := Sql.raw (f.word ++ "(value)")

/-- An expression divided by a number. -/
def dividedBy (value divisor : Sql) : Sql := value ++ Sql.raw "/" ++ divisor

namespace Context

/-- Samples of every series by itself, with all its labels. -/
def noopStage (c : Context) (lookup : SeriesLookup) (time : TimeColumn) : Stage :=
  .samples c.range .fullLabels time (Sql.raw "any(value)") lookup .labels .labels

/-- Samples aggregated by group keys. -/
def groupStage (c : Context) (lookup : SeriesLookup) (time : TimeColumn) (value : Sql)
    (grouping : Grouping) : Stage :=
  .samples c.range (.tags c.tags) time value lookup grouping (.tags (c.ordered c.tags))

/-- The greatest value of every series in an interval, with the group keys. -/
def seriesMaxStage (c : Context) (lookup : SeriesLookup) (seconds : Int) : Stage :=
  .samples c.range (.seriesTags c.tags) (.interval seconds) (Sql.raw "max(value)") lookup
    (.seriesTags c.tags) (.seriesTags (c.ordered c.tags))

/-- The quantile over the buckets of `source`, which is grouped by the bucket bound. -/
def quantileStage (c : Context) (q : Quantile) (time : TimeColumn) (source : Stage) : Stage :=
  .across c.outerTags time (quantileSql q) source (.tags c.outerTags) false
    (.tags (c.ordered c.outerTags))

/-- An operator without a rate, or the fault that it is none. -/
def plainStage (c : Context) (lookup : SeriesLookup) (time : TimeColumn) (grouping : Grouping) :
    Except Fault Stage :=
  match plainValue? c.query.aggregateOperator with
  | some value => .ok (c.groupStage lookup time value grouping)
  | none => .error (.aggregateUnsupported c.query.aggregateOperator)

/-- Totals since a start: rates are differences between intervals. -/
def totalsStage (c : Context) : Except Fault Stage := do
  let lookup ← c.lookup
  let time := TimeColumn.interval c.step
  let order := Ordering.tags (c.ordered c.tags)
  match c.query.aggregateOperator with
  | .rate =>
    return .rates .renamedLabels .carried c.perMinute true
      (.samples c.range .anyLabels time (Sql.raw "max(value)") lookup .series .series)
  | .ofRate f =>
    return .across c.tags .carried (ofValue f)
      (.rates (.tags c.tags) .carried c.perMinute false (c.seriesMaxStage lookup c.step))
      (.sets c.tags) false order
  | .rateOf f =>
    return .rates (.tags c.tags) .carried c.perMinute false
      (c.groupStage lookup time (ofValue f) (.sets c.tags))
  | .histogramQuantile q =>
    return c.quantileStage q .carried
      (.across c.tags .carried (ofValue .sum)
        (.rates (.tags c.tags) .carried c.perMinute true (c.seriesMaxStage lookup c.step))
        (.sets c.tags) true order)
  | .noop => return c.noopStage lookup time
  | _ => c.plainStage lookup time (.sets c.tags)

/-- Increments: rates are sums divided by `seconds`. -/
def incrementsStage (c : Context) (time : TimeColumn) (seconds : Int) (grouping : Grouping) :
    Except Fault Stage := do
  let lookup ← c.lookup
  let divisor := divisorSql seconds c.perMinute
  match c.query.aggregateOperator with
  | .rate =>
    return .samples c.range .anyFullLabels time (dividedBy (ofValue .sum) divisor) lookup .series
      .series
  | .ofRate f | .rateOf f =>
    return c.groupStage lookup time (dividedBy (ofValue f) divisor) grouping
  | .histogramQuantile q =>
    return c.quantileStage q .carried
      (c.groupStage lookup time (dividedBy (ofValue .sum) divisor) (.tags c.tags))
  | .noop => return c.noopStage lookup time
  | _ => c.plainStage lookup time grouping

/-- Increments in intervals. -/
def incrementsGraph (c : Context) : Except Fault Stage :=
  c.incrementsStage (.interval c.step) c.step (.sets c.tags)

/-- Increments over the whole range. -/
def incrementsTable (c : Context) : Except Fault Stage :=
  if c.query.aggregateOperator = .noop then .error .noopOnTable
  else c.incrementsStage .hour c.seconds (.tags c.tags)

/-- Seconds between the points a table is computed from: about a hundred and twenty points, a minute
apart at least, five times fewer beyond half an hour. -/
def tableStep (seconds : Int) : Int :=
  let step := max (seconds.tdiv 120) 60
  if 1800 < seconds then step * 5 else step

/-- Totals over the whole range: rates are averaged over its points. -/
def totalsTable (c : Context) : Except Fault Stage := do
  let step := tableStep c.seconds
  let points : Sql := [.int (max (c.seconds.tdiv step) 1)]
  let lookup ← c.lookup
  let order := Ordering.tags (c.ordered c.tags)
  match c.query.aggregateOperator with
  | .rate => .error .rateOnTable
  | .noop => .error .noopOnTable
  | .ofRate f =>
    return .across c.tags .hour (dividedBy (ofValue f) points)
      (.rates (.tags c.tags) .carried c.perMinute false (c.seriesMaxStage lookup step))
      (.tags c.tags) false order
  | .rateOf f =>
    return .rates (.tags c.tags) .hour c.perMinute false
      (c.groupStage lookup (.interval (max (c.seconds.tdiv 2) 1)) (ofValue f) (.tags c.tags))
  | .histogramQuantile q =>
    return c.quantileStage q .hour
      (.across c.tags .hour (dividedBy (ofValue .sum) points)
        (.rates (.tags c.tags) .carried c.perMinute true (c.seriesMaxStage lookup step))
        (.tags c.tags) true order)
  | _ => c.plainStage lookup .hour (.tags c.tags)

/-! ## Time and space aggregation -/

/-- The function over series; quantiles are approximate ones. -/
def spaceFunction : SpaceAggregation → String
  | .function f => f.word
  | .count => "count"
  | .percentile q => "quantile(" ++ q.fraction ++ ")"

/-- Rates of increments need no window, only a division by the step. -/
def tierValue (c : Context) (aggregation : TimeAggregation) (column : String) : Sql :=
  if aggregation = .rate ∧ c.query.temporality = .delta then
    dividedBy (Sql.raw column) (divisorSql c.step c.perMinute)
  else Sql.raw column

/-- Every series of the tier by itself, counters as rates or increases. -/
def seriesStage (c : Context) (aggregation : TimeAggregation) : Except Fault Stage := do
  if c.query.metricType = .exponentialHistogram then .error .exponentialHistogram
  let tier := Tier.select c.first c.last c.query.temporality (aggregation == .countDistinct) false
  let lookup := SeriesLookup.tiered c.metric tier c.tags (← labelConditions c.query.filterItems)
  let value := c.tierValue aggregation (← tier.valueColumn aggregation)
  let series := Stage.series tier c.metric c.tags c.step value lookup
  return if aggregation.isRateLike && c.query.temporality != .delta then
      .counter c.tags (aggregation == .increase) c.perMinute series
    else series

/-- The series of a tier, aggregated over space. -/
def tieredStage (c : Context) (aggregation : TimeAggregation) : Except Fault Stage := do
  let series ← c.seriesStage aggregation
  let space := c.query.spaceAggregation.getD (.function .sum)
  let order := Ordering.spacedTags (c.ordered c.tags)
  match c.query.metricType, space with
  | .histogram, .percentile q =>
    return .quantile c.outerTags q
      (.space c.tags "sum" series (.tags c.tags) order)
      (.spacedTags (c.ordered c.outerTags))
  | _, _ =>
    return .space c.tags (spaceFunction space) series
      (if c.tags.isEmpty then .time else .sets c.tags) order

end Context

/-- The stage that computes a query on a panel. -/
def Context.stage (c : Context) (panel : Panel) : Except Fault Stage :=
  match c.query.timeAggregation, c.query.temporality, panel with
  | some aggregation, _, _ => c.tieredStage aggregation
  | none, .delta, .table => c.incrementsTable
  | none, .delta, _ => c.incrementsGraph
  | none, _, .table => c.totalsTable
  | none, _, _ => c.totalsStage

end PanelQuery.Metrics

namespace PanelQuery

open Metrics

/-- Plain samples and rates are told apart by series also after a reduction. -/
def Query.reducing (q : Query) (panel : Panel) : Option Reducing :=
  if panel = .value then
    some ⟨q.reduceTo, q.aggregateOperator == .noop || q.aggregateOperator == .rate⟩
  else none

/-- The statement of a metrics query. -/
def Query.metricsStatement (q : Query) (start stop : Int) (panel : Panel) (perMinute : Bool) :
    Except Fault MetricsStatement := do
  if q.aggregateAttribute.name = "" then .error .metricNameRequired
  else if panel = .list then .error .metricsOnList
  else if panel ≠ .table ∧ q.stepInterval.toInt ≤ 0 then
    .error (.stepNotPositive q.stepInterval.toInt)
  else
    let context ← Context.ofQuery q (Epoch.millis start) (Epoch.millis stop) perMinute
    return ⟨← context.stage panel, q.having, q.reducing panel⟩

end PanelQuery
