/-!
The aggregations a query may ask for, and what each one is: a plain function, a quantile, a rate,
or one of the two ways to combine a function with a rate.
-/

namespace PanelQuery

/-- Functions that aggregate by themselves or together with a rate. -/
inductive Reduction where
  | sum | avg | min | max
  deriving DecidableEq, Repr

def Reduction.word : Reduction → String
  | .sum => "sum"
  | .avg => "avg"
  | .min => "min"
  | .max => "max"

inductive Percentile where
  | p05 | p10 | p20 | p25 | p50 | p75 | p90 | p95 | p99
  deriving DecidableEq, Repr

namespace Percentile

def word : Percentile → String
  | .p05 => "p05"
  | .p10 => "p10"
  | .p20 => "p20"
  | .p25 => "p25"
  | .p50 => "p50"
  | .p75 => "p75"
  | .p90 => "p90"
  | .p95 => "p95"
  | .p99 => "p99"

/-- The fraction as it is written into a statement. -/
def fraction : Percentile → String
  | .p05 => "0.05"
  | .p10 => "0.1"
  | .p20 => "0.2"
  | .p25 => "0.25"
  | .p50 => "0.5"
  | .p75 => "0.75"
  | .p90 => "0.9"
  | .p95 => "0.95"
  | .p99 => "0.99"

def all : List Percentile := [.p05, .p10, .p20, .p25, .p50, .p75, .p90, .p95, .p99]

end Percentile

/-- Quantiles over histogram buckets. -/
inductive Quantile where
  | q50 | q75 | q90 | q95 | q99
  deriving DecidableEq, Repr

namespace Quantile

def percent : Quantile → String
  | .q50 => "50"
  | .q75 => "75"
  | .q90 => "90"
  | .q95 => "95"
  | .q99 => "99"

/-- The fraction with three places, as it is written into a statement. -/
def fraction : Quantile → String
  | .q50 => "0.500"
  | .q75 => "0.750"
  | .q90 => "0.900"
  | .q95 => "0.950"
  | .q99 => "0.990"

def all : List Quantile := [.q50, .q75, .q90, .q95, .q99]

end Quantile

/-- The aggregate of a query. `ofRate f` aggregates the rates of the series, `rateOf f` takes the
rate of the aggregate. -/
inductive AggregateOperator where
  | noop
  | count
  | countDistinct
  | plain (f : Reduction)
  | percentile (p : Percentile)
  | rate
  | ofRate (f : Reduction)
  | rateOf (f : Reduction)
  | histogramQuantile (q : Quantile)
  deriving DecidableEq, Repr

namespace AggregateOperator

def word : AggregateOperator → String
  | .noop => "noop"
  | .count => "count"
  | .countDistinct => "count_distinct"
  | .plain f => f.word
  | .percentile p => p.word
  | .rate => "rate"
  | .ofRate f => f.word ++ "_rate"
  | .rateOf f => "rate_" ++ f.word
  | .histogramQuantile q => "hist_quantile_" ++ q.percent

def all : List AggregateOperator :=
  let functions : List Reduction := [.sum, .avg, .min, .max]
  [.noop, .count, .countDistinct, .rate] ++ functions.map .plain ++ Percentile.all.map .percentile
    ++ functions.map .ofRate ++ functions.map .rateOf ++ Quantile.all.map .histogramQuantile

/-- The fraction of a percentile operator. -/
def percentileFraction : AggregateOperator → Option String
  | .percentile p => some p.fraction
  | _ => none

/-- The fraction of a histogram operator. -/
def quantileFraction : AggregateOperator → Option String
  | .histogramQuantile q => some q.fraction
  | _ => none

/-- The function applied by the plain operators and by those combined with a rate. -/
def function? : AggregateOperator → Option Reduction
  | .plain f | .ofRate f | .rateOf f => some f
  | _ => none

def isAggregateOfRate : AggregateOperator → Bool
  | .ofRate _ => true
  | _ => false

def isRateOfAggregate : AggregateOperator → Bool
  | .rateOf _ => true
  | _ => false

/-- The aggregated attribute must be present in a row; percentiles do not ask for that. -/
def guardsAttribute : AggregateOperator → Bool
  | .percentile _ | .noop => false
  | _ => true

end AggregateOperator

/-! ## Metrics -/

inductive TimeAggregation where
  | latest | sum | avg | min | max | count | countDistinct | rate | increase
  deriving DecidableEq, Repr

namespace TimeAggregation

def word : TimeAggregation → String
  | .latest => "latest"
  | .sum => "sum"
  | .avg => "avg"
  | .min => "min"
  | .max => "max"
  | .count => "count"
  | .countDistinct => "count_distinct"
  | .rate => "rate"
  | .increase => "increase"

def all : List TimeAggregation :=
  [.latest, .sum, .avg, .min, .max, .count, .countDistinct, .rate, .increase]

def isRateLike : TimeAggregation → Bool
  | .rate | .increase => true
  | _ => false

end TimeAggregation

inductive SpaceAggregation where
  | function (f : Reduction)
  | count
  | percentile (q : Quantile)
  deriving DecidableEq, Repr

namespace SpaceAggregation

def word : SpaceAggregation → String
  | .function f => f.word
  | .count => "count"
  | .percentile q => "percentile" ++ q.percent

def all : List SpaceAggregation :=
  [.function .sum, .function .avg, .function .min, .function .max, .count]
    ++ Quantile.all.map .percentile

def quantile? : SpaceAggregation → Option Quantile
  | .percentile q => some q
  | _ => none

end SpaceAggregation

/-- Whether samples are totals since a start or increments. -/
inductive Temporality where
  | unspecified | delta | cumulative
  deriving DecidableEq, Repr

def Temporality.word : Temporality → String
  | .unspecified => "Unspecified"
  | .delta => "Delta"
  | .cumulative => "Cumulative"

def Temporality.all : List Temporality := [.unspecified, .delta, .cumulative]

inductive MetricType where
  | unspecified | sum | gauge | histogram | exponentialHistogram
  deriving DecidableEq, Repr

def MetricType.word : MetricType → String
  | .unspecified => ""
  | .sum => "sum"
  | .gauge => "gauge"
  | .histogram => "histogram"
  | .exponentialHistogram => "exponential_histogram"

def MetricType.all : List MetricType :=
  [.unspecified, .sum, .gauge, .histogram, .exponentialHistogram]

/-- How a series becomes one value. -/
inductive ReduceTo where
  | last | sum | avg | max | min
  deriving DecidableEq, Repr

def ReduceTo.word : ReduceTo → String
  | .last => "last"
  | .sum => "sum"
  | .avg => "avg"
  | .max => "max"
  | .min => "min"

def ReduceTo.all : List ReduceTo := [.last, .sum, .avg, .max, .min]

end PanelQuery
