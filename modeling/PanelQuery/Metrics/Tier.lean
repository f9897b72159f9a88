import PanelQuery.Error

/-!
Which tables serve a metrics query, by the length of its range. Series identities are kept in
buckets from an hour to a week, samples raw or rolled up. The start is moved down to the bucket that
holds it, so nothing inside the range is lost; distinct counts and exponential histograms are never
served from rollups.
-/

namespace PanelQuery.Metrics

def hourMs : Int := 60 * 60 * 1000
def dayMs : Int := 24 * hourMs
def weekMs : Int := 7 * dayMs

inductive SeriesTable where
  | hourly | sixHourly | daily | weekly
  deriving DecidableEq, Repr

namespace SeriesTable

def name : SeriesTable → String
  | .hourly => "signoz_metrics.time_series_v4"
  | .sixHourly => "signoz_metrics.time_series_v4_6hrs"
  | .daily => "signoz_metrics.time_series_v4_1day"
  | .weekly => "signoz_metrics.time_series_v4_1week"

def bucketMs : SeriesTable → Int
  | .hourly => hourMs
  | .sixHourly => 6 * hourMs
  | .daily => dayMs
  | .weekly => weekMs

/-- The table for a range of `length` milliseconds. -/
def ofLength (length : Int) : SeriesTable :=
  if length < 6 * hourMs then .hourly
  else if length < dayMs then .sixHourly
  else if length < weekMs then .daily
  else .weekly

end SeriesTable

inductive SamplesTable where
  | raw | fiveMinute | thirtyMinute | exponentialHistogram
  deriving DecidableEq, Repr

namespace SamplesTable

def name : SamplesTable → String
  | .raw => "signoz_metrics.distributed_samples_v4"
  | .fiveMinute => "signoz_metrics.distributed_samples_v4_agg_5m"
  | .thirtyMinute => "signoz_metrics.distributed_samples_v4_agg_30m"
  | .exponentialHistogram => "signoz_metrics.distributed_exp_hist"

/-- The bucket of a rollup. -/
def bucketMs? : SamplesTable → Option Int
  | .fiveMinute => some (5 * 60 * 1000)
  | .thirtyMinute => some (30 * 60 * 1000)
  | .raw | .exponentialHistogram => none

def isRollup (t : SamplesTable) : Bool := t.bucketMs?.isSome

/-- The table for a range of `length` milliseconds. -/
def ofLength (length : Int) (distinct exponential : Bool) : SamplesTable :=
  if exponential then .exponentialHistogram
  else if distinct then .raw
  else if length < dayMs then .raw
  else if length < weekMs then .fiveMinute
  else .thirtyMinute

end SamplesTable

/-- The start of the bucket that holds `t`. -/
def floorTo (t bucket : Int) : Int := t - t % bucket

/-- The tables of one query and where reading starts in each of them. -/
structure Tier where
  temporality : Temporality
  series : SeriesTable
  seriesStart : Int
  samples : SamplesTable
  samplesStart : Int
  stop : Int
  deriving DecidableEq, Repr

namespace Tier

def select (start stop : Int) (temporality : Temporality) (distinct exponential : Bool) : Tier :=
  let series := SeriesTable.ofLength (stop - start)
  let samples := SamplesTable.ofLength (stop - start) distinct exponential
  { temporality, series, samples, stop
    seriesStart := floorTo start series.bucketMs
    samplesStart := match samples.bucketMs? with
      | some bucket => floorTo start bucket
      | none => start }

/-- The aggregation of one series over the selected samples. -/
def valueColumn (t : Tier) (aggregation : TimeAggregation) : Except Fault String :=
  let rollup := t.samples.isRollup
  match aggregation with
  | .latest => .ok (if rollup then "anyLast(last)" else "anyLast(value)")
  | .sum => .ok (if rollup then "sum(sum)" else "sum(value)")
  | .avg => .ok (if rollup then "sum(sum) / sum(count)" else "avg(value)")
  | .min => .ok (if rollup then "min(min)" else "min(value)")
  | .max => .ok (if rollup then "max(max)" else "max(value)")
  | .count => .ok (if rollup then "sum(count)" else "count(value)")
  | .countDistinct =>
    if rollup then .error .distinctFromRollup else .ok "countDistinct(value)"
  | .rate | .increase =>
    match t.temporality with
    | .delta => .ok (if rollup then "sum(sum)" else "sum(value)")
    | .cumulative => .ok (if rollup then "max(max)" else "max(value)")
    | .unspecified => .error .rateWithoutTemporality

end Tier

end PanelQuery.Metrics
