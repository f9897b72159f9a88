import PanelQuery.Metrics.Lookup
import PanelQuery.Statement.Having

/-!
Metrics statements as stages. A stage reads samples or another stage and gives one row per key and
instant: `samples` and `series` read a table joined with a series lookup, the others work on the
stage below them. `Stage.columns` names what a stage gives, `Stage.sql` writes it.
-/

namespace PanelQuery.Metrics

open Sql (Direction)

/-- The label with the upper bound of a histogram bucket. -/
def leTag : String := "le"

def tagSql (tag : String) : Sql := [.name tag]

def tagList (sep : String) (tags : List String) : Sql := Sql.join sep (tags.map tagSql)

/-! ## Columns in front of the time -/

/-- The columns by which the rows of a stage are told apart, as they stand in the select list. -/
inductive Lead where
  /-- Group keys. -/
  | tags (keys : List String)
  /-- Group keys of single series. -/
  | seriesTags (keys : List String)
  /-- Group keys, each followed by a comma and a blank. -/
  | spacedTags (keys : List String)
  /-- Group keys of single series, one of the values of each. -/
  | anyTags (keys : List String)
  /-- The labels of single series, one of the values. -/
  | anyLabels
  /-- The same under the name of the result. -/
  | anyFullLabels
  /-- The labels of single series under the name of the result. -/
  | fullLabels
  /-- The labels under the name of the result, without the fingerprint. -/
  | renamedLabels
  deriving DecidableEq, Repr

namespace Lead

def columns : Lead → List String
  | .tags keys | .spacedTags keys => keys
  | .seriesTags keys | .anyTags keys => "fingerprint" :: keys
  | .anyLabels => ["labels", "fingerprint"]
  | .anyFullLabels | .fullLabels => ["fingerprint", "fullLabels"]
  | .renamedLabels => ["fullLabels"]

/-- Group keys separated by commas, with a comma and a blank at the end. -/
def groupSelect (keys : List String) : Sql :=
  if keys.isEmpty then [] else tagList "," keys ++ Sql.raw ", "

def sql : Lead → Sql
  | .tags keys => groupSelect keys ++ Sql.raw " "
  | .seriesTags keys => Sql.raw "fingerprint, " ++ groupSelect keys ++ Sql.raw " "
  | .spacedTags keys => keys.flatMap fun tag => tagSql tag ++ Sql.raw ", "
  | .anyTags keys =>
    Sql.raw "fingerprint, " ++ Sql.join " " (keys.map fun tag =>
      Sql.raw "any(" ++ tagSql tag ++ Sql.raw ") as " ++ tagSql tag ++ Sql.raw ",") ++ Sql.raw " "
  | .anyLabels => Sql.raw "any(labels) as labels, fingerprint, "
  | .anyFullLabels => Sql.raw "fingerprint, any(labels) as fullLabels, "
  | .fullLabels => Sql.raw "fingerprint, labels as fullLabels, "
  | .renamedLabels => Sql.raw "labels as fullLabels, "

end Lead

/-! ## Time, grouping and order -/

/-- The time column of a stage. -/
inductive TimeColumn where
  /-- The time of the stage below. -/
  | carried
  /-- The start of an interval of that many seconds, from milliseconds. -/
  | interval (seconds : Int)
  /-- The same from the time column of the tiered samples. -/
  | tierInterval (seconds : Int)
  /-- One instant for a whole table. -/
  | hour
  deriving DecidableEq, Repr

/-- The start of the interval around the milliseconds in `column`. -/
def intervalSql (column : String) (seconds : Int) : Sql :=
  Sql.raw ("toStartOfInterval(toDateTime(intDiv(" ++ column ++ ", 1000)), INTERVAL ")
    ++ [.int seconds] ++ Sql.raw " SECOND)"

def TimeColumn.sql : TimeColumn → Sql
  | .carried => Sql.raw "ts"
  | .interval seconds => intervalSql "timestamp_ms" seconds ++ Sql.raw " as ts"
  | .tierInterval seconds => intervalSql "unix_milli" seconds ++ Sql.raw " as ts"
  | .hour => Sql.raw "toStartOfHour(now()) as ts"

inductive Grouping where
  | time
  | tags (keys : List String)
  | sets (keys : List String)
  | series
  | seriesTags (keys : List String)
  | labels
  deriving DecidableEq, Repr

namespace Grouping

/-- The columns a stage is grouped by. -/
def columns : Grouping → List String
  | .time => ["ts"]
  | .tags keys | .sets keys => keys ++ ["ts"]
  | .series => ["fingerprint", "ts"]
  | .seriesTags keys => "fingerprint" :: keys ++ ["ts"]
  | .labels => ["fingerprint", "labels", "ts"]

/-- Group keys and time, separated by commas. -/
def tagsAndTime (sep : String) (keys : List String) : Sql :=
  Sql.join sep (keys.map tagSql ++ [Sql.raw "ts"])

def sql : Grouping → Sql
  | .time => Sql.raw "ts"
  | .tags keys => tagsAndTime "," keys
  | .sets keys =>
    Sql.raw "GROUPING SETS ( (" ++ tagsAndTime ", " keys ++ Sql.raw "), (" ++ tagList ", " keys
      ++ Sql.raw ") )"
  | .series => Sql.raw "fingerprint, ts"
  | .seriesTags keys => Sql.raw "fingerprint, " ++ tagsAndTime "," keys
  | .labels => Sql.raw "fingerprint, labels, ts"

end Grouping

/-- A group key with the direction of its order. -/
structure OrderedTag where
  tag : String
  direction : Direction

namespace OrderedTag

def sql (t : OrderedTag) : Sql := [.name t.tag, .fixed " ", .direction t.direction]

/-- Keys separated by commas, with a comma at the end. -/
def listSql (tags : List OrderedTag) : Sql :=
  if tags.isEmpty then [] else Sql.join "," (tags.map sql) ++ Sql.raw ","

end OrderedTag

inductive Ordering where
  | tags (keys : List OrderedTag)
  | series
  | seriesTags (keys : List OrderedTag)
  | labels
  | spacedTags (keys : List OrderedTag)

namespace Ordering

def columns : Ordering → List String
  | .tags keys | .spacedTags keys => keys.map (·.tag) ++ ["ts"]
  | .series => ["fingerprint", "ts"]
  | .seriesTags keys => "fingerprint" :: keys.map (·.tag) ++ ["ts"]
  | .labels => ["fingerprint", "labels", "ts"]

def sql : Ordering → Sql
  | .tags keys => OrderedTag.listSql keys ++ Sql.raw " ts"
  | .series => Sql.raw "fingerprint,  ts"
  | .seriesTags keys => Sql.raw "fingerprint, " ++ OrderedTag.listSql keys ++ Sql.raw " ts"
  | .labels => Sql.raw "fingerprint, labels, ts"
  | .spacedTags keys => Sql.join ", " (keys.map OrderedTag.sql ++ [Sql.raw "ts ASC"])

end Ordering

/-! ## Values -/

/-- The rate between neighbouring instants; after a reset the value itself counts. -/
def rateSql (perMinute : Bool) : Sql :=
  let value := if perMinute then "value*60" else "value"
  Sql.raw ("if(runningDifference(ts) <= 0, nan, if(runningDifference(value) < 0, (" ++ value
    ++ ") / runningDifference(ts), runningDifference(" ++ value
    ++ ") / runningDifference(ts))) ")

/-- What increments are divided by to give a rate. -/
def divisorSql (seconds : Int) (perMinute : Bool) : Sql :=
  if perMinute then [.float (Decimal.floatOfInt seconds / 60)] else [.int seconds]

def quantileSql (q : Quantile) : Sql :=
  Sql.raw ("histogramQuantile(arrayMap(x -> toFloat64(x), groupArray(le)), groupArray(value), "
    ++ q.fraction ++ ")")

/-- The difference of a column to the row before it in the window. -/
def windowDelta (column zero : String) : String :=
  "(" ++ column ++ " - lagInFrame(" ++ column ++ ", 1, " ++ zero ++ ") OVER rate_window)"

/-- Gaps of at least this many seconds in a counter are missing data. -/
def maxRateGapSeconds : String := "86400"

/-- Rate or increase of a counter; resets and long gaps give no number. -/
def counterSql (increase perMinute : Bool) : Sql :=
  let value := windowDelta "per_series_value" "0"
  let time := windowDelta "ts" "toDate('1970-01-01')"
  let result :=
    if increase then value
    else if perMinute then "(" ++ value ++ " * 60) / " ++ time
    else value ++ " / " ++ time
  Sql.raw ("If(" ++ value ++ " < 0, nan, If(" ++ time ++ " >= " ++ maxRateGapSeconds ++ ", nan, "
    ++ result ++ "))")

/-! ## Stages -/

/-- The rows of one metric in a range of milliseconds. -/
structure SampleRange where
  metric : String
  first : Int
  last : Int

def samplesTable : String := "signoz_metrics.distributed_samples_v2"

inductive Stage where
  /-- Samples of the single table, joined with a lookup. -/
  | samples (range : SampleRange) (lead : Lead) (time : TimeColumn) (value : Sql)
      (lookup : SeriesLookup) (grouping : Grouping) (order : Ordering)
  /-- Rates between neighbouring rows. -/
  | rates (lead : Lead) (time : TimeColumn) (perMinute wide : Bool) (source : Stage)
  /-- An aggregate over the rows of a group. -/
  | across (tags : List String) (time : TimeColumn) (value : Sql) (source : Stage)
      (grouping : Grouping) (dropNaN : Bool) (order : Ordering)
  /-- Samples of a tier, aggregated per series, joined with a lookup. -/
  | series (tier : Tier) (metric : String) (tags : List String) (step : Int) (value : Sql)
      (lookup : SeriesLookup)
  /-- Rate or increase of counters, over a window of two rows. -/
  | counter (tags : List String) (increase perMinute : Bool) (source : Stage)
  /-- An aggregate over series. -/
  | space (tags : List String) (function : String) (source : Stage) (grouping : Grouping)
      (order : Ordering)
  /-- A quantile over the buckets of a histogram. -/
  | quantile (tags : List String) (q : Quantile) (source : Stage) (order : Ordering)

namespace Stage

/-- The columns of a stage's result. -/
def columns : Stage → List String
  | .samples _ lead _ _ _ _ _ => lead.columns ++ ["ts", "value"]
  | .rates lead _ _ _ _ => lead.columns ++ ["ts", "value"]
  | .across tags _ _ _ _ _ _ => tags ++ ["ts", "value"]
  | .series _ _ tags _ _ _ => "fingerprint" :: tags ++ ["ts", "per_series_value"]
  | .counter tags _ _ _ => tags ++ ["ts", "per_series_value"]
  | .space tags _ _ _ _ => tags ++ ["ts", "value"]
  | .quantile tags _ _ _ => tags ++ ["ts", "value"]

def joinSql (table : String) (lookup : SeriesLookup) : Sql :=
  Sql.raw (" FROM " ++ table ++ " INNER JOIN (") ++ lookup.sql
    ++ Sql.raw ") as filtered_time_series USING fingerprint WHERE "

def rangeSql (range : SampleRange) : Sql :=
  Sql.raw "metric_name = " ++ Sql.literal range.metric ++ Sql.raw " AND timestamp_ms >= "
    ++ [.int range.first] ++ Sql.raw " AND timestamp_ms <= " ++ [.int range.last]

def sql : Stage → Sql
  | .samples range lead time value lookup grouping order =>
    Sql.raw "SELECT " ++ lead.sql ++ time.sql ++ Sql.raw ", " ++ value ++ Sql.raw " as value"
      ++ joinSql samplesTable lookup ++ rangeSql range ++ Sql.raw " GROUP BY " ++ grouping.sql
      ++ Sql.raw " ORDER BY " ++ order.sql
  | .rates lead time perMinute wide source =>
    Sql.raw "SELECT " ++ lead.sql ++ time.sql ++ Sql.raw ", " ++ rateSql perMinute
      ++ Sql.raw (if wide then " as value FROM(" else "as value FROM(") ++ source.sql
      ++ Sql.raw ") WHERE isNaN(value) = 0"
  | .across tags time value source grouping dropNaN order =>
    Sql.raw "SELECT " ++ (Lead.tags tags).sql ++ time.sql ++ Sql.raw ", " ++ value
      ++ Sql.raw " as value FROM (" ++ source.sql ++ Sql.raw ") GROUP BY " ++ grouping.sql
      ++ Sql.raw (if dropNaN then " HAVING isNaN(value) = 0 ORDER BY " else " ORDER BY ")
      ++ order.sql
  | .series tier metric tags step value lookup =>
    Sql.raw "SELECT " ++ (Lead.anyTags tags).sql ++ (TimeColumn.tierInterval step).sql
      ++ Sql.raw ", " ++ value ++ Sql.raw " as per_series_value"
      ++ joinSql tier.samples.name lookup
      ++ Sql.raw "metric_name = " ++ Sql.literal metric ++ Sql.raw " AND unix_milli >= "
      ++ [.int tier.samplesStart] ++ Sql.raw " AND unix_milli < " ++ [.int tier.stop]
      ++ Sql.raw " GROUP BY fingerprint, ts ORDER BY fingerprint, ts"
  | .counter tags increase perMinute source =>
    Sql.raw "SELECT " ++ (Lead.spacedTags tags).sql ++ Sql.raw "ts, "
      ++ counterSql increase perMinute ++ Sql.raw " as per_series_value FROM (" ++ source.sql
      ++ Sql.raw (") WINDOW rate_window as (PARTITION BY fingerprint "
        ++ "ORDER BY fingerprint, ts)")
  | .space tags function source grouping order =>
    Sql.raw "SELECT " ++ (Lead.spacedTags tags).sql ++ Sql.raw ("ts, " ++ function
      ++ "(per_series_value) as value FROM (") ++ source.sql
      ++ Sql.raw ") WHERE isNaN(per_series_value) = 0 GROUP BY " ++ grouping.sql
      ++ Sql.raw " ORDER BY " ++ order.sql
  | .quantile tags q source order =>
    Sql.raw "SELECT " ++ (Lead.spacedTags tags).sql ++ Sql.raw "ts, " ++ quantileSql q
      ++ Sql.raw " as value FROM (" ++ source.sql ++ Sql.raw ") GROUP BY "
      ++ (Grouping.tags tags).sql ++ Sql.raw " ORDER BY " ++ order.sql

end Stage

/-! ## Statements -/

/-- How a value panel reduces a statement. -/
structure Reducing where
  kind : ReduceTo
  perSeries : Bool
  deriving DecidableEq, Repr

namespace Reducing

def function : ReduceTo → String
  | .last => "anyLastIf"
  | .sum => "sumIf"
  | .avg => "avgIf"
  | .max => "maxIf"
  | .min => "minIf"

/-- The columns that the reduction reads from the statement inside. -/
def reads (r : Reducing) : List String :=
  ["value", "ts"] ++ if r.perSeries then ["fullLabels", "fingerprint"] else []

def sql (r : Reducing) (inner : Sql) : Sql :=
  Sql.raw ("SELECT " ++ function r.kind ++ "(value, toUnixTimestamp(ts) != 0) as value, "
    ++ "anyIf(ts, toUnixTimestamp(ts) != 0) AS timestamp "
    ++ (if r.perSeries then ", any(fullLabels) as fullLabels" else "") ++ " FROM (") ++ inner
    ++ Sql.raw (if r.perSeries then ") GROUP BY fingerprint" else ") ")

end Reducing

/-- A metrics statement: a stage, conditions on its value, and a reduction. -/
structure MetricsStatement where
  stage : Stage
  having : List Having
  reducing : Option Reducing

namespace MetricsStatement

/-- The stage with the conditions on its value. -/
def filteredSql (s : MetricsStatement) : Sql :=
  if s.having.isEmpty then s.stage.sql
  else Sql.raw "SELECT * FROM (" ++ s.stage.sql ++ Sql.raw ") HAVING "
    ++ havingConditions s.having

def sql (s : MetricsStatement) : Sql :=
  match s.reducing with
  | some r => r.sql s.filteredSql
  | none => s.filteredSql

end MetricsStatement

end PanelQuery.Metrics
