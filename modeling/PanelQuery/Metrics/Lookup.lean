import PanelQuery.Filter.Test
import PanelQuery.Metrics.Tier
import PanelQuery.Query.Basic
import PanelQuery.Sql.Condition
import PanelQuery.Sql.Value

/-!
The lookup of metric series: which fingerprints have the metric, the temporality and labels that
pass the filters, and which labels come along.
-/

namespace PanelQuery.Metrics

open Sql (Condition)

/-- The value of a label. -/
def labelSql (key : String) : Sql :=
  Sql.raw "JSONExtractString(labels, " ++ Sql.literal key ++ Sql.raw ")"

/-- A function of a label and a literal. -/
def labelCall (function : String) (key : String) (literal : Sql) : Sql :=
  Sql.raw (function ++ "(") ++ labelSql key ++ Sql.raw ", " ++ literal ++ Sql.raw ")"

/-- The value a pattern is matched against: of an array its first item, if it has one. -/
def patternValue? : FilterValue → Option FilterValue
  | .array items => items.head?
  | v => some v

/-- The predicate of a test on the label `key`; a pattern from an empty array says nothing. -/
def labelPredicate? (key : String) : Test → Option Sql
  | .compare c v => some (labelSql key ++ Sql.raw (" " ++ c.word ++ " ") ++ v.literal)
  | .member negated items =>
    some (labelSql key ++ Sql.raw (if negated then " NOT IN " else " IN ")
      ++ (FilterValue.array items).literal)
  | .like negated v => (patternValue? v).map fun v =>
    labelCall (if negated then "notLike" else "like") key v.literal
  | .contains negated v =>
    some (labelCall (if negated then "notLike" else "like") key (v.pattern true))
  | .regex negated v => (patternValue? v).map fun v =>
    labelCall (if negated then "not match" else "match") key v.literal
  | .presence negated =>
    some (Sql.raw ((if negated then "not " else "") ++ "has(JSONExtractKeys(labels), ")
      ++ Sql.literal key ++ Sql.raw ")")
  | .has .. => none

/-- The condition of a filter item on a metric label. -/
def labelCondition (item : FilterItem) : Except Fault (Option Sql) := do
  match ← item.test with
  | .has .. => .error (.labelOperator item.op)
  | test => return labelPredicate? item.key.name test

/-- The conditions of all items, in order. -/
def labelConditions (items : List FilterItem) : Except Fault (List Condition) := do
  return ((← items.mapM labelCondition).filterMap id).map .atom

/-! ## Lookups -/

/-- The labels that a lookup passes on with each fingerprint. -/
inductive LookupLabels where
  | all
  | keys (names : List String)
  deriving DecidableEq, Repr

/-- The names of the columns besides the fingerprint. -/
def LookupLabels.columns : LookupLabels → List String
  | .all => ["labels"]
  | .keys names => names

inductive SeriesLookup where
  /-- Over the single table of series. -/
  | single (metric : String) (delta : Bool) (labels : LookupLabels) (conditions : List Condition)
  /-- Over the table of series chosen for a range. -/
  | tiered (metric : String) (tier : Tier) (keys : List String) (conditions : List Condition)

namespace SeriesLookup

def singleTable : String := "signoz_metrics.time_series_v2"

def metricCondition (metric : String) : Condition :=
  .atom (Sql.raw "metric_name = " ++ Sql.literal metric)

def conditions : SeriesLookup → List Condition
  | .single metric delta _ conditions =>
    [metricCondition metric,
      .atom (Sql.raw (if delta then "temporality = 'Delta' "
        else "temporality IN ['Cumulative', 'Unspecified']"))] ++ conditions
  | .tiered metric tier _ conditions =>
    [metricCondition metric,
      .atom (Sql.raw ("temporality = '" ++ tier.temporality.word ++ "'")),
      .atom (Sql.raw "unix_milli >= " ++ [.int tier.seriesStart]),
      .atom (Sql.raw "unix_milli < " ++ [.int tier.stop])] ++ conditions

def selectSql : SeriesLookup → Sql
  | .single _ _ .all _ => Sql.raw "SELECT labels,"
  | .single _ _ (.keys names) _ =>
    Sql.raw "SELECT " ++ names.flatMap fun name =>
      Sql.raw " " ++ labelSql name ++ [.fixed " as ", .name name, .fixed ","]
  | .tiered _ _ names _ =>
    Sql.raw "SELECT DISTINCT " ++ names.flatMap fun name =>
      labelSql name ++ [.fixed " as ", .name name, .fixed ", "]

def fromSql : SeriesLookup → Sql
  | .single .. => Sql.raw (" fingerprint FROM " ++ singleTable)
  | .tiered _ tier _ _ => Sql.raw ("fingerprint FROM " ++ tier.series.name)

def sql (l : SeriesLookup) : Sql :=
  l.selectSql ++ l.fromSql ++ Sql.raw " WHERE " ++ Sql.conjunction l.conditions

/-- The columns a reader of the lookup may use. -/
def columns : SeriesLookup → List String
  | .single _ _ labels _ => "fingerprint" :: labels.columns
  | .tiered _ _ keys _ => "fingerprint" :: keys

end SeriesLookup

end PanelQuery.Metrics
