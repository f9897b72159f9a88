import PanelQuery.Filter.Resource
import PanelQuery.Filter.Where
import PanelQuery.Statement.Having
import PanelQuery.Statement.Order
import PanelQuery.Statement.Page
import PanelQuery.Statement.Value

/-!
Statements over the logs and traces tables: lists of rows, the open-ended live tail, and
aggregations. An aggregation has one head and one tail; the second pass of a Top-N panel puts a
restriction to the ranked groups between them, and the first pass ranks the groups by the same
aggregation without time buckets.
-/

namespace PanelQuery

open Sql (Condition)

namespace Schema

def table : Schema → String
  | .logs => "signoz_logs.distributed_logs_v2"
  | .traces => "signoz_traces.distributed_signoz_index_v2"

/-- The columns of a list of rows. -/
def listColumns : Schema → String
  | .logs => "timestamp, id, trace_id, span_id, trace_flags, severity_text, severity_number, " ++
    "body,attributes_string,attributes_number,attributes_bool,resources_string"
  | .traces => "timestamp, traceID, spanID, serviceName, name, kind, durationNano, statusCode, " ++
    "httpMethod, responseStatusCode"

/-- The row time as a value that can be cut into intervals. -/
def timeExpression : Schema → String
  | .logs => "fromUnixTimestamp64Nano(timestamp)"
  | .traces => "timestamp"

end Schema

/-- Bounds of the row time in nanoseconds, and for logs of the bucket starts in seconds. -/
inductive TimeBounds where
  | logs (first last : Int) (buckets : BucketRange)
  | traces (first last : Int)
  deriving DecidableEq, Repr

namespace TimeBounds

/-- A column between two numbers. -/
def between (column : String) (first last : Sql) : Condition :=
  .group .and [.atom (Sql.raw (column ++ " >= ") ++ first), .atom (Sql.raw (column ++ " <= ") ++ last)]

/-- Spans compare their time with quoted numbers. -/
def conditions : TimeBounds → List Condition
  | .logs first last buckets =>
    [between "timestamp" [.int first] [.int last],
     between "ts_bucket_start" [.int buckets.first] [.int buckets.last]]
  | .traces first last =>
    [between "timestamp" (Sql.literal (toString first)) (Sql.literal (toString last))]

def sql (b : TimeBounds) : Sql := Sql.conjunction b.conditions

end TimeBounds

/-- Which rows a statement reads: the main conditions, then the resource lookup if there is one. -/
structure RowFilter where
  main : List Condition
  resource : Option ResourceLookup

namespace RowFilter

def conditions (f : RowFilter) : List Condition :=
  f.main ++ (f.resource.map fun l => .atom l.sql).toList

/-- The conditions after the time bounds. -/
def sql (f : RowFilter) : Sql :=
  if f.conditions.isEmpty then [] else Sql.raw " AND " ++ Sql.conjunction f.conditions

end RowFilter

/-! ## Aggregations -/

/-- A grouped column under the name of its key. -/
structure Label where
  column : Column
  name : String
  deriving DecidableEq, Repr

namespace Label

def sql (l : Label) : Sql := Sql.raw " " ++ l.column.sql ++ [.fixed " as ", .backticked l.name, .fixed ","]

/-- The labels of a select list. -/
def selectSql (labels : List Label) : Sql := labels.flatMap sql

/-- The names of the labels, separated by commas. -/
def keysSql (labels : List Label) : Sql := Sql.join "," (labels.map fun l => [.backticked l.name])

end Label

def Schema.labels (s : Schema) (groupBy : List AttributeKey) : List Label :=
  groupBy.map fun key => ⟨s.column key, key.name⟩

/-- An aggregation of the rows of one table. -/
structure Aggregation where
  schema : Schema
  time : TimeBounds
  filter : RowFilter
  labels : List Label
  value : Sql
  having : List Having
  order : List OrderItem

namespace Aggregation

/-- Labels, value and WHERE clause, from the select list on. -/
def body (a : Aggregation) : Sql :=
  Label.selectSql a.labels ++ Sql.raw " " ++ a.value
    ++ Sql.raw (" as value from " ++ a.schema.table ++ " where ") ++ a.time.sql ++ a.filter.sql

/-- HAVING and ORDER BY. -/
def ending (a : Aggregation) : Sql :=
  havingClause a.having ++ Sql.raw " order by " ++ orderSql a.order

/-- The aggregation without time buckets. -/
def ranking (a : Aggregation) : Sql :=
  Sql.raw "SELECT" ++ a.body ++ Sql.raw " group by " ++ Label.keysSql a.labels ++ a.ending

/-- The time column of the result: one instant for a table, else the start of an interval. -/
inductive Bucket where
  | whole
  | interval (seconds : Int)
  deriving DecidableEq, Repr

def Bucket.sql (s : Schema) : Bucket → Sql
  | .whole => Sql.raw "SELECT now() as ts,"
  | .interval seconds =>
    Sql.raw ("SELECT toStartOfInterval(" ++ s.timeExpression ++ ", INTERVAL ") ++ [.int seconds]
      ++ Sql.raw " SECOND) AS ts,"

/-- The columns a result is grouped by. -/
def groupClause (a : Aggregation) (bucket : Bucket) : Sql :=
  match bucket, a.labels with
  | .whole, [] => []
  | .whole, labels => Sql.raw " group by " ++ Label.keysSql labels
  | .interval _, [] => Sql.raw " group by ts"
  | .interval _, labels => Sql.raw " group by " ++ Label.keysSql labels ++ Sql.raw ",ts"

def head (a : Aggregation) (bucket : Bucket) : Sql := bucket.sql a.schema ++ a.body

def tail (a : Aggregation) (bucket : Bucket) : Sql := a.groupClause bucket ++ a.ending

/-- The restriction to the groups of a first pass. -/
def restriction (a : Aggregation) : Sql :=
  Sql.raw "(" ++ Label.keysSql a.labels ++ [.fixed ") GLOBAL IN (", .topNGroups, .fixed ")"]

end Aggregation

/-- The function that reduces a series to one value. -/
def ReduceTo.function : ReduceTo → String
  | .last => "anyLast"
  | .sum => "sum"
  | .avg => "avg"
  | .max => "max"
  | .min => "min"

/-- A series reduced to a single row. -/
def reduceSql (kind : ReduceTo) (series : Sql) : Sql :=
  Sql.raw ("SELECT " ++ kind.function ++ "(value) as value, any(ts) as ts FROM (") ++ series
    ++ Sql.raw ")"

/-- The first groups of a ranking. -/
def topGroupsSql (ranking : Sql) (keys : Sql) (limit : Nat) : Sql :=
  Sql.raw "SELECT " ++ keys ++ Sql.raw " from (" ++ ranking ++ Sql.raw ") LIMIT " ++ [.int limit]

/-! ## Statements -/

inductive TableStatement where
  /-- A page of rows. -/
  | list (schema : Schema) (time : TimeBounds) (filter : RowFilter) (order : List OrderItem)
      (page : Page)
  /-- Rows as they arrive; the statement stays open for the predicate of the reader. -/
  | tail (schema : Schema) (filter : RowFilter)
  /-- The first groups of an aggregation. -/
  | groups (a : Aggregation) (limit : Nat)
  /-- An aggregation, restricted to the ranked groups, limited, or reduced to one row. -/
  | series (a : Aggregation) (bucket : Aggregation.Bucket) (restricted : Bool)
      (limit : Option Nat) (reduced : Option ReduceTo)

namespace TableStatement

/-- The rows of the schema's list columns. -/
def selectRows (s : Schema) : Sql :=
  Sql.raw ("SELECT " ++ s.listColumns ++ " from " ++ s.table ++ " where ")

def sql : TableStatement → Sql
  | .list s time filter order page =>
    selectRows s ++ time.sql ++ filter.sql ++ Sql.raw " order by " ++ orderSql order ++ page.sql
  | .tail s filter =>
    selectRows s ++
      if filter.conditions.isEmpty then []
      else Sql.conjunction filter.conditions ++ Sql.raw " AND "
  | .groups a limit => topGroupsSql a.ranking (Label.keysSql a.labels) limit
  | .series a bucket restricted limit reduced =>
    let restriction := if restricted then Sql.raw " AND " ++ a.restriction else []
    let series := a.head bucket ++ restriction ++ a.tail bucket
    let limited := match limit with
      | some n => series ++ Sql.raw " LIMIT " ++ [.int n]
      | none => series
    match reduced with
    | some kind => reduceSql kind limited
    | none => limited

end TableStatement

end PanelQuery
