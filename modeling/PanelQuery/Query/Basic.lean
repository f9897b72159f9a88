import PanelQuery.Query.Filter
import PanelQuery.Query.Operators

/-!
The descriptor of one query panel: which signal it reads, what it filters, groups, aggregates and
orders, and how its result is limited.
-/

namespace PanelQuery

/-- The column name that asks for the order of the aggregated value. -/
def orderByValue : String := "#SIGNOZ_VALUE"

/-- An order as requested. Column and key both may name the attribute; the key wins. -/
structure OrderBy where
  column : String := ""
  order : String := ""
  key : String := ""
  dataType : DataType := .unspecified
  kind : KeyKind := .unspecified
  isColumn : Bool := false
  deriving DecidableEq, Repr

namespace OrderBy

def isValue (o : OrderBy) : Bool := o.column == orderByValue

/-- The field the order refers to when it is no group key. -/
def target (o : OrderBy) : AttributeKey where
  name := if o.key == "" then o.column else o.key
  dataType := o.dataType
  kind := o.kind
  isColumn := o.isColumn
  isJson := false

end OrderBy

/-- Comparisons of the aggregated value. -/
inductive HavingOperator where
  | compare (c : Comparison)
  | member (negated : Bool)
  deriving DecidableEq, Repr

namespace HavingOperator

def word : HavingOperator → String
  | .compare c => c.word
  | .member negated => if negated then "NOT IN" else "IN"

def all : List HavingOperator := Comparison.all.map .compare ++ [.member false, .member true]

end HavingOperator

structure Having where
  column : String
  op : HavingOperator
  value : FilterValue

inductive Panel where
  | graph | table | value | list
  deriving DecidableEq, Repr

namespace Panel

def word : Panel → String
  | .graph => "graph"
  | .table => "table"
  | .value => "value"
  | .list => "list"

/-- The name of the panel in messages. -/
def title : Panel → String
  | .graph => "Graph"
  | .table => "Table"
  | .value => "Value"
  | .list => "List"

def all : List Panel := [.graph, .table, .value, .list]

end Panel

/-- What kind of telemetry a query reads. -/
inductive Signal where
  | logs | metrics | traces
  deriving DecidableEq, Repr

def Signal.word : Signal → String
  | .logs => "logs"
  | .metrics => "metrics"
  | .traces => "traces"

def Signal.all : List Signal := [.logs, .metrics, .traces]

/-- The descriptor of one query panel. -/
structure Query where
  name : String := ""
  signal : Signal
  aggregateAttribute : AttributeKey := {}
  aggregateOperator : AggregateOperator := .noop
  timeAggregation : Option TimeAggregation := none
  spaceAggregation : Option SpaceAggregation := none
  temporality : Temporality := .unspecified
  metricType : MetricType := .unspecified
  filters : Option FilterSet := none
  groupBy : List AttributeKey := []
  orderBy : List OrderBy := []
  having : List Having := []
  stepInterval : Int64 := 0
  limit : UInt64 := 0
  offset : UInt64 := 0
  pageSize : UInt64 := 0
  reduceTo : ReduceTo := .last
  expression : String := ""
  disabled : Bool := false

namespace Query

def filterItems (q : Query) : List FilterItem :=
  match q.filters with
  | some set => set.items
  | none => []

def filterOp (q : Query) : Connective :=
  match q.filters with
  | some set => set.op
  | none => .and

end Query

/-- Which pass of a Top-N panel a statement is for. -/
inductive TopNPass where
  | none | first | second
  deriving DecidableEq, Repr

def TopNPass.word : TopNPass → String
  | .none => "none"
  | .first => "first"
  | .second => "second"

def TopNPass.all : List TopNPass := [.none, .first, .second]

structure QueryOptions where
  pass : TopNPass := .none
  preferRpm : Bool := false
  liveTail : Bool := false
  deriving DecidableEq, Repr

/-- A request to compile a query over a time range. -/
structure CompileRequest where
  start : Int64
  stop : Int64
  panel : Panel
  query : Query
  options : QueryOptions := {}
  cursor : Option String := none

end PanelQuery
