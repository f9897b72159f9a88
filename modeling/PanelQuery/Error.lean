import PanelQuery.Query.Basic

/-!
What can go wrong. A `Fault` is a cause found while a request is compiled, with its data; the
wording is in `Fault.message` and nowhere else. A `ServiceError` is what a caller is told: a kind,
which decides the HTTP status, and a text.
-/

namespace PanelQuery

/-- A value does not fit the declared type of its key. -/
structure CastFault where
  expected : DataType
  kind : String
  deriving DecidableEq, Repr

namespace CastFault

/-- The name of a value type in cast messages. -/
def typeName (t : DataType) : String :=
  match t.element with
  | .scalar .int64 => "int"
  | .scalar .float64 => "float"
  | .scalar .bool => "bool"
  | _ => "string"

def message (f : CastFault) : String :=
  "invalid data type, expected " ++ typeName f.expected ++ ", got " ++ f.kind

end CastFault

/-- Why a request cannot be compiled. -/
inductive Fault where
  | startAfterEnd (start stop : Int)
  | cursorOutsideList
  | invalidCursor
  | cursorWithOr
  | invalidDirection (order column : String)
  | castFailed (key : String) (cause : CastFault)
  | arrayRequired (op : FilterOperator) (key : String)
  | bodyPathRoot (key : String)
  | bodyPathEmpty (key : String)
  | bodyPathSegment (key segment : String)
  | bodyArrayOperator (op : FilterOperator) (key : String)
  | bodyScalarOperator (op : FilterOperator) (key : String) (dataType : DataType)
  | resourceOperator (op : FilterOperator) (key : String)
  | labelOperator (op : FilterOperator)
  | attributeRequired (op : AggregateOperator)
  | aggregateUnsupported (op : AggregateOperator)
  | pageBeyondLimit
  | noopOnPanel (panel : Panel)
  | aggregateOnList (op : AggregateOperator)
  | metricsOnList
  | stepNotPositive (step : Int)
  | topNWithoutGroups
  | liveTailOnTraces
  | metricNameRequired
  | exponentialHistogram
  | distinctFromRollup
  | rateWithoutTemporality
  | rateOnTable
  | noopOnTable
  | pipelineOperator (kind : String)
  | fieldNotDeletable (path : String)
  | pipelineArrayValue
  | pipelineFilterOperator (op : FilterOperator)
  | within (context : String) (fault : Fault)
  deriving DecidableEq, Repr

namespace Fault

/-- The request is well-formed but asks for something that is not offered. -/
def isUnsupported : Fault → Bool
  | .bodyArrayOperator .. | .bodyScalarOperator .. | .resourceOperator .. | .labelOperator ..
  | .aggregateUnsupported .. | .noopOnPanel .. | .aggregateOnList .. | .metricsOnList
  | .liveTailOnTraces | .exponentialHistogram | .distinctFromRollup | .rateWithoutTemporality
  | .rateOnTable | .noopOnTable | .pipelineArrayValue | .pipelineFilterOperator .. => true
  | .within _ fault => fault.isUnsupported
  | _ => false

def message : Fault → String
  | .startAfterEnd start stop =>
    "start " ++ toString start ++ " is after end " ++ toString stop
  | .cursorOutsideList => "cursor is only valid for list panels"
  | .invalidCursor => "invalid cursor"
  | .cursorWithOr => "cursor pagination cannot be combined with OR filters"
  | .invalidDirection order column =>
    "invalid order '" ++ order ++ "' for column '" ++ column ++ "'"
  | .castFailed key cause =>
    "failed to validate and cast value for " ++ key ++ ": " ++ cause.message
  | .arrayRequired op key =>
    "operator " ++ op.word ++ " on '" ++ key ++ "' requires an array value"
  | .bodyPathRoot key => "json filter key '" ++ key ++ "' must be rooted at body"
  | .bodyPathEmpty key => "json filter key '" ++ key ++ "' has no path below body"
  | .bodyPathSegment key segment =>
    "json filter key '" ++ key ++ "' has malformed segment '" ++ segment ++ "'"
  | .bodyArrayOperator op key =>
    "operator " ++ op.word ++ " is not supported on json array key '" ++ key
      ++ "', use has or nhas"
  | .bodyScalarOperator op key dataType =>
    "operator " ++ op.word ++ " requires an array json key, '" ++ key ++ "' is " ++ dataType.title
  | .resourceOperator op key =>
    "operator " ++ op.word ++ " is not supported on resource attribute '" ++ key ++ "'"
  | .labelOperator op => "operator " ++ op.word ++ " is not supported on metric labels"
  | .attributeRequired op => "aggregate attribute is required for " ++ op.word
  | .aggregateUnsupported op => "unsupported aggregate operator " ++ op.word
  | .pageBeyondLimit => "max limit exceeded"
  | .noopOnPanel panel => "noop is not supported for " ++ panel.title ++ " panels"
  | .aggregateOnList op =>
    "aggregate operator " ++ op.word ++ " is not supported for list panels"
  | .metricsOnList => "list panels are not supported for metrics"
  | .stepNotPositive step => "step interval must be positive, got " ++ toString step
  | .topNWithoutGroups => "top-n passes need both a group by and a limit"
  | .liveTailOnTraces => "live tail is only available for logs"
  | .metricNameRequired => "metric name is required"
  | .exponentialHistogram => "exponential histogram metrics are not supported"
  | .distinctFromRollup => "count_distinct cannot be computed from rollup tables"
  | .rateWithoutTemporality => "rate and increase require a Delta or Cumulative metric"
  | .rateOnTable => "rate is not supported for table view"
  | .noopOnTable => "noop is not supported for table view"
  | .pipelineOperator kind => "unsupported pipeline operator type: " ++ kind
  | .fieldNotDeletable path => "cannot delete log field " ++ path
  | .pipelineArrayValue => "array values are not supported in pipeline filters"
  | .pipelineFilterOperator op =>
    "operator " ++ op.word ++ " is not supported in pipeline filters"
  | .within context fault => context ++ ": " ++ fault.message

end Fault

/-! ## What callers are told -/

inductive ServiceError where
  | auth
  | invalidRequest (text : String)
  | unsupported (text : String)
  | notFound (text : String)
  | alreadyExists (text : String)
  | busy (text : String)
  | timeout (text : String)
  | internal (text : String)
  deriving DecidableEq, Repr

namespace ServiceError

def message : ServiceError → String
  | .auth => "authentication failed"
  | .invalidRequest text => "invalid request: " ++ text
  | .unsupported text => "unsupported operation: " ++ text
  | .notFound text => "not found: " ++ text
  | .alreadyExists text => "already exists: " ++ text
  | .busy text => "busy: " ++ text
  | .timeout text => "timeout: " ++ text
  | .internal text => "internal error: " ++ text

/-- Puts a context in front of the text of errors about the request itself. -/
def inContext (context : String) : ServiceError → ServiceError
  | .invalidRequest text => .invalidRequest (context ++ ": " ++ text)
  | .unsupported text => .unsupported (context ++ ": " ++ text)
  | e => e

/-- The HTTP status of an error. -/
def status : ServiceError → Nat
  | .auth => 401
  | .invalidRequest _ => 400
  | .unsupported _ => 422
  | .notFound _ => 404
  | .alreadyExists _ => 409
  | .busy _ => 409
  | .timeout _ => 504
  | .internal _ => 500

end ServiceError

def Fault.toError (fault : Fault) : ServiceError :=
  if fault.isUnsupported then .unsupported fault.message else .invalidRequest fault.message

end PanelQuery
