import PanelQuery.Query.Attribute
import PanelQuery.Schema.Column

/-!
The two schemas with attribute maps. Logs keep one map per value type and materialised columns with
presence flags; spans keep typed tag maps and one resource map. A top-level key is a column of the
table itself.
-/

namespace PanelQuery

inductive Schema where
  | logs | traces
  deriving DecidableEq, Repr

namespace Schema

/-! ## Logs -/

/-- Columns of the logs table that need no flag to be recognised. -/
def logColumns : List String :=
  ["timestamp", "id", "trace_id", "span_id", "trace_flags", "severity_text", "severity_number",
   "body"]

def numericLogColumns : List String := ["trace_flags", "severity_number"]

/-- The value type in the names of log maps and materialised columns. -/
def storageType (t : DataType) : String :=
  if t.isNumeric then "number" else if t.isBool then "bool" else "string"

def logMap (key : AttributeKey) : String :=
  (if key.kind = .tag then "attributes" else "resources") ++ "_" ++ storageType key.dataType

/-- The materialised column of a log attribute. -/
def materializedName (key : AttributeKey) : String :=
  (if key.kind = .tag then "attribute" else "resource") ++ "_" ++ storageType key.dataType
    ++ "_" ++ key.name

def isTopLevelLog (key : AttributeKey) : Bool :=
  key.name == "timestamp" || key.name == "id" ||
    (key.kind == .unspecified && (key.isColumn || logColumns.contains key.name))

def logColumn (key : AttributeKey) : Column :=
  if isTopLevelLog key then .named key.name
  else if key.isColumn then .materialized (materializedName key)
  else .entry (logMap key) key.name

/-- The zero of a top-level column: fixed columns have their own types. -/
def logZero (key : AttributeKey) : Zero :=
  if numericLogColumns.contains key.name
      || (!logColumns.contains key.name && key.dataType.isNumeric) then .number
  else if key.dataType.isBool then .bool
  else .text

def logPresence (key : AttributeKey) : Presence :=
  if isTopLevelLog key then .nonZero key.name (logZero key)
  else if key.isColumn then .flag (materializedName key ++ "_exists")
  else .mapKey (logMap key) key.name

/-! ## Traces -/

def spanMap (key : AttributeKey) : String :=
  if key.kind ≠ .tag then "resourceTagsMap"
  else if key.dataType.isNumeric then "numberTagMap"
  else if key.dataType.isBool then "boolTagMap"
  else "stringTagMap"

def isTopLevelSpan (key : AttributeKey) : Bool := key.isColumn || key.name == "timestamp"

def spanColumn (key : AttributeKey) : Column :=
  if isTopLevelSpan key then .named key.name else .entry (spanMap key) key.name

def spanPresence (key : AttributeKey) : Presence :=
  if isTopLevelSpan key then
    .nonZero key.name
      (if key.dataType.isNumeric then .number else if key.dataType.isBool then .bool else .text)
  else .mapKey (spanMap key) key.name

/-! ## Both -/

def isTopLevel : Schema → AttributeKey → Bool
  | .logs => isTopLevelLog
  | .traces => isTopLevelSpan

/-- The column that `key` reads. -/
def column : Schema → AttributeKey → Column
  | .logs => logColumn
  | .traces => spanColumn

def presence : Schema → AttributeKey → Presence
  | .logs => logPresence
  | .traces => spanPresence

/-- The predicate that `key` is present, or absent if `negated`. -/
def guard (s : Schema) (key : AttributeKey) (negated : Bool) : Sql :=
  (s.presence key).sql (match s with | .logs => "not" | .traces => "NOT") negated

/-- The pattern match of like and contains. -/
def likeWord (s : Schema) (negated : Bool) : String :=
  (if negated then "NOT " else "") ++ (match s with | .logs => "LIKE" | .traces => "ILIKE")

/-- A condition on an attribute is accompanied by the guard of that attribute. -/
def guardsItems : Schema → Bool
  | .logs => true
  | .traces => false

end Schema

end PanelQuery
