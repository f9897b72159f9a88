import PanelQuery.Json.Record
import PanelQuery.Query.Basic

/-!
Queries in JSON. Reading fills absent fields with their defaults, accepts the alternative spellings
of operators and connectives and ignores unknown members; writing gives every field in its
canonical spelling, so that what was written reads back as the same query.
-/

namespace PanelQuery

open Json (Reader)
open Json.Document

/-- The choices that `word` spells for the members of `all`. -/
def choicesOf (all : List α) (word : α → String) : List (String × α) :=
  all.map fun a => (word a, a)

/-! ## Reading -/

def DataType.read : Reader DataType := asChoice (choicesOf DataType.all DataType.word)

def KeyKind.read : Reader KeyKind := asChoice (choicesOf KeyKind.all KeyKind.word)

def AttributeKey.read : Reader AttributeKey := asRecord {}
  [.need "key" asText fun k v => { k with name := v },
   .may "dataType" DataType.read fun k v => { k with dataType := v },
   .may "type" KeyKind.read fun k v => { k with kind := v },
   .may "isColumn" asBool fun k v => { k with isColumn := v },
   .may "isJSON" asBool fun k v => { k with isJson := v }]

def FilterOperator.read : Reader FilterOperator := fun d => do
  match FilterOperator.ofText (← asText d) with
  | .ok op => .ok op
  | .error _ => .error .mismatch

mutual

/-- The filter value that a plain value stands for; objects stand for none. An integer beyond a
signed 64-bit word is taken as a double. -/
def FilterValue.ofJson? : Json → Option FilterValue
  | .null => some .null
  | .bool b => some (.bool b)
  | .int n => match Decimal.int64Of? n with
    | some word => some (.int word)
    | none => some (.float (Decimal.floatOfInt n))
  | .float x => some (.float x)
  | .str s => some (.text s)
  | .arr items => (FilterValue.ofItems? items).map .array
  | .obj _ => none

def FilterValue.ofItems? : List Json → Option (List FilterValue)
  | [] => some []
  | j :: js =>
    match FilterValue.ofJson? j, FilterValue.ofItems? js with
    | some v, some vs => some (v :: vs)
    | _, _ => none

end

def FilterValue.read : Reader FilterValue := fun d => do
  match FilterValue.ofJson? (← d.plain) with
  | some v => .ok v
  | none => .error .mismatch

def FilterItem.read : Reader FilterItem := asRecord ⟨{}, .compare .eq, .null⟩
  [.need "key" AttributeKey.read fun i v => { i with key := v },
   .need "op" FilterOperator.read fun i v => { i with op := v },
   .may "value" FilterValue.read fun i v => { i with value := v }]

def Connective.read : Reader Connective :=
  asChoice [("AND", .and), ("and", .and), ("OR", .or), ("or", .or)]

def FilterSet.read : Reader FilterSet := asRecord ⟨.and, []⟩
  [.may "op" Connective.read fun s v => { s with op := v },
   .may "items" (asList FilterItem.read) fun s v => { s with items := v }]

def OrderBy.read : Reader OrderBy := asRecord {}
  [.need "columnName" asText fun o v => { o with column := v },
   .need "order" asText fun o v => { o with order := v },
   .may "key" asText fun o v => { o with key := v },
   .may "dataType" DataType.read fun o v => { o with dataType := v },
   .may "type" KeyKind.read fun o v => { o with kind := v },
   .may "isColumn" asBool fun o v => { o with isColumn := v }]

def HavingOperator.read : Reader HavingOperator :=
  asChoice (choicesOf HavingOperator.all HavingOperator.word ++
    [("in", .member false), ("nin", .member true), ("not in", .member true)])

def Having.read : Reader Having := asRecord ⟨"", .compare .eq, .null⟩
  [.need "columnName" asText fun h v => { h with column := v },
   .need "operator" HavingOperator.read fun h v => { h with op := v },
   .need "value" FilterValue.read fun h v => { h with value := v }]

def AggregateOperator.read : Reader AggregateOperator :=
  asChoice (choicesOf AggregateOperator.all AggregateOperator.word)

def TimeAggregation.read : Reader TimeAggregation :=
  asChoice (choicesOf TimeAggregation.all TimeAggregation.word)

def SpaceAggregation.read : Reader SpaceAggregation :=
  asChoice (choicesOf SpaceAggregation.all SpaceAggregation.word)

def Temporality.read : Reader Temporality :=
  asChoice (choicesOf Temporality.all Temporality.word)

def MetricType.read : Reader MetricType := asChoice (choicesOf MetricType.all MetricType.word)

def ReduceTo.read : Reader ReduceTo := asChoice (choicesOf ReduceTo.all ReduceTo.word)

def Panel.read : Reader Panel := asChoice (choicesOf Panel.all Panel.word)

def Signal.read : Reader Signal := asChoice (choicesOf Signal.all Signal.word)

def Query.read : Reader Query := asRecord { signal := .logs }
  [.may "queryName" asText fun q v => { q with name := v },
   .need "dataSource" Signal.read fun q v => { q with signal := v },
   .may "aggregateAttribute" AttributeKey.read fun q v => { q with aggregateAttribute := v },
   .may "aggregateOperator" AggregateOperator.read fun q v => { q with aggregateOperator := v },
   .may "timeAggregation" (asOption TimeAggregation.read)
     fun q v => { q with timeAggregation := v },
   .may "spaceAggregation" (asOption SpaceAggregation.read)
     fun q v => { q with spaceAggregation := v },
   .may "temporality" Temporality.read fun q v => { q with temporality := v },
   .may "metricType" MetricType.read fun q v => { q with metricType := v },
   .may "filters" (asOption FilterSet.read) fun q v => { q with filters := v },
   .may "groupBy" (asList AttributeKey.read) fun q v => { q with groupBy := v },
   .may "orderBy" (asList OrderBy.read) fun q v => { q with orderBy := v },
   .may "having" (asList Having.read) fun q v => { q with having := v },
   .may "stepInterval" asInt64 fun q v => { q with stepInterval := v },
   .may "limit" asUInt64 fun q v => { q with limit := v },
   .may "offset" asUInt64 fun q v => { q with offset := v },
   .may "pageSize" asUInt64 fun q v => { q with pageSize := v },
   .may "reduceTo" ReduceTo.read fun q v => { q with reduceTo := v },
   .may "expression" asText fun q v => { q with expression := v },
   .may "disabled" asBool fun q v => { q with disabled := v }]

def TopNPass.read : Reader TopNPass := asChoice (choicesOf TopNPass.all TopNPass.word)

def QueryOptions.read : Reader QueryOptions := asRecord {}
  [.may "graphLimitQtype" TopNPass.read fun o v => { o with pass := v },
   .may "preferRPM" asBool fun o v => { o with preferRpm := v },
   .may "isLivetailQuery" asBool fun o v => { o with liveTail := v }]

/-- A time bound: an integer, or a text that holds one. -/
def readInstant : Reader Int64 := fun d => do
  let bound := match ← d.plain with
    | .int n => Decimal.int64Of? n
    | .str s => Decimal.int64OfText? s
    | _ => none
  match bound with
  | some n => .ok n
  | none => .error .mismatch

def CompileRequest.read : Reader CompileRequest :=
  asRecord { start := 0, stop := 0, panel := .graph, query := { signal := .logs } }
    [.need "start" readInstant fun r v => { r with start := v },
     .need "end" readInstant fun r v => { r with stop := v },
     .need "panelType" Panel.read fun r v => { r with panel := v },
     .need "query" Query.read fun r v => { r with query := v },
     .may "options" QueryOptions.read fun r v => { r with options := v },
     .may "cursor" (asOption asText) fun r v => { r with cursor := v }]

/-! ## Writing -/

namespace AttributeKey

def toJson (k : AttributeKey) : Json := .obj
  [("key", .str k.name), ("dataType", .str k.dataType.word), ("type", .str k.kind.word),
   ("isColumn", .bool k.isColumn), ("isJSON", .bool k.isJson)]

end AttributeKey

namespace FilterValue

mutual

def toJson : FilterValue → Json
  | .null => .null
  | .bool b => .bool b
  | .int n => .int n.toInt
  | .float x => .float x
  | .text s => .str s
  | .array items => .arr (itemsToJson items)

def itemsToJson : List FilterValue → List Json
  | [] => []
  | item :: items => item.toJson :: itemsToJson items

end

end FilterValue

def FilterItem.toJson (i : FilterItem) : Json := .obj
  [("key", i.key.toJson), ("op", .str i.op.word), ("value", i.value.toJson)]

def FilterSet.toJson (s : FilterSet) : Json := .obj
  [("op", .str s.op.word), ("items", .arr (s.items.map FilterItem.toJson))]

def OrderBy.toJson (o : OrderBy) : Json := .obj
  [("columnName", .str o.column), ("order", .str o.order), ("key", .str o.key),
   ("dataType", .str o.dataType.word), ("type", .str o.kind.word), ("isColumn", .bool o.isColumn)]

def Having.toJson (h : Having) : Json := .obj
  [("columnName", .str h.column), ("operator", .str h.op.word), ("value", h.value.toJson)]

/-- Null for nothing, else what `write` gives. -/
def optionToJson (write : α → Json) : Option α → Json
  | some a => write a
  | none => .null

def Query.toJson (q : Query) : Json := .obj
  [("queryName", .str q.name),
   ("dataSource", .str q.signal.word),
   ("aggregateAttribute", q.aggregateAttribute.toJson),
   ("aggregateOperator", .str q.aggregateOperator.word),
   ("timeAggregation", optionToJson (fun t => .str t.word) q.timeAggregation),
   ("spaceAggregation", optionToJson (fun s => .str s.word) q.spaceAggregation),
   ("temporality", .str q.temporality.word),
   ("metricType", .str q.metricType.word),
   ("filters", optionToJson FilterSet.toJson q.filters),
   ("groupBy", .arr (q.groupBy.map AttributeKey.toJson)),
   ("orderBy", .arr (q.orderBy.map OrderBy.toJson)),
   ("having", .arr (q.having.map Having.toJson)),
   ("stepInterval", .int q.stepInterval.toInt),
   ("limit", .int q.limit.toNat),
   ("offset", .int q.offset.toNat),
   ("pageSize", .int q.pageSize.toNat),
   ("reduceTo", .str q.reduceTo.word),
   ("expression", .str q.expression),
   ("disabled", .bool q.disabled)]

end PanelQuery
