import PanelQuery.Filter.Test
import PanelQuery.Query.Basic
import PanelQuery.Sql.Condition
import PanelQuery.Sql.Value
import PanelQuery.Text.Lowercase

/-!
The lookup of resource fingerprints for logs. Resource labels are one JSON text per fingerprint;
a filter on a resource becomes a predicate on a label of that text, mostly in lower case, and where
an index can help also a pattern on the whole text.
-/

namespace PanelQuery

open Sql (Condition Stretch)

/-- A test of the label `key`, which is in lower case. -/
inductive LabelTest where
  | compare (c : Comparison) (value : FilterValue)
  | like (negated anywhere : Bool) (value : FilterValue)
  | regex (negated : Bool) (pattern : String)
  | member (negated : Bool) (items : List FilterValue)
  | presence (negated : Bool)

namespace LabelTest

/-- The value of a label in the lower-cased text. -/
def loweredLabel (key : String) : Sql :=
  Sql.raw "simpleJSONExtractString(lower(labels), " ++ Sql.literal key ++ Sql.raw ")"

/-- The predicate on the label. A pattern is matched against the text as it was stored. -/
def predicate (key : String) : LabelTest → Sql
  | .compare c v => loweredLabel key ++ Sql.raw (" " ++ c.word ++ " ") ++ v.literal
  | .like negated anywhere v =>
    loweredLabel key ++ Sql.raw (if negated then " NOT LIKE " else " LIKE ") ++ v.pattern anywhere
  | .regex negated pattern =>
    Sql.raw ((if negated then "NOT " else "") ++ "match(simpleJSONExtractString(labels, ")
      ++ Sql.literal key ++ Sql.raw "), " ++ Sql.literal pattern ++ Sql.raw ")"
  | .member negated items =>
    loweredLabel key ++ Sql.raw (if negated then " NOT IN " else " IN ")
      ++ (FilterValue.array items).literal
  | .presence negated =>
    Sql.raw ((if negated then "not " else "") ++ "simpleJSONHas(lower(labels), ")
      ++ Sql.literal key ++ Sql.raw ")"

/-- A pattern on the whole label text: the stretches in order, with anything around them. -/
def hintSql (negated : Bool) (stretches : List String) : Sql :=
  Sql.raw (if negated then "lower(labels) not like " else "lower(labels) like ")
    ++ [.quoted (.fixed "%" :: stretches.flatMap fun s => [Stretch.given s, .fixed "%"])]

/-- The condition that narrows the index scan, if the test allows one. -/
def hint (key : String) : LabelTest → Option Condition
  | .compare .eq v => some (.atom (hintSql false [key, v.plain]))
  | .compare .ne v => some (.atom (hintSql true [key, v.plain]))
  | .compare .. => none
  | .like negated _ v => some (.atom (hintSql negated [key, v.plain]))
  | .regex .. => none
  | .member true _ | .member false [] => none
  | .member false items =>
    some (.group .or (items.map fun v => .atom (hintSql false [key, v.plain])))
  | .presence false => some (.atom (hintSql false [key]))
  | .presence true => none

def conditions (key : String) (t : LabelTest) : List Condition :=
  .atom (t.predicate key) :: (t.hint key).toList

end LabelTest

namespace FilterValue

mutual

/-- The value with its texts in lower case. -/
def lowered : FilterValue → FilterValue
  | .text s => .text (Text.lowercase s)
  | .array items => .array (loweredItems items)
  | v => v

def loweredItems : List FilterValue → List FilterValue
  | [] => []
  | item :: items => item.lowered :: loweredItems items

end

end FilterValue

/-- A resource item as a test of its label. -/
def FilterItem.labelTest (item : FilterItem) : Except Fault LabelTest := do
  match ← item.test with
  | .compare c v => return .compare c v.lowered
  | .like negated v => return .like negated false v.lowered
  | .contains negated v => return .like negated true v.lowered
  | .regex negated _ => return .regex negated item.value.plain
  | .member negated items => return .member negated (FilterValue.loweredItems items)
  | .presence negated => return .presence negated
  | .has .. => .error (.resourceOperator item.op item.key.name)

/-- Seconds of the first and last resource bucket to look at. -/
structure BucketRange where
  first : Int
  last : Int
  deriving DecidableEq, Repr

/-- Which fingerprints a logs query admits. -/
structure ResourceLookup where
  buckets : Option BucketRange
  tests : List (String × LabelTest)
  presentKeys : List String

namespace ResourceLookup

def table : String := "signoz_logs.distributed_logs_v2_resource"

def bucketConditions (b : BucketRange) : List Condition :=
  [.atom (Sql.raw "(seen_at_ts_bucket_start >= " ++ [.int b.first] ++ Sql.raw ")"),
   .atom (Sql.raw "(seen_at_ts_bucket_start <= " ++ [.int b.last] ++ Sql.raw ")")]

/-- A grouped resource key is a label of the fingerprint. -/
def keyCondition (key : String) : Condition :=
  .group .and ((LabelTest.presence false).conditions key)

/-- All grouped keys, in parentheses with blanks. -/
def keysCondition (keys : List String) : Condition := .padded (keys.map keyCondition)

def conditions (l : ResourceLookup) : List Condition :=
  (l.buckets.map bucketConditions).getD [] ++ l.tests.flatMap (fun (key, t) => t.conditions key)
    ++ if l.presentKeys.isEmpty then [] else [keysCondition l.presentKeys]

/-- The condition on the main table. -/
def sql (l : ResourceLookup) : Sql :=
  Sql.raw ("(resource_fingerprint GLOBAL IN (SELECT fingerprint FROM " ++ table ++ " WHERE ")
    ++ Sql.conjunction l.conditions ++ Sql.raw "))"

/-- The lookup of a query; there is none when it neither filters nor groups by resources. -/
def ofQuery (q : Query) (buckets : Option BucketRange) : Except Fault (Option ResourceLookup) := do
  let items := q.filterItems.filter (·.key.kind == .resource)
  let keys := q.groupBy.filter (·.kind == .resource)
  if items.isEmpty && keys.isEmpty then return none
  let tests ← items.mapM fun item => do
    return (Text.lowercase item.key.name, ← item.labelTest)
  return some ⟨buckets, tests, keys.map fun key => Text.lowercase key.name⟩

end ResourceLookup

end PanelQuery
