import PanelQuery.Metrics.Compile
import PanelQuery.Proofs.Sql.Lexical
import PanelQuery.Statement.Compile

/-! # The vocabulary of statements

Every stretch of fixed wording in a compiled statement is one of the texts below; none of them
depends on a name or a value of the request. Each is lexically closed: a reader that is outside of
quotes before it is outside of quotes after it. -/

namespace PanelQuery.Sql

open Metrics

/-- The map columns of the two schemas. -/
def mapColumns : List String :=
  ["attributes_string", "attributes_number", "attributes_bool", "resources_string",
   "resources_number", "resources_bool", "resourceTagsMap", "numberTagMap", "boolTagMap",
   "stringTagMap"]

/-- The texts that stand outside of literals and names, by what they belong to. -/
inductive Wording : String → Prop
  -- punctuation
  | leftParen : Wording "("
  | rightParen : Wording ")"
  | paddedLeft : Wording "( "
  | paddedRight : Wording " )"
  | leftBracket : Wording "["
  | rightBracket : Wording "]"
  | comma : Wording ","
  | spacedComma : Wording ", "
  | blank : Wording " "
  | rightParenComma : Wording "), "
  | rightParenSlash : Wording ")/"
  | slash : Wording "/"
  | twoRightParens : Wording "))"
  | threeRightParens : Wording ")))"
  -- values and comparisons
  | null : Wording "NULL"
  | bool (b : Bool) : Wording (FilterValue.ofBool b)
  | connective (op : Connective) : Wording (" " ++ op.word ++ " ")
  | conjunction : Wording " AND "
  | comparison (c : Comparison) : Wording (" " ++ c.word ++ " ")
  | membership (negated : Bool) : Wording (if negated then " NOT IN " else " IN ")
  | negation : Wording "NOT "
  -- columns
  | mapEntry {map : String} (h : map ∈ mapColumns) : Wording (map ++ "[")
  | mapContains {map notWord : String} (negated : Bool) (h : map ∈ mapColumns)
      (hn : notWord = "not" ∨ notWord = "NOT") :
      Wording ((if negated then notWord ++ " " else "") ++ "mapContains(" ++ map ++ ", ")
  | nonZero (negated : Bool) (zero : Zero) :
      Wording ((if negated then " = " else " != ") ++ zero.word)
  | flag (negated : Bool) : Wording (if negated then "=false" else "=true")
  -- filters on rows
  | like (s : Schema) (negated : Bool) : Wording (" " ++ s.likeWord negated ++ " ")
  | bodyLike (negated : Bool) :
      Wording ("lower(body) " ++ (if negated then "NOT LIKE" else "LIKE") ++ " lower(")
  | regexMatch : Wording "match("
  | has : Wording "has("
  | jsonValue : Wording "JSON_VALUE(body, "
  | jsonExtract : Wording "JSONExtract(JSON_QUERY(body, "
  | jsonExists : Wording "JSON_EXISTS(body, "
  | ilike (negated : Bool) : Wording (if negated then " NOT ILIKE " else " ILIKE ")
  -- the lookup of fingerprints
  | loweredLabel : Wording "simpleJSONExtractString(lower(labels), "
  | labelLike (negated : Bool) : Wording (if negated then " NOT LIKE " else " LIKE ")
  | labelMatch (negated : Bool) :
      Wording ((if negated then "NOT " else "") ++ "match(simpleJSONExtractString(labels, ")
  | labelPresence (negated : Bool) :
      Wording ((if negated then "not " else "") ++ "simpleJSONHas(lower(labels), ")
  | labelHint (negated : Bool) :
      Wording (if negated then "lower(labels) not like " else "lower(labels) like ")
  | bucketFirst : Wording "(seen_at_ts_bucket_start >= "
  | bucketLast : Wording "(seen_at_ts_bucket_start <= "
  | fingerprints : Wording
      ("(resource_fingerprint GLOBAL IN (SELECT fingerprint FROM " ++ ResourceLookup.table
        ++ " WHERE ")
  -- statements over rows
  | rowTimeFirst : Wording ("timestamp" ++ " >= ")
  | rowTimeLast : Wording ("timestamp" ++ " <= ")
  | bucketStartFirst : Wording ("ts_bucket_start" ++ " >= ")
  | bucketStartLast : Wording ("ts_bucket_start" ++ " <= ")
  | having (op : HavingOperator) : Wording ("value " ++ op.word ++ " ")
  | havingClause : Wording " having "
  | orderValue : Wording "value "
  | orderBy : Wording " order by "
  | groupBy : Wording " group by "
  | groupByTime : Wording " group by ts"
  | commaTime : Wording ",ts"
  | limit : Wording " LIMIT "
  | offset : Wording " OFFSET "
  | asName : Wording " as "
  | valueFrom (s : Schema) : Wording (" as value from " ++ s.table ++ " where ")
  | select : Wording "SELECT"
  | selectNow : Wording "SELECT now() as ts,"
  | selectInterval (s : Schema) :
      Wording ("SELECT toStartOfInterval(" ++ s.timeExpression ++ ", INTERVAL ")
  | seconds : Wording " SECOND) AS ts,"
  | restrictionIn : Wording ") GLOBAL IN ("
  | reduce (kind : ReduceTo) :
      Wording ("SELECT " ++ kind.function ++ "(value) as value, any(ts) as ts FROM (")
  | selectBlank : Wording "SELECT "
  | fromOpen : Wording " from ("
  | closeLimit : Wording ") LIMIT "
  | selectRows (s : Schema) :
      Wording ("SELECT " ++ s.listColumns ++ " from " ++ s.table ++ " where ")
  -- aggregates
  | quantile (p : Percentile) : Wording ("quantile(" ++ p.fraction ++ ")(")
  | countAll : Wording "toFloat64(count(*))"
  | countDistinct : Wording "toFloat64(count(distinct("
  | reduction (f : Reduction) : Wording (f.word ++ "(")
  | count : Wording "count("
  -- the lookup of series
  | label : Wording "JSONExtractString(labels, "
  | labelFunction {f : String} (h : f ∈ ["like", "notLike", "match", "not match"]) :
      Wording (f ++ "(")
  | labelKeys (negated : Bool) :
      Wording ((if negated then "not " else "") ++ "has(JSONExtractKeys(labels), ")
  | metricName : Wording "metric_name = "
  | singleTemporality (delta : Bool) :
      Wording (if delta then "temporality = 'Delta' "
        else "temporality IN ['Cumulative', 'Unspecified']")
  | tierTemporality (t : Temporality) : Wording ("temporality = '" ++ t.word ++ "'")
  | seriesFirst : Wording "unix_milli >= "
  | seriesLast : Wording "unix_milli < "
  | selectLabels : Wording "SELECT labels,"
  | selectDistinct : Wording "SELECT DISTINCT "
  | fromSingle : Wording (" fingerprint FROM " ++ SeriesLookup.singleTable)
  | fromTiered (t : SeriesTable) : Wording ("fingerprint FROM " ++ t.name)
  | whereClause : Wording " WHERE "
  -- stages of metrics statements
  | fingerprint : Wording "fingerprint, "
  | anyOpen : Wording "any("
  | anyAs : Wording ") as "
  | anyLabels : Wording "any(labels) as labels, fingerprint, "
  | anyFullLabels : Wording "fingerprint, any(labels) as fullLabels, "
  | fullLabels : Wording "fingerprint, labels as fullLabels, "
  | renamedLabels : Wording "labels as fullLabels, "
  | time : Wording "ts"
  | timeComma : Wording "ts, "
  | blankTime : Wording " ts"
  | timeAscending : Wording "ts ASC"
  | asTime : Wording " as ts"
  | hour : Wording "toStartOfHour(now()) as ts"
  | interval {column : String} (h : column = "timestamp_ms" ∨ column = "unix_milli") :
      Wording ("toStartOfInterval(toDateTime(intDiv(" ++ column ++ ", 1000)), INTERVAL ")
  | intervalSeconds : Wording " SECOND)"
  | groupingSets : Wording "GROUPING SETS ( ("
  | groupingNext : Wording "), ("
  | groupingClose : Wording ") )"
  | seriesTime : Wording "fingerprint, ts"
  | seriesSpacedTime : Wording "fingerprint,  ts"
  | labelsTime : Wording "fingerprint, labels, ts"
  | rate {w : String} (perMinute : Bool) (h : rateSql perMinute = raw w) : Wording w
  | counter {w : String} (increase perMinute : Bool) (h : counterSql increase perMinute = raw w) :
      Wording w
  | histogram (q : Quantile) : Wording
      ("histogramQuantile(arrayMap(x -> toFloat64(x), groupArray(le)), groupArray(value), "
        ++ q.fraction ++ ")")
  | plainQuantile (p : Percentile) : Wording ("quantile(" ++ p.fraction ++ ")(value)")
  | plainReduction (f : Reduction) : Wording (f.word ++ "(value)")
  | distinctValues : Wording "toFloat64(count(distinct(value)))"
  | anyValue : Wording "any(value)"
  | maxValue : Wording "max(value)"
  | tierColumn {t : Tier} {aggregation : TimeAggregation} {w : String}
      (h : t.valueColumn aggregation = .ok w) : Wording w
  | asValue : Wording " as value"
  | asValueFrom (wide : Bool) : Wording (if wide then " as value FROM(" else "as value FROM(")
  | valueFromOpen : Wording " as value FROM ("
  | notNaN : Wording ") WHERE isNaN(value) = 0"
  | joinSingle : Wording (" FROM " ++ samplesTable ++ " INNER JOIN (")
  | joinTier (t : SamplesTable) : Wording (" FROM " ++ t.name ++ " INNER JOIN (")
  | using : Wording ") as filtered_time_series USING fingerprint WHERE "
  | timestampFirst : Wording " AND timestamp_ms >= "
  | timestampLast : Wording " AND timestamp_ms <= "
  | tierFirst : Wording " AND unix_milli >= "
  | tierLast : Wording " AND unix_milli < "
  | stageGroup : Wording " GROUP BY "
  | stageOrder : Wording " ORDER BY "
  | closeGroup : Wording ") GROUP BY "
  | seriesEnding : Wording " GROUP BY fingerprint, ts ORDER BY fingerprint, ts"
  | dropOrder (dropNaN : Bool) :
      Wording (if dropNaN then " HAVING isNaN(value) = 0 ORDER BY " else " ORDER BY ")
  | perSeries : Wording " as per_series_value"
  | perSeriesFrom : Wording " as per_series_value FROM ("
  | window : Wording (") WINDOW rate_window as (PARTITION BY fingerprint "
      ++ "ORDER BY fingerprint, ts)")
  | space {f : SpaceAggregation} :
      Wording ("ts, " ++ Context.spaceFunction f ++ "(per_series_value) as value FROM (")
  | spaceSum : Wording ("ts, " ++ "sum" ++ "(per_series_value) as value FROM (")
  | spaceGroup : Wording ") WHERE isNaN(per_series_value) = 0 GROUP BY "
  -- conditions and reductions of metrics statements
  | selectAll : Wording "SELECT * FROM ("
  | stageHaving : Wording ") HAVING "
  | stageReduce (kind : ReduceTo) (perSeries : Bool) :
      Wording ("SELECT " ++ Reducing.function kind ++ "(value, toUnixTimestamp(ts) != 0) as value, "
        ++ "anyIf(ts, toUnixTimestamp(ts) != 0) AS timestamp "
        ++ (if perSeries then ", any(fullLabels) as fullLabels" else "") ++ " FROM (")
  | reduceGroup (perSeries : Bool) :
      Wording (if perSeries then ") GROUP BY fingerprint" else ") ")

/-- Fixed texts inside of literals: the wildcard of patterns and the types of JSON fields. -/
inductive LiteralWording : String → Prop
  | wildcard : LiteralWording "%"
  | extractType {t : DataType} {w : String} (h : Body.extractType t = some w) : LiteralWording w

/-! ## Closed texts -/

/-- A reader that starts outside of quotes ends outside of quotes. -/
def Closed (w : String) : Prop := (Lexical.scan .outside w.toList).2 = .outside

theorem Closed.append {a b : String} (ha : Closed a) (hb : Closed b) : Closed (a ++ b) := by
  rw [Closed, String.toList_append, Lexical.scan_append, ha]
  exact hb

/-- Closedness of a text is decided on its characters. -/
theorem closed_of_chars {w : String} {cs : List Char} (h : w = String.ofList cs)
    (hc : (Lexical.scan .outside cs).2 = .outside) : Closed w := by
  rw [Closed, h, String.toList_ofList]
  exact hc

theorem Closed.ite {p : Prop} [Decidable p] {a b : String} (ha : Closed a) (hb : Closed b) :
    Closed (if p then a else b) := by
  split
  · exact ha
  · exact hb

theorem Closed.bracketed {a b c : String} (ha : Closed a) (hb : Closed b) (hc : Closed c) :
    Closed (a ++ b ++ c) := (ha.append hb).append hc

theorem closed_mapColumn {map : String} (h : map ∈ mapColumns) : Closed map := by
  simp only [mapColumns, List.mem_cons, List.not_mem_nil, or_false] at h
  rcases h with rfl | rfl | rfl | rfl | rfl | rfl | rfl | rfl | rfl | rfl <;>
    exact closed_of_chars rfl (by decide)

theorem closed_labelFunction {f : String} (h : f ∈ ["like", "notLike", "match", "not match"]) :
    Closed f := by
  simp only [List.mem_cons, List.not_mem_nil, or_false] at h
  rcases h with rfl | rfl | rfl | rfl <;> exact closed_of_chars rfl (by decide)

theorem closed_comparison (c : Comparison) : Closed c.word := by
  cases c <;> exact closed_of_chars rfl (by decide)

theorem closed_havingOperator (op : HavingOperator) : Closed op.word := by
  cases op with
  | compare c => exact closed_comparison c
  | member negated => refine .ite ?_ ?_ <;> exact closed_of_chars rfl (by decide)

theorem closed_reduction (f : Reduction) : Closed f.word := by
  cases f <;> exact closed_of_chars rfl (by decide)

theorem closed_percentile (p : Percentile) : Closed p.fraction := by
  cases p <;> exact closed_of_chars rfl (by decide)

theorem closed_quantile (q : Quantile) : Closed q.fraction := by
  cases q <;> exact closed_of_chars rfl (by decide)

theorem closed_spaceFunction (f : SpaceAggregation) : Closed (Context.spaceFunction f) := by
  cases f with
  | function f => exact closed_reduction f
  | count => exact closed_of_chars rfl (by decide)
  | percentile q =>
    refine .bracketed ?_ (closed_quantile q) ?_ <;> exact closed_of_chars rfl (by decide)

theorem closed_table (s : Schema) : Closed s.table := by
  cases s <;> exact closed_of_chars rfl (by decide)

theorem closed_listColumns (s : Schema) : Closed s.listColumns := by
  cases s <;> refine .append ?_ ?_ <;> exact closed_of_chars rfl (by decide +kernel)

theorem closed_likeWord (s : Schema) (negated : Bool) : Closed (s.likeWord negated) := by
  cases s <;> refine .append (.ite ?_ ?_) ?_ <;> exact closed_of_chars rfl (by decide)

theorem closed_tierTemporality (t : Temporality) :
    Closed ("temporality = '" ++ t.word ++ "'") := by
  -- the two quotes of this literal are in different texts
  rw [Closed, String.toList_append, String.toList_append,
    show "temporality = '".toList = _ from String.toList_ofList,
    show "'".toList = _ from String.toList_ofList]
  cases t
  · rw [show Temporality.unspecified.word.toList = _ from String.toList_ofList]; decide
  · rw [show Temporality.delta.word.toList = _ from String.toList_ofList]; decide
  · rw [show Temporality.cumulative.word.toList = _ from String.toList_ofList]; decide

theorem closed_tierColumn {t : Tier} {aggregation : TimeAggregation} {w : String}
    (h : t.valueColumn aggregation = .ok w) : Closed w := by
  have hw : ∀ {x : String}, (Except.ok x : Except Fault String) = .ok w → Closed x → Closed w :=
    fun he hx => Except.ok.inj he ▸ hx
  unfold Tier.valueColumn at h
  cases aggregation <;> simp only at h
  case' countDistinct =>
    split at h
    case' isTrue => cases h
    refine hw h ?_
  case' rate | increase =>
    split at h
    case' h_3 => cases h
    all_goals refine hw h (.ite ?_ ?_)
  case' latest | sum | avg | min | max | count => refine hw h (.ite ?_ ?_)
  all_goals exact closed_of_chars rfl (by decide)

theorem closed_windowDelta {column zero : String} (hc : Closed column) (hz : Closed zero) :
    Closed (windowDelta column zero) := by
  refine .append (.append (.append (.append (.append (.append ?_ hc) ?_) hc) ?_) hz) ?_ <;>
    exact closed_of_chars rfl (by decide)

theorem raw_inj {a b : String} (h : raw a = raw b) : a = b := by
  simpa [raw] using h

theorem closed_rate {w : String} (perMinute : Bool) (h : rateSql perMinute = raw w) : Closed w := by
  have hv : Closed (if perMinute then "value*60" else "value") := by
    refine .ite ?_ ?_ <;> exact closed_of_chars rfl (by decide)
  rw [← raw_inj h]
  refine .append (.append (.append (.append ?_ hv) ?_) hv) ?_ <;>
    exact closed_of_chars rfl (by decide)

theorem closed_counter {w : String} (increase perMinute : Bool)
    (h : counterSql increase perMinute = raw w) : Closed w := by
  have hv : Closed (windowDelta "per_series_value" "0") := by
    refine closed_windowDelta ?_ ?_ <;> exact closed_of_chars rfl (by decide)
  have ht : Closed (windowDelta "ts" "toDate('1970-01-01')") := by
    refine closed_windowDelta ?_ ?_ <;> exact closed_of_chars rfl (by decide)
  rw [← raw_inj h]
  refine .append (.append (.append (.append (.append (.append (.append (.append ?_ hv) ?_) ht) ?_)
    ?_) ?_) (.ite hv (.ite (.append (.append (.append ?_ hv) ?_) ht) (.bracketed hv ?_ ht)))) ?_
  all_goals exact closed_of_chars rfl (by decide)

/-- Every text of the vocabulary can stand between two quoted texts. A text is cut where a part of
it varies; what is between the cuts is decided on its characters. -/
theorem Wording.closed {w : String} (h : Wording w) : Closed w := by
  cases h
  case tierTemporality t => exact closed_tierTemporality t
  case rate perMinute h => exact closed_rate perMinute h
  case counter increase perMinute h => exact closed_counter increase perMinute h
  case tierColumn h => exact closed_tierColumn h
  case histogram q =>
    refine .bracketed ?_ (closed_quantile q) ?_ <;> exact closed_of_chars rfl (by decide +kernel)
  case' mapEntry h => refine .append (closed_mapColumn h) ?_
  case' mapContains h hn =>
    rcases hn with rfl | rfl <;>
      refine .append (.append (.append (.ite (.append ?_ ?_) ?_) ?_) (closed_mapColumn h)) ?_
  case' nonZero zero => cases zero <;> refine .append (.ite ?_ ?_) ?_
  case' bool | membership | flag | ilike | labelLike | labelHint | singleTemporality | asValueFrom
      | dropOrder | reduceGroup => refine .ite ?_ ?_
  case' labelMatch | labelPresence | labelKeys => refine .append (.ite ?_ ?_) ?_
  case' bodyLike => refine .bracketed ?_ (.ite ?_ ?_) ?_
  case' connective op => cases op <;> refine .bracketed ?_ ?_ ?_
  case' comparison c => refine .bracketed ?_ (closed_comparison c) ?_
  case' like s negated => refine .bracketed ?_ (closed_likeWord s negated) ?_
  case' having op => refine .bracketed ?_ (closed_havingOperator op) ?_
  case' valueFrom s => refine .bracketed ?_ (closed_table s) ?_
  case' selectInterval s => cases s <;> refine .bracketed ?_ ?_ ?_
  case' reduce kind => cases kind <;> refine .bracketed ?_ ?_ ?_
  case' selectRows s =>
    refine .append (.append (.bracketed ?_ (closed_listColumns s) ?_) (closed_table s)) ?_
  case' quantile p | plainQuantile p => refine .bracketed ?_ (closed_percentile p) ?_
  case' reduction f | plainReduction f => refine .append (closed_reduction f) ?_
  case' labelFunction h => refine .append (closed_labelFunction h) ?_
  case' fromTiered t => cases t <;> refine .append ?_ ?_
  case' joinTier t => cases t <;> refine .bracketed ?_ ?_ ?_
  case' interval h => rcases h with rfl | rfl <;> refine .bracketed ?_ ?_ ?_
  case' space f => refine .bracketed ?_ (closed_spaceFunction f) ?_
  case' stageReduce kind perSeries =>
    cases kind <;>
      refine .append (.append (.append (.append (.append ?_ ?_) ?_) ?_) (.ite ?_ ?_)) ?_
  case' fingerprints | joinSingle | spaceSum => refine .bracketed ?_ ?_ ?_
  case' rowTimeFirst | rowTimeLast | bucketStartFirst | bucketStartLast | fromSingle | window =>
    refine .append ?_ ?_
  all_goals exact closed_of_chars rfl (by decide)

theorem LiteralWording.verbatim {w : String} (h : LiteralWording w) :
    Lexical.Verbatim w.toList := by
  cases h with
  | wildcard =>
    rw [show "%".toList = _ from String.toList_ofList]
    decide
  | @extractType t _ h =>
    unfold Body.extractType at h
    split at h
    case h_1 | h_2 => cases h
    all_goals
      cases h
      rw [show String.toList _ = _ from String.toList_ofList]
      decide

end PanelQuery.Sql
