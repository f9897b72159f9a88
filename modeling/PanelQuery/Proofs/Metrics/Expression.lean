import PanelQuery.Proofs.Metrics.Measures
import PanelQuery.Proofs.Sql.SelectList

/-! # Expressions of a stage

The select list of a stage has columns by which rows are told apart, a time and a value. Each of
them is read as one column, with the name that the stage gives it; a number in it is a measure if it
is the width of an interval or a divisor. -/

namespace PanelQuery.Metrics

open Sql (Quiet Measured Measure)
open Sql.SelectList

/-! ## Columns in front of the value -/

theorem reads_tag (tag : String) : Reads .start (tagSql tag) [] (.column 0 [] [.name tag]) := rfl

theorem reads_comma (tag : String) :
    Reads (.column 0 [] [.name tag]) (Sql.raw ",") [tag] .start := .raw rfl rfl

theorem reads_spacedComma (tag : String) :
    Reads (.column 0 [] [.name tag]) (Sql.raw ", ") [tag] .start := .raw rfl rfl

theorem reads_groupSelect (keys : List String) :
    Reads .start (Lead.groupSelect keys) keys .start := by
  have hlist : ∀ tag keys, Reads .start (tagList "," (tag :: keys) ++ Sql.raw ", ") (tag :: keys)
      .start := by
    intro tag keys
    induction keys generalizing tag with
    | nil => exact (reads_tag tag).append (reads_spacedComma tag)
    | cons next keys ih =>
      have hrest := ((reads_tag tag).append (reads_comma tag)).append (ih next)
      rwa [← List.append_assoc] at hrest
  cases keys with
  | nil => exact .nil _
  | cons tag keys => exact hlist tag keys

theorem reads_anyTag (tag : String) :
    Reads .start (Sql.raw "any(" ++ tagSql tag ++ Sql.raw ") as " ++ tagSql tag ++ Sql.raw ",")
      [tag] .start := by
  have hopen : Reads .start (Sql.raw "any(") [] (.column 1 [] [.letters ['a', 'n', 'y']]) :=
    .raw rfl (by decide)
  have hname : Reads (.column 1 [] [.letters ['a', 'n', 'y']]) (tagSql tag) []
      (.column 1 [] [.letters ['a', 'n', 'y']]) := rfl
  have has : Reads (.column 1 [] [.letters ['a', 'n', 'y']]) (Sql.raw ") as ") []
      (.column 0 [] [.letters ['a', 's'], .letters ['a', 'n', 'y']]) := .raw rfl (by decide)
  have htag : Reads (.column 0 [] [.letters ['a', 's'], .letters ['a', 'n', 'y']]) (tagSql tag) []
      (.column 0 [] [.name tag, .letters ['a', 's'], .letters ['a', 'n', 'y']]) := rfl
  exact (((hopen.append hname).append has).append htag).append (.raw rfl rfl)

/-- A blank between columns. -/
theorem reads_blank : Reads .start (Sql.raw " ") [] .start := .raw rfl (by decide)

theorem reads_anyTags (keys : List String) :
    Reads .start (Sql.join " " (keys.map fun tag =>
      Sql.raw "any(" ++ tagSql tag ++ Sql.raw ") as " ++ tagSql tag ++ Sql.raw ",")) keys
      .start := by
  induction keys with
  | nil => exact .nil _
  | cons tag keys ih =>
    cases keys with
    | nil => exact reads_anyTag tag
    | cons next keys => exact ((reads_anyTag tag).append reads_blank).append ih

theorem Lead.reads (lead : Lead) : Reads .start lead.sql lead.columns .start := by
  have hfingerprint : Reads .start (Sql.raw "fingerprint, ") ["fingerprint"] .start :=
    .raw rfl (by decide)
  cases lead with
  | tags keys => exact (reads_groupSelect keys).before reads_blank
  | seriesTags keys => exact (hfingerprint.append (reads_groupSelect keys)).before reads_blank
  | spacedTags keys =>
    have hkeys : Reads .start _ (keys.map id) .start := .flatMap (f := fun tag =>
      tagSql tag ++ Sql.raw ", ") fun tag _ => (reads_tag tag).append (reads_spacedComma tag)
    rwa [List.map_id] at hkeys
  | anyTags keys => exact (hfingerprint.append (reads_anyTags keys)).before reads_blank
  | anyLabels => exact .raw rfl (by decide)
  | anyFullLabels => exact .raw rfl (by decide)
  | fullLabels => exact .raw rfl (by decide)
  | renamedLabels => exact .raw rfl (by decide)

/-- The function that gives the start of an interval. -/
def intervalWord : Word :=
  .letters ['t', 'o', 'S', 't', 'a', 'r', 't', 'O', 'f', 'I', 'n', 't', 'e', 'r', 'v', 'a', 'l']

theorem reads_interval {column : String} {word : List Char}
    (h : Reads (.column 3 [] [intervalWord]) (Sql.raw column) [] (.column 3 word [intervalWord]))
    (seconds : Int) : Reads .start (intervalSql column seconds) [] (.column 0 [] [intervalWord]) := by
  have hopen : Reads .start (Sql.raw "toStartOfInterval(toDateTime(intDiv(") []
      (.column 3 [] [intervalWord]) := .raw rfl (by decide)
  have hclose : Reads (.column 3 word [intervalWord]) (Sql.raw ", 1000)), INTERVAL ") []
      (.column 1 [] [intervalWord]) := .raw rfl rfl
  have hseconds : Reads (.column 1 [] [intervalWord]) [.int seconds] []
      (.column 1 [] [intervalWord]) := rfl
  exact (((hopen.raw_append h).raw_append hclose).append hseconds).append (.raw rfl (by decide))

theorem TimeColumn.reads (time : TimeColumn) :
    Reads .start (time.sql ++ Sql.raw ", ") ["ts"] .start := by
  have hnamed : ∀ {w : Word}, Reads (.column 0 [] [w]) (Sql.raw " as ts") []
      (.column 0 ['s', 't'] [.letters ['a', 's'], w]) := fun {_} => .raw rfl rfl
  have hcomma : ∀ {w : Word}, Reads (.column 0 ['s', 't'] [.letters ['a', 's'], w])
      (Sql.raw ", ") ["ts"] .start := fun {_} => .raw rfl rfl
  cases time with
  | carried =>
    have htime : Reads .start (Sql.raw "ts") [] (.column 0 ['s', 't'] []) := .raw rfl (by decide)
    exact htime.append (.raw rfl rfl)
  | interval seconds => exact ((reads_interval (.raw rfl rfl) seconds).append hnamed).append hcomma
  | tierInterval seconds =>
    exact ((reads_interval (.raw rfl rfl) seconds).append hnamed).append hcomma
  | hour =>
    exact Reads.append (a := Sql.raw "toStartOfHour(now()) as ts") (.raw rfl rfl) hcomma

/-! ## Values -/

/-- An expression of one column, with its measures. -/
structure Expression (value : Sql) (ms : List Measure) : Prop where
  measured : Measured value ms
  inside : ∃ words, Reads .start value [] (.column 0 [] words)

namespace Expression

/-- A call that is written in one text. -/
theorem call {w : String} {cs : List Char} {words : List Word} (hw : w = String.ofList cs)
    (hr : Sql.Role.after? cs = none)
    (hs : scan .start (cs.map .char) = ([], .column 0 [] words)) : Expression (Sql.raw w) [] :=
  ⟨.raw hw hr, words, .raw hw hs⟩

/-- A function of the value. -/
theorem ofValue (f : Reduction) : Expression (Metrics.ofValue f) [] := by
  refine ⟨.closing _ rfl rfl (by decide) (by decide), ?_⟩
  cases f <;> exact ⟨_, (Reads.raw rfl rfl).raw_append (.raw rfl rfl)⟩

theorem plainQuantile (p : Percentile) :
    Expression (Sql.raw ("quantile(" ++ p.fraction ++ ")(value)")) [] := by
  have hfraction : Spans 1 (Sql.raw p.fraction) 1 := by
    cases p <;> exact .raw rfl fun _ _ => ⟨_, rfl⟩
  obtain ⟨words, hopen⟩ : ∃ words, Reaches .start (Sql.raw "quantile(") 1 words :=
    ⟨_, _, .raw rfl rfl⟩
  obtain ⟨word, hread⟩ := hopen.append hfraction
  exact ⟨.closing _ rfl rfl (by decide) (by decide), words, hread.raw_append (.raw rfl rfl)⟩

theorem plainValue {op : AggregateOperator} {value : Sql} (h : plainValue? op = some value) :
    Expression value [] := by
  unfold plainValue? at h
  split at h <;> cases h
  · exact plainQuantile _
  · exact ofValue _
  · exact call rfl (by decide) rfl
  · exact call rfl (by decide) rfl

/-- The column of a tier is a call, or a quotient of two. -/
theorem tierColumn {t : Tier} {aggregation : TimeAggregation} {column : String}
    (h : t.valueColumn aggregation = .ok column) : Expression (Sql.raw column) [] := by
  have hcolumn : ∀ {c : String}, (Except.ok c : Except Fault String) = .ok column →
      Expression (Sql.raw c) [] → Expression (Sql.raw column) [] := fun he hc =>
    Except.ok.inj he ▸ hc
  have hite : ∀ {p : Prop} [Decidable p] {c c' : String}, Expression (Sql.raw c) [] →
      Expression (Sql.raw c') [] → Expression (Sql.raw (if p then c else c')) [] := by
    intro p _ c c' hc hc'
    split
    · exact hc
    · exact hc'
  unfold Tier.valueColumn at h
  cases aggregation <;> simp only at h
  case' countDistinct =>
    split at h
    case' isTrue => cases h
    refine hcolumn h ?_
  case' rate | increase =>
    split at h
    case' h_3 => cases h
    all_goals refine hcolumn h (hite ?_ ?_)
  case' latest | sum | avg | min | max | count => refine hcolumn h (hite ?_ ?_)
  all_goals exact call rfl (by decide) rfl

theorem spans_fraction (q : Quantile) : Spans 1 (Sql.raw q.fraction) 1 := by
  cases q <;> exact .raw rfl fun _ _ => ⟨_, rfl⟩

/-- The function that gives the quantile of a histogram. -/
def histogramWord : Word :=
  .letters ['h', 'i', 's', 't', 'o', 'g', 'r', 'a', 'm', 'Q', 'u', 'a', 'n', 't', 'i', 'l', 'e']

theorem quantile (q : Quantile) : Expression (quantileSql q) [] := by
  have hopen : Reaches .start (Sql.raw
      "histogramQuantile(arrayMap(x -> toFloat64(x), groupArray(le)), groupArray(value), ") 1
      [histogramWord] := ⟨[], .raw rfl (by decide)⟩
  obtain ⟨word, hread⟩ := hopen.append (spans_fraction q)
  exact ⟨.closing _ rfl rfl (by decide) (by decide), [histogramWord],
    hread.raw_append (.raw rfl rfl)⟩

/-- A function over the series of a group. -/
theorem space (f : SpaceAggregation) :
    Expression (Sql.raw (Context.spaceFunction f ++ "(per_series_value)")) [] := by
  refine ⟨.closing _ rfl rfl (by decide) (by decide), ?_⟩
  cases f with
  | function f => cases f <;> exact ⟨_, (Reads.raw rfl rfl).raw_append (.raw rfl rfl)⟩
  | count => exact ⟨_, (Reads.raw rfl rfl).raw_append (.raw rfl rfl)⟩
  | percentile q =>
    obtain ⟨words, hopen⟩ : ∃ words, Reaches .start (Sql.raw "quantile(") 1 words :=
      ⟨_, _, .raw rfl rfl⟩
    obtain ⟨word, hread⟩ := hopen.append (spans_fraction q)
    have hclose : Reads (.column 1 word words) (Sql.raw ")") [] (.column 0 [] words) := .raw rfl rfl
    exact ⟨words, (hread.raw_append hclose).raw_append (.raw rfl rfl)⟩

/-- A quotient has its divisor as a measure. -/
theorem dividedBy {value : Sql} {n : Sql.Piece} (h : Expression value []) (hn : n.isNumber = true) :
    Expression (Metrics.dividedBy value [n]) [⟨.divisor, n⟩] := by
  obtain ⟨words, hread⟩ := h.inside
  have hslash : Reads (.column 0 [] words) (Sql.raw "/") [] (.column 0 [] words) := .raw rfl rfl
  have hnumber : Reads (.column 0 [] words) [n] [] (.column 0 [] words) := by
    cases n <;> first | rfl | cases hn
  refine ⟨?_, words, (hread.append hslash).append hnumber⟩
  rw [Metrics.dividedBy, List.append_assoc]
  exact (Measured.number (by decide) hn).after h.measured

set_option maxRecDepth 1000 in
theorem rateSql (perMinute : Bool) : Expression (Metrics.rateSql perMinute) [] := by
  have hvalue : Spans 3 (Sql.raw (if perMinute then "value*60" else "value")) 3 := by
    cases perMinute <;> exact .raw rfl fun _ _ => ⟨_, rfl⟩
  have hmiddle : Spans 3 (Sql.raw ") / runningDifference(ts), runningDifference(") 3 :=
    .raw rfl fun _ _ => ⟨_, rfl⟩
  have hopen : Reaches .start
      (Sql.raw "if(runningDifference(ts) <= 0, nan, if(runningDifference(value) < 0, (") 3
      [.letters ['i', 'f']] := ⟨[], .raw rfl (by decide)⟩
  obtain ⟨word, hread⟩ := ((hopen.append hvalue).append hmiddle).append hvalue
  unfold Metrics.rateSql
  exact ⟨.raw_append _ rfl (by decide) (by decide), _, hread.raw_append (.raw rfl rfl)⟩

end Expression

/-- A difference to the row before stands in one pair of parentheses. -/
theorem spans_windowDelta (d : Nat) {column zero : String}
    (hc : ∀ d, Spans (d + 1) (Sql.raw column) (d + 1))
    (hz : ∀ d, Spans (d + 1) (Sql.raw zero) (d + 1)) :
    Spans (d + 1) (Sql.raw (windowDelta column zero)) (d + 1) := by
  have hopen : Spans (d + 1) (Sql.raw "(") (d + 2) := .raw rfl fun _ _ => ⟨_, rfl⟩
  have hlag : Spans (d + 2) (Sql.raw " - lagInFrame(") (d + 3) := .raw rfl fun _ _ => ⟨_, rfl⟩
  have hrow : Spans (d + 3) (Sql.raw ", 1, ") (d + 3) := .raw rfl fun _ _ => ⟨_, rfl⟩
  have hclose : Spans (d + 3) (Sql.raw ") OVER rate_window)") (d + 1) := .raw rfl fun _ _ => ⟨_, rfl⟩
  exact (((((hopen.append (hc _)).append hlag).append (hc _)).append hrow).append (hz _)).append
    hclose

theorem Expression.counterSql (increase perMinute : Bool) :
    Expression (Metrics.counterSql increase perMinute) [] := by
  have hvalue : ∀ d, Spans (d + 1) (Sql.raw (windowDelta "per_series_value" "0")) (d + 1) :=
    fun d => spans_windowDelta d (fun _ => .raw rfl fun _ _ => ⟨_, rfl⟩)
      fun _ => .raw rfl fun _ _ => ⟨_, rfl⟩
  have htime : ∀ d, Spans (d + 1) (Sql.raw (windowDelta "ts" "toDate('1970-01-01')")) (d + 1) :=
    fun d => spans_windowDelta d (fun _ => .raw rfl fun _ _ => ⟨_, rfl⟩)
      fun _ => .raw rfl fun _ _ => ⟨_, rfl⟩
  have hnext : Spans 1 (Sql.raw " < 0, nan, If(") 2 := .raw rfl fun _ _ => ⟨_, rfl⟩
  have hgap : Spans 2 (Sql.raw " >= ") 2 := .raw rfl fun _ _ => ⟨_, rfl⟩
  have hlimit : Spans 2 (Sql.raw maxRateGapSeconds) 2 := .raw rfl fun _ _ => ⟨_, rfl⟩
  have hnan : Spans 2 (Sql.raw ", nan, ") 2 := .raw rfl fun _ _ => ⟨_, rfl⟩
  have hresult : Spans 2 (Sql.raw (if increase then windowDelta "per_series_value" "0"
      else if perMinute then "(" ++ windowDelta "per_series_value" "0" ++ " * 60) / "
        ++ windowDelta "ts" "toDate('1970-01-01')"
      else windowDelta "per_series_value" "0" ++ " / "
        ++ windowDelta "ts" "toDate('1970-01-01')")) 2 := by
    have hopen : Spans 2 (Sql.raw "(") 3 := .raw rfl fun _ _ => ⟨_, rfl⟩
    have hminute : Spans 3 (Sql.raw " * 60) / ") 2 := .raw rfl fun _ _ => ⟨_, rfl⟩
    have hover : Spans 2 (Sql.raw " / ") 2 := .raw rfl fun _ _ => ⟨_, rfl⟩
    split
    · exact hvalue 1
    split
    · exact ((hopen.append (hvalue 2)).append hminute).append (htime 1)
    · exact ((hvalue 1).append hover).append (htime 1)
  have hopen : Reaches .start (Sql.raw "If(") 1 [.letters ['I', 'f']] := ⟨[], .raw rfl (by decide)⟩
  obtain ⟨word, hread⟩ := ((((((hopen.append (hvalue 0)).append hnext).append
    (htime 1)).append hgap).append hlimit).append hnan).append hresult
  exact ⟨.closing _ rfl rfl (by decide) (by decide), _, hread.raw_append (.raw rfl rfl)⟩

end PanelQuery.Metrics
