import PanelQuery.Proofs.Metrics.Expression

/-! # What the text of a stage selects and measures

A stage is made of expressions over the stage below it. It selects the columns that it is said to
have, and its measures are those of its time, of its value and of the stage below. -/

namespace PanelQuery.Metrics

open Sql (Quiet Measured Measure)
open Sql.SelectList

/-- What a stage reads at its bottom. -/
inductive Source where
  | samples (range : SampleRange) (lookup : SeriesLookup)
  | series (tier : Tier) (metric : String) (lookup : SeriesLookup)

def Source.lookup : Source → SeriesLookup
  | .samples _ lookup | .series _ _ lookup => lookup

/-- The widths of a time column. -/
def TimeColumn.measures : TimeColumn → List Measure
  | .interval seconds | .tierInterval seconds => [⟨.width, .int seconds⟩]
  | .carried | .hour => []

theorem measured_interval (column : String) (seconds : Int) :
    Measured (intervalSql column seconds) [⟨.width, .int seconds⟩] := by
  have hwidth : Sql.Role.after? ("toStartOfInterval(toDateTime(intDiv(" ++ column
      ++ ", 1000)), INTERVAL ").toList = some .width := by
    rw [String.toList_append, show ", 1000)), INTERVAL ".toList = _ from String.toList_ofList,
      Sql.Role.after?_append (by decide)]
    decide
  exact (Measured.number hwidth rfl).before (.raw rfl (by decide))

theorem TimeColumn.measured (time : TimeColumn) : Measured time.sql time.measures := by
  cases time with
  | carried => exact .raw rfl (by decide)
  | interval seconds | tierInterval seconds =>
    exact (measured_interval _ seconds).before (.raw rfl (by decide))
  | hour => exact .raw rfl (by decide)

namespace Stage

def source : Stage → Source
  | .samples range _ _ _ lookup _ _ => .samples range lookup
  | .series tier metric _ _ _ lookup => .series tier metric lookup
  | .rates _ _ _ _ source | .across _ _ _ source _ _ _ | .counter _ _ _ source
  | .space _ _ source _ _ | .quantile _ _ source _ => source.source

/-- The stage is made of expressions and has these measures. -/
inductive Made : Stage → List Measure → Prop
  | samples {range : SampleRange} {lead : Lead} {time : TimeColumn} {value : Sql}
      {lookup : SeriesLookup} {grouping : Grouping} {order : Ordering} {ms : List Measure}
      (hv : Expression value ms) :
      Made (.samples range lead time value lookup grouping order) (time.measures ++ ms)
  | rates {lead : Lead} {time : TimeColumn} {perMinute wide : Bool} {source : Stage}
      {ms : List Measure} (h : Made source ms) :
      Made (.rates lead time perMinute wide source) (time.measures ++ ms)
  | across {tags : List String} {time : TimeColumn} {value : Sql} {source : Stage}
      {grouping : Grouping} {dropNaN : Bool} {order : Ordering} {vs ms : List Measure}
      (hv : Expression value vs) (h : Made source ms) :
      Made (.across tags time value source grouping dropNaN order) (time.measures ++ vs ++ ms)
  | series {tier : Tier} {metric : String} {tags : List String} {step : Int} {value : Sql}
      {lookup : SeriesLookup} {ms : List Measure} (hv : Expression value ms) :
      Made (.series tier metric tags step value lookup) (⟨.width, .int step⟩ :: ms)
  | counter {tags : List String} {increase perMinute : Bool} {source : Stage} {ms : List Measure}
      (h : Made source ms) : Made (.counter tags increase perMinute source) ms
  | space {tags : List String} {function : String} {source : Stage} {grouping : Grouping}
      {order : Ordering} {ms : List Measure}
      (hf : Expression (Sql.raw (function ++ "(per_series_value)")) []) (h : Made source ms) :
      Made (.space tags function source grouping order) ms
  | quantile {tags : List String} {q : Quantile} {source : Stage} {order : Ordering}
      {ms : List Measure} (h : Made source ms) : Made (.quantile tags q source order) ms

variable {s : Stage} {ms : List Measure}

theorem quiet_joinSql (table : String) {lookup : SeriesLookup} (h : Quiet lookup.sql) :
    Quiet (joinSql table lookup) :=
  (h.after (.closing _ rfl rfl (by decide) (by decide))).before (.raw rfl (by decide))

theorem quiet_rangeSql (range : SampleRange) : Quiet (rangeSql range) :=
  ((((Measured.literal range.metric).after (.raw rfl (by decide))).append
    (.raw rfl (by decide))).append (.int _)).append (.raw rfl (by decide)) |>.append (.int _)

/-- The beginning of a stage has the measures of its time. -/
theorem measured_head (lead : Lead) (time : TimeColumn) :
    Measured (Sql.raw "SELECT " ++ lead.sql ++ time.sql ++ Sql.raw ", ") time.measures :=
  (time.measured.after (lead.quiet_sql.after (.raw rfl (by decide)))).before (.raw rfl (by decide))

theorem quiet_selected (tags : List String) :
    Quiet (Sql.raw "SELECT " ++ (Lead.spacedTags tags).sql) :=
  (Lead.quiet_sql _).after (.raw rfl (by decide))

/-- So has that of a stage which takes over the time of the stage below. -/
theorem quiet_listHead (tags : List String) :
    Quiet (Sql.raw "SELECT " ++ (Lead.spacedTags tags).sql ++ Sql.raw "ts, ") :=
  (quiet_selected tags).append (.raw rfl (by decide))

/-- The measures of a stage are those in its text, if its lookup has none. -/
theorem Made.measured (h : s.Made ms) (hq : Quiet s.source.lookup.sql) : s.sql.Measured ms := by
  induction h with
  | @samples range lead time value lookup grouping order ms hv =>
    exact ((((((((measured_head lead time).append hv.measured).before (.raw rfl (by decide))).before
      (quiet_joinSql samplesTable hq)).before (quiet_rangeSql range)).before
      (.raw rfl (by decide))).before grouping.quiet_sql).before (.raw rfl (by decide))).before
      order.quiet_sql
  | @rates lead time perMinute wide source ms h ih =>
    have hfrom : Quiet (Sql.raw (if wide then " as value FROM(" else "as value FROM(")) := by
      cases wide <;> exact .raw rfl (by decide)
    exact ((((measured_head lead time).before (Expression.rateSql perMinute).measured).before
      hfrom).append (ih hq)).before (.raw rfl (by decide))
  | @across tags time value source grouping dropNaN order vs ms hv h ih =>
    have horder : Quiet (Sql.raw (if dropNaN then " HAVING isNaN(value) = 0 ORDER BY "
        else " ORDER BY ")) := by
      cases dropNaN <;> exact .raw rfl (by decide)
    exact ((((((((measured_head (.tags tags) time).append hv.measured).before
      (.raw rfl (by decide))).append (ih hq)).before (.raw rfl (by decide))).before
      grouping.quiet_sql).before horder).before order.quiet_sql)
  | @series tier metric tags step value lookup ms hv =>
    exact (((((((((((measured_head (.anyTags tags) (.tierInterval step)).append hv.measured).before
      (.raw rfl (by decide))).before (quiet_joinSql tier.samples.name hq)).before
      (.raw rfl (by decide))).before (.literal metric)).before (.raw rfl (by decide))).before
      (.int _)).before (.raw rfl (by decide))).before (.int _)).before (.raw rfl (by decide)))
  | @counter tags increase perMinute source ms h ih =>
    exact ((ih hq).after (((quiet_listHead tags).append
      (Expression.counterSql increase perMinute).measured).append (.raw rfl (by decide)))).before
      (.closing _ rfl rfl (by decide) (by decide))
  | @space tags function source grouping order ms hf h ih =>
    have hfunction : Quiet (Sql.raw ("ts, " ++ function ++ "(per_series_value) as value FROM (")) :=
      .closing _ rfl rfl (by decide) (by decide)
    exact (((((ih hq).after ((quiet_selected tags).append hfunction)).before
      (.raw rfl (by decide))).before grouping.quiet_sql).before (.raw rfl (by decide))).before
      order.quiet_sql
  | @quantile tags q source order ms h ih =>
    exact (((((ih hq).after (((quiet_listHead tags).append (Expression.quantile q).measured).append
      (.raw rfl (by decide)))).before (.raw rfl (by decide))).before
      (Grouping.tags tags).quiet_sql).before (.raw rfl (by decide))).before order.quiet_sql

/-! ## Columns -/

theorem reads_select : Reads (.before []) (Sql.raw "SELECT ") [] .start := .raw rfl (by decide)

theorem reads_head (lead : Lead) (time : TimeColumn) :
    Reads (.before []) (Sql.raw "SELECT " ++ lead.sql ++ time.sql ++ Sql.raw ", ")
      (lead.columns ++ ["ts"]) .start := by
  rw [List.append_assoc]
  exact (reads_select.append lead.reads).append time.reads

theorem reads_listHead (tags : List String) :
    Reads (.before []) (Sql.raw "SELECT " ++ (Lead.spacedTags tags).sql ++ Sql.raw "ts, ")
      (tags ++ ["ts"]) .start :=
  (reads_select.append (Lead.spacedTags tags).reads).append (.raw rfl (by decide))

/-- The word FROM ends the list, whatever table comes after it. -/
theorem reads_from {p : Place} {columns : List String} (h : Reads p (Sql.raw " FROM ") columns .done)
    (table : String) : Reads p (Sql.raw (" FROM " ++ table ++ " INNER JOIN (")) columns .done := by
  have hdone : ∀ w, Reads .done (Sql.raw w) [] .done := fun w => scan_done _
  simpa using (h.raw_append (hdone table)).raw_append (hdone " INNER JOIN (")

theorem reads_value (words : List Word) (table : String) :
    Reads (.column 0 [] words) (Sql.raw " as value" ++
      Sql.raw (" FROM " ++ table ++ " INNER JOIN (")) ["value"] .done := by
  have has : Reads (.column 0 [] words) (Sql.raw " as value") []
      (.column 0 ['e', 'u', 'l', 'a', 'v'] (.letters ['a', 's'] :: words)) := .raw rfl rfl
  exact has.append (reads_from (.raw rfl rfl) table)

theorem reads_seriesValue (words : List Word) (table : String) :
    Reads (.column 0 [] words) (Sql.raw " as per_series_value" ++
      Sql.raw (" FROM " ++ table ++ " INNER JOIN (")) ["per_series_value"] .done := by
  have has : Reads (.column 0 [] words) (Sql.raw " as per_series_value") []
      (.column 0 ['e', 'u', 'l', 'a', 'v', '_', 's', 'e', 'i', 'r', 'e', 's', '_', 'r', 'e', 'p']
        (.letters ['a', 's'] :: words)) := .raw rfl rfl
  exact has.append (reads_from (.raw rfl rfl) table)

theorem reads_valueFrom (words : List Word) :
    Reads (.column 0 [] words) (Sql.raw " as value FROM (") ["value"] .done := .raw rfl rfl

/-- A stage selects its columns. -/
theorem Made.selected (h : s.Made ms) : Reads (.before []) s.sql s.columns .done := by
  -- whatever follows the name of the last column is not read
  have hlast : ∀ {front value : Sql} {columns : List String} {name : String} (rest : Sql),
      Reads (.before []) front (columns ++ ["ts"]) .start → Reads .start value [name] .done →
      Reads (.before []) (front ++ (value ++ rest)) (columns ++ ["ts", name]) .done := by
    intro front value columns name rest hf hv
    simpa using hf.append (hv.finished rest)
  cases h with
  | @samples range lead time value lookup grouping order ms hv =>
    obtain ⟨words, hread⟩ := hv.inside
    simpa [sql, columns, joinSql] using
      hlast _ (reads_head lead time) (hread.append (reads_value words samplesTable))
  | @rates lead time perMinute wide source ms h =>
    obtain ⟨words, hread⟩ := (Expression.rateSql perMinute).inside
    have hfrom : Reads (.column 0 [] words)
        (Sql.raw (if wide then " as value FROM(" else "as value FROM(")) ["value"] .done := by
      cases wide <;> exact .raw rfl rfl
    simpa [sql, columns] using hlast _ (reads_head lead time) (hread.append hfrom)
  | @across tags time value source grouping dropNaN order vs ms hv h =>
    obtain ⟨words, hread⟩ := hv.inside
    simpa [sql, columns, Lead.columns] using
      hlast _ (reads_head (.tags tags) time) (hread.append (reads_valueFrom words))
  | @series tier metric tags step value lookup ms hv =>
    obtain ⟨words, hread⟩ := hv.inside
    simpa [sql, columns, Lead.columns, joinSql] using
      hlast _ (reads_head (.anyTags tags) (.tierInterval step))
        (hread.append (reads_seriesValue words tier.samples.name))
  | @counter tags increase perMinute source ms h =>
    obtain ⟨words, hread⟩ := (Expression.counterSql increase perMinute).inside
    have hfrom : Reads (.column 0 [] words) (Sql.raw " as per_series_value FROM (")
        ["per_series_value"] .done := .raw rfl rfl
    simpa [sql, columns] using hlast _ (reads_listHead tags) (hread.append hfrom)
  | @space tags function source grouping order ms hf h =>
    obtain ⟨words, hread⟩ := hf.inside
    have htime : Reads .start (Sql.raw "ts, ") ["ts"] .start := .raw rfl (by decide)
    have htext : "ts, " ++ function ++ "(per_series_value) as value FROM (" =
        "ts, " ++ (function ++ "(per_series_value)" ++ " as value FROM (") := by
      have hcall : "(per_series_value) as value FROM (" =
          "(per_series_value)" ++ " as value FROM (" := by decide +kernel
      rw [hcall, String.append_assoc, String.append_assoc]
    have hselect := (reads_select.append (Lead.spacedTags tags).reads).append
      (htime.raw_append (hread.raw_append (reads_valueFrom words)))
    rw [← htext] at hselect
    simpa [sql, columns, Lead.columns] using hselect.finished _
  | @quantile tags q source order ms h =>
    obtain ⟨words, hread⟩ := (Expression.quantile q).inside
    simpa [sql, columns] using
      hlast _ (reads_listHead tags) (hread.append (reads_valueFrom words))

end Stage

end PanelQuery.Metrics
