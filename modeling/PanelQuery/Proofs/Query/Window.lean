import PanelQuery.Engine
import PanelQuery.Proofs.Epoch
import PanelQuery.Proofs.Metrics.Tier
import PanelQuery.Proofs.Statement.Compile

/-! # The time window of a compiled request

A statement reads the rows between two bounds that are computed from the instants of its request,
each by itself. The request is checked by its numbers, so the bounds are in order whenever the
numbers are of one unit, and not for every pair of units. -/

namespace PanelQuery

open Metrics
open Sql (Condition)

/-! ## Windows -/

/-- The bounds of the row time that a statement is written with. -/
structure TimeWindow where
  first : Int
  last : Int

namespace TimeWindow

/-- The bounds of rows of a schema. -/
def condition (w : TimeWindow) : Schema → Condition
  | .logs => TimeBounds.between "timestamp" [.int w.first] [.int w.last]
  | .traces =>
    TimeBounds.between "timestamp" (Sql.literal (toString w.first)) (Sql.literal (toString w.last))

/-- The bounds of samples of the single table. -/
def samplesSql (w : TimeWindow) : Sql :=
  Sql.raw " AND timestamp_ms >= " ++ [.int w.first] ++ Sql.raw " AND timestamp_ms <= "
    ++ [.int w.last]

/-- The bounds of samples of a tier. -/
def tierSql (w : TimeWindow) : Sql :=
  Sql.raw " AND unix_milli >= " ++ [.int w.first] ++ Sql.raw " AND unix_milli < " ++ [.int w.last]

end TimeWindow

/-- The window of a query: nanoseconds for logs and spans, milliseconds for samples. A time
aggregation reads from the start of the bucket that holds the first instant. -/
def Query.window (q : Query) (start stop : Int) : TimeWindow :=
  match q.signal, q.timeAggregation with
  | .metrics, none => ⟨Epoch.millis start, Epoch.millis stop⟩
  | .metrics, some aggregation =>
    ⟨(Tier.select (Epoch.millis start) (Epoch.millis stop) q.temporality
      (aggregation == .countDistinct) false).samplesStart, Epoch.millis stop⟩
  | _, _ => ⟨Epoch.nanos start, Epoch.nanos stop⟩

/-- A window as it is written for the rows of a query. -/
def Query.windowSql (q : Query) (w : TimeWindow) : Sql :=
  match q.signal, q.timeAggregation with
  | .logs, _ => (w.condition .logs).sql
  | .traces, _ => (w.condition .traces).sql
  | .metrics, none => w.samplesSql
  | .metrics, some _ => w.tierSql

/-! ## Parts of a statement -/

/-- The part stands in the statement. -/
def Sql.Within (part sql : Sql) : Prop := ∃ front back, sql = front ++ part ++ back

namespace Sql.Within

variable {part inner sql : Sql}

theorem refl (sql : Sql) : sql.Within sql := ⟨[], [], by simp⟩

theorem trans (h : part.Within inner) (hi : inner.Within sql) : part.Within sql := by
  obtain ⟨f, b, rfl⟩ := h
  obtain ⟨front, back, rfl⟩ := hi
  exact ⟨front ++ f, b ++ back, by simp⟩

theorem after (h : part.Within sql) (front : Sql) : part.Within (front ++ sql) :=
  h.trans ⟨front, [], by simp⟩

theorem before (h : part.Within sql) (back : Sql) : part.Within (sql ++ back) :=
  h.trans ⟨[], back, by simp⟩

theorem join (sep : String) {parts : List Sql} (h : part ∈ parts) :
    part.Within (Sql.join sep parts) := by
  induction parts with
  | nil => cases h
  | cons first parts ih =>
    cases parts with
    | nil =>
      obtain rfl := List.mem_singleton.mp h
      exact refl part
    | cons next parts =>
      rcases List.mem_cons.mp h with rfl | hrest
      · exact ((refl part).before _).before _
      · exact (ih hrest).after _

theorem conjunction {c : Condition} {cs : List Condition} (h : c ∈ cs) :
    c.sql.Within (Sql.conjunction cs) := by
  rw [Sql.conjunction, Precedence.partsSql_eq_join]
  exact join _ (List.mem_map_of_mem h)

/-- An atom of a condition stands in its text. -/
theorem atom {c : Condition} (h : .atom part ∈ Precedence.marks id c) : part.Within c.sql := by
  obtain ⟨front, back, hmarks⟩ := List.append_of_mem h
  have htext : Precedence.marksSql id (Precedence.marks id c) = c.sql :=
    Precedence.marksSql_marks (fun _ => rfl) c
  rw [← htext, hmarks, Precedence.marksSql_append]
  exact ((refl part).before _).after _

end Sql.Within

/-! ## Rows -/

/-- The conditions of a statement stand in its text. -/
theorem TableStatement.within_written {t : TableStatement} {c : Condition}
    (h : c ∈ t.written) : c.sql.Within t.sql := by
  have hclause := Sql.Within.conjunction h
  rw [← t.marksSql_clause] at hclause
  rcases t.hasClause with ⟨front, w, next, back, -, hsql⟩ | ⟨w, hsql | ⟨hnil, hsql⟩⟩
  · exact hclause.trans ⟨_, _, hsql⟩
  · exact hclause.trans ⟨_, _, hsql⟩
  · exact hclause.trans ⟨_, [], by rw [hsql, hnil, List.append_nil, List.append_nil]⟩

theorem TableStatement.within_condition {t : TableStatement} {c : Condition}
    (h : c ∈ t.columnConditions) : c.sql.Within t.sql :=
  within_written (by simp [written, h])

theorem TableStatement.within_lookup {t : TableStatement} {l : ResourceLookup}
    (h : t.lookup = some l) : l.sql.Within t.sql :=
  within_written (c := .atom l.sql) (by simp [written, h])

/-- The window of a range is among its bounds. -/
theorem NanoRange.mem_bounds (r : NanoRange) (s : Schema) :
    (TimeWindow.mk r.first r.last).condition s ∈ (r.bounds s).conditions := by
  cases s <;> exact List.mem_cons_self

theorem Query.within_tableStatement {q : Query} {s : Schema} {start stop : Int} {panel : Panel}
    {options : QueryOptions} {t : TableStatement} (htail : options.liveTail = false)
    (h : q.tableStatement s start stop panel options = .ok t) :
    ((TimeWindow.mk (Epoch.nanos start) (Epoch.nanos stop)).condition s).sql.Within t.sql := by
  unfold tableStatement at h
  rw [if_neg (by simp [htail])] at h
  obtain ⟨f, -, h⟩ := ok_of_bind h
  obtain ⟨hcolumns, -⟩ := rangeStatement_ok h
  refine TableStatement.within_condition ?_
  rw [hcolumns]
  exact List.mem_append_left _ ((NanoRange.ofInstants start stop).mem_bounds s)

/-! ## Samples -/

namespace Metrics

/-- The bounds at the bottom of a stage. -/
def Stage.windowSql : Stage → Sql
  | .samples range _ _ _ _ _ _ => (TimeWindow.mk range.first range.last).samplesSql
  | .series tier _ _ _ _ _ => (TimeWindow.mk tier.samplesStart tier.stop).tierSql
  | .rates _ _ _ _ source | .across _ _ _ source _ _ _ | .counter _ _ _ source
  | .space _ _ source _ _ | .quantile _ _ source _ => source.windowSql

theorem within_rangeSql (range : SampleRange) :
    (TimeWindow.mk range.first range.last).samplesSql.Within (Stage.rangeSql range) :=
  ⟨Sql.raw "metric_name = " ++ Sql.literal range.metric, [],
    by simp [Stage.rangeSql, TimeWindow.samplesSql]⟩

/-- What stands in every stage over a source stands in every stage made from one. -/
theorem Stage.within_source (part : Source → Sql)
    (hsamples : ∀ range lead time value lookup grouping order,
      (part (.samples range lookup)).Within (samples range lead time value lookup grouping order).sql)
    (hseries : ∀ tier metric tags step value lookup,
      (part (.series tier metric lookup)).Within (series tier metric tags step value lookup).sql)
    (s : Stage) : (part s.source).Within s.sql := by
  induction s with
  | samples range lead time value lookup grouping order =>
    exact hsamples range lead time value lookup grouping order
  | series tier metric tags step value lookup => exact hseries tier metric tags step value lookup
  | rates lead time perMinute wide source ih => exact (ih.after _).before _
  | across tags time value source grouping dropNaN order ih =>
    exact ((((ih.after _).before _).before _).before _).before _
  | counter tags increase perMinute source ih => exact (ih.after _).before _
  | space tags function source grouping order ih =>
    exact ((((ih.after _).before _).before _).before _).before _
  | quantile tags q source order ih => exact ((((ih.after _).before _).before _).before _).before _

/-- The bounds of what a stage reads. -/
def Source.windowSql : Source → Sql
  | .samples range _ => (TimeWindow.mk range.first range.last).samplesSql
  | .series tier _ _ => (TimeWindow.mk tier.samplesStart tier.stop).tierSql

theorem Stage.windowSql_eq (s : Stage) : s.windowSql = s.source.windowSql := by
  induction s with
  | samples | series => rfl
  | rates _ _ _ _ _ ih | across _ _ _ _ _ _ _ ih | counter _ _ _ _ ih | space _ _ _ _ _ ih
  | quantile _ _ _ _ ih => exact ih

/-- The bounds of a stage stand in its text. -/
theorem Stage.within_sql (s : Stage) : s.windowSql.Within s.sql := by
  rw [s.windowSql_eq]
  refine within_source Source.windowSql (fun range _ _ _ _ _ _ => ?_)
    (fun tier metric tags step value lookup => ?_) s
  · exact (((((within_rangeSql range).after _).before _).before _).before _).before _
  · refine ⟨Sql.raw "SELECT " ++ (Lead.anyTags tags).sql ++ (TimeColumn.tierInterval step).sql
      ++ Sql.raw ", " ++ value ++ Sql.raw " as per_series_value"
      ++ joinSql tier.samples.name lookup ++ Sql.raw "metric_name = " ++ Sql.literal metric,
      Sql.raw " GROUP BY fingerprint, ts ORDER BY fingerprint, ts", ?_⟩
    simp [sql, Source.windowSql, TimeWindow.tierSql]

theorem MetricsStatement.within_stage (s : MetricsStatement) : s.stage.sql.Within s.sql := by
  have hfiltered : s.stage.sql.Within s.filteredSql := by
    unfold filteredSql
    split
    · exact .refl _
    · exact (((Sql.Within.refl _).after _).before _).before _
  unfold sql
  split
  · exact (hfiltered.after _).before _
  · exact hfiltered

namespace Context

variable {c : Context} {s : Stage}

/-- The window of a query without a time aggregation. -/
def samplesSql (c : Context) : Sql := (TimeWindow.mk c.first c.last).samplesSql

/-- The window of a query with a time aggregation. -/
def tierSql (c : Context) (aggregation : TimeAggregation) : Sql :=
  (TimeWindow.mk (Tier.select c.first c.last c.query.temporality
    (aggregation == .countDistinct) false).samplesStart c.last).tierSql

theorem stage_ok {panel : Panel} (h : c.stage panel = .ok s) :
    s.windowSql = (c.query.timeAggregation.map c.tierSql).getD c.samplesSql := by
  obtain ⟨source, hreads, hs⟩ := stage_spec h
  rw [s.windowSql_eq, hs.source]
  unfold ReadsFrom at hreads
  split at hreads
  · next aggregation ha =>
    obtain ⟨conditions, -, rfl⟩ := hreads
    rw [ha]
    rfl
  · next ha =>
    obtain ⟨lookup, -, rfl⟩ := hreads
    rw [ha]
    rfl

end Context

end Metrics

theorem Query.within_metricsStatement {q : Query} {start stop : Int} {panel : Panel}
    {perMinute : Bool} {s : MetricsStatement} (hq : q.signal = .metrics)
    (h : q.metricsStatement start stop panel perMinute = .ok s) :
    (q.windowSql (q.window start stop)).Within s.sql := by
  have hwindow : q.windowSql (q.window start stop) = s.stage.windowSql := by
    rw [Context.stage_ok (metricsStatement_ok h).1, windowSql, window, hq, metricsContext]
    cases q.timeAggregation <;> rfl
  rw [hwindow]
  exact s.stage.within_sql.trans s.within_stage

/-! ## Order of the bounds -/

namespace Metrics.Tier

variable {start stop : Int} {temporality : Temporality} {distinct : Bool}

/-- Short ranges, and those that end before they start, are read from raw samples. -/
theorem samplesStart_eq (h : stop ≤ start) :
    (select start stop temporality distinct false).samplesStart = start := by
  have hraw : SamplesTable.ofLength (stop - start) distinct false = .raw := by
    have hday : stop - start < dayMs := by
      simp only [dayMs, hourMs]
      omega
    cases distinct <;> simp [SamplesTable.ofLength, hday]
  unfold select
  rw [hraw]
  rfl

end Metrics.Tier

open Decimal (IsInt64)

/-- The window of a query is in reverse if and only if the first instant overtakes the second and
the bounds are not the same millisecond. -/
theorem Query.window_lt_iff (q : Query) {start stop : Int} (hstart : IsInt64 start)
    (hstop : IsInt64 stop) :
    (q.window start stop).last < (q.window start stop).first ↔
      Epoch.Overtakes start stop ∧ (q.window start stop).first ≠ (q.window start stop).last := by
  have hnanos := Epoch.nanos_lt_iff hstart hstop
  have hmillis := Epoch.millis_lt_iff hstart hstop
  unfold window
  split
  · rw [hmillis]
    exact and_congr_right fun _ => ne_comm
  · next aggregation _ _ =>
    dsimp only
    constructor
    · intro hlt
      have hlt' := Int.lt_of_lt_of_le hlt Tier.keptUnder_samplesStart.le
      exact ⟨(hmillis.mp hlt').1, Int.ne_of_gt hlt⟩
    · rintro ⟨ho, hne⟩
      have hle := Epoch.millis_le_millis (Int.le_of_lt (hnanos.mpr ho))
      rw [Tier.samplesStart_eq hle] at hne ⊢
      exact lt_of_le_of_ne hle hne.symm
  · rw [hnanos]
    exact ⟨fun h => ⟨h, Int.ne_of_gt (hnanos.mpr h)⟩, And.left⟩

/-! ## Requests -/

namespace Engine

/-- A cursor leaves the window of a query as it is. -/
theorem window_pagedQuery {request : CompileRequest} {q : Query}
    (h : pagedQuery request = .ok q) (start stop : Int) :
    q.window start stop = request.query.window start stop ∧
      q.windowSql = request.query.windowSql := by
  unfold pagedQuery at h
  cases hc : request.cursor with
  | none =>
    rw [hc] at h
    cases h
    exact ⟨rfl, rfl⟩
  | some text =>
    simp only [hc] at h
    split at h
    · cases h
    · obtain ⟨cursor, -, h⟩ := ok_of_bind h
      obtain ⟨filters, -, h⟩ := ok_of_bind h
      cases h
      exact ⟨rfl, rfl⟩

theorem window_limited (e : Engine) (panel : Panel) (q : Query) (start stop : Int) :
    (e.limited panel q).window start stop = q.window start stop ∧
      (e.limited panel q).windowSql = q.windowSql := by
  unfold limited
  split <;> exact ⟨rfl, rfl⟩

theorem within_statementSql {features : List String} {start stop : Int} {panel : Panel} {q : Query}
    {options : QueryOptions} {sql : Sql} (htail : options.liveTail = false)
    (h : statementSql features start stop panel q options = .ok sql) :
    (q.windowSql (q.window start stop)).Within sql := by
  unfold statementSql at h
  cases hq : q.signal with
  | logs =>
    simp only [hq] at h
    obtain ⟨t, ht, h⟩ := ok_of_bind h
    cases h
    simpa only [Query.windowSql, Query.window, hq] using Query.within_tableStatement htail ht
  | traces =>
    simp only [hq] at h
    obtain ⟨t, ht, h⟩ := ok_of_bind h
    cases h
    simpa only [Query.windowSql, Query.window, hq] using Query.within_tableStatement htail ht
  | metrics =>
    simp only [hq] at h
    obtain ⟨t, ht, h⟩ := ok_of_bind h
    cases h
    exact Query.within_metricsStatement hq ht

/-- **The window of an accepted request.** Its start is no greater number than its end, and the
window of its query stands in the statement. The window is in reverse exactly if the start, in
nanoseconds, overtakes the end, and if both do not fall into the same millisecond of a query that
reads milliseconds; this takes numbers of different units on one side of the epoch. -/
theorem compile_window {e : Engine} {request : CompileRequest} {sql : Sql}
    (h : e.compile request = .ok sql) (htail : request.options.liveTail = false) :
    ∃ window, window = request.query.window request.start.toInt request.stop.toInt ∧
      (request.query.windowSql window).Within sql ∧
      request.start.toInt ≤ request.stop.toInt ∧
      (window.last < window.first ↔
        Epoch.Overtakes request.start.toInt request.stop.toInt ∧ window.first ≠ window.last) ∧
      (Epoch.digitCount request.start.toInt = Epoch.digitCount request.stop.toInt ∨
          request.start.toInt ≤ 0 ∧ 0 ≤ request.stop.toInt →
        window.first ≤ window.last) := by
  obtain ⟨hle, q, hq, h⟩ := compile_ok h
  have hwithin := within_statementSql (show (e.options request).liveTail = false from htail) h
  obtain ⟨hlimited, hlimitedSql⟩ := e.window_limited request.panel q request.start.toInt
    request.stop.toInt
  obtain ⟨hpaged, hpagedSql⟩ := window_pagedQuery hq request.start.toInt request.stop.toInt
  rw [hlimited, hlimitedSql, hpaged, hpagedSql] at hwithin
  have hiff := request.query.window_lt_iff (Decimal.isInt64_toInt request.start)
    (Decimal.isInt64_toInt request.stop)
  refine ⟨_, rfl, hwithin, hle, hiff, fun hunit => ?_⟩
  by_contra hrev
  exact Epoch.not_overtakes hle hunit (hiff.mp (Int.not_le.mp hrev)).1

end Engine

/-- Counts from an instant in seconds to one, a little later, in milliseconds. -/
def mixedUnits : CompileRequest where
  start := 1680066458
  stop := 1680066360726
  panel := .graph
  query := { name := "A", signal := .logs, aggregateOperator := .count, stepInterval := 60 }

/-- The request is accepted, and its statement has the later instant first. -/
theorem compile_window_mixedUnits : ∃ sql, ({} : Engine).compile mixedUnits = .ok sql ∧
    mixedUnits.options.liveTail = false ∧ ∃ window : TimeWindow,
      (mixedUnits.query.windowSql window).Within sql ∧ window.last < window.first := by
  have hc : ∃ sql, ({} : Engine).compile mixedUnits = .ok sql := ⟨_, rfl⟩
  obtain ⟨sql, h⟩ := hc
  obtain ⟨window, rfl, hwithin, -, hiff, -⟩ := Engine.compile_window h rfl
  exact ⟨sql, h, rfl, _, hwithin, hiff.mpr (by decide)⟩

end PanelQuery
