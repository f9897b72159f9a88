import PanelQuery.Proofs.Metrics.Pipeline

/-! # The columns that a reduction reads

A value panel reduces every series of a statement to one row. Whether it tells series by their
fingerprint is decided by the operator alone; which columns the statement inside selects is decided
by its pipeline. -/

namespace PanelQuery

namespace Metrics

open Sql.SelectList (Reads Place isLetter)

/-! ## References -/

/-- Where a reader of references stands: how deep in parentheses, after GROUP BY or not, and in which
word, read last letter first. -/
structure Referring where
  depth : Nat := 0
  grouping : Bool := false
  word : List Char := []

namespace Referring

/-- A complete word refers to a column if it is an argument or a group key, and no number. -/
def column (r : Referring) : List String :=
  if (0 < r.depth ∨ r.grouping) ∧ r.word.getLast?.any Char.isAlpha then
    [String.ofList r.word.reverse]
  else []

/-- The columns that a text refers to. A word in front of a parenthesis names a function. -/
def scan (r : Referring) : List Char → List String
  | [] => r.column
  | c :: cs =>
    if isLetter c then { r with word := c :: r.word }.scan cs
    else if c = '(' then { r with depth := r.depth + 1, word := [] }.scan cs
    else
      let depth := if c = ')' then r.depth - 1 else r.depth
      r.column ++ (Referring.mk depth (r.grouping || r.word == ['Y', 'B']) []).scan cs

end Referring

/-- The columns that wording refers to. -/
def references (text : List Char) : List String := ({} : Referring).scan text

namespace Reducing

/-- The wording in front of the statement inside. -/
def front (r : Reducing) : String :=
  "SELECT " ++ function r.kind ++ "(value, toUnixTimestamp(ts) != 0) as value, "
    ++ "anyIf(ts, toUnixTimestamp(ts) != 0) AS timestamp "
    ++ (if r.perSeries then ", any(fullLabels) as fullLabels" else "") ++ " FROM ("

/-- The wording after it. -/
def back (r : Reducing) : String := if r.perSeries then ") GROUP BY fingerprint" else ") "

theorem sql_eq (r : Reducing) (inner : Sql) :
    r.sql inner = Sql.raw r.front ++ inner ++ Sql.raw r.back := rfl

theorem references_wording (r : Reducing) : references (r.front.toList ++ r.back.toList) =
    ["value", "ts", "ts", "ts"] ++ if r.perSeries then ["fullLabels", "fingerprint"] else [] := by
  have hselect : "SELECT ".toList = _ := String.toList_ofList
  have hvalue : "(value, toUnixTimestamp(ts) != 0) as value, ".toList = _ := String.toList_ofList
  have htime : "anyIf(ts, toUnixTimestamp(ts) != 0) AS timestamp ".toList = _ :=
    String.toList_ofList
  have hlabels : ", any(fullLabels) as fullLabels".toList = _ := String.toList_ofList
  have hfrom : " FROM (".toList = _ := String.toList_ofList
  have hgroup : ") GROUP BY fingerprint".toList = _ := String.toList_ofList
  obtain ⟨kind, perSeries⟩ := r
  cases perSeries <;>
    simp only [front, back, String.toList_append, hselect, hvalue, htime, hlabels, hfrom, hgroup,
      if_true, Bool.false_eq_true, if_false] <;>
    cases kind <;> decide +kernel

/-- The wording refers to the columns that the reduction reads, and to no others. -/
theorem mem_references_iff (r : Reducing) (column : String) :
    column ∈ references (r.front.toList ++ r.back.toList) ↔ column ∈ r.reads := by
  rw [references_wording, reads]
  simp

end Reducing

/-- Conditions on the value pass on the columns of the stage. -/
theorem MetricsStatement.selected_filteredSql {s : MetricsStatement} {ms : List Sql.Measure}
    (h : s.stage.Made ms) : s.filteredSql.selected? = some s.stage.columns := by
  unfold filteredSql
  split
  · exact h.selected.selected
  · have hstar : Reads (.before []) (Sql.raw "SELECT * FROM (") [] (.before []) :=
      .raw rfl (by decide)
    exact (((hstar.append h.selected).finished _).finished _).selected

end Metrics

namespace Query

open Metrics

variable {q : Query} {start stop : Int} {perMinute : Bool} {s : MetricsStatement}

/-- The rows of the stage below a reduction can be told apart by series: the operator does not ask
for it, or the pipeline keeps labels and fingerprint, or the query groups by keys of their names. -/
def KeepsSeries (q : Query) : Prop :=
  (q.aggregateOperator ≠ .noop ∧ q.aggregateOperator ≠ .rate) ∨
    match q.timeAggregation with
    | none => q.aggregateOperator = .noop ∨ q.temporality = .delta
    | some _ => ∀ column ∈ ["fullLabels", "fingerprint"], column ∈ q.groupBy.map (·.name)

theorem mem_innerTags {column : String} (h : column ≠ leTag) :
    column ∈ Context.innerTags q ↔ column ∈ q.groupBy.map (·.name) := by
  unfold Context.innerTags
  dsimp only
  split
  · rw [List.mem_append, List.mem_singleton, or_iff_left h]
  · rfl

/-- Group keys other than the bucket bound stay in the result of a time aggregation. -/
theorem mem_tierLead {column : String} (h : column ≠ leTag) :
    column ∈ (q.metricsContext start stop perMinute).tierLead ↔
      column ∈ q.groupBy.map (·.name) := by
  unfold Context.tierLead
  split
  · rw [metricsContext, List.mem_filter, and_iff_left (decide_eq_true h)]
  · exact mem_innerTags h

/-- Where single series matter, labels and fingerprint are in front of time and value if and only if
the query keeps them. -/
theorem series_mem_lead_iff (start stop : Int) (perMinute : Bool)
    (hop : q.aggregateOperator = .noop ∨ q.aggregateOperator = .rate) :
    (∀ column ∈ ["fullLabels", "fingerprint"],
        column ∈ (q.metricsContext start stop perMinute).lead) ↔ q.KeepsSeries := by
  have hseries : ¬ (q.aggregateOperator ≠ .noop ∧ q.aggregateOperator ≠ .rate) := by
    rintro ⟨hn, hr⟩
    exact hop.elim hn hr
  rw [KeepsSeries, or_iff_right hseries]
  unfold Context.lead
  rw [show (q.metricsContext start stop perMinute).query = q from rfl]
  cases ha : q.timeAggregation with
  | some aggregation =>
    refine forall₂_congr fun column hc => mem_tierLead ?_
    rintro rfl
    simp [leTag] at hc
  | none =>
    have hlead : ∀ rate, (q.metricsContext start stop perMinute).operatorLead rate =
        if q.aggregateOperator = .noop then ["fingerprint", "fullLabels"] else rate := by
      intro rate
      unfold Context.operatorLead
      rw [show (q.metricsContext start stop perMinute).query = q from rfl]
      rcases hop with ho | ho <;> rw [ho] <;> rfl
    rcases hop with ho | ho <;> cases ht : q.temporality <;> simp [hlead, ho]

/-- **The columns that a value panel reads.** The reduction refers to value and time, and to labels
and fingerprint if it tells series apart. All of these are columns of the statement inside, with or
without conditions on the value, if and only if the query keeps its series: it does not for plain
rates of totals, which lose the fingerprint, nor with a time aggregation under one of the operators
that tell series apart, which any query without an operator does. -/
theorem metrics_columns (h : q.metricsStatement start stop .value perMinute = .ok s) :
    ∃ r, s.reducing = some r ∧ s.sql = Sql.raw r.front ++ s.filteredSql ++ Sql.raw r.back ∧
      (∀ column, column ∈ references (r.front.toList ++ r.back.toList) ↔ column ∈ r.reads) ∧
      ∃ columns, s.filteredSql.selected? = some columns ∧
        ((∀ column ∈ r.reads, column ∈ columns) ↔ q.KeepsSeries) := by
  obtain ⟨hstage, -, hreducing, -⟩ := metricsStatement_ok h
  obtain ⟨source, -, hcomputes⟩ := Context.stage_spec hstage
  rw [reducing, if_pos rfl] at hreducing
  refine ⟨_, hreducing, ?_, Reducing.mem_references_iff _, _,
    s.selected_filteredSql hcomputes.made, ?_⟩
  · rw [MetricsStatement.sql, hreducing]
    exact Reducing.sql_eq _ _
  rw [hcomputes.columns, Reducing.reads, List.forall_mem_append]
  by_cases hop : q.aggregateOperator = .noop ∨ q.aggregateOperator = .rate
  · rw [if_pos (by simpa using hop), ← series_mem_lead_iff start stop perMinute hop]
    simp
  · rw [if_neg (by simpa using hop), KeepsSeries]
    simp only [not_or] at hop
    simp [hop]

/-- The latest rate of a counter. -/
def latestRate : Query where
  name := "A"
  signal := .metrics
  aggregateOperator := .rate
  aggregateAttribute := { name := "m" }
  temporality := .cumulative
  stepInterval := 60

/-- Its reduction groups by a fingerprint that the statement inside does not select. -/
theorem metrics_columns_latestRate : ∃ s,
    latestRate.metricsStatement 1700000000000 1700000060000 .value false = .ok s ∧
    ∃ r columns, s.reducing = some r ∧ s.filteredSql.selected? = some columns ∧
      ¬ ∀ column ∈ r.reads, column ∈ columns := by
  have hc : ∃ s, latestRate.metricsStatement 1700000000000 1700000060000 .value false = .ok s :=
    ⟨_, rfl⟩
  obtain ⟨s, h⟩ := hc
  obtain ⟨r, hr, -, -, columns, hcolumns, hiff⟩ := metrics_columns h
  refine ⟨s, h, r, columns, hr, hcolumns, fun hall => ?_⟩
  rcases hiff.mp hall with ⟨-, hrate⟩ | hnone | hdelta
  · exact hrate rfl
  · cases hnone
  · cases hdelta

end Query

end PanelQuery
