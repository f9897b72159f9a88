import PanelQuery.Proofs.Filter.Formula
import PanelQuery.Proofs.Metrics.Pipeline
import PanelQuery.Proofs.Query.Window

/-! # Which series a metrics statement reads

The lookup of series stands at the bottom of every metrics statement. Its clause joins the predicates
of all items by AND, whatever the connective of the filter set is. -/

namespace PanelQuery

open Metrics
open Sql (Condition)
open Sql.Precedence

/-! ## Series -/

/-- What is true of a series in one bucket of a table of series, and of its labels. -/
structure SeriesEntry where
  metric : String
  temporality : Temporality
  start : Int
  labels : Sql → Bool

/-- An atom of the clause of a lookup. -/
inductive SeriesAtom where
  | metric (name : String)
  /-- The temporality in the single table, where totals and unspecified samples go together. -/
  | increments (delta : Bool)
  | temporality (t : Temporality)
  | notBefore (first : Int)
  | before (stop : Int)
  | labels (sql : Sql)

def SeriesAtom.sql : SeriesAtom → Sql
  | .metric name => Sql.raw "metric_name = " ++ Sql.literal name
  | .increments delta =>
    Sql.raw (if delta then "temporality = 'Delta' "
      else "temporality IN ['Cumulative', 'Unspecified']")
  | .temporality t => Sql.raw ("temporality = '" ++ t.word ++ "'")
  | .notBefore first => Sql.raw "unix_milli >= " ++ [.int first]
  | .before stop => Sql.raw "unix_milli < " ++ [.int stop]
  | .labels s => s

def SeriesEntry.truth (e : SeriesEntry) : SeriesAtom → Bool
  | .metric name => e.metric == name
  | .increments delta => (e.temporality == .delta) == delta
  | .temporality t => e.temporality == t
  | .notBefore first => decide (first ≤ e.start)
  | .before stop => decide (e.start < stop)
  | .labels s => e.labels s

/-! ## Lookups -/

namespace Metrics.SeriesLookup

variable {l : SeriesLookup}

/-- What a lookup asks for beside the labels. -/
def scope : SeriesLookup → List SeriesAtom
  | .single metric delta _ _ => [.metric metric, .increments delta]
  | .tiered metric tier _ _ =>
    [.metric metric, .temporality tier.temporality, .notBefore tier.seriesStart, .before tier.stop]

/-- The clause of a lookup. -/
def clause (l : SeriesLookup) : List (Mark SeriesAtom) :=
  joined .and ((l.scope.map fun a => [.atom a]) ++ l.labelConditions.map (marks .labels))

/-- The text of a lookup around that of its clause. -/
theorem sql_eq (l : SeriesLookup) :
    l.sql = l.selectSql ++ l.fromSql ++ Sql.raw " WHERE " ++ marksSql SeriesAtom.sql l.clause := by
  have hscope : (l.scope.map fun a => ([.atom a] : List (Mark SeriesAtom))).map
      (marksSql SeriesAtom.sql) ++ l.labelConditions.map Condition.sql =
      l.conditions.map Condition.sql := by
    cases l <;> simp [scope, conditions, labelConditions, marksSql, Mark.sql, SeriesAtom.sql,
      metricCondition, Condition.sql]
  have hlabels : (l.labelConditions.map (marks .labels)).map (marksSql SeriesAtom.sql) =
      l.labelConditions.map Condition.sql := by
    rw [List.map_map]
    exact List.map_congr_left fun c _ => marksSql_marks (fun _ => rfl) c
  rw [sql, clause, marksSql_joined, List.map_append, hlabels, hscope, Sql.conjunction,
    partsSql_eq_join]

/-- The clause of a lookup, read for a series. -/
theorem read_clause (h : ∀ c ∈ l.labelConditions, Proper c) (e : SeriesEntry) :
    Reads e.truth l.clause ((∀ a ∈ l.scope, e.truth a = true) ∧
      ∀ c ∈ l.labelConditions, c.holds e.labels = true) := by
  have hlabels : List.Forall₂ (Operand e.truth) (l.labelConditions.map (marks .labels))
      (l.labelConditions.map (·.holds e.labels)) :=
    operands_of_forall fun c hc => (h c hc).operand
  refine ⟨_, read_joined (List.rel_append (operands_atoms l.scope) hlabels), ?_⟩
  rw [List.all_append, Bool.and_eq_true]
  simp

theorem holds_scope_single {metric : String} {delta : Bool} {labels : LookupLabels}
    {conditions : List Condition} {e : SeriesEntry} :
    (∀ a ∈ (single metric delta labels conditions).scope, e.truth a = true) ↔
      e.metric = metric ∧ (e.temporality = .delta ↔ delta = true) := by
  cases delta <;> simp [scope, SeriesEntry.truth]

theorem holds_scope_tiered {metric : String} {tier : Tier} {keys : List String}
    {conditions : List Condition} {e : SeriesEntry} :
    (∀ a ∈ (tiered metric tier keys conditions).scope, e.truth a = true) ↔
      e.metric = metric ∧ e.temporality = tier.temporality ∧ tier.seriesStart ≤ e.start ∧
        e.start < tier.stop := by
  simp [scope, SeriesEntry.truth]

end Metrics.SeriesLookup

theorem Metrics.Stage.within_lookup (s : Stage) : s.source.lookup.sql.Within s.sql := by
  have hjoin : ∀ (table : String) (lookup : SeriesLookup),
      lookup.sql.Within (joinSql table lookup) := fun _ _ =>
    ((Sql.Within.refl _).after _).before _
  exact within_source (·.lookup.sql)
    (fun _ _ _ _ _ _ _ => (((((hjoin _ _).after _).before _).before _).before _).before _
      |>.before _)
    (fun _ _ _ _ _ _ => ((((((hjoin _ _).after _).before _).before _).before _).before _).before _
      |>.before _ |>.before _) s

/-! ## Items -/

namespace FilterItem

/-- The predicate that an item contributes to the lookup, if any. -/
def contribution? (item : FilterItem) : Option Sql := (labelCondition item).toOption.join

/-- A pattern from an empty array. -/
def IsEmptyPattern (item : FilterItem) : Prop :=
  (∃ negated, item.op = .like negated ∨ item.op = .regex negated) ∧
    item.checkedValue = .ok (.array [])

theorem patternValue?_eq_none_iff {v : FilterValue} : patternValue? v = none ↔ v = .array [] := by
  cases v <;> simp [patternValue?]

/-- Only a pattern from an empty array contributes nothing. -/
theorem contributes_nothing_iff {item : FilterItem} {p : Option Sql}
    (h : labelCondition item = .ok p) : p = none ↔ item.IsEmptyPattern := by
  obtain ⟨t, ht, rfl, hhas⟩ := labelCondition_ok h
  have hpattern : ∀ {negated v}, item.op = .like negated ∨ item.op = .regex negated →
      item.checkedValue = .ok v → (patternValue? v = none ↔ item.IsEmptyPattern) := by
    intro negated v hop hv
    rw [patternValue?_eq_none_iff, IsEmptyPattern, hv, Except.ok.injEq]
    exact (and_iff_right ⟨negated, hop⟩).symm
  have hother : (∀ negated, item.op ≠ .like negated ∧ item.op ≠ .regex negated) →
      labelPredicate? item.key.name t ≠ none →
      (labelPredicate? item.key.name t = none ↔ item.IsEmptyPattern) := by
    intro hop hsome
    refine iff_of_false hsome ?_
    rintro ⟨⟨negated, hl | hr⟩, -⟩
    · exact (hop negated).1 hl
    · exact (hop negated).2 hr
  unfold test at ht
  cases hop : item.op with
  | like negated =>
    simp only [hop] at ht
    obtain ⟨v, hv, ht⟩ := ok_of_bind ht
    cases ht
    rw [← hpattern (.inl hop) hv, labelPredicate?, Option.map_eq_none_iff]
  | regex negated =>
    simp only [hop] at ht
    obtain ⟨v, hv, ht⟩ := ok_of_bind ht
    cases ht
    rw [← hpattern (.inr hop) hv, labelPredicate?, Option.map_eq_none_iff]
  | presence negated =>
    simp only [hop] at ht
    cases ht
    exact hother (by simp [hop]) nofun
  | has negated =>
    simp only [hop] at ht
    obtain ⟨v, -, ht⟩ := ok_of_bind ht
    cases ht
    exact absurd rfl (hhas _ _)
  | compare _ | contains _ =>
    simp only [hop] at ht
    obtain ⟨v, -, ht⟩ := ok_of_bind ht
    cases ht
    exact hother (by simp [hop]) nofun
  | member negated =>
    simp only [hop] at ht
    obtain ⟨v, -, ht⟩ := ok_of_bind ht
    obtain ⟨items, -, ht⟩ := ok_of_bind ht
    cases ht
    exact hother (by simp [hop]) nofun

end FilterItem

/-- The predicates that the items of a query contribute, in order. -/
def Query.contributions (q : Query) : List Sql := q.filterItems.filterMap FilterItem.contribution?

theorem labelConditions_eq {items : List FilterItem} {conditions : List Condition}
    (h : labelConditions items = .ok conditions) :
    conditions = (items.filterMap FilterItem.contribution?).map .atom := by
  obtain ⟨ps, hp, rfl⟩ := labelConditions_ok h
  refine congrArg _ ?_
  clear h
  induction hp with
  | nil => rfl
  | @cons item p items ps hi _ ih =>
    have hc : item.contribution? = p := by
      rw [FilterItem.contribution?, hi]
      rfl
    rw [List.filterMap_cons, List.filterMap_cons, hc, id, ih]

/-! ## Sets of items -/

/-- All of a list hold exactly when it holds as the connective asks, for every truth of its members,
if the connective is AND or the list has no two different members. -/
theorem forall_iff_allOrAny_iff {op : Connective} {ps : List Sql} :
    (∀ truth : Sql → Bool, (∀ p ∈ ps, truth p = true) ↔ AllOrAny op (truth · = true) ps) ↔
      op = .and ∨ ∀ p ∈ ps, ∀ p' ∈ ps, p = p' := by
  classical
  cases op with
  | and => simp [AllOrAny]
  | or =>
    simp only [AllOrAny, reduceCtorEq, false_or]
    constructor
    · intro h p hp p' hp'
      have hall := (h fun t => decide (t = p)).mpr (.inr ⟨p, hp, by simp⟩)
      exact (of_decide_eq_true (hall p' hp')).symm
    · intro hsame truth
      constructor
      · intro hall
        cases ps with
        | nil => exact .inl rfl
        | cons p ps => exact .inr ⟨p, List.mem_cons_self, hall p List.mem_cons_self⟩
      · rintro (rfl | ⟨p, hp, ht⟩) p' hp'
        · cases hp'
        · rwa [hsame p' hp' p hp]

/-! ## Statements -/

namespace Query

/-- An entry of the query's metric and temporality; the single table does not tell totals from
unspecified samples. With a time aggregation the entry also lies in the range, from the start of the
bucket that holds the first instant. -/
def InScope (q : Query) (start stop : Int) (e : SeriesEntry) : Prop :=
  e.metric = q.aggregateAttribute.name ∧
    match q.timeAggregation with
    | none => e.temporality = .delta ↔ q.temporality = .delta
    | some _ => e.temporality = q.temporality ∧
      floorTo (Epoch.millis start)
        (SeriesTable.ofLength (Epoch.millis stop - Epoch.millis start)).bucketMs ≤ e.start ∧
      e.start < Epoch.millis stop

variable {q : Query} {start stop : Int} {panel : Panel} {perMinute : Bool} {s : MetricsStatement}

/-- The lookup of a query asks for its scope and for the predicates of its items. -/
theorem scope_of_readsFrom {source : Metrics.Source}
    (h : (q.metricsContext start stop perMinute).ReadsFrom source) :
    (∀ e : SeriesEntry, (∀ a ∈ source.lookup.scope, e.truth a = true) ↔ q.InScope start stop e) ∧
      labelConditions q.filterItems = .ok source.lookup.labelConditions := by
  unfold Context.ReadsFrom at h
  unfold InScope
  rw [show (q.metricsContext start stop perMinute).query = q from rfl] at h
  cases ha : q.timeAggregation with
  | some aggregation =>
    rw [ha] at h
    obtain ⟨conditions, hc, rfl⟩ := h
    exact ⟨fun e => SeriesLookup.holds_scope_tiered, hc⟩
  | none =>
    rw [ha] at h
    obtain ⟨lookup, hl, rfl⟩ := h
    obtain ⟨conditions, hc, hl⟩ := ok_of_bind hl
    cases hl
    refine ⟨fun e => SeriesLookup.holds_scope_single.trans ?_, hc⟩
    rw [beq_iff_eq]
    rfl

/-- **The series that a metrics statement reads.** The lookup at the bottom of the statement admits
the entries in the scope of the query for which the predicates of all items hold; every item has
one, except for a pattern from an empty array. This is what the filter set asks for if and only if
the connective is AND or the items contribute no two different predicates. -/
theorem metrics_series (h : q.metricsStatement start stop panel perMinute = .ok s) :
    ∃ l : SeriesLookup, l.sql.Within s.sql ∧
      l.sql = l.selectSql ++ l.fromSql ++ Sql.raw " WHERE " ++ marksSql SeriesAtom.sql l.clause ∧
      (∀ item ∈ q.filterItems, ∃ p, labelCondition item = .ok p ∧ (p = none ↔ item.IsEmptyPattern)) ∧
      (∀ e : SeriesEntry, Reads e.truth l.clause
        (q.InScope start stop e ∧ ∀ p ∈ q.contributions, e.labels p = true)) ∧
      ((∀ labels : Sql → Bool, (∀ p ∈ q.contributions, labels p = true) ↔
          AllOrAny q.filterOp (labels · = true) q.contributions) ↔
        q.filterOp = .and ∨ ∀ p ∈ q.contributions, ∀ p' ∈ q.contributions, p = p') := by
  obtain ⟨source, hreads, hstage⟩ := Context.stage_spec (metricsStatement_ok h).1
  obtain ⟨hscope, hconditions⟩ := scope_of_readsFrom hreads
  have hlabels : source.lookup.labelConditions = q.contributions.map .atom :=
    labelConditions_eq hconditions
  have hproper : ∀ c ∈ source.lookup.labelConditions, Proper c := by
    rw [hlabels]
    exact List.forall_mem_map.mpr fun p _ => .atom p
  have hwithin := s.stage.within_lookup.trans s.within_stage
  rw [hstage.source] at hwithin
  refine ⟨source.lookup, hwithin, source.lookup.sql_eq, fun item hi => ?_, fun e => ?_,
    forall_iff_allOrAny_iff⟩
  · obtain ⟨ps, hps, -⟩ := labelConditions_ok hconditions
    obtain ⟨p, -, hp⟩ := forall₂_exists_left hps.flip hi
    exact ⟨p, hp, FilterItem.contributes_nothing_iff hp⟩
  · refine (SeriesLookup.read_clause hproper e).imp (and_congr (hscope e) ?_)
    rw [hlabels, List.forall_mem_map]
    rfl

end Query

/-- The sum of a counter for one service or one host. -/
def ownOrHostTotal : Query where
  name := "A"
  signal := .metrics
  aggregateOperator := .plain .sum
  aggregateAttribute := { name := "m" }
  temporality := .cumulative
  stepInterval := 60
  filters := some ⟨.or, [
    ⟨{ name := "app", dataType := .scalar .string, kind := .tag }, .compare .eq, .text "api"⟩,
    ⟨{ name := "host", dataType := .scalar .string, kind := .tag }, .compare .eq, .text "h1"⟩]⟩

theorem contributions_ownOrHostTotal : ownOrHostTotal.contributions =
    [labelSql "app" ++ Sql.raw " = " ++ Sql.literal "api",
      labelSql "host" ++ Sql.raw " = " ++ Sql.literal "h1"] := rfl

/-- The statement does not admit the series of the service that are on another host. -/
theorem metrics_series_ownOrHost : ∃ s,
    ownOrHostTotal.metricsStatement 1700000000000 1700000060000 .graph false = .ok s ∧
    ∃ l : SeriesLookup, l.sql.Within s.sql ∧ ∃ labels : Sql → Bool,
      AllOrAny .or (labels · = true) ownOrHostTotal.contributions ∧
      ∀ e : SeriesEntry, e.labels = labels → Reads e.truth l.clause False := by
  have hc : ∃ s, ownOrHostTotal.metricsStatement 1700000000000 1700000060000 .graph false = .ok s :=
    ⟨_, rfl⟩
  obtain ⟨s, h⟩ := hc
  obtain ⟨l, hwithin, -, -, hread, -⟩ := Query.metrics_series h
  classical
  rw [contributions_ownOrHostTotal] at hread ⊢
  refine ⟨s, h, l, hwithin, fun p => decide (p = labelSql "app" ++ Sql.raw " = " ++ Sql.literal "api"),
    .inr ⟨_, List.mem_cons_self, decide_eq_true rfl⟩, fun e he => (hread e).imp ⟨?_, False.elim⟩⟩
  rintro ⟨-, hall⟩
  have hhost := hall _ (List.mem_cons_of_mem _ List.mem_cons_self)
  rw [he] at hhost
  simp [labelSql, Sql.raw, Sql.literal] at hhost

end PanelQuery
