import PanelQuery.Proofs.Metrics.Alike

/-! # From metrics queries with alike filters to alike statements

A pipeline asks for the lookup once and builds its stages from the rest of the query, so exchanging
the filters for alike ones exchanges the lookup and nothing else. -/

namespace PanelQuery.Metrics

open Sql (Origin Own Condition)

variable {o : Origin} {c : Context} {filters : Option FilterSet}

namespace Context

/-- The same context for other filters. -/
def withFilters (c : Context) (filters : Option FilterSet) : Context :=
  { c with query := { c.query with filters := filters } }

theorem withFilters_operator (c : Context) (filters : Option FilterSet) :
    (c.withFilters filters).query.aggregateOperator = c.query.aggregateOperator := rfl

theorem withFilters_temporality (c : Context) (filters : Option FilterSet) :
    (c.withFilters filters).query.temporality = c.query.temporality := rfl

theorem withFilters_metricType (c : Context) (filters : Option FilterSet) :
    (c.withFilters filters).query.metricType = c.query.metricType := rfl

theorem withFilters_timeAggregation (c : Context) (filters : Option FilterSet) :
    (c.withFilters filters).query.timeAggregation = c.query.timeAggregation := rfl

theorem withFilters_spaceAggregation (c : Context) (filters : Option FilterSet) :
    (c.withFilters filters).query.spaceAggregation = c.query.spaceAggregation := rfl

/-- The names that a context brings into a statement may stand there. -/
structure Covered (c : Context) (o : Origin) : Prop where
  metric : o.text c.metric c.metric
  tags : ∀ t ∈ c.tags, o.name t ∧ o.text t t
  outerTags : ∀ t ∈ c.outerTags, o.name t

theorem Covered.tagNames (hc : c.Covered o) : ∀ t ∈ c.tags, o.name t := fun t ht =>
  (hc.tags t ht).1

theorem ordered_names {tags : List String} (h : ∀ t ∈ tags, o.name t) :
    ∀ t ∈ c.ordered tags, o.name t.tag := List.forall_mem_map.mpr h

section

variable (hc : c.Covered o) {l l' : SeriesLookup}

include hc

theorem agree_lookup (h : Option.Rel (FilterSet.Related (FilterItem.Alike o)) c.query.filters filters) :
    Agree (SeriesLookup.Alike o) c.lookup (c.withFilters filters).lookup := by
  unfold lookup
  refine (agree_labelConditions (forall₂_filterItems h)).bind fun cs cs' hcs => .ok ?_
  refine .single _ hc.metric ?_ hcs
  intro names hn
  split at hn
  · cases hn
  · cases hn
  · cases hn
    exact hc.tags

theorem alike_noopStage (h : l.Alike o l') (time : TimeColumn) :
    (c.noopStage l time).Alike o ((c.withFilters filters).noopStage l' time) :=
  .samples time hc.metric nofun (Sql.own_raw .anyValue) h nofun nofun

theorem alike_groupStage (h : l.Alike o l') (time : TimeColumn) {value : Sql} (hv : Own o value)
    {grouping : Grouping} (hg : ∀ t ∈ grouping.keys, o.name t) :
    (c.groupStage l time value grouping).Alike o
      ((c.withFilters filters).groupStage l' time value grouping) :=
  .samples time hc.metric hc.tagNames hv h hg (ordered_names hc.tagNames)

theorem alike_seriesMaxStage (h : l.Alike o l') (seconds : Int) :
    (c.seriesMaxStage l seconds).Alike o ((c.withFilters filters).seriesMaxStage l' seconds) :=
  .samples _ hc.metric hc.tagNames (Sql.own_raw .maxValue) h hc.tagNames
    (ordered_names hc.tagNames)

theorem alike_quantileStage (q : Quantile) (time : TimeColumn) {s s' : Stage} (h : s.Alike o s') :
    (c.quantileStage q time s).Alike o ((c.withFilters filters).quantileStage q time s') :=
  .across time false hc.outerTags (own_quantileSql q) h hc.outerTags (ordered_names hc.outerTags)

theorem agree_plainStage (h : l.Alike o l') (time : TimeColumn) {grouping : Grouping}
    (hg : ∀ t ∈ grouping.keys, o.name t) :
    Agree (Stage.Alike o) (c.plainStage l time grouping)
      ((c.withFilters filters).plainStage l' time grouping) := by
  have hvalue : ∀ v, plainValue? c.query.aggregateOperator = some v → Own o v := by
    intro v hv
    unfold plainValue? at hv
    split at hv <;> cases hv
    · exact Sql.own_raw (.plainQuantile _)
    · exact Sql.own_raw (.plainReduction _)
    · exact Sql.own_raw .countAll
    · exact Sql.own_raw .distinctValues
  unfold plainStage
  rw [withFilters_operator]
  cases hv : plainValue? c.query.aggregateOperator with
  | none => exact .error _
  | some v => exact .ok (alike_groupStage hc h time (hvalue v hv) hg)

end

theorem own_ofValue (f : Reduction) : Own o (ofValue f) := Sql.own_raw (.plainReduction f)

theorem own_dividedBy {value divisor : Sql} (hv : Own o value) (hd : Own o divisor) :
    Own o (dividedBy value divisor) := (hv.append (Sql.own_raw .slash)).append hd

theorem own_divisorSql (seconds : Int) (perMinute : Bool) : Own o (divisorSql seconds perMinute) := by
  unfold divisorSql
  split
  · exact Sql.own_float _
  · exact Sql.own_int _

/-! ## Operators -/

section

variable (hc : c.Covered o) (h : Option.Rel (FilterSet.Related (FilterItem.Alike o)) c.query.filters filters)

include hc h

theorem agree_totalsStage :
    Agree (Stage.Alike o) c.totalsStage (c.withFilters filters).totalsStage := by
  have horder := ordered_names (c := c) hc.tagNames
  unfold totalsStage
  refine (agree_lookup hc h).bind fun l l' hl => ?_
  have hmax : (c.seriesMaxStage l c.step).Alike o
      ((c.withFilters filters).seriesMaxStage l' c.step) := alike_seriesMaxStage hc hl c.step
  rw [withFilters_operator]
  cases c.query.aggregateOperator with
  | rate =>
    exact .ok (.rates _ _ true nofun
      (.samples _ hc.metric nofun (Sql.own_raw .maxValue) hl nofun nofun))
  | ofRate f =>
    exact .ok (.across _ false hc.tagNames (own_ofValue f) (.rates _ _ false hc.tagNames hmax)
      hc.tagNames horder)
  | rateOf f =>
    exact .ok (.rates _ _ false hc.tagNames
      (alike_groupStage hc hl _ (own_ofValue f) hc.tagNames))
  | histogramQuantile q =>
    exact .ok (alike_quantileStage hc q _ (.across _ true hc.tagNames (own_ofValue .sum)
      (.rates _ _ true hc.tagNames hmax) hc.tagNames horder))
  | noop => exact .ok (alike_noopStage hc hl _)
  | _ => exact agree_plainStage hc hl _ hc.tagNames

theorem agree_incrementsStage (time : TimeColumn) (seconds : Int) {grouping : Grouping}
    (hg : ∀ t ∈ grouping.keys, o.name t) :
    Agree (Stage.Alike o) (c.incrementsStage time seconds grouping)
      ((c.withFilters filters).incrementsStage time seconds grouping) := by
  have hrate : ∀ f, Own o (dividedBy (ofValue f) (divisorSql seconds c.perMinute)) := fun f =>
    own_dividedBy (own_ofValue f) (own_divisorSql seconds c.perMinute)
  unfold incrementsStage
  refine (agree_lookup hc h).bind fun l l' hl => ?_
  rw [withFilters_operator]
  cases c.query.aggregateOperator with
  | rate => exact .ok (.samples time hc.metric nofun (hrate .sum) hl nofun nofun)
  | ofRate f | rateOf f => exact .ok (alike_groupStage hc hl time (hrate f) hg)
  | histogramQuantile q =>
    exact .ok (alike_quantileStage hc q _ (alike_groupStage hc hl time (hrate .sum) hc.tagNames))
  | noop => exact .ok (alike_noopStage hc hl time)
  | _ => exact agree_plainStage hc hl time hg

theorem agree_incrementsTable :
    Agree (Stage.Alike o) c.incrementsTable (c.withFilters filters).incrementsTable :=
  .ite (fun _ => .error _) fun _ => agree_incrementsStage hc h _ _ hc.tagNames

theorem agree_totalsTable :
    Agree (Stage.Alike o) c.totalsTable (c.withFilters filters).totalsTable := by
  have horder := ordered_names (c := c) hc.tagNames
  unfold totalsTable
  refine (agree_lookup hc h).bind fun l l' hl => ?_
  have hmax : (c.seriesMaxStage l (tableStep c.seconds)).Alike o
      ((c.withFilters filters).seriesMaxStage l' (tableStep c.seconds)) :=
    alike_seriesMaxStage hc hl _
  have hpoints : ∀ f, Own o (dividedBy (ofValue f)
      [.int (max (c.seconds.tdiv (tableStep c.seconds)) 1)]) := fun f =>
    own_dividedBy (own_ofValue f) (Sql.own_int _)
  rw [withFilters_operator]
  cases c.query.aggregateOperator with
  | rate => exact .error _
  | noop => exact .error _
  | ofRate f =>
    exact .ok (.across _ false hc.tagNames (hpoints f) (.rates _ _ false hc.tagNames hmax)
      hc.tagNames horder)
  | rateOf f =>
    exact .ok (.rates _ _ false hc.tagNames
      (alike_groupStage hc hl _ (own_ofValue f) hc.tagNames))
  | histogramQuantile q =>
    exact .ok (alike_quantileStage hc q _ (.across _ true hc.tagNames (hpoints .sum)
      (.rates _ _ true hc.tagNames hmax) hc.tagNames horder))
  | _ => exact agree_plainStage hc hl _ hc.tagNames

/-! ## Time and space aggregation -/

/-- The tables of a time aggregation. -/
def tier (c : Context) (aggregation : TimeAggregation) : Tier :=
  Tier.select c.first c.last c.query.temporality (aggregation == .countDistinct) false

theorem agree_seriesStage (aggregation : TimeAggregation) :
    Agree (Stage.Alike o) (c.seriesStage aggregation)
      ((c.withFilters filters).seriesStage aggregation) := by
  unfold seriesStage
  refine Agree.ite (fun _ => .error _) fun _ => ?_
  refine (agree_labelConditions (forall₂_filterItems h)).bind fun cs cs' hcs => ?_
  refine Agree.bind_same fun column hcolumn => .ok ?_
  have hvalue : Own o (c.tierValue aggregation column) := by
    unfold tierValue
    split
    · exact own_dividedBy (Sql.own_raw (.tierColumn hcolumn)) (own_divisorSql _ _)
    · exact Sql.own_raw (.tierColumn hcolumn)
  have hlookup : SeriesLookup.Alike o (.tiered c.metric (c.tier aggregation) c.tags cs)
      (.tiered c.metric (c.tier aggregation) c.tags cs') := .tiered _ hc.metric hc.tags hcs
  have hseries := Stage.Alike.series (c.tier aggregation) c.step hc.metric hc.tagNames hvalue
    hlookup
  exact .ite (.counter _ _ hc.tagNames hseries) hseries

theorem agree_tieredStage (aggregation : TimeAggregation) :
    Agree (Stage.Alike o) (c.tieredStage aggregation)
      ((c.withFilters filters).tieredStage aggregation) := by
  have horder := ordered_names (c := c) hc.tagNames
  have houter := ordered_names (c := c) hc.outerTags
  unfold tieredStage
  refine (agree_seriesStage hc h aggregation).bind fun s s' hs => ?_
  have hspace : ∀ f : SpaceAggregation, Stage.Alike o
      (.space c.tags (spaceFunction f) s (if c.tags.isEmpty then .time else .sets c.tags)
        (.spacedTags (c.ordered c.tags)))
      (.space c.tags (spaceFunction f) s' (if c.tags.isEmpty then .time else .sets c.tags)
        (.spacedTags (c.ordered c.tags))) := by
    intro f
    refine .space hc.tagNames .space hs ?_ horder
    split
    · exact nofun
    · exact hc.tagNames
  rw [withFilters_metricType, withFilters_spaceAggregation]
  dsimp only
  split
  · exact .ok (.quantile _ hc.outerTags
      (.space hc.tagNames .spaceSum hs hc.tagNames horder) houter)
  · exact .ok (hspace _)

/-- The stages of a query and of the query with alike filters are alike, or there are none for the
same reason. -/
theorem agree_stage (panel : Panel) :
    Agree (Stage.Alike o) (c.stage panel) ((c.withFilters filters).stage panel) := by
  unfold stage
  rw [withFilters_timeAggregation, withFilters_temporality]
  split
  · exact agree_tieredStage hc h _
  · exact agree_incrementsTable hc h
  · exact agree_incrementsStage hc h _ _ hc.tagNames
  · exact agree_totalsTable hc h
  · exact agree_totalsStage hc h

end

end Context

/-! ## Statements -/

/-- Reductions are the same, conditions on the value may stand there, and stages are alike. -/
inductive MetricsStatement.Alike (o : Origin) : MetricsStatement → MetricsStatement → Prop
  | mk {s s' : Stage} {having : List Having} (reducing : Option Reducing) (h : s.Alike o s')
      (hh : ∀ c ∈ having, c.value.Alike o c.value) :
      Alike o ⟨s, having, reducing⟩ ⟨s', having, reducing⟩

theorem alike_reducing (r : Reducing) {a b : Sql} (h : Sql.Alike o a b) :
    Sql.Alike o (r.sql a) (r.sql b) :=
  ((Sql.own_raw (.stageReduce r.kind r.perSeries)).append h).append
    (Sql.own_raw (.reduceGroup r.perSeries))

theorem MetricsStatement.Alike.sql {s s' : MetricsStatement} (h : s.Alike o s') :
    Sql.Alike o s.sql s'.sql := by
  cases h with
  | @mk s s' having reducing h hh =>
    have hfiltered : Sql.Alike o (MetricsStatement.mk s having reducing).filteredSql
        (MetricsStatement.mk s' having reducing).filteredSql :=
      .ite h.sql ((((Sql.own_raw .selectAll).append h.sql).append
        (Sql.own_raw .stageHaving)).append (own_havingConditions hh))
    cases reducing with
    | none => exact hfiltered
    | some r => exact alike_reducing r hfiltered

end PanelQuery.Metrics

namespace PanelQuery

open Metrics
open Sql (Origin)

variable {o : Origin} {q : Query} {filters : Option FilterSet}

theorem covered_innerTags (hq : q.Covered o) :
    ∀ t ∈ Context.innerTags q, o.name t ∧ o.text t t := by
  have hnames : ∀ t ∈ q.groupBy.map (·.name), o.name t ∧ o.text t t :=
    List.forall_mem_map.mpr fun key hk => ⟨(hq.groupBy key hk).name, (hq.groupBy key hk).text⟩
  unfold Context.innerTags
  dsimp only
  split
  · rw [List.forall_mem_append, List.forall_mem_singleton]
    exact ⟨hnames, hq.bound, hq.boundText⟩
  · exact hnames

theorem agree_context (hq : q.Covered o) (h : Option.Rel (FilterSet.Related (FilterItem.Alike o)) q.filters filters)
    (first last : Int) (perMinute : Bool) :
    Agree (fun c c' => c.Covered o ∧ Option.Rel (FilterSet.Related (FilterItem.Alike o)) c.query.filters filters ∧
        c' = c.withFilters filters)
      (Context.ofQuery q first last perMinute)
      (Context.ofQuery { q with filters := filters } first last perMinute) := by
  refine Agree.bind_same fun _ _ => .ok ⟨⟨hq.aggregated.text, covered_innerTags hq, ?_⟩, h, rfl⟩
  intro t ht
  obtain ⟨key, hk, rfl⟩ := List.mem_map.mp (List.mem_filter.mp ht).1
  exact (hq.groupBy key hk).name

/-- Metrics statements of a query and of the query with alike filters in place of its own are alike,
or there are none for the same reason. -/
theorem agree_metricsStatement (hq : q.Covered o)
    (h : Option.Rel (FilterSet.Related (FilterItem.Alike o)) q.filters filters) (start stop : Int) (panel : Panel)
    (perMinute : Bool) :
    Agree (MetricsStatement.Alike o) (q.metricsStatement start stop panel perMinute)
      ({ q with filters := filters : Query }.metricsStatement start stop panel perMinute) := by
  unfold Query.metricsStatement
  refine Agree.ite (fun _ => .error _) fun _ => ?_
  refine Agree.ite (fun _ => .error _) fun _ => ?_
  refine Agree.ite (fun _ => .error _) fun _ => ?_
  refine (agree_context hq h _ _ perMinute).bind ?_
  rintro c _ ⟨hc, hf, rfl⟩
  exact (Context.agree_stage hc hf panel).bind fun s s' hs => .ok (.mk _ hs hq.having)

end PanelQuery
