import PanelQuery.Proofs.Metrics.Layers
import PanelQuery.Proofs.Metrics.Pipeline
import PanelQuery.Proofs.Metrics.Series

/-! # The bucket bound of histograms

A quantile over buckets needs the bound of every bucket, so the bound is put to the group keys when
a query asks for a quantile, by its operator or by its metric. Each pipeline decides for itself
whether it computes the quantile, and only then is the bound folded away. -/

namespace PanelQuery

/-- The query asks for a percentile over the buckets of a histogram. -/
def Query.AsksPercentile (q : Query) : Prop :=
  q.metricType = .histogram ∧ ∃ p, q.spaceAggregation = some (.percentile p)

namespace Metrics

/-! ## Quantiles over buckets -/

/-- The expression is a call of the function that folds buckets. -/
def CallsQuantile (value : Sql) : Prop := "histogramQuantile(".toList <+: value.text.toList

/-- The word begins with another letter than the name of that function. -/
def BeginsOtherwise (w : String) : Prop := ∃ c cs, w = String.ofList (c :: cs) ∧ c ≠ 'h'

theorem BeginsOtherwise.append {v : String} (h : BeginsOtherwise v) (w : String) :
    BeginsOtherwise (v ++ w) := by
  obtain ⟨c, cs, rfl, hc⟩ := h
  refine ⟨c, cs ++ w.toList, ?_, hc⟩
  rw [← List.cons_append, String.ofList_append, String.ofList_toList]

theorem not_callsQuantile {w : String} (h : BeginsOtherwise w) (rest : Sql) :
    ¬ CallsQuantile (Sql.raw w ++ rest) := by
  obtain ⟨c, cs, rfl, hc⟩ := h
  rintro ⟨after, hafter⟩
  have hname : "histogramQuantile(".toList = _ := String.toList_ofList
  rw [hname, Sql.text_append, Sql.text_raw, String.toList_append, String.toList_ofList] at hafter
  injection hafter with hfirst
  exact hc hfirst.symm

theorem not_callsQuantile_ofValue (f : Reduction) (rest : Sql) :
    ¬ CallsQuantile (ofValue f ++ rest) :=
  not_callsQuantile (.append (by cases f <;> exact ⟨_, _, rfl, by decide⟩) _) rest

theorem not_callsQuantile_dividedBy (f : Reduction) (divisor : Sql) :
    ¬ CallsQuantile (dividedBy (ofValue f) divisor) := by
  rw [dividedBy, List.append_assoc]
  exact not_callsQuantile_ofValue f _

theorem not_callsQuantile_plainValue {op : AggregateOperator} {value : Sql}
    (h : plainValue? op = some value) : ¬ CallsQuantile value := by
  rw [← List.append_nil value]
  unfold plainValue? at h
  split at h <;> cases h
  · exact not_callsQuantile (.append (.append ⟨_, _, rfl, by decide⟩ _) _) []
  · exact not_callsQuantile_ofValue _ []
  · exact not_callsQuantile ⟨_, _, rfl, by decide⟩ []
  · exact not_callsQuantile ⟨_, _, rfl, by decide⟩ []

theorem not_callsQuantile_tierValue {c : Context} {t : Tier} {aggregation : TimeAggregation}
    {column : String} (h : t.valueColumn aggregation = .ok column) :
    ¬ CallsQuantile (c.tierValue aggregation column) := by
  have hite : ∀ {p : Prop} [Decidable p] {v w : String}, BeginsOtherwise v → BeginsOtherwise w →
      BeginsOtherwise (if p then v else w) := by
    intro p _ v w hv hw
    split
    · exact hv
    · exact hw
  have hcolumn : BeginsOtherwise column := by
    unfold Tier.valueColumn at h
    cases aggregation with
    | countDistinct =>
      dsimp only at h
      split at h <;> cases h
      exact ⟨_, _, rfl, by decide⟩
    | rate | increase =>
      dsimp only at h
      split at h <;> cases h <;> exact hite ⟨_, _, rfl, by decide⟩ ⟨_, _, rfl, by decide⟩
    | _ =>
      cases h
      exact hite ⟨_, _, rfl, by decide⟩ ⟨_, _, rfl, by decide⟩
  unfold Context.tierValue
  split
  · rw [dividedBy, List.append_assoc]
    exact not_callsQuantile hcolumn _
  · rw [← List.append_nil (Sql.raw column)]
    exact not_callsQuantile hcolumn _

/-! ## Sound stages -/

namespace Stage

/-- The stage selects the bucket bound and groups by it, and its lookup provides it. -/
structure CarriesBound (s : Stage) : Prop where
  selected : leTag ∈ s.columns
  grouped : leTag ∈ s.groupKeys
  provided : leTag ∈ s.source.lookup.columns

/-- A stage groups by tags that it selects, and folds buckets over a stage with their bounds. -/
structure Sound (s : Stage) : Prop where
  keys : ∀ key ∈ s.groupKeys, key ∈ s.columns
  bound : CallsQuantile s.value → ∃ below, s.below? = some below ∧ below.CarriesBound

/-- So do all of its layers. -/
def AllSound (s : Stage) : Prop := ∀ layer ∈ s.layers, layer.Sound

section

variable {tags : List String} {time : TimeColumn} {value : Sql} {lookup : SeriesLookup}
  {grouping : Grouping} {order : Ordering} {source : Stage}

theorem allSound_samples {range : SampleRange} {lead : Lead}
    (hk : ∀ key ∈ grouping.keys, key ∈ lead.columns) (hv : ¬ CallsQuantile value) :
    (samples range lead time value lookup grouping order).AllSound :=
  List.forall_mem_singleton.mpr
    ⟨fun key h => List.mem_append_left _ (hk key h), fun h => absurd h hv⟩

theorem AllSound.rates {lead : Lead} {perMinute wide : Bool} (h : source.AllSound) :
    (Stage.rates lead time perMinute wide source).AllSound := by
  have hv : ¬ CallsQuantile (rateSql perMinute) :=
    not_callsQuantile (.append (.append (.append (.append ⟨_, _, rfl, by decide⟩ _) _) _) _) []
  exact List.forall_mem_cons.mpr ⟨⟨nofun, fun hc => absurd hc hv⟩, h⟩

theorem AllSound.across {dropNaN : Bool} (h : source.AllSound)
    (hk : ∀ key ∈ grouping.keys, key ∈ tags) (hv : ¬ CallsQuantile value) :
    (Stage.across tags time value source grouping dropNaN order).AllSound :=
  List.forall_mem_cons.mpr
    ⟨⟨fun key h => List.mem_append_left _ (hk key h), fun h => absurd h hv⟩, h⟩

theorem allSound_series {tier : Tier} {metric : String} {step : Int} (hv : ¬ CallsQuantile value) :
    (series tier metric tags step value lookup).AllSound :=
  List.forall_mem_singleton.mpr ⟨nofun, fun h => absurd h hv⟩

theorem AllSound.counter {increase perMinute : Bool} (h : source.AllSound) :
    (Stage.counter tags increase perMinute source).AllSound := by
  have hv : ¬ CallsQuantile (counterSql increase perMinute) :=
    not_callsQuantile (.append (.append (.append (.append (.append (.append (.append (.append
      ⟨_, _, rfl, by decide⟩ _) _) _) _) _) _) _) _) []
  exact List.forall_mem_cons.mpr ⟨⟨nofun, fun hc => absurd hc hv⟩, h⟩

theorem AllSound.space {f : SpaceAggregation} (h : source.AllSound)
    (hk : ∀ key ∈ grouping.keys, key ∈ tags) :
    (Stage.space tags (Context.spaceFunction f) source grouping order).AllSound := by
  have hf : BeginsOtherwise (Context.spaceFunction f) := by
    cases f with
    | function f => cases f <;> exact ⟨_, _, rfl, by decide⟩
    | count => exact ⟨_, _, rfl, by decide⟩
    | percentile q => exact .append (.append ⟨_, _, rfl, by decide⟩ _) _
  have hv : ¬ CallsQuantile (Sql.raw (Context.spaceFunction f ++ "(per_series_value)")) :=
    not_callsQuantile (hf.append _) []
  exact List.forall_mem_cons.mpr
    ⟨⟨fun key h => List.mem_append_left _ (hk key h), fun hc => absurd hc hv⟩, h⟩

theorem AllSound.quantile {q : Quantile} (h : source.AllSound) (hb : source.CarriesBound) :
    (Stage.quantile tags q source order).AllSound :=
  List.forall_mem_cons.mpr ⟨⟨fun _ h => List.mem_append_left _ h, fun _ => ⟨source, rfl, hb⟩⟩, h⟩

theorem AllSound.quantileStage {c : Context} {q : Quantile} (h : source.AllSound)
    (hb : source.CarriesBound) : (c.quantileStage q time source).AllSound :=
  List.forall_mem_cons.mpr ⟨⟨fun _ h => List.mem_append_left _ h, fun _ => ⟨source, rfl, hb⟩⟩, h⟩

end

end Stage

/-! ## Pipelines -/

namespace Context

variable {c : Context} {s : Stage} {lookup : SeriesLookup}

/-- The operator folds buckets, so the bound is a group key. -/
def TagsBound (c : Context) : Prop :=
  ∀ q, c.query.aggregateOperator = .histogramQuantile q → leTag ∈ c.tags

/-- Quantiles take their labels from the group keys. -/
theorem columns_lookup {q : Quantile} (h : c.lookup = .ok lookup)
    (ho : c.query.aggregateOperator = .histogramQuantile q) :
    lookup.columns = "fingerprint" :: c.tags := by
  obtain ⟨conditions, -, h⟩ := ok_of_bind h
  rw [ho] at h
  cases h
  rfl

/-- The bound is wanted for an operator or for a metric. -/
theorem isHistogram_iff {q : Query} : isHistogram q = true ↔
    (∃ p, q.aggregateOperator = .histogramQuantile p) ∨ q.AsksPercentile := by
  have hoperator : q.aggregateOperator.quantileFraction.isSome = true ↔
      ∃ p, q.aggregateOperator = .histogramQuantile p := by
    cases q.aggregateOperator <;> simp [AggregateOperator.quantileFraction]
  have hspace : (q.spaceAggregation.bind (·.quantile?)).isSome = true ↔
      ∃ p, q.spaceAggregation = some (.percentile p) := by
    rcases q.spaceAggregation with - | f
    · simp
    · cases f <;> simp [SpaceAggregation.quantile?]
  rw [isHistogram, Bool.or_eq_true, Bool.and_eq_true, hoperator, hspace, beq_iff_eq]
  rfl

/-- A stage over the samples of such a query that selects its tags and groups by them. -/
theorem TagsBound.carriesBound {q : Quantile} {range : SampleRange} {ending : List String}
    (h : c.TagsBound) (ho : c.query.aggregateOperator = .histogramQuantile q)
    (hl : c.lookup = .ok lookup) (hcolumns : s.columns = c.tags ++ ending)
    (hkeys : s.groupKeys = c.tags) (hsource : s.source = .samples range lookup) :
    s.CarriesBound := by
  refine ⟨?_, ?_, ?_⟩
  · rw [hcolumns]
    exact List.mem_append_left _ (h q ho)
  · rw [hkeys]
    exact h q ho
  · rw [hsource, Source.lookup, columns_lookup hl ho]
    exact List.mem_cons_of_mem _ (h q ho)

/-- A percentile has been asked for. -/
theorem percentile_of_getD {space : Option SpaceAggregation} {q : Quantile}
    (h : space.getD (.function .sum) = .percentile q) : space = some (.percentile q) := by
  cases space with
  | none => cases h
  | some f => exact congrArg some h

theorem allSound_groupStage {time : TimeColumn} {value : Sql} {grouping : Grouping}
    (hk : ∀ key ∈ grouping.keys, key ∈ c.tags) (hv : ¬ CallsQuantile value) :
    (c.groupStage lookup time value grouping).AllSound := Stage.allSound_samples hk hv

theorem allSound_noopStage (time : TimeColumn) : (c.noopStage lookup time).AllSound :=
  Stage.allSound_samples nofun (not_callsQuantile ⟨_, _, rfl, by decide⟩ [])

theorem allSound_seriesMaxStage (seconds : Int) : (c.seriesMaxStage lookup seconds).AllSound :=
  Stage.allSound_samples (fun _ h => List.mem_cons_of_mem _ h)
    (not_callsQuantile ⟨_, _, rfl, by decide⟩ [])

theorem allSound_plainStage {time : TimeColumn} {grouping : Grouping}
    (hk : ∀ key ∈ grouping.keys, key ∈ c.tags) (h : c.plainStage lookup time grouping = .ok s) :
    s.AllSound := by
  unfold plainStage at h
  split at h
  · next value hv =>
    cases h
    exact allSound_groupStage hk (not_callsQuantile_plainValue hv)
  · cases h

theorem allSound_totalsStage (hle : c.TagsBound) (h : c.totalsStage = .ok s) : s.AllSound := by
  obtain ⟨lookup, hl, h⟩ := ok_of_bind h
  have hmax : (c.seriesMaxStage lookup c.step).AllSound := allSound_seriesMaxStage _
  have hvalue : ∀ f, ¬ CallsQuantile (ofValue f) := fun f => not_callsQuantile_ofValue f []
  dsimp only at h
  cases ho : c.query.aggregateOperator with
  | rate =>
    have hsamples : (Stage.samples c.range .anyLabels (.interval c.step) (Sql.raw "max(value)")
        lookup .series .series).AllSound :=
      Stage.allSound_samples nofun (not_callsQuantile ⟨_, _, rfl, by decide⟩ [])
    rw [ho] at h
    cases h
    exact hsamples.rates
  | ofRate f =>
    rw [ho] at h
    cases h
    exact hmax.rates.across (fun _ h => h) (hvalue f)
  | rateOf f =>
    rw [ho] at h
    cases h
    exact (allSound_groupStage (fun _ h => h) (hvalue f)).rates
  | histogramQuantile q =>
    rw [ho] at h
    cases h
    exact .quantileStage (.across hmax.rates (fun _ h => h) (hvalue .sum))
      (hle.carriesBound ho hl rfl rfl rfl)
  | noop =>
    rw [ho] at h
    cases h
    exact allSound_noopStage _
  | _ =>
    rw [ho] at h
    exact allSound_plainStage (fun _ h => h) h

theorem allSound_incrementsStage {time : TimeColumn} {seconds : Int} {grouping : Grouping}
    (hk : ∀ key ∈ grouping.keys, key ∈ c.tags) (hle : c.TagsBound)
    (h : c.incrementsStage time seconds grouping = .ok s) : s.AllSound := by
  obtain ⟨lookup, hl, h⟩ := ok_of_bind h
  have hrate : ∀ f, ¬ CallsQuantile (dividedBy (ofValue f) (divisorSql seconds c.perMinute)) :=
    fun f => not_callsQuantile_dividedBy f _
  dsimp only at h
  cases ho : c.query.aggregateOperator with
  | rate =>
    rw [ho] at h
    cases h
    exact Stage.allSound_samples nofun (hrate .sum)
  | ofRate f | rateOf f =>
    rw [ho] at h
    cases h
    exact allSound_groupStage hk (hrate f)
  | histogramQuantile q =>
    rw [ho] at h
    cases h
    exact (allSound_groupStage (fun _ h => h) (hrate .sum)).quantileStage
      (hle.carriesBound ho hl rfl rfl rfl)
  | noop =>
    rw [ho] at h
    cases h
    exact allSound_noopStage _
  | _ =>
    rw [ho] at h
    exact allSound_plainStage hk h

theorem allSound_totalsTable (hle : c.TagsBound) (h : c.totalsTable = .ok s) : s.AllSound := by
  obtain ⟨lookup, hl, h⟩ := ok_of_bind h
  have hmax : (c.seriesMaxStage lookup (tableStep c.seconds)).AllSound := allSound_seriesMaxStage _
  dsimp only at h
  cases ho : c.query.aggregateOperator with
  | rate | noop =>
    rw [ho] at h
    cases h
  | ofRate f =>
    rw [ho] at h
    cases h
    exact hmax.rates.across (fun _ h => h) (not_callsQuantile_dividedBy f _)
  | rateOf f =>
    rw [ho] at h
    cases h
    exact (allSound_groupStage (fun _ h => h) (not_callsQuantile_ofValue f [])).rates
  | histogramQuantile q =>
    rw [ho] at h
    cases h
    exact .quantileStage (.across hmax.rates (fun _ h => h)
      (not_callsQuantile_dividedBy .sum _)) (hle.carriesBound ho hl rfl rfl rfl)
  | _ =>
    rw [ho] at h
    exact allSound_plainStage (fun _ h => h) h

/-- The series of a tier come with the group keys from the lookup. -/
theorem allSound_seriesStage {aggregation : TimeAggregation}
    (h : c.seriesStage aggregation = .ok s) :
    s.AllSound ∧ s.source.lookup.columns = "fingerprint" :: c.tags := by
  unfold seriesStage at h
  dsimp only at h
  split at h
  · cases h
  obtain ⟨conditions, -, h⟩ := ok_of_bind h
  obtain ⟨column, hcolumn, h⟩ := ok_of_bind h
  cases h
  have hseries : (Stage.series (c.tier aggregation) c.metric c.tags c.step
      (c.tierValue aggregation column)
      (.tiered c.metric (c.tier aggregation) c.tags conditions)).AllSound :=
    Stage.allSound_series (not_callsQuantile_tierValue hcolumn)
  split
  · exact ⟨hseries.counter, rfl⟩
  · exact ⟨hseries, rfl⟩

theorem allSound_tieredStage {aggregation : TimeAggregation}
    (hle : ∀ q, c.query.metricType = .histogram → c.query.spaceAggregation = some (.percentile q) →
      leTag ∈ c.tags)
    (h : c.tieredStage aggregation = .ok s) : s.AllSound := by
  obtain ⟨series, hs, h⟩ := ok_of_bind h
  obtain ⟨hsound, hlookup⟩ := allSound_seriesStage hs
  dsimp only at h
  split at h
  · next q htype hspace =>
    cases h
    have hbound : leTag ∈ c.tags := hle q htype (percentile_of_getD hspace)
    have hbuckets : (Stage.space c.tags (spaceFunction (.function .sum)) series (.tags c.tags)
        (.spacedTags (c.ordered c.tags))).AllSound := hsound.space fun _ h => h
    exact hbuckets.quantile ⟨List.mem_append_left _ hbound, hbound,
      hlookup ▸ List.mem_cons_of_mem _ hbound⟩
  · cases h
    refine hsound.space ?_
    split
    · exact nofun
    · exact fun _ h => h

theorem allSound_stage {panel : Panel} (hle : isHistogram c.query = true → leTag ∈ c.tags)
    (h : c.stage panel = .ok s) : s.AllSound := by
  have hoperator : c.TagsBound := fun q ho => hle (isHistogram_iff.mpr (.inl ⟨q, ho⟩))
  have hpercentile : ∀ q, c.query.metricType = .histogram →
      c.query.spaceAggregation = some (.percentile q) → leTag ∈ c.tags := fun q ht hs =>
    hle (isHistogram_iff.mpr (.inr ⟨ht, q, hs⟩))
  unfold stage at h
  split at h
  · exact allSound_tieredStage hpercentile h
  · unfold incrementsTable at h
    split at h
    · cases h
    · exact allSound_incrementsStage (fun _ h => h) hoperator h
  · exact allSound_incrementsStage (fun _ h => h) hoperator h
  · exact allSound_totalsTable hoperator h
  · exact allSound_totalsStage hoperator h

end Context

end Metrics

/-! ## Statements -/

namespace Query

open Metrics

/-- The bound is a group key, but the pipeline of the query does not fold it: with a time
aggregation, it is wanted for the operator and folded for the metric; without one, it is wanted for
the metric and folded for the operator. Plain samples and rates have no group keys. -/
def LeaksBound (q : Query) : Prop :=
  match q.timeAggregation with
  | some _ => (∃ p, q.aggregateOperator = .histogramQuantile p) ∧ ¬ q.AsksPercentile
  | none => q.AsksPercentile ∧ q.aggregateOperator ≠ .noop ∧ q.aggregateOperator ≠ .rate ∧
    ∀ p, q.aggregateOperator ≠ .histogramQuantile p

variable {q : Query} {start stop : Int} {panel : Panel} {perMinute : Bool} {s : MetricsStatement}

theorem leTag_mem_innerTags (h : Context.isHistogram q = true) : leTag ∈ Context.innerTags q := by
  unfold Context.innerTags
  by_cases hown : leTag ∈ q.groupBy.map (·.name)
  · simp [h, hown]
  · simp [h, hown]

theorem leTag_mem_innerTags_iff (hown : leTag ∉ q.groupBy.map (·.name)) :
    leTag ∈ Context.innerTags q ↔ Context.isHistogram q = true := by
  refine ⟨fun h => ?_, leTag_mem_innerTags⟩
  by_contra hnot
  unfold Context.innerTags at h
  rw [Bool.not_eq_true] at hnot
  rw [hnot] at h
  exact hown h

/-- The bound is in front of time and value if and only if the query leaks it. -/
theorem leTag_mem_lead_iff (start stop : Int) (perMinute : Bool)
    (hown : leTag ∉ q.groupBy.map (·.name)) :
    leTag ∈ (q.metricsContext start stop perMinute).lead ↔ q.LeaksBound := by
  have hinner : leTag ∈ (q.metricsContext start stop perMinute).tags ↔
      (∃ p, q.aggregateOperator = .histogramQuantile p) ∨ q.AsksPercentile :=
    (leTag_mem_innerTags_iff hown).trans Context.isHistogram_iff
  have houter : leTag ∉ (q.metricsContext start stop perMinute).outerTags := fun h =>
    hown (List.mem_filter.mp h).1
  have hquery : (q.metricsContext start stop perMinute).query = q := rfl
  unfold Context.lead LeaksBound
  rw [hquery]
  cases ha : q.timeAggregation with
  | some aggregation =>
    dsimp only
    unfold Context.tierLead
    rw [hquery]
    split
    · next p ht hs =>
      exact iff_of_false houter fun h => h.2 ⟨ht, p, Context.percentile_of_getD hs⟩
    · next hnot =>
      have hasks : ¬ q.AsksPercentile := by
        rintro ⟨ht, p, hs⟩
        exact hnot p ht (by rw [hs]; rfl)
      rw [hinner, or_iff_left hasks, and_iff_left hasks]
  | none =>
    have hlead : ∀ rate, leTag ∉ rate →
        (leTag ∈ (q.metricsContext start stop perMinute).operatorLead rate ↔
          q.AsksPercentile ∧ q.aggregateOperator ≠ .noop ∧ q.aggregateOperator ≠ .rate ∧
            ∀ p, q.aggregateOperator ≠ .histogramQuantile p) := by
      intro rate hrate
      unfold Context.operatorLead
      rw [hquery]
      split
      · next ho => exact iff_of_false (by decide) fun h => h.2.1 ho
      · next ho => exact iff_of_false hrate fun h => h.2.2.1 ho
      · next p ho => exact iff_of_false houter fun h => h.2.2.2 p ho
      · next hnoop hrate hquantile =>
        rw [hinner, or_iff_right fun ⟨p, ho⟩ => hquantile p ho]
        exact (and_iff_left ⟨hnoop, hrate, hquantile⟩).symm
    cases q.temporality <;> exact hlead _ (by decide)

/-- **The bucket bound in a result.** Unless the query itself groups by the bucket bound, the
outermost stage neither selects it nor groups by it, if and only if the query does not leak it.
Wherever buckets are folded to a quantile, by whatever keys the query groups, the stage below
selects the bound and groups by it, and the lookup of series provides it. -/
theorem metrics_bound (h : q.metricsStatement start stop panel perMinute = .ok s) :
    s.stage.sql.Within s.sql ∧
      (∃ columns, s.stage.sql.selected? = some columns ∧
        (leTag ∉ q.groupBy.map (·.name) →
          ((leTag ∉ columns ∧ ¬ s.stage.GroupsBy leTag) ↔ ¬ q.LeaksBound))) ∧
      ∀ layer ∈ s.stage.layers, layer.sql.Within s.sql ∧
        (CallsQuantile layer.value → ∃ below, layer.below? = some below ∧
          (∃ columns, below.sql.selected? = some columns ∧ leTag ∈ columns) ∧
          below.GroupsBy leTag ∧ below.source.lookup.sql.Within below.sql ∧
          ∃ columns, below.source.lookup.sql.selected? = some columns ∧ leTag ∈ columns) := by
  have hstage := (metricsStatement_ok h).1
  obtain ⟨source, -, hcomputes⟩ := Context.stage_spec hstage
  have hsound := Context.allSound_stage leTag_mem_innerTags hstage
  refine ⟨s.within_stage, ⟨_, hcomputes.made.selected.selected, fun hown => ?_⟩,
    fun layer hlayer => ⟨?_, fun hcalls => ?_⟩⟩
  · have hcolumns : leTag ∈ s.stage.columns ↔ q.LeaksBound := by
      rw [hcomputes.columns, List.mem_append, leTag_mem_lead_iff start stop perMinute hown,
        or_iff_left (by decide)]
    refine ⟨fun hnot => hcolumns.not.mp hnot.1, fun hleak => ?_⟩
    have hselected := hcolumns.not.mpr hleak
    refine ⟨hselected, fun hgroups => hselected ?_⟩
    exact (hsound _ s.stage.mem_layers_self).keys _ (Metrics.Stage.groupsBy_iff.mp hgroups)
  · exact (s.stage.within_layer layer hlayer).trans s.within_stage
  · obtain ⟨below, hbelow, hcarries⟩ := (hsound layer hlayer).bound hcalls
    obtain ⟨ms, hlayerMade⟩ := hcomputes.made.layer layer hlayer
    obtain ⟨ms', hmade⟩ := hlayerMade.of_below? hbelow
    exact ⟨below, hbelow, ⟨_, hmade.selected.selected, hcarries.selected⟩,
      Metrics.Stage.groupsBy_iff.mpr hcarries.grouped, below.within_lookup,
      SeriesLookup.exists_selected hcarries.provided (by decide)⟩

end Query

/-- The sum of a histogram, with a percentile over series. -/
def summedHistogram : Query where
  name := "A"
  signal := .metrics
  aggregateOperator := .plain .sum
  aggregateAttribute := { name := "m" }
  temporality := .cumulative
  metricType := .histogram
  spaceAggregation := some (.percentile .q95)
  stepInterval := 60

/-- Without a time aggregation it is no quantile, and its series are split by the bucket bound. -/
theorem metrics_bound_summed : ∃ s,
    summedHistogram.metricsStatement 1700000000000 1700000060000 .graph false = .ok s ∧
    Metrics.leTag ∉ summedHistogram.groupBy.map (·.name) ∧
    ∃ columns, s.stage.sql.selected? = some columns ∧
      ¬ (Metrics.leTag ∉ columns ∧ ¬ s.stage.GroupsBy Metrics.leTag) := by
  have hc : ∃ s,
      summedHistogram.metricsStatement 1700000000000 1700000060000 .graph false = .ok s := ⟨_, rfl⟩
  obtain ⟨s, h⟩ := hc
  obtain ⟨-, ⟨columns, hcolumns, hiff⟩, -⟩ := Query.metrics_bound h
  have hown : Metrics.leTag ∉ summedHistogram.groupBy.map (·.name) := List.not_mem_nil
  have hleak : summedHistogram.LeaksBound := ⟨⟨rfl, _, rfl⟩, nofun, nofun, nofun⟩
  exact ⟨s, h, hown, columns, hcolumns, fun hnot => (hiff hown).mp hnot hleak⟩

end PanelQuery
