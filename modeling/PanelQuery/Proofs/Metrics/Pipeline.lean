import PanelQuery.Proofs.Metrics.Compile
import PanelQuery.Proofs.Metrics.Stage

/-! # The stages of the metrics pipelines

Which samples a pipeline reads, which columns its result has, and which widths and divisors it is
computed with. One lemma for each pipeline says all of it; what holds of a whole query is put
together from these. -/

namespace PanelQuery

/-- The operators that compute a rate per series or per group. -/
def AggregateOperator.isRate : AggregateOperator → Bool
  | .rate | .ofRate _ | .rateOf _ | .histogramQuantile _ => true
  | _ => false

namespace Metrics

open Sql (Measure Condition)

/-- The stage reads from `source`, its result has the columns `lead` in front of time and value, and
it is made with the measures `ms`. -/
structure Stage.Computes (s : Stage) (source : Source) (lead : List String) (ms : List Measure) :
    Prop where
  source : s.source = source
  columns : s.columns = lead ++ ["ts", "value"]
  made : s.Made ms

namespace Context

variable {c : Context} {s : Stage} {lookup : SeriesLookup}

/-! ## Operators -/

/-- The divisor of increments over that many seconds. -/
def divisors (c : Context) (seconds : Int) : List Measure :=
  (divisorSql seconds c.perMinute).map (Measure.mk .divisor)

/-- The divisors of an operator on increments. -/
def rateDivisors (c : Context) (seconds : Int) : List Measure :=
  if c.query.aggregateOperator.isRate then c.divisors seconds else []

/-- The measures of an operator on totals over a whole table. -/
def tableMeasures (c : Context) : List Measure :=
  let step := tableStep c.seconds
  match c.query.aggregateOperator with
  | .ofRate _ | .histogramQuantile _ =>
    [⟨.divisor, .int (max (c.seconds.tdiv step) 1)⟩, ⟨.width, .int step⟩]
  | .rateOf _ => [⟨.width, .int (max (c.seconds.tdiv 2) 1)⟩]
  | _ => []

/-- The columns by which the rows of an operator are told apart. -/
def operatorLead (c : Context) (rate : List String) : List String :=
  match c.query.aggregateOperator with
  | .noop => ["fingerprint", "fullLabels"]
  | .rate => rate
  | .histogramQuantile _ => c.outerTags
  | _ => c.tags

theorem expression_dividedBy {value : Sql} (h : Expression value []) (seconds : Int) :
    Expression (dividedBy value (divisorSql seconds c.perMinute)) (c.divisors seconds) := by
  unfold divisors divisorSql
  split <;> exact h.dividedBy rfl

theorem groupStage_spec {time : TimeColumn} {value : Sql} {grouping : Grouping}
    {ms : List Measure} (hv : Expression value ms) :
    (c.groupStage lookup time value grouping).Computes (.samples c.range lookup) c.tags
      (time.measures ++ ms) :=
  ⟨rfl, rfl, .samples hv⟩

theorem noopStage_spec (time : TimeColumn) :
    (c.noopStage lookup time).Computes (.samples c.range lookup) ["fingerprint", "fullLabels"]
      (time.measures ++ []) :=
  ⟨rfl, rfl, .samples (.call rfl (by decide) rfl)⟩

theorem made_seriesMaxStage (lookup : SeriesLookup) (seconds : Int) :
    (c.seriesMaxStage lookup seconds).Made ([⟨.width, .int seconds⟩] ++ []) :=
  .samples (.call rfl (by decide) rfl)

theorem quantileStage_spec {q : Quantile} {time : TimeColumn} {source : Source}
    {ms : List Measure} (hs : s.source = source) (hm : s.Made ms) :
    (c.quantileStage q time s).Computes source c.outerTags (time.measures ++ [] ++ ms) :=
  ⟨hs, rfl, .across (.quantile q) hm⟩

theorem plainStage_spec {time : TimeColumn} {grouping : Grouping}
    (h : c.plainStage lookup time grouping = .ok s) :
    s.Computes (.samples c.range lookup) c.tags (time.measures ++ []) := by
  unfold plainStage at h
  split at h
  · next value hv =>
    cases h
    exact groupStage_spec (.plainValue hv)
  · cases h

theorem totalsStage_spec (h : c.totalsStage = .ok s) : ∃ lookup, c.lookup = .ok lookup ∧
    s.Computes (.samples c.range lookup) (c.operatorLead ["fullLabels"])
      [⟨.width, .int c.step⟩] := by
  obtain ⟨lookup, hl, h⟩ := ok_of_bind h
  refine ⟨lookup, hl, ?_⟩
  have hmax := made_seriesMaxStage (c := c) lookup c.step
  dsimp only at h
  unfold operatorLead
  cases ho : c.query.aggregateOperator with
  | rate =>
    rw [ho] at h
    cases h
    exact ⟨rfl, rfl, .rates (.samples (.call rfl (by decide) rfl))⟩
  | ofRate f =>
    rw [ho] at h
    cases h
    exact ⟨rfl, rfl, .across (.ofValue f) (.rates hmax)⟩
  | rateOf f =>
    rw [ho] at h
    cases h
    exact ⟨rfl, rfl, .rates (.samples (.ofValue f))⟩
  | histogramQuantile q =>
    rw [ho] at h
    cases h
    exact quantileStage_spec rfl (.across (.ofValue .sum) (.rates hmax))
  | noop =>
    rw [ho] at h
    cases h
    exact noopStage_spec _
  | _ =>
    rw [ho] at h
    exact plainStage_spec h

theorem incrementsStage_spec {time : TimeColumn} {seconds : Int} {grouping : Grouping}
    (h : c.incrementsStage time seconds grouping = .ok s) : ∃ lookup, c.lookup = .ok lookup ∧
    s.Computes (.samples c.range lookup) (c.operatorLead ["fingerprint", "fullLabels"])
      (time.measures ++ c.rateDivisors seconds) := by
  obtain ⟨lookup, hl, h⟩ := ok_of_bind h
  refine ⟨lookup, hl, ?_⟩
  have hrate : ∀ f, Expression (dividedBy (ofValue f) (divisorSql seconds c.perMinute))
      (c.divisors seconds) := fun f => expression_dividedBy (.ofValue f) seconds
  dsimp only at h
  unfold operatorLead rateDivisors
  cases ho : c.query.aggregateOperator with
  | rate =>
    rw [ho] at h
    cases h
    exact ⟨rfl, rfl, .samples (hrate .sum)⟩
  | ofRate f | rateOf f =>
    rw [ho] at h
    cases h
    exact groupStage_spec (hrate f)
  | histogramQuantile q =>
    rw [ho] at h
    cases h
    exact quantileStage_spec rfl (groupStage_spec (hrate .sum)).made
  | noop =>
    rw [ho] at h
    cases h
    exact noopStage_spec time
  | _ =>
    rw [ho] at h
    exact plainStage_spec h

theorem incrementsTable_spec (h : c.incrementsTable = .ok s) : ∃ lookup, c.lookup = .ok lookup ∧
    s.Computes (.samples c.range lookup) (c.operatorLead ["fingerprint", "fullLabels"])
      (c.rateDivisors c.seconds) := by
  unfold incrementsTable at h
  split at h
  · cases h
  · exact incrementsStage_spec h

/-- There is no plain rate of totals over a whole table. -/
theorem totalsTable_spec (h : c.totalsTable = .ok s) (rate : List String) :
    ∃ lookup, c.lookup = .ok lookup ∧
      s.Computes (.samples c.range lookup) (c.operatorLead rate) c.tableMeasures := by
  obtain ⟨lookup, hl, h⟩ := ok_of_bind h
  refine ⟨lookup, hl, ?_⟩
  have hmax := made_seriesMaxStage (c := c) lookup (tableStep c.seconds)
  dsimp only at h
  unfold operatorLead tableMeasures
  cases ho : c.query.aggregateOperator with
  | rate | noop =>
    rw [ho] at h
    cases h
  | ofRate f =>
    rw [ho] at h
    cases h
    exact ⟨rfl, rfl, .across (.dividedBy (.ofValue f) rfl) (.rates hmax)⟩
  | rateOf f =>
    rw [ho] at h
    cases h
    exact ⟨rfl, rfl, .rates (.samples (.ofValue f))⟩
  | histogramQuantile q =>
    rw [ho] at h
    cases h
    exact quantileStage_spec rfl (.across (.dividedBy (.ofValue .sum) rfl) (.rates hmax))
  | _ =>
    rw [ho] at h
    exact plainStage_spec h

/-! ## Time and space aggregation -/

/-- The divisors of a time aggregation: only rates of increments have one. -/
def tierDivisors (c : Context) (aggregation : TimeAggregation) : List Measure :=
  if aggregation = .rate ∧ c.query.temporality = .delta then c.divisors c.step else []

/-- The columns by which the rows of a time aggregation are told apart. -/
def tierLead (c : Context) : List String :=
  match c.query.metricType, c.query.spaceAggregation.getD (.function .sum) with
  | .histogram, .percentile _ => c.outerTags
  | _, _ => c.tags

theorem expression_tierValue {aggregation : TimeAggregation} {column : String}
    (h : Expression (Sql.raw column) []) :
    Expression (c.tierValue aggregation column) (c.tierDivisors aggregation) := by
  unfold tierValue tierDivisors
  split
  · exact expression_dividedBy h c.step
  · exact h

/-- What a stage over the series of a tier reads. -/
def ReadsTier (c : Context) (aggregation : TimeAggregation) (source : Source) : Prop :=
  ∃ conditions, labelConditions c.query.filterItems = .ok conditions ∧
    source = .series (c.tier aggregation) c.metric
      (.tiered c.metric (c.tier aggregation) c.tags conditions)

theorem seriesStage_spec {aggregation : TimeAggregation} (h : c.seriesStage aggregation = .ok s) :
    c.ReadsTier aggregation s.source ∧
      s.Made (⟨.width, .int c.step⟩ :: c.tierDivisors aggregation) := by
  unfold seriesStage at h
  dsimp only at h
  by_cases he : c.query.metricType = .exponentialHistogram
  · rw [if_pos he] at h
    cases h
  rw [if_neg he] at h
  obtain ⟨conditions, hconditions, h⟩ := ok_of_bind h
  obtain ⟨column, hcolumn, h⟩ := ok_of_bind h
  cases h
  have hmade : (Stage.series (c.tier aggregation) c.metric c.tags c.step
      (c.tierValue aggregation column)
      (.tiered c.metric (c.tier aggregation) c.tags conditions)).Made
      (⟨.width, .int c.step⟩ :: c.tierDivisors aggregation) :=
    .series (expression_tierValue (.tierColumn hcolumn))
  split
  · exact ⟨⟨conditions, hconditions, rfl⟩, hmade.counter⟩
  · exact ⟨⟨conditions, hconditions, rfl⟩, hmade⟩

theorem tieredStage_spec {aggregation : TimeAggregation} (h : c.tieredStage aggregation = .ok s) :
    ∃ source, c.ReadsTier aggregation source ∧
      s.Computes source c.tierLead (⟨.width, .int c.step⟩ :: c.tierDivisors aggregation) := by
  obtain ⟨series, hs, h⟩ := ok_of_bind h
  obtain ⟨hreads, hmade⟩ := seriesStage_spec hs
  refine ⟨series.source, hreads, ?_⟩
  dsimp only at h
  split at h
  · next q htype hspace =>
    have hlead : c.tierLead = c.outerTags := by rw [tierLead, htype, hspace]
    cases h
    rw [hlead]
    exact ⟨rfl, rfl, .quantile (.space (.space (.function .sum)) hmade)⟩
  · next hother =>
    have hlead : c.tierLead = c.tags := by
      unfold tierLead
      split
      · next q htype hspace => exact (hother q htype hspace).elim
      · rfl
    cases h
    rw [hlead]
    exact ⟨rfl, rfl, .space (.space _) hmade⟩

/-! ## Queries -/

/-- The columns by which the rows of a query's result are told apart. -/
def lead (c : Context) : List String :=
  match c.query.timeAggregation, c.query.temporality with
  | some _, _ => c.tierLead
  | none, .delta => c.operatorLead ["fingerprint", "fullLabels"]
  | none, _ => c.operatorLead ["fullLabels"]

/-- The widths and divisors that a query is computed with on a panel. -/
def measures (c : Context) (panel : Panel) : List Measure :=
  match c.query.timeAggregation, c.query.temporality, panel with
  | some aggregation, _, _ => ⟨.width, .int c.step⟩ :: c.tierDivisors aggregation
  | none, .delta, .table => c.rateDivisors c.seconds
  | none, .delta, _ => ⟨.width, .int c.step⟩ :: c.rateDivisors c.step
  | none, _, .table => c.tableMeasures
  | none, _, _ => [⟨.width, .int c.step⟩]

/-- What the stage of a query reads: samples of its range, or the series of a tier. -/
def ReadsFrom (c : Context) (source : Source) : Prop :=
  match c.query.timeAggregation with
  | some aggregation => c.ReadsTier aggregation source
  | none => ∃ lookup, c.lookup = .ok lookup ∧ source = .samples c.range lookup

/-- The stage of a query, by its temporality, its aggregation and the panel. -/
theorem stage_spec {panel : Panel} (h : c.stage panel = .ok s) :
    ∃ source, c.ReadsFrom source ∧ s.Computes source c.lead (c.measures panel) := by
  unfold stage at h
  unfold ReadsFrom lead measures
  have hsamples : ∀ {lead : List String} {ms : List Measure},
      (∃ lookup, c.lookup = .ok lookup ∧ s.Computes (.samples c.range lookup) lead ms) →
      ∃ source, (∃ lookup, c.lookup = .ok lookup ∧ source = .samples c.range lookup) ∧
        s.Computes source lead ms := by
    rintro lead ms ⟨lookup, hl, hs⟩
    exact ⟨_, ⟨lookup, hl, rfl⟩, hs⟩
  cases ha : c.query.timeAggregation with
  | some aggregation =>
    simp only [ha] at h
    exact tieredStage_spec h
  | none =>
    cases ht : c.query.temporality with
    | delta =>
      cases panel with
      | table =>
        simp only [ha, ht] at h
        exact hsamples (incrementsTable_spec h)
      | _ =>
        simp only [ha, ht] at h
        exact hsamples (incrementsStage_spec h)
    | _ =>
      cases panel with
      | table =>
        simp only [ha, ht] at h
        exact hsamples (totalsTable_spec h _)
      | _ =>
        simp only [ha, ht] at h
        exact hsamples (totalsStage_spec h)

end Context

end Metrics

namespace Query

open Metrics

variable {q : Query} {start stop : Int} {panel : Panel} {perMinute : Bool} {s : MetricsStatement}

/-- What the pipelines know of a query. -/
def metricsContext (q : Query) (start stop : Int) (perMinute : Bool) : Context :=
  ⟨q, Epoch.millis start, Epoch.millis stop, perMinute, Context.innerTags q,
    (q.groupBy.map (·.name)).filter (· ≠ leTag)⟩

/-- A statement is a stage with the conditions and the reduction of its query. The step has been
checked, unless the panel is a table. -/
theorem metricsStatement_ok (h : q.metricsStatement start stop panel perMinute = .ok s) :
    (q.metricsContext start stop perMinute).stage panel = .ok s.stage ∧ s.having = q.having ∧
      s.reducing = q.reducing panel ∧ (panel ≠ .table → 0 < q.stepInterval.toInt) := by
  unfold metricsStatement at h
  split at h
  · cases h
  split at h
  · cases h
  split at h
  · cases h
  next hstep =>
    obtain ⟨c, hc, h⟩ := ok_of_bind h
    obtain ⟨_, -, hc⟩ := ok_of_bind hc
    cases hc
    obtain ⟨stage, hstage, h⟩ := ok_of_bind h
    cases h
    exact ⟨hstage, rfl, rfl, fun hp => Int.not_le.mp fun hle => hstep ⟨hp, hle⟩⟩

end Query

end PanelQuery
