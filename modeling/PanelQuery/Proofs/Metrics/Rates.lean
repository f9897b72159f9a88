import PanelQuery.Proofs.Decimal.Positive
import PanelQuery.Proofs.Epoch
import PanelQuery.Proofs.Metrics.Pipeline

/-! # Positive widths and divisors

Values are grouped by intervals of some width, and rates are divided by seconds, minutes or a number
of points. A width or a divisor that is not positive makes no error, only values that are missing or
infinite; here it is said for which queries a statement has one. -/

namespace PanelQuery

open Sql (Piece Measure Measured Quiet Role)

/-- The text of the piece is that of a positive number. -/
def Sql.Piece.isPositive (p : Piece) : Bool := Decimal.isPositive (p.chars [])

def Sql.Measure.isPositive (m : Measure) : Bool := m.number.isPositive

theorem Sql.Piece.isPositive_int (n : Int) : (Piece.int n).isPositive = decide (0 < n) :=
  Decimal.isPositive_toString n

namespace Metrics

/-! ## The numbers of a context -/

theorem isPositive_divisorSql {seconds : Int} (hlow : 0 ≤ seconds) (hhigh : seconds < 2 ^ 64)
    (perMinute : Bool) :
    ∀ p ∈ divisorSql seconds perMinute, p.isPositive = decide (0 < seconds) := by
  unfold divisorSql
  split
  · rw [List.forall_mem_singleton]
    by_cases hpos : 0 < seconds
    · rw [decide_eq_true hpos]
      exact Decimal.isPositive_minutes hpos hhigh
    · obtain rfl : seconds = 0 := by omega
      exact Decimal.isPositive_noMinutes
  · rw [List.forall_mem_singleton]
    exact Piece.isPositive_int seconds

namespace Context

theorem tableStep_pos (seconds : Int) : 0 < tableStep seconds := by
  unfold tableStep
  dsimp only
  split <;> omega

variable {c : Context}

theorem positive_divisors_iff {seconds : Int} (hlow : 0 ≤ seconds) (hhigh : seconds < 2 ^ 64) :
    (∀ m ∈ c.divisors seconds, m.isPositive = true) ↔ 0 < seconds := by
  have hone : ∃ p, divisorSql seconds c.perMinute = [p] := by
    unfold divisorSql
    split <;> exact ⟨_, rfl⟩
  obtain ⟨p, hp⟩ := hone
  have hpositive := isPositive_divisorSql hlow hhigh c.perMinute
  rw [hp, List.forall_mem_singleton] at hpositive
  rw [divisors, hp, List.map_singleton, List.forall_mem_singleton]
  rw [Measure.isPositive, hpositive, decide_eq_true_iff]

theorem positive_rateDivisors_iff {seconds : Int} (hlow : 0 ≤ seconds) (hhigh : seconds < 2 ^ 64) :
    (∀ m ∈ c.rateDivisors seconds, m.isPositive = true) ↔
      (c.query.aggregateOperator.isRate = true → 0 < seconds) := by
  unfold rateDivisors
  split
  · next h => simp [positive_divisors_iff hlow hhigh, h]
  · next h => simp [h]

/-- The seconds of a range in order. -/
theorem seconds_bounds (horder : c.first ≤ c.last) (hfirst : -10 ^ 13 < c.first)
    (hlast : c.last < 10 ^ 13) :
    0 ≤ c.seconds ∧ c.seconds < 2 ^ 64 ∧ (0 < c.seconds ↔ 1000 ≤ c.last - c.first + 1) := by
  rw [seconds, Int.tdiv_eq_ediv_of_nonneg (by omega)]
  omega

theorem step_lt (c : Context) : c.step < 2 ^ 64 := by
  have := c.query.stepInterval.toInt_lt
  unfold step
  omega

/-! ## Measures -/

theorem isPositive_int_iff {role : Role} {n : Int} :
    (Measure.mk role (.int n)).isPositive = true ↔ 0 < n := by
  rw [Measure.isPositive, Piece.isPositive_int, decide_eq_true_iff]

theorem positive_tableMeasures (c : Context) : ∀ m ∈ c.tableMeasures, m.isPositive = true := by
  have hstep := tableStep_pos c.seconds
  have hmax : ∀ n : Int, 0 < max n 1 := fun n => by omega
  unfold tableMeasures
  dsimp only
  split <;> simp [isPositive_int_iff, hstep, hmax]

/-- Divisors are no widths. -/
theorem role_rateDivisors (c : Context) (seconds : Int) :
    ∀ m ∈ c.rateDivisors seconds, m.role = .divisor := by
  unfold rateDivisors divisors
  split
  · exact List.forall_mem_map.mpr fun _ _ => rfl
  · exact List.forall_mem_nil _

variable {panel : Panel}

/-- Without a time aggregation, a table has no step of its own. -/
theorem measures_of_none (htime : c.query.timeAggregation = none) : c.measures panel =
    if panel = .table then
      if c.query.temporality = .delta then c.rateDivisors c.seconds else c.tableMeasures
    else ⟨.width, .int c.step⟩ :: if c.query.temporality = .delta then c.rateDivisors c.step else [] := by
  unfold measures
  rw [htime]
  cases c.query.temporality <;> cases panel <;> rfl

/-- A checked step makes every width positive. -/
theorem positive_widths (htime : c.query.timeAggregation = none)
    (hstep : panel ≠ .table → 0 < c.step) :
    ∀ m ∈ c.measures panel, m.role = .width → m.isPositive = true := by
  have hdivisors : ∀ seconds, ∀ m ∈ c.rateDivisors seconds, m.role = .width →
      m.isPositive = true := by
    intro seconds m hm hw
    rw [role_rateDivisors c seconds m hm] at hw
    cases hw
  rw [measures_of_none htime]
  split
  · split
    · exact hdivisors _
    · exact fun m hm _ => positive_tableMeasures c m hm
  · next hpanel =>
    refine List.forall_mem_cons.mpr ⟨fun _ => isPositive_int_iff.mpr (hstep hpanel), ?_⟩
    split
    · exact hdivisors _
    · exact List.forall_mem_nil _

/-- The one divisor that need not be positive is that of rates of increments over a whole table. -/
theorem positive_measures_iff (htime : c.query.timeAggregation = none)
    (hstep : panel ≠ .table → 0 < c.step) (hlow : 0 ≤ c.seconds) (hhigh : c.seconds < 2 ^ 64) :
    (∀ m ∈ c.measures panel, m.isPositive = true) ↔
      (panel = .table → c.query.temporality = .delta → c.query.aggregateOperator.isRate = true →
        0 < c.seconds) := by
  rw [measures_of_none htime]
  by_cases hpanel : panel = .table
  · by_cases hdelta : c.query.temporality = .delta
    · rw [if_pos hpanel, if_pos hdelta, positive_rateDivisors_iff hlow hhigh]
      simp only [hpanel, hdelta, forall_const]
    · rw [if_pos hpanel, if_neg hdelta]
      exact iff_of_true (positive_tableMeasures c) fun _ h => absurd h hdelta
  · have hpos := hstep hpanel
    rw [if_neg hpanel, List.forall_mem_cons]
    refine iff_of_true ⟨isPositive_int_iff.mpr hpos, ?_⟩ fun h => absurd h hpanel
    split
    · exact (positive_rateDivisors_iff (Int.le_of_lt hpos) c.step_lt).mpr fun _ => hpos
    · exact List.forall_mem_nil _

/-- With a time aggregation, everything depends on the step. -/
theorem positive_measures_iff_of_some {aggregation : TimeAggregation}
    (htime : c.query.timeAggregation = some aggregation) :
    (∀ m ∈ c.measures panel, m.isPositive = true) ↔ 0 < c.step := by
  unfold measures
  simp only [htime]
  rw [List.forall_mem_cons, isPositive_int_iff, and_iff_left_iff_imp]
  intro hpos
  unfold tierDivisors
  split
  · exact (positive_divisors_iff (Int.le_of_lt hpos) c.step_lt).mpr hpos
  · exact List.forall_mem_nil _

end Context

/-! ## Statements -/

/-- What a stage reads has neither widths nor divisors. -/
theorem Context.ReadsFrom.quiet {c : Context} {source : Source} (h : c.ReadsFrom source) :
    Quiet source.lookup.sql := by
  refine SeriesLookup.quiet_sql ?_
  unfold ReadsFrom at h
  split at h
  · obtain ⟨conditions, hconditions, rfl⟩ := h
    exact quiet_labelConditions hconditions
  · obtain ⟨lookup, hlookup, rfl⟩ := h
    obtain ⟨conditions, hconditions, hl⟩ := ok_of_bind hlookup
    cases hl
    exact quiet_labelConditions hconditions

theorem Reducing.measured (r : Reducing) {inner : Sql} {ms : List Measure}
    (h : inner.Measured ms) : (r.sql inner).Measured ms := by
  have hback : Quiet (Sql.raw (if r.perSeries then ") GROUP BY fingerprint" else ") ")) := by
    cases r.perSeries <;> exact .raw rfl (by decide)
  exact (h.after (.closing _ rfl rfl (by decide) (by decide))).before hback

/-- Neither have conditions on the value and a reduction. -/
theorem MetricsStatement.measured {s : MetricsStatement} {ms : List Measure}
    (h : s.stage.sql.Measured ms) : s.sql.Measured ms := by
  have hfiltered : s.filteredSql.Measured ms := by
    unfold filteredSql
    split
    · exact h
    · exact ((h.after (.raw rfl (by decide))).before (.raw rfl (by decide))).before
        (quiet_havingConditions _)
  unfold sql
  split
  · next r _ => exact r.measured hfiltered
  · exact hfiltered

end Metrics

namespace Query

open Metrics

variable {q : Query} {start stop : Int} {panel : Panel} {perMinute : Bool} {s : MetricsStatement}

theorem measures_metricsStatement
    (h : q.metricsStatement start stop panel perMinute = .ok s) :
    s.sql.measures = (q.metricsContext start stop perMinute).measures panel := by
  obtain ⟨source, hreads, hcomputes⟩ := Context.stage_spec (metricsStatement_ok h).1
  have hquiet := hreads.quiet
  rw [← hcomputes.source] at hquiet
  exact (MetricsStatement.measured (hcomputes.made.measured hquiet)).measures_eq

/-- **Rates of the operators.** Every width is positive. Every divisor is too, except for one: a
table of rates of increments over less than a second of milliseconds divides them by zero. -/
theorem metrics_rates (h : q.metricsStatement start stop panel perMinute = .ok s)
    (htime : q.timeAggregation = none) (hstart : Decimal.IsInt64 start)
    (hstop : Decimal.IsInt64 stop) (hrange : Epoch.millis start ≤ Epoch.millis stop) :
    (∀ m ∈ s.sql.measures, m.role = .width → m.isPositive = true) ∧
      ((∀ m ∈ s.sql.measures, m.isPositive = true) ↔
        ¬ (panel = .table ∧ q.temporality = .delta ∧ q.aggregateOperator.isRate = true ∧
          Epoch.millis stop - Epoch.millis start + 1 < 1000)) := by
  obtain ⟨hfirst, -⟩ := Epoch.millis_bounds hstart
  obtain ⟨-, hlast⟩ := Epoch.millis_bounds hstop
  obtain ⟨hlow, hhigh, hseconds⟩ := Context.seconds_bounds
    (c := q.metricsContext start stop perMinute) hrange hfirst hlast
  have hstep : panel ≠ .table → 0 < (q.metricsContext start stop perMinute).step :=
    (metricsStatement_ok h).2.2.2
  rw [measures_metricsStatement h]
  refine ⟨Context.positive_widths htime hstep, ?_⟩
  rw [Context.positive_measures_iff htime hstep hlow hhigh, hseconds]
  simp only [not_and, Int.not_lt]
  rfl

/-- **Steps of time aggregations.** A statement has the step as its one width, and the same number of
seconds or minutes as divisor if it is a rate of increments. All of them are positive if and only if
the step is. That has been checked, unless the panel is a table. -/
theorem metrics_tiers {aggregation : TimeAggregation}
    (h : q.metricsStatement start stop panel perMinute = .ok s)
    (htime : q.timeAggregation = some aggregation) :
    s.sql.measures = ⟨.width, .int q.stepInterval.toInt⟩ ::
        (if aggregation = .rate ∧ q.temporality = .delta then
          (divisorSql q.stepInterval.toInt perMinute).map (Measure.mk .divisor) else []) ∧
      ((∀ m ∈ s.sql.measures, m.isPositive = true) ↔ 0 < q.stepInterval.toInt) ∧
      (panel ≠ .table → 0 < q.stepInterval.toInt) := by
  have hmeasures := measures_metricsStatement h
  refine ⟨?_, ?_, (metricsStatement_ok h).2.2.2⟩
  · rw [hmeasures]
    unfold Context.measures
    rw [show (q.metricsContext start stop perMinute).query = q from rfl, htime]
    rfl
  · rw [hmeasures]
    exact Context.positive_measures_iff_of_some htime

end Query

/-- The rate of a counter of increments. -/
def incrementsRate : Query where
  name := "A"
  signal := .metrics
  aggregateOperator := .ofRate .sum
  aggregateAttribute := { name := "m" }
  temporality := .delta

/-- At a single instant, a table of it divides by zero. -/
theorem metrics_rates_instant : ∃ s,
    incrementsRate.metricsStatement 1700000000000 1700000000000 .table false = .ok s ∧
    incrementsRate.timeAggregation = none ∧ Decimal.IsInt64 1700000000000 ∧
    Epoch.millis 1700000000000 ≤ Epoch.millis 1700000000000 ∧
    ¬ ∀ m ∈ s.sql.measures, m.isPositive = true := by
  have hc : ∃ s, incrementsRate.metricsStatement 1700000000000 1700000000000 .table false = .ok s :=
    ⟨_, rfl⟩
  obtain ⟨s, h⟩ := hc
  have hword : Decimal.IsInt64 1700000000000 := ⟨by decide, by decide⟩
  have hiff := (Query.metrics_rates h rfl hword hword (Int.le_refl _)).2
  exact ⟨s, h, rfl, hword, Int.le_refl _, fun hall => hiff.mp hall (by decide)⟩

/-- The mean of a counter, without a step. -/
def unsteppedMean : Query where
  name := "A"
  signal := .metrics
  aggregateOperator := .plain .sum
  aggregateAttribute := { name := "m" }
  timeAggregation := some .avg
  spaceAggregation := some (.function .sum)

/-- A table of it has intervals of no width. -/
theorem metrics_tiers_unstepped : ∃ s,
    unsteppedMean.metricsStatement 1700000000000 1700000060000 .table false = .ok s ∧
    unsteppedMean.timeAggregation = some .avg ∧
    ¬ ∀ m ∈ s.sql.measures, m.isPositive = true := by
  have hc : ∃ s, unsteppedMean.metricsStatement 1700000000000 1700000060000 .table false = .ok s :=
    ⟨_, rfl⟩
  obtain ⟨s, h⟩ := hc
  exact ⟨s, h, rfl, fun hall => absurd ((Query.metrics_tiers h rfl).2.1.mp hall) (by decide)⟩

end PanelQuery
