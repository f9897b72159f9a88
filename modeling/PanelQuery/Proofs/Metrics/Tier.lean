import PanelQuery.Proofs.Filter.Typed
import PanelQuery.Proofs.Metrics.Pipeline

/-! # What the tiers keep of a range

A table of buckets keeps a row under the start of the bucket that holds it. Reading begins at the
bucket that holds the start of the range, so no row of the range is left out, on either side of the
epoch. The table is chosen so that the one fault of a rollup, a distinct count, never arises. -/

namespace PanelQuery.Metrics

/-! ## Buckets -/

/-- `first` begins the bucket of that width which holds `t`. -/
structure BeginsBucket (first t width : Int) : Prop where
  le : first ≤ t
  lt : t < first + width
  dvd : width ∣ first

theorem beginsBucket_floorTo (t : Int) {width : Int} (h : 0 < width) :
    BeginsBucket (floorTo t width) t width := by
  have hlow := Int.emod_nonneg t (Int.ne_of_gt h)
  have hhigh := Int.emod_lt_of_pos t h
  have hdvd : width ∣ floorTo t width := Int.dvd_self_sub_emod
  unfold floorTo at *
  exact ⟨by omega, by omega, hdvd⟩

/-- Later instants are in no earlier bucket. -/
theorem BeginsBucket.mono {first t first' t' width : Int} (h : BeginsBucket first t width)
    (h' : BeginsBucket first' t' width) (hle : t ≤ t') : first ≤ first' := by
  obtain ⟨a, rfl⟩ := h.dvd
  obtain ⟨b, rfl⟩ := h'.dvd
  have hpos : 0 < width := by
    have hlow := h.le
    have hhigh := h.lt
    omega
  have hlt : width * a < width * (b + 1) := by
    have hlow := h.le
    have hhigh := h'.lt
    rw [Int.mul_add, Int.mul_one]
    omega
  have hnext : a < b + 1 := Int.lt_of_mul_lt_mul_left hlt (Int.le_of_lt hpos)
  exact Int.mul_le_mul_of_nonneg_left (by omega) (Int.le_of_lt hpos)

/-- A table with buckets of that width keeps rows of `t` under the time `row`; without buckets,
every row has its own time. -/
def KeptUnder (width? : Option Int) (t row : Int) : Prop :=
  match width? with
  | some width => BeginsBucket row t width
  | none => row = t

theorem KeptUnder.le {width? : Option Int} {t row : Int} (h : KeptUnder width? t row) :
    row ≤ t := by
  cases width? with
  | some width => exact BeginsBucket.le h
  | none => exact Int.le_of_eq h

theorem KeptUnder.mono {width? : Option Int} {t row t' row' : Int} (h : KeptUnder width? t row)
    (h' : KeptUnder width? t' row') (hle : t ≤ t') : row ≤ row' := by
  cases width? with
  | some width => exact BeginsBucket.mono h h' hle
  | none =>
    rw [show row = t from h, show row' = t' from h']
    exact hle

/-! ## Tables -/

theorem SeriesTable.bucketMs_pos (t : SeriesTable) : 0 < t.bucketMs := by
  cases t <;> decide

theorem SamplesTable.bucketMs?_pos {t : SamplesTable} {width : Int}
    (h : t.bucketMs? = some width) : 0 < width := by
  cases t <;> cases h <;> decide

/-- Longer ranges have wider buckets of series. -/
theorem SeriesTable.bucketMs_ofLength_le {length length' : Int} (h : length ≤ length') :
    (ofLength length).bucketMs ≤ (ofLength length').bucketMs := by
  have hday : (dayMs : Int) = 24 * hourMs := rfl
  have hweek : (weekMs : Int) = 7 * dayMs := rfl
  have hhour : 0 < hourMs := by decide
  unfold ofLength
  split_ifs <;> simp only [bucketMs] <;> omega

/-- The width of buckets, where none counts as the finest. -/
def SamplesTable.width (t : SamplesTable) : Int := t.bucketMs?.getD 0

/-- Longer ranges have wider buckets of samples. -/
theorem SamplesTable.width_ofLength_le {length length' : Int} (h : length ≤ length')
    (distinct exponential : Bool) :
    (ofLength length distinct exponential).width ≤
      (ofLength length' distinct exponential).width := by
  have hweek : (weekMs : Int) = 7 * dayMs := rfl
  have hday : 0 < dayMs := by decide
  unfold ofLength
  split_ifs <;> simp only [width, bucketMs?, Option.getD_none, Option.getD_some] <;> omega

/-- Only distinct counts and exponential histograms have a table whatever their range is. -/
theorem SamplesTable.isRollup_distinct (length : Int) (exponential : Bool) :
    (ofLength length true exponential).isRollup = false := by
  cases exponential <;> rfl

/-! ## Tiers -/

/-- The tier ends with the range, and reading from its starts up to but without that end finds the
rows of every instant of the range in both tables. -/
structure Tier.Covers (t : Tier) (start stop : Int) : Prop where
  ends : t.stop = stop
  series : KeptUnder (some t.series.bucketMs) start t.seriesStart
  samples : KeptUnder t.samples.bucketMs? start t.samplesStart
  seriesInside : ∀ instant row, start ≤ instant → instant < stop →
    KeptUnder (some t.series.bucketMs) instant row → t.seriesStart ≤ row ∧ row < stop
  samplesInside : ∀ instant row, start ≤ instant → instant < stop →
    KeptUnder t.samples.bucketMs? instant row → t.samplesStart ≤ row ∧ row < stop

namespace Tier

variable {start stop : Int} {temporality : Temporality} {distinct exponential : Bool}

theorem keptUnder_samplesStart :
    KeptUnder (select start stop temporality distinct exponential).samples.bucketMs? start
      (select start stop temporality distinct exponential).samplesStart := by
  unfold select
  dsimp only
  cases h : (SamplesTable.ofLength (stop - start) distinct exponential).bucketMs? with
  | some width => exact beginsBucket_floorTo start (SamplesTable.bucketMs?_pos h)
  | none => rfl

theorem covers_select (start stop : Int) (temporality : Temporality) (distinct exponential : Bool) :
    (select start stop temporality distinct exponential).Covers start stop := by
  have hinside : ∀ {width? : Option Int} {first : Int}, KeptUnder width? start first →
      ∀ instant row, start ≤ instant → instant < stop → KeptUnder width? instant row →
        first ≤ row ∧ row < stop := fun hfirst _ _ hle hlt hrow =>
    ⟨hfirst.mono hrow hle, Int.lt_of_le_of_lt hrow.le hlt⟩
  have hseries := beginsBucket_floorTo start (SeriesTable.ofLength (stop - start)).bucketMs_pos
  exact ⟨rfl, hseries, keptUnder_samplesStart, hinside hseries, hinside keptUnder_samplesStart⟩

/-- No table of the tier has narrower buckets than that of the other. -/
structure NoFiner (t u : Tier) : Prop where
  series : u.series.bucketMs ≤ t.series.bucketMs
  samples : u.samples.width ≤ t.samples.width

theorem noFiner_select {start' stop' : Int} (h : stop - start ≤ stop' - start')
    (temporality temporality' : Temporality) (distinct exponential : Bool) :
    (select start' stop' temporality' distinct exponential).NoFiner
      (select start stop temporality distinct exponential) :=
  ⟨SeriesTable.bucketMs_ofLength_le h, SamplesTable.width_ofLength_le h distinct exponential⟩

/-- Why a tier has no column for an aggregation. -/
theorem valueColumn_eq_error {t : Tier} {aggregation : TimeAggregation} {fault : Fault} :
    t.valueColumn aggregation = .error fault ↔
      aggregation = .countDistinct ∧ t.samples.isRollup = true ∧ fault = .distinctFromRollup ∨
      aggregation.isRateLike = true ∧ t.temporality = .unspecified ∧
        fault = .rateWithoutTemporality := by
  unfold valueColumn
  constructor
  · intro h
    cases aggregation with
    | countDistinct =>
      dsimp only at h
      split at h
      · next hrollup => exact .inl ⟨rfl, hrollup, (Except.error.inj h).symm⟩
      · cases h
    | rate | increase =>
      cases ht : t.temporality <;> rw [ht] at h <;> cases h
      exact .inr ⟨rfl, rfl, rfl⟩
    | _ => cases h
  · rintro (⟨rfl, hrollup, rfl⟩ | ⟨hrate, ht, rfl⟩)
    · exact if_pos hrollup
    · cases aggregation with
      | rate | increase => rw [ht]
      | _ => cases hrate

end Tier

/-! ## Queries -/

/-- Labels are refused for other reasons. -/
theorem labelConditions_ne_distinctFromRollup (items : List FilterItem) :
    labelConditions items ≠ .error .distinctFromRollup := by
  intro h
  rcases error_of_bind h with hitems | ⟨ps, -, hok⟩
  · obtain ⟨item, -, hitem⟩ := exists_of_mapM_error hitems
    rcases labelCondition_error hitem with ht | ht
    · rcases FilterItem.test_error ht with ⟨cause, -, -, ht⟩ | ⟨negated, -, -, ht⟩ <;> cases ht
    · cases ht
  · cases hok

namespace Context

variable (c : Context) (aggregation : TimeAggregation)

/-- A distinct count is asked of raw samples, so only a rate can lack its column. -/
theorem valueColumn_tier_eq_error {fault : Fault} :
    (c.tier aggregation).valueColumn aggregation = .error fault ↔
      aggregation.isRateLike = true ∧ c.query.temporality = .unspecified ∧
        fault = .rateWithoutTemporality := by
  refine Tier.valueColumn_eq_error.trans (or_iff_right ?_)
  rintro ⟨rfl, hrollup, -⟩
  have hraw : (c.tier .countDistinct).samples.isRollup = false :=
    SamplesTable.isRollup_distinct (c.last - c.first) false
  rw [hraw] at hrollup
  cases hrollup

theorem seriesStage_ne_distinctFromRollup :
    c.seriesStage aggregation ≠ .error .distinctFromRollup := by
  intro h
  unfold seriesStage at h
  dsimp only at h
  split at h
  · cases h
  rcases error_of_bind h with hlabels | ⟨conditions, -, h⟩
  · exact labelConditions_ne_distinctFromRollup _ hlabels
  rcases error_of_bind h with hcolumn | ⟨column, -, h⟩
  · obtain ⟨-, -, hfault⟩ := (c.valueColumn_tier_eq_error aggregation).mp hcolumn
    cases hfault
  · cases h

/-- Aggregating over series has no faults of its own. -/
theorem tieredStage_ne_distinctFromRollup :
    c.tieredStage aggregation ≠ .error .distinctFromRollup := by
  intro h
  rcases error_of_bind h with hseries | ⟨s, -, h⟩
  · exact c.seriesStage_ne_distinctFromRollup aggregation hseries
  · dsimp only at h
    split at h <;> cases h

end Context

/-- **Tiers lose nothing.** Whatever the flags are, reading a tier from its starts finds the rows of
every instant of the range, and longer ranges are served from no finer tables. A query reads the
tier that is chosen with the flag for distinct counts exactly if it counts distinct values. That
tier has a column for every aggregation but rates without temporality, and the fault of a distinct
count over a rollup does not arise. -/
theorem Tier.select_lossless :
    (∀ start stop temporality distinct exponential,
      (select start stop temporality distinct exponential).Covers start stop) ∧
    (∀ start stop start' stop' temporality temporality' distinct exponential,
      stop - start ≤ stop' - start' →
        (select start' stop' temporality' distinct exponential).NoFiner
          (select start stop temporality distinct exponential)) ∧
    ∀ (c : Context) (aggregation : TimeAggregation),
      (∀ s, c.tieredStage aggregation = .ok s → c.ReadsTier aggregation s.source) ∧
      c.tier aggregation =
        select c.first c.last c.query.temporality (decide (aggregation = .countDistinct)) false ∧
      ((∃ fault, (c.tier aggregation).valueColumn aggregation = .error fault) ↔
        aggregation.isRateLike = true ∧ c.query.temporality = .unspecified) ∧
      (c.tier aggregation).valueColumn aggregation ≠ .error .distinctFromRollup ∧
      c.tieredStage aggregation ≠ .error .distinctFromRollup := by
  refine ⟨covers_select, fun _ _ _ _ _ _ distinct exponential h =>
    noFiner_select h _ _ distinct exponential, fun c aggregation =>
    ⟨fun s hs => ?_, ?_, ?_, ?_, c.tieredStage_ne_distinctFromRollup aggregation⟩⟩
  · obtain ⟨source, hreads, hcomputes⟩ := Context.tieredStage_spec hs
    rw [hcomputes.source]
    exact hreads
  · rw [Context.tier, beq_eq_decide]
  · constructor
    · rintro ⟨fault, h⟩
      obtain ⟨hrate, ht, -⟩ := (c.valueColumn_tier_eq_error aggregation).mp h
      exact ⟨hrate, ht⟩
    · rintro ⟨hrate, ht⟩
      exact ⟨_, (c.valueColumn_tier_eq_error aggregation).mpr ⟨hrate, ht, rfl⟩⟩
  · intro h
    obtain ⟨-, -, hfault⟩ := (c.valueColumn_tier_eq_error aggregation).mp h
    cases hfault

/-- A week that ends at the epoch is read from the start of the weekly bucket around its start, and
from the half hour. -/
theorem Tier.select_lossless_beforeEpoch :
    (select (-weekMs - 1) 0 .cumulative false false).Covers (-weekMs - 1) 0 ∧
      (select (-weekMs - 1) 0 .cumulative false false).seriesStart = -2 * weekMs ∧
      (select (-weekMs - 1) 0 .cumulative false false).samplesStart = -weekMs - 30 * 60 * 1000 :=
  ⟨Tier.select_lossless.1 _ _ _ _ _, by decide, by decide⟩

end PanelQuery.Metrics
