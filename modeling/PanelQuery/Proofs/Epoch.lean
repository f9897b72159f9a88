import Mathlib.Algebra.Group.Nat.Defs
import Mathlib.Algebra.Order.Group.Unbundled.Int
import PanelQuery.Epoch
import PanelQuery.Proofs.Decimal.Word

/-! # Instants of several units

An instant is scaled by the number of its own digits, so it does not matter in which unit it is
given, and an instant that has been scaled stays as it is. Instants of one unit keep their order; of
two with different numbers of digits, the smaller number may stand for the later instant. The
rounding to a word, and that to milliseconds, can only make instants equal. -/

namespace PanelQuery.Epoch

open Decimal (IsInt64 int64Min int64Max clampInt64)

/-- An instant in nanoseconds, however large. -/
def scaled (t : Int) : Int := t * Decimal.tenTo (19 - digitCount t)

/-- An instant is its scaled number, rounded; one with nineteen digits is not scaled. -/
theorem nanos_eq {t : Int} (h : IsInt64 t) : nanos t = clampInt64 (scaled t) := by
  unfold nanos scaled
  split
  · next hd =>
    have hzero : 19 - digitCount t = 0 := by omega
    rw [hzero]
    simpa [Decimal.tenTo] using (Decimal.clampInt64_of_isInt64 h).symm
  · rfl

theorem scaled_le_scaled {a b : Int} (h : a ≤ b) (hd : digitCount a = digitCount b) :
    scaled a ≤ scaled b := by
  rw [scaled, scaled, hd]
  exact Int.mul_le_mul_of_nonneg_right h (Int.natCast_nonneg _)

theorem scaled_nonneg {t : Int} (h : 0 ≤ t) : 0 ≤ scaled t :=
  Int.mul_nonneg h (Int.natCast_nonneg _)

theorem scaled_nonpos {t : Int} (h : t ≤ 0) : scaled t ≤ 0 :=
  Int.mul_nonpos_of_nonpos_of_nonneg h (Int.natCast_nonneg _)

/-- In nanoseconds the first instant is the later one, and not by rounding both to the same end of
the words. -/
structure Overtakes (start stop : Int) : Prop where
  scaled : scaled stop < scaled start
  start : int64Min < Epoch.scaled start
  stop : Epoch.scaled stop < int64Max

instance (start stop : Int) : Decidable (Overtakes start stop) :=
  decidable_of_iff (scaled stop < scaled start ∧ int64Min < scaled start ∧ scaled stop < int64Max)
    ⟨fun ⟨h, hs, ht⟩ => ⟨h, hs, ht⟩, fun ⟨h, hs, ht⟩ => ⟨h, hs, ht⟩⟩

variable {start stop : Int}

theorem nanos_lt_iff (hstart : IsInt64 start) (hstop : IsInt64 stop) :
    nanos stop < nanos start ↔ Overtakes start stop := by
  rw [nanos_eq hstart, nanos_eq hstop, Decimal.clampInt64_lt_iff]
  exact ⟨fun ⟨h, hs, ht⟩ => ⟨h, hs, ht⟩, fun ⟨h, hs, ht⟩ => ⟨h, hs, ht⟩⟩

/-- Ordered numbers of one unit, or on both sides of the epoch, are ordered instants. -/
theorem not_overtakes (h : start ≤ stop)
    (hunit : digitCount start = digitCount stop ∨ start ≤ 0 ∧ 0 ≤ stop) :
    ¬ Overtakes start stop := by
  rintro ⟨hlt, -, -⟩
  rcases hunit with hd | ⟨hs, ht⟩
  · exact absurd hlt (Int.not_lt.mpr (scaled_le_scaled h hd))
  · have hle := Int.le_trans (scaled_nonpos hs) (scaled_nonneg ht)
    exact absurd hlt (Int.not_lt.mpr hle)

theorem millis_le_millis {a b : Int} (h : nanos a ≤ nanos b) : millis a ≤ millis b :=
  Int.tdiv_le_tdiv (by decide) h

/-- An instant in milliseconds is far inside the words. -/
theorem millis_bounds {t : Int} (h : IsInt64 t) : -10 ^ 13 < millis t ∧ millis t < 10 ^ 13 := by
  have hclamp : int64Min ≤ nanos t ∧ nanos t ≤ int64Max := by
    rw [nanos_eq h]
    simp only [clampInt64, int64Min, int64Max]
    omega
  have hlow : int64Min.tdiv 1000000 ≤ millis t := Int.tdiv_le_tdiv (by decide) hclamp.1
  have hhigh : millis t ≤ int64Max.tdiv 1000000 := Int.tdiv_le_tdiv (by decide) hclamp.2
  exact ⟨Int.lt_of_lt_of_le (by decide) hlow, Int.lt_of_le_of_lt hhigh (by decide)⟩

theorem millis_lt_iff (hstart : IsInt64 start) (hstop : IsInt64 stop) :
    millis stop < millis start ↔ Overtakes start stop ∧ millis stop ≠ millis start := by
  rw [← nanos_lt_iff hstart hstop]
  constructor
  · intro h
    have hnanos : nanos stop < nanos start := by
      by_contra hle
      exact absurd h (Int.not_lt.mpr (millis_le_millis (Int.not_lt.mp hle)))
    exact ⟨hnanos, Int.ne_of_lt h⟩
  · rintro ⟨h, hne⟩
    have hle := millis_le_millis (Int.le_of_lt h)
    omega

/-! ## Units -/

theorem digitCount_le_iff {t : Int} {d : Nat} (hd : 0 < d) :
    digitCount t ≤ d ↔ t.natAbs < 10 ^ d :=
  Nat.length_toDigits_le_iff (by decide) hd

theorem digitCount_pos (t : Int) : 0 < digitCount t := Nat.length_toDigits_pos

theorem natAbs_lt_pow (t : Int) : t.natAbs < 10 ^ digitCount t :=
  (digitCount_le_iff (digitCount_pos t)).mp (Nat.le_refl _)

theorem pow_le_natAbs {t : Int} (h : t ≠ 0) : 10 ^ (digitCount t - 1) ≤ t.natAbs := by
  have hpos := digitCount_pos t
  by_contra hlt
  rcases Nat.eq_zero_or_pos (digitCount t - 1) with hone | hmore
  · rw [hone] at hlt
    omega
  · have hle := (digitCount_le_iff hmore).mpr (Nat.not_le.mp hlt)
    omega

/-- A word has nineteen digits at most. -/
theorem digitCount_le {t : Int} (h : IsInt64 t) : digitCount t ≤ 19 := by
  obtain ⟨hmin, hmax⟩ := h
  rw [digitCount_le_iff (by decide)]
  simp only [int64Min, int64Max] at hmin hmax
  omega

/-- Every factor of ten is one more digit. -/
theorem digitCount_mul_pow {t : Int} (h : t ≠ 0) (k : Nat) :
    digitCount (t * 10 ^ k) = digitCount t + k := by
  have hpos := digitCount_pos t
  have habs : (t * 10 ^ k).natAbs = t.natAbs * 10 ^ k := by
    rw [Int.natAbs_mul, Int.natAbs_pow]
    rfl
  have hle : digitCount (t * 10 ^ k) ≤ digitCount t + k := by
    rw [digitCount_le_iff (Nat.add_pos_left hpos k), habs, Nat.pow_add]
    exact Nat.mul_lt_mul_of_pos_right (natAbs_lt_pow t) (Nat.pow_pos (by decide))
  have hge : 10 ^ (digitCount t - 1 + k) < 10 ^ digitCount (t * 10 ^ k) := by
    refine Nat.lt_of_le_of_lt ?_ (natAbs_lt_pow (t * 10 ^ k))
    rw [habs, Nat.pow_add]
    exact Nat.mul_le_mul_right _ (pow_le_natAbs h)
  have hlt := (Nat.pow_lt_pow_iff_right (by decide)).mp hge
  omega

theorem tenTo_eq (n : Nat) : (Decimal.tenTo n : Int) = 10 ^ n := Int.natCast_pow 10 n

/-- An instant in a finer unit is scaled by so much less. -/
theorem scaled_mul_pow {t : Int} {k : Nat} (h : IsInt64 (t * 10 ^ k)) :
    scaled (t * 10 ^ k) = scaled t := by
  by_cases hzero : t = 0
  · rw [hzero, Int.zero_mul]
  have hdigits := digitCount_mul_pow hzero k
  have hle := digitCount_le h
  have hsplit : 19 - digitCount t = k + (19 - (digitCount t + k)) := by omega
  rw [scaled, scaled, hdigits, tenTo_eq, tenTo_eq, hsplit, Int.pow_add, Int.mul_assoc]

theorem sign_scaled (t : Int) : (scaled t).sign = t.sign := by
  have hten : (0 : Int) < Decimal.tenTo (19 - digitCount t) := by
    rw [tenTo_eq]
    exact Int.pow_pos (by decide)
  rw [scaled, Int.sign_mul, Int.sign_eq_one_of_pos hten, Int.mul_one]

/-- A scaled instant has nineteen digits, and so has a rounded one. -/
theorem digitCount_nanos {t : Int} (h : IsInt64 t) (hzero : t ≠ 0) : 19 ≤ digitCount (nanos t) := by
  have hpos := digitCount_pos t
  have hle := digitCount_le h
  have hscaled : 10 ^ 18 ≤ (scaled t).natAbs := by
    have hexponent : 18 = digitCount t - 1 + (19 - digitCount t) := by omega
    rw [scaled, Int.natAbs_mul, Int.natAbs_natCast, hexponent, Nat.pow_add]
    exact Nat.mul_le_mul_right _ (pow_le_natAbs hzero)
  have hclamp : 10 ^ 18 ≤ (nanos t).natAbs := by
    rw [nanos_eq h]
    simp only [clampInt64, int64Min, int64Max]
    omega
  by_contra hlt
  have hfew : digitCount (nanos t) ≤ 18 := by omega
  exact absurd ((digitCount_le_iff (by decide)).mp hfew) (Nat.not_lt.mpr hclamp)

theorem nanos_nanos {t : Int} (h : IsInt64 t) : nanos (nanos t) = nanos t := by
  by_cases hzero : t = 0
  · rw [hzero]
    rfl
  · exact if_pos (digitCount_nanos h hzero)

/-- **An instant may be given in any unit.** Whatever word it is: with zeros appended that leave it
a word, it is the same instant in nanoseconds; in nanoseconds it is a word again, which stays as it
is; its sign is kept, and so zero; and numbers of as many digits keep their order. -/
theorem nanos_any_unit (t : Int64) :
    IsInt64 (nanos t.toInt) ∧
    (∀ k, IsInt64 (t.toInt * 10 ^ k) → nanos (t.toInt * 10 ^ k) = nanos t.toInt) ∧
    nanos (nanos t.toInt) = nanos t.toInt ∧
    (nanos t.toInt).sign = t.toInt.sign ∧ nanos 0 = 0 ∧
    ∀ u : Int64, digitCount t.toInt = digitCount u.toInt → t.toInt ≤ u.toInt →
      nanos t.toInt ≤ nanos u.toInt := by
  have ht := Decimal.isInt64_toInt t
  have heq := nanos_eq ht
  refine ⟨heq ▸ Decimal.isInt64_clampInt64 _, fun k hk => ?_, nanos_nanos ht, ?_, rfl,
    fun u hdigits hle => ?_⟩
  · rw [nanos_eq hk, scaled_mul_pow hk, heq]
  · rw [heq, Decimal.sign_clampInt64, sign_scaled]
  · have hu := Decimal.isInt64_toInt u
    exact Int.not_lt.mp fun hlt =>
      not_overtakes hle (.inl hdigits) ((nanos_lt_iff ht hu).mp hlt)

/-- Instants before the epoch, some of them out of the words. -/
theorem nanos_any_unit_beforeEpoch :
    IsInt64 ((-95 : Int64).toInt * 10 ^ 16) ∧
    nanos ((-95 : Int64).toInt * 10 ^ 16) = nanos (-95) ∧ nanos (-95) = int64Min ∧
    digitCount (-95) = digitCount (-92) ∧ nanos (-95) ≤ nanos (-92) ∧
    nanos (-92) = -9200000000000000000 := by
  have hword : IsInt64 ((-95 : Int64).toInt * 10 ^ 16) := by
    constructor <;> decide
  obtain ⟨-, hunit, -, -, -, horder⟩ := nanos_any_unit (-95)
  exact ⟨hword, hunit 16 hword, by decide, by decide, horder (-92) (by decide) (by decide),
    by decide⟩

end PanelQuery.Epoch
