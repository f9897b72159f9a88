import Mathlib
import PanelQuery.Decimal.Fixed
import PanelQuery.Decimal.Numeral

/-! # Positive doubles

A positive double whose significand has all its bits is written and read back as itself. Integers
that are made doubles and their quotients are of this kind, and rounding moves the exponent by one
at most, so it is known how small they can get. -/

namespace PanelQuery.Decimal

open Float.Model Float.Model.UnpackedFloat

/-- The number `significand · 2^exponent`, with the first of 53 bits set. -/
structure Normal where
  significand : Nat
  exponent : Int
  full : 2 ^ 52 ≤ significand
  fits : significand < 2 ^ 53
  small : -1074 ≤ exponent
  large : exponent ≤ 971

namespace Normal

theorem pos (x : Normal) : 0 < x.significand := Nat.lt_of_lt_of_le (by decide) x.full

def unpacked (x : Normal) : UnpackedFloat := .finite .positive x.significand x.exponent x.pos

def float (x : Normal) : Float := ⟨Float.Model.pack x.unpacked⟩

/-! ## Bits -/

theorem log2_significand (x : Normal) : x.significand.log2 = 52 :=
  (Nat.log2_eq_iff (Nat.ne_of_gt x.pos)).mpr ⟨x.full, x.fits⟩

/-- The exponent as it is stored. -/
def biased (x : Normal) : Nat := (x.exponent + 1075).toNat

/-- It is neither that of zero and the smallest numbers nor that of infinity. -/
theorem biased_bounds (x : Normal) : 1 ≤ x.biased ∧ x.biased < 2047 := by
  have hsmall := x.small
  have hlarge := x.large
  unfold biased
  omega

theorem pack_unpacked (x : Normal) : UnpackedFloat.pack Format.binary64 x.unpacked =
    packComponents Format.binary64 .positive (BitVec.ofNat 11 x.biased)
      (BitVec.ofNat 52 x.significand) := by
  have hbiased : (x.exponent + Format.binary64.exponentBias + (52 : Nat)).toNat = x.biased := by
    rw [Int.add_assoc]
    rfl
  have hlarge : ¬ 2 ^ 11 ≤ x.biased + 1 := by
    have := x.biased_bounds
    omega
  simp only [UnpackedFloat.pack, unpacked, hbiased, if_neg hlarge, x.log2_significand]
  rfl

theorem toBits (x : Normal) :
    x.float.toBits.toNat = x.biased * 2 ^ 52 + (x.significand - 2 ^ 52) := by
  have hbits : x.float.toBits.toNat = (UnpackedFloat.pack Format.binary64 x.unpacked).toNat := rfl
  have hbiased := x.biased_bounds
  have hfull := x.full
  have hfits := x.fits
  have hstored : x.significand % 2 ^ 52 = x.significand - 2 ^ 52 := by omega
  have hexponent : x.biased % 2 ^ 11 = x.biased := Nat.mod_eq_of_lt (by omega)
  rw [hbits, x.pack_unpacked, packComponents, BitVec.toNat_append, BitVec.toNat_append,
    BitVec.toNat_ofNat, BitVec.toNat_ofNat, hstored, hexponent]
  have hsign : Sign.positive.toBitVec.toNat <<< 11 ||| x.biased = x.biased := by
    simp [Sign.toBitVec]
  rw [hsign, ← Nat.shiftLeft_add_eq_or_of_lt (by omega), Nat.shiftLeft_eq]

theorem double (x : Normal) : Double.ofFloat x.float = .finite false x.significand x.exponent := by
  have hbiased := x.biased_bounds
  have hfull := x.full
  have hfits := x.fits
  have hfraction : x.float.toBits.toNat % twoTo 52 = x.significand - 2 ^ 52 := by
    rw [x.toBits, show twoTo 52 = 2 ^ 52 from rfl]
    omega
  have hexponent : x.float.toBits.toNat / twoTo 52 % 2048 = x.biased := by
    rw [x.toBits, show twoTo 52 = 2 ^ 52 from rfl]
    omega
  have hsign : (x.float.toBits.toNat / twoTo 63 == 1) = false := by
    rw [x.toBits, show twoTo 63 = 2 ^ 63 from rfl, beq_eq_false_iff_ne]
    omega
  have hvalue : (x.biased : Int) - 1075 = x.exponent := by
    have := x.small
    unfold biased
    omega
  unfold Double.ofFloat
  dsimp only
  rw [hfraction, hexponent, hsign, if_neg (by omega), if_neg (by omega), hvalue,
    show twoTo 52 = 2 ^ 52 from rfl, Nat.sub_add_cancel hfull]

theorem unpackSign_packComponents {sign : Sign} {exponent : BitVec 11} {mantissa : BitVec 52} :
    unpackSign (packComponents Format.binary64 sign exponent mantissa) = sign.toBitVec := by
  change (sign.toBitVec ++ exponent ++ mantissa).extractLsb' 63 1 = sign.toBitVec
  rw [BitVec.extractLsb'_append_eq_of_le (by decide), BitVec.extractLsb'_append_eq_of_le (by decide)]
  cases sign <;> rfl

theorem unpack_float (x : Normal) : x.float.toModel.unpack = x.unpacked := by
  have hbiased := x.biased_bounds
  have hfull := x.full
  have hfits := x.fits
  have hunpack : x.float.toModel.unpack = UnpackedFloat.unpack Format.binary64
      (UnpackedFloat.pack Format.binary64 x.unpacked) := rfl
  have hstored : (BitVec.ofNat 11 x.biased).toNat = x.biased := by
    rw [BitVec.toNat_ofNat, Nat.mod_eq_of_lt (by omega)]
  have hlarge : BitVec.ofNat 11 x.biased ≠ -1#11 := by
    intro h
    rw [h, show (-1#11).toNat = 2047 from rfl] at hstored
    omega
  have hzero : BitVec.ofNat 11 x.biased ≠ 0#11 := by
    intro h
    rw [h, show (0#11).toNat = 0 from rfl] at hstored
    omega
  have hsignificand : (1#1 ++ BitVec.ofNat 52 x.significand).toNat = x.significand := by
    rw [BitVec.toNat_append, ← Nat.shiftLeft_add_eq_or_of_lt (BitVec.isLt _), Nat.shiftLeft_eq,
      BitVec.toNat_ofNat, BitVec.toNat_ofNat]
    omega
  have hexponent : (x.biased : Int) - (Format.binary64.exponentBias + (52 : Nat)) = x.exponent := by
    have hsmall := x.small
    rw [show ((Format.binary64.exponentBias : Int) + (52 : Nat)) = 1075 from rfl, biased]
    omega
  rw [hunpack, x.pack_unpacked]
  simp only [UnpackedFloat.unpack, unpackMantissa_packComponents, unpackExponent_packComponents,
    unpackSign_packComponents, hstored, hlarge, hzero, hsignificand, hexponent]
  rfl

end Normal

/-! ## Rounding -/

/-- The exponent that a number is rounded to. -/
theorem targetExponent_totalExponent (m : Nat) (e : Int) :
    Format.binary64.targetExponent (totalExponent m e) = max (m.log2 + e - 52) (-1074) := by
  simp only [Format.targetExponent, totalExponent, Format.mantissaBits, Format.minExponent]
  omega

theorem mantissa_shiftRight (m : ExtendedMantissa) (k : Nat) :
    (m >>> k).mantissa = m.mantissa / 2 ^ k := by
  induction k with
  | zero => exact (Nat.div_one _).symm
  | succ k ih =>
    have hstep : (m >>> (k + 1)).mantissa = (m >>> k).mantissa / 2 := rfl
    rw [hstep, ih, Nat.div_div_eq_div_mul, Nat.pow_succ]

theorem roundedMantissa_bounds (m : ExtendedMantissa) :
    m.mantissa ≤ m.roundedMantissa ∧ m.roundedMantissa ≤ m.mantissa + 1 := by
  obtain ⟨mantissa, round, sticky⟩ := m
  cases round <;> cases sticky <;>
    simp only [ExtendedMantissa.roundedMantissa, ExtendedMantissa.accuracy,
      Accuracy.roundToNearestEven] <;> omega

theorem shiftToTargetExponent_eq {m : Nat} {e : Int} (acc : Accuracy) {k : Nat}
    (h : max (m.log2 + e - 52) (-1074) - e = k) :
    (shiftToTargetExponent Format.binary64 m e acc).1.mantissa = m / 2 ^ k ∧
      (shiftToTargetExponent Format.binary64 m e acc).2 = e + k := by
  have hmantissa : (ExtendedMantissa.ofMantissaAndAccuracy m acc).mantissa = m := by
    cases acc with
    | exact => rfl
    | inexact o => cases o <;> rfl
  have hk : (max ((m.log2 : Int) + e - 52) (-1074) - e).toNat = k := by omega
  simp only [shiftToTargetExponent, shiftToExponent, targetExponent_totalExponent, hk,
    mantissa_shiftRight, hmantissa, true_and]

/-- The bits that do not fit are rounded away, and then the bit that rounding up may have added. -/
theorem roundWithAccuracy_eq {m : Nat} {e : Int} (acc : Accuracy) {k : Nat}
    (hk : max (m.log2 + e - 52) (-1074) - e = k) :
    ∃ r, m / 2 ^ k ≤ r ∧ r ≤ m / 2 ^ k + 1 ∧
      ∀ (j : Nat) (hpos : 0 < r / 2 ^ j), max (r.log2 + (e + k) - 52) (-1074) - (e + k) = j →
        roundWithAccuracy Format.binary64 .positive m e acc =
          .finite .positive (r / 2 ^ j) (e + k + j) hpos := by
  obtain ⟨hmantissa, hexponent⟩ := shiftToTargetExponent_eq acc hk
  obtain ⟨hlow, hhigh⟩ :=
    roundedMantissa_bounds (shiftToTargetExponent Format.binary64 m e acc).1
  rw [hmantissa] at hlow hhigh
  refine ⟨_, hlow, hhigh, fun j hpos hj => ?_⟩
  obtain ⟨hfinal, hlast⟩ := shiftToTargetExponent_eq .exact hj
  unfold roundWithAccuracy
  simp only [hexponent, hfinal, hlast, Nat.ne_of_gt hpos, dite_false]

/-- A number with enough bits is rounded to one of full significand. -/
theorem exists_rounded {m : Nat} {e : Int} (acc : Accuracy) (hm : 2 ^ 52 ≤ m)
    (hsmall : -1074 ≤ (m.log2 : Int) + e - 52) (hlarge : (m.log2 : Int) + e - 52 ≤ 970) :
    ∃ x : Normal, roundWithAccuracy Format.binary64 .positive m e acc = x.unpacked ∧
      (m.log2 : Int) + e - 52 ≤ x.exponent ∧ x.exponent ≤ (m.log2 : Int) + e - 51 := by
  have hne : m ≠ 0 := by omega
  obtain ⟨k, hk⟩ : ∃ k, m.log2 = 52 + k := Nat.exists_eq_add_of_le ((Nat.le_log2 hne).mpr hm)
  have hlow : 2 ^ 52 ≤ m / 2 ^ k := by
    rw [Nat.le_div_iff_mul_le (Nat.two_pow_pos k), ← Nat.pow_add, ← hk]
    exact Nat.log2_self_le hne
  have hhigh : m / 2 ^ k < 2 ^ 53 := by
    rw [Nat.div_lt_iff_lt_mul (Nat.two_pow_pos k), ← Nat.pow_add, show 53 + k = m.log2 + 1 by omega]
    exact Nat.lt_log2_self
  obtain ⟨r, hrlow, hrhigh, hround⟩ := roundWithAccuracy_eq (m := m) (e := e) acc (k := k) (by omega)
  by_cases hr : r < 2 ^ 53
  · have hlog : r.log2 = 52 := (Nat.log2_eq_iff (by omega)).mpr ⟨by omega, hr⟩
    have hone : r / 2 ^ 0 = r := Nat.div_one r
    refine ⟨⟨r, e + k, by omega, hr, by omega, by omega⟩, ?_, by dsimp only; omega,
      by dsimp only; omega⟩
    simpa [hone, Normal.unpacked] using hround 0 (by omega) (by omega)
  · obtain rfl : r = 2 ^ 53 := by omega
    have hlog : (2 ^ 53 : Nat).log2 = 53 := Nat.log2_two_pow
    refine ⟨⟨2 ^ 52, e + k + 1, by omega, by omega, by omega, by omega⟩, ?_, by dsimp only; omega,
      by dsimp only; omega⟩
    exact hround 1 (by decide) (by omega)

/-! ## Products and quotients -/

namespace Normal

theorem exists_mul (x y : Normal) (hsmall : -1126 ≤ x.exponent + y.exponent)
    (hlarge : x.exponent + y.exponent ≤ 917) :
    ∃ z : Normal, x.float * y.float = z.float ∧ x.exponent + y.exponent + 52 ≤ z.exponent ∧
      z.exponent ≤ x.exponent + y.exponent + 54 := by
  have hlow : 2 ^ 52 * 2 ^ 52 ≤ x.significand * y.significand := Nat.mul_le_mul x.full y.full
  have hhigh : x.significand * y.significand < 2 ^ 53 * 2 ^ 53 := Nat.mul_lt_mul'' x.fits y.fits
  rw [← Nat.pow_add] at hlow hhigh
  have hne : x.significand * y.significand ≠ 0 := by omega
  have hlogLow := (Nat.le_log2 hne).mpr hlow
  have hlogHigh := (Nat.log2_lt hne).mpr hhigh
  have hmul : x.float * y.float =
      ⟨Float.Model.pack (UnpackedFloat.mul Format.binary64 x.unpacked y.unpacked)⟩ := by
    rw [← x.unpack_float, ← y.unpack_float]
    rfl
  obtain ⟨z, hz, hzlow, hzhigh⟩ := exists_rounded (e := x.exponent + y.exponent) .exact
    (by omega : 2 ^ 52 ≤ x.significand * y.significand) (by omega) (by omega)
  refine ⟨z, ?_, by omega, by omega⟩
  rw [hmul, float, ← hz]
  rfl

/-- A quotient is computed with 53 bits more than the exponents give. -/
theorem divCore_eq (x y : Normal) (h : -1021 ≤ x.exponent - y.exponent) :
    divCore Format.binary64 x.significand x.exponent y.significand y.exponent =
      (x.significand * 2 ^ 53 / y.significand, x.exponent - y.exponent - 53,
        accuracyOfFraction (x.significand * 2 ^ 53 % y.significand) y.significand) := by
  have htarget : min (x.exponent - y.exponent) (Format.binary64.targetExponent
      (totalExponent x.significand x.exponent - totalExponent y.significand y.exponent)) =
      x.exponent - y.exponent - 53 := by
    simp only [Format.targetExponent, totalExponent, Format.mantissaBits, Format.minExponent,
      x.log2_significand, y.log2_significand]
    omega
  have hshift : (x.exponent - y.exponent - (x.exponent - y.exponent - 53)).toNat = 53 := by omega
  simp only [divCore, htarget, hshift, Nat.shiftLeft_eq]

theorem exists_div (x y : Normal) (hsmall : -1021 ≤ x.exponent - y.exponent)
    (hlarge : x.exponent - y.exponent ≤ 1022) :
    ∃ z : Normal, x.float / y.float = z.float ∧ x.exponent - y.exponent - 53 ≤ z.exponent ∧
      z.exponent ≤ x.exponent - y.exponent - 51 := by
  have hlow : 2 ^ 52 ≤ x.significand * 2 ^ 53 / y.significand := by
    rw [Nat.le_div_iff_mul_le y.pos]
    have hx := x.full
    have hy := y.fits
    omega
  have hhigh : x.significand * 2 ^ 53 / y.significand < 2 ^ 54 := by
    rw [Nat.div_lt_iff_lt_mul y.pos]
    have hx := x.fits
    have hy := y.full
    omega
  have hne : x.significand * 2 ^ 53 / y.significand ≠ 0 := by omega
  have hlogLow := (Nat.le_log2 hne).mpr hlow
  have hlogHigh := (Nat.log2_lt hne).mpr hhigh
  have hdiv : x.float / y.float =
      ⟨Float.Model.pack (UnpackedFloat.div Format.binary64 x.unpacked y.unpacked)⟩ := by
    rw [← x.unpack_float, ← y.unpack_float]
    rfl
  obtain ⟨z, hz, hzlow, hzhigh⟩ := exists_rounded (e := x.exponent - y.exponent - 53)
    (accuracyOfFraction (x.significand * 2 ^ 53 % y.significand) y.significand) hlow (by omega)
    (by omega)
  refine ⟨z, ?_, by omega, by omega⟩
  rw [hdiv, float, ← hz]
  simp only [unpacked, UnpackedFloat.div, divCore_eq x y hsmall]
  rfl

end Normal

/-! ## Integers -/

/-- The number one. -/
def Normal.one : Normal := ⟨2 ^ 52, -52, by decide, by decide, by decide, by decide⟩

/-- The number sixty. -/
def Normal.sixty : Normal := ⟨60 * 2 ^ 47, -47, by decide, by decide, by decide, by decide⟩

theorem Normal.float_sixty : (60 : Float) = Normal.sixty.float := by decide +kernel

theorem log2_shiftLeft {n : Nat} (h : n ≠ 0) (k : Nat) : (n <<< k).log2 = n.log2 + k := by
  rw [Nat.log2_eq_iff (by simpa using h), Nat.shiftLeft_eq, Nat.add_right_comm, Nat.pow_add,
    Nat.pow_add]
  exact ⟨Nat.mul_le_mul_right _ (Nat.log2_self_le h),
    Nat.mul_lt_mul_of_pos_right Nat.lt_log2_self (Nat.two_pow_pos k)⟩

theorem exists_toFloat {n : Nat} (hpos : 0 < n) (hn : n < 2 ^ 53) :
    ∃ x : Normal, n.toUInt64.toFloat = x.float ∧ -52 ≤ x.exponent ∧ x.exponent ≤ 1 := by
  have hne : n ≠ 0 := Nat.ne_of_gt hpos
  have hlog := (Nat.log2_lt hne).mpr hn
  have hword : n.toUInt64.toNat = n := Nat.mod_eq_of_lt (by omega)
  have hround : n.toUInt64.toFloat =
      ⟨Float.Model.pack (UnpackedFloat.round Format.binary64 .positive n 0)⟩ := by
    have hcompare : compare (n : Int) 0 = .gt := Int.compare_eq_gt.mpr (by omega)
    simp only [UInt64.toFloat, Float.Model.ofUInt64, UnpackedFloat.ofUInt64, UnpackedFloat.ofNat,
      UnpackedFloat.ofInt, UnpackedFloat.normalize, hword, hcompare, Int.toNat_natCast]
  obtain ⟨k, hk⟩ : ∃ k, n.log2 + k = 52 := Nat.le.dest (by omega)
  have hshift : (0 - max ((n.log2 : Int) + 0 - 52) (-1074)).toNat = k := by omega
  have hshifted : (n <<< k).log2 = 52 := by rw [log2_shiftLeft hne, hk]
  have hfull : 2 ^ 52 ≤ n <<< k := by
    rw [← hshifted]
    exact Nat.log2_self_le (by simpa using hne)
  obtain ⟨x, hx, hlow, hhigh⟩ := exists_rounded (e := 0 - k) .exact hfull (by omega) (by omega)
  refine ⟨x, ?_, by omega, by omega⟩
  rw [hround, Normal.float, ← hx]
  simp only [UnpackedFloat.round, targetExponent_totalExponent, decreaseExponent, hshift]

/-- An integer too large for an exact double is rounded once. -/
theorem ofScientific_large {n : Nat} (h : 2 ^ 53 ≤ n) : Float.ofScientific n false 0 =
    ⟨Float.Model.pack (roundWithAccuracy Format.binary64 .positive (n <<< 53) (-53) .exact)⟩ := by
  have hne : n ≠ 0 := by omega
  have hsmall : ¬ n < 2 ^ 53 := by omega
  have hzero : ¬ (0 : Int) < -(2 ^ 11 + n.log2) := by omega
  have hmul : UnpackedFloat.ofScientific Format.binary64 n 0 =
      roundWithAccuracy Format.binary64 .positive (n <<< 53 * 1) (-53 + 0) .exact := by
    simp only [UnpackedFloat.ofScientific, dif_neg hne]
    rw [if_neg (by decide), if_neg hzero, if_pos (by decide)]
    rfl
  rw [Nat.mul_one, Int.add_zero] at hmul
  rw [Float.ofScientific, dif_neg (fun h => hsmall h.1), ← hmul]
  rfl

theorem exists_ofScientific {n : Nat} (hpos : 0 < n) (hn : n < 2 ^ 64) :
    ∃ x : Normal, Float.ofScientific n false 0 = x.float ∧ -52 ≤ x.exponent ∧ x.exponent ≤ 13 := by
  by_cases h : n < 2 ^ 53
  · obtain ⟨x, hx, hlow, hhigh⟩ := exists_toFloat hpos h
    have hone : Float.exactlyRepresentablePowersOfTen[0] = Normal.one.float := by decide +kernel
    have he : Normal.one.exponent = -52 := rfl
    obtain ⟨y, hy, hylow, hyhigh⟩ := x.exists_mul .one (by omega) (by omega)
    refine ⟨y, ?_, by omega, by omega⟩
    rw [← hy, ← hx, ← hone, Float.ofScientific, dif_pos ⟨h, by decide⟩]
    rfl
  · have hne : n ≠ 0 := Nat.ne_of_gt hpos
    have hlogLow := (Nat.le_log2 hne).mpr (Nat.le_of_not_lt h)
    have hlogHigh := (Nat.log2_lt hne).mpr hn
    have hshifted := log2_shiftLeft hne 53
    have hfull : 2 ^ 52 ≤ n <<< 53 := by
      rw [Nat.shiftLeft_eq]
      omega
    obtain ⟨x, hx, hxlow, hxhigh⟩ := exists_rounded (e := -53) .exact hfull (by omega) (by omega)
    refine ⟨x, ?_, by omega, by omega⟩
    rw [ofScientific_large (Nat.le_of_not_lt h), Normal.float, ← hx]

theorem exists_floatOfInt {n : Int} (hpos : 0 < n) (hn : n < 2 ^ 64) :
    ∃ x : Normal, floatOfInt n = x.float ∧ -52 ≤ x.exponent ∧ x.exponent ≤ 13 := by
  obtain ⟨k, rfl⟩ := Int.eq_ofNat_of_zero_le (Int.le_of_lt hpos)
  obtain ⟨x, hx⟩ := exists_ofScientific (n := k) (by omega) (by omega)
  refine ⟨x, ?_, hx.2⟩
  rw [floatOfInt, decide_eq_false (by omega)]
  exact hx.1

end PanelQuery.Decimal
