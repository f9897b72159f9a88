import Mathlib
import PanelQuery.Proofs.Decimal.Binary64
import PanelQuery.Proofs.Decimal.Digits

/-! # What six places keep of a double

Six decimal places write the multiple of a millionth nearest to the exact value of a double. That is
the value itself only if the value is such a multiple. An integer beyond the signed words becomes
the double nearest to it first, and six places write that double exactly. -/

namespace PanelQuery.Decimal

/-- The exact number, if it is one. -/
def Double.value? : Double → Option ℚ
  | .finite negative m q => some ((if negative then -1 else 1) * (m * 2 ^ q))
  | .infinite _ | .notANumber => none

/-- The number that a double is. -/
def value? (x : Float) : Option ℚ := (Double.ofFloat x).value?

def IsMillionths (q : ℚ) : Prop := ∃ k : ℤ, q = k / 1000000

/-- `r` is the multiple of a millionth that `q` is rounded to. -/
structure RoundsTo (q r : ℚ) : Prop where
  millionths : IsMillionths r
  near : |r - q| ≤ 1 / 2000000

/-- Rounding keeps what has six places, and nothing else. -/
theorem RoundsTo.eq_iff {q r : ℚ} (h : RoundsTo q r) : r = q ↔ IsMillionths q := by
  refine ⟨fun he => he ▸ h.millionths, ?_⟩
  rintro ⟨b, rfl⟩
  obtain ⟨⟨a, rfl⟩, hnear⟩ := h
  have hdistance : |((a - b : ℤ) : ℚ)| ≤ 1 / 2 := by
    rw [← sub_div, abs_div, div_le_iff₀ (by norm_num)] at hnear
    norm_num at hnear
    push_cast
    linarith
  have hzero : |a - b| < 1 := by
    have : |((a - b : ℤ) : ℚ)| < 1 := hdistance.trans_lt (by norm_num)
    exact_mod_cast this
  rw [sub_eq_zero.mp (Int.abs_lt_one_iff.mp hzero)]

/-! ## Rounding -/

/-- A quotient is rounded by half of the divisor at most. -/
theorem roundHalfEven_bounds (num : Nat) {den : Nat} (h : 0 < den) :
    2 * (roundHalfEven num den * den) ≤ 2 * num + den ∧
      2 * num ≤ 2 * (roundHalfEven num den * den) + den := by
  have hdivision := Nat.div_add_mod' num den
  have hrest := Nat.mod_lt num h
  have hnext : (num / den + 1) * den = num / den * den + den := Nat.succ_mul _ _
  unfold roundHalfEven
  dsimp only
  split
  · omega
  split
  · omega
  split <;> omega

theorem roundHalfEven_near (num : Nat) {den : Nat} (h : 0 < den) :
    |(roundHalfEven num den : ℚ) - num / den| ≤ 1 / 2 := by
  obtain ⟨hlow, hhigh⟩ := roundHalfEven_bounds num h
  have hden : (0 : ℚ) < den := by exact_mod_cast h
  have hlow : 2 * (roundHalfEven num den * den : ℚ) ≤ 2 * num + den := by exact_mod_cast hlow
  have hhigh : 2 * (num : ℚ) ≤ 2 * (roundHalfEven num den * den) + den := by exact_mod_cast hhigh
  rw [sub_div' hden.ne', abs_div, abs_of_pos hden, div_le_iff₀ hden, abs_le]
  constructor <;> linarith

theorem millionths_near (m : Nat) (q : Int) :
    |(millionths m q : ℚ) - m * 2 ^ q * 1000000| ≤ 1 / 2 := by
  unfold millionths
  split
  · next hq =>
    obtain ⟨k, rfl⟩ := Int.eq_ofNat_of_zero_le hq
    have hexact : ((m * twoTo k * 1000000 : ℕ) : ℚ) = m * 2 ^ (k : ℤ) * 1000000 := by
      simp [twoTo]
    rw [Int.toNat_natCast, hexact, sub_self, abs_zero]
    norm_num
  · next hq =>
    obtain ⟨k, hk⟩ := Int.eq_ofNat_of_zero_le (a := -q) (by omega)
    obtain rfl : q = -(k : ℤ) := by omega
    have hvalue : (m : ℚ) * 2 ^ (-(k : ℤ)) * 1000000 = (m * 1000000 : ℕ) / twoTo k := by
      have hpower : ((twoTo k : ℕ) : ℚ) = 2 ^ k := by simp [twoTo]
      rw [zpow_neg, zpow_natCast, hpower, Nat.cast_mul, div_eq_mul_inv]
      push_cast
      ring
    rw [hk, Int.toNat_natCast, hvalue]
    exact roundHalfEven_near _ (Nat.two_pow_pos k)

/-- The number that is written with six places. -/
def Double.written (negative : Bool) (m : Nat) (q : Int) : ℚ :=
  (if negative then -1 else 1) * (millionths m q / 1000000)

theorem roundsTo_written (negative : Bool) (m : Nat) (q : Int) :
    RoundsTo ((if negative then -1 else 1) * (m * 2 ^ q)) (Double.written negative m q) := by
  constructor
  · cases negative with
    | false => exact ⟨millionths m q, by simp [Double.written]⟩
    | true => exact ⟨-millionths m q, by simp [Double.written, neg_div]⟩
  · have hunsigned : |(millionths m q / 1000000 : ℚ) - m * 2 ^ q| ≤ 1 / 2000000 := by
      have hnear := millionths_near m q
      rw [abs_le] at hnear ⊢
      constructor <;> linarith
    cases negative with
    | false => simpa [Double.written] using hunsigned
    | true =>
      rw [abs_sub_comm] at hunsigned
      simpa [Double.written, ← sub_eq_neg_add] using hunsigned

/-! ## Six places as a numeral -/

theorem takeSign_signed (negative : Bool) (n : Nat) :
    takeSign (signed negative (placesOfMillionths n)).toList =
      (negative, (placesOfMillionths n).toList) := by
  have hplaces : takeSign (placesOfMillionths n).toList = (false, (placesOfMillionths n).toList) := by
    rw [placesOfMillionths, String.toList_ofList, takeSign_digits_append]
  cases negative with
  | false => exact hplaces
  | true => simp [signed, takeSign]

/-- The point keeps a text from being an integer. -/
theorem integerOf?_signed (negative : Bool) (n : Nat) :
    integerOf? (signed negative (placesOfMillionths n)).toList = none := by
  have hpoint : (placesOfMillionths n).toList.all Char.isDigit = false := by
    simp [placesOfMillionths]
  simp [integerOf?, takeSign_signed, naturalOf?, hpoint]

/-- The sign of a numeral is read apart from its digits. -/
theorem numeralOf?_eq {cs body : List Char} {negative : Bool} (hcs : takeSign cs = (negative, body))
    (hbody : takeSign body = (false, body)) :
    numeralOf? cs = (numeralOf? body).map fun n => { n with negative := negative } := by
  simp only [numeralOf?, hcs, hbody]
  split <;> split <;> simp [Function.comp_def]

theorem numeralOf?_signed (negative : Bool) (n : Nat) :
    numeralOf? (signed negative (placesOfMillionths n)).toList =
      some ⟨negative, digits (n / 1000000), padLeft 6 (digits (n % 1000000)), 0⟩ := by
  rw [numeralOf?_eq (takeSign_signed negative n) (takeSign_signed false n),
    numeralOf?_placesOfMillionths]
  rfl

/-! ## Large integers -/

theorem Normal.value?_float (x : Normal) :
    value? x.float = some ((x.significand : ℚ) * 2 ^ x.exponent) := by
  rw [value?, x.double, Double.value?, if_neg (by decide), one_mul]

/-- The double nearest to an integer with more bits than a significand is an integer. -/
theorem exists_value?_floatOfInt {n : Int} (h : 2 ^ 53 ≤ n) (hn : n < 2 ^ 64) :
    ∃ k : ℤ, value? (floatOfInt n) = some (k : ℚ) := by
  obtain ⟨k, rfl⟩ := Int.eq_ofNat_of_zero_le (a := n) (by omega)
  have hlarge : 2 ^ 53 ≤ k := by exact_mod_cast h
  have hsmall : k < 2 ^ 64 := by exact_mod_cast hn
  have hne : k ≠ 0 := by omega
  have hlogLow := (Nat.le_log2 hne).mpr hlarge
  have hlogHigh := (Nat.log2_lt hne).mpr hsmall
  have hshifted := log2_shiftLeft hne 53
  have hfull : 2 ^ 52 ≤ k <<< 53 := by
    rw [Nat.shiftLeft_eq]
    omega
  obtain ⟨x, hx, hlow, -⟩ := exists_rounded (e := -53) .exact hfull (by omega) (by omega)
  have hfloat : floatOfInt k = x.float := by
    rw [floatOfInt, decide_eq_false (by omega)]
    change Float.ofScientific k false 0 = x.float
    rw [ofScientific_large hlarge, Normal.float, ← hx]
  obtain ⟨e, he⟩ := Int.eq_ofNat_of_zero_le (a := x.exponent) (by omega)
  refine ⟨x.significand * 2 ^ e, ?_⟩
  rw [hfloat, x.value?_float, he]
  push_cast
  rw [zpow_natCast]

theorem isMillionths_intCast (k : ℤ) : IsMillionths k := ⟨k * 1000000, by push_cast; ring⟩

end PanelQuery.Decimal
