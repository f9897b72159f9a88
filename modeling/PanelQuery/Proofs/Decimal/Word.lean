import Mathlib.Algebra.Order.Group.Unbundled.Int
import PanelQuery.Decimal.Numeral

/-! # Numbers as words

A number within the 64-bit words is left alone by both ways to make a word of it. Of the others,
clamping takes the nearest word and so keeps signs and order; wrapping brings those near one end out
at the other. -/

namespace PanelQuery.Decimal

/-- A number is within the 64-bit words. -/
def IsInt64 (n : Int) : Prop := int64Min ≤ n ∧ n ≤ int64Max

theorem isInt64_toInt (n : Int64) : IsInt64 n.toInt := by
  have hmin := n.le_toInt
  have hmax := n.toInt_lt
  simp only [IsInt64, int64Min, int64Max]
  omega

/-- A word is the word of its number. -/
theorem int64Of?_toInt (n : Int64) : int64Of? n.toInt = some n := by
  obtain ⟨hmin, hmax⟩ := isInt64_toInt n
  rw [int64Of?, if_pos ⟨hmin, hmax⟩, Int64.ofInt_toInt]

theorem clampInt64_of_isInt64 {n : Int} (h : IsInt64 n) : clampInt64 n = n := by
  obtain ⟨hmin, hmax⟩ := h
  rw [clampInt64, min_eq_left hmax, max_eq_right hmin]

theorem clampInt64_lt_iff {a b : Int} :
    clampInt64 a < clampInt64 b ↔ a < b ∧ int64Min < b ∧ a < int64Max := by
  simp only [clampInt64, int64Min, int64Max]
  omega

theorem isInt64_clampInt64 (n : Int) : IsInt64 (clampInt64 n) := by
  simp only [IsInt64, clampInt64, int64Min, int64Max]
  omega

theorem isInt64_wrapInt64 (n : Int) : IsInt64 (wrapInt64 n) := isInt64_toInt _

/-- What is within the words is the number of its word. -/
theorem toInt_ofInt {n : Int} (h : IsInt64 n) : (Int64.ofInt n).toInt = n := by
  obtain ⟨hmin, hmax⟩ := h
  refine Int64.toInt_ofInt_of_le hmin ?_
  unfold int64Max at hmax
  omega

theorem wrapInt64_of_isInt64 {n : Int} (h : IsInt64 n) : wrapInt64 n = n := toInt_ofInt h

/-- What is just below the words comes out at their upper end. -/
theorem wrapInt64_of_lt {n : Int} (hlow : 2 * int64Min ≤ n) (h : n < int64Min) :
    wrapInt64 n = n + 2 ^ 64 := by
  unfold int64Min at hlow h
  rw [wrapInt64, Int64.toInt_ofInt, Int.bmod_def]
  have hmod : n % (Int64.size : Int) = n + 2 ^ 64 := by
    simp only [Int64.size]
    omega
  rw [hmod, if_pos]
  simp only [Int64.size]
  omega

/-- What is just above the words comes out at their lower end. -/
theorem wrapInt64_of_gt {n : Int} (h : int64Max < n) (hhigh : n ≤ 2 * int64Max + 1) :
    wrapInt64 n = n - 2 ^ 64 := by
  unfold int64Max at hhigh h
  rw [wrapInt64, Int64.toInt_ofInt, Int.bmod_def]
  have hmod : n % (Int64.size : Int) = n := by
    simp only [Int64.size]
    omega
  rw [hmod, if_neg]
  · rfl
  · simp only [Int64.size]
    omega

theorem sign_clampInt64 (n : Int) : (clampInt64 n).sign = n.sign := by
  have hclamp : (0 < clampInt64 n ↔ 0 < n) ∧ (clampInt64 n < 0 ↔ n < 0) := by
    simp only [clampInt64, int64Min, int64Max]
    omega
  rcases Int.lt_trichotomy n 0 with hneg | rfl | hpos
  · rw [Int.sign_eq_neg_one_of_neg hneg, Int.sign_eq_neg_one_of_neg (hclamp.2.mpr hneg)]
  · rfl
  · rw [Int.sign_eq_one_of_pos hpos, Int.sign_eq_one_of_pos (hclamp.1.mpr hpos)]

end PanelQuery.Decimal
