import PanelQuery.Proofs.Decimal.Binary64
import PanelQuery.Proofs.Decimal.Digits

/-! # Texts of positive numbers

Six decimal places can make a positive number zero. They do not for the minutes of a positive number
of seconds: the shortest range is a sixtieth of a minute, far above half a millionth. -/

namespace PanelQuery.Decimal

/-- The text is that of a positive number. -/
def isPositive (cs : List Char) : Bool :=
  (numeralOf? cs).any fun n => !n.negative && decide (0 < ofDigits (n.whole ++ n.fraction))

theorem isPositive_toString (n : Int) : isPositive (toString n).toList = decide (0 < n) := by
  rw [isPositive, numeralOf?_toString, Option.any_some, List.append_nil, ofDigits_digits,
    Bool.eq_iff_iff]
  simp
  omega

theorem isPositive_placesOfMillionths (n : Nat) :
    isPositive (placesOfMillionths n).toList = decide (0 < n) := by
  rw [isPositive, numeralOf?_placesOfMillionths, Option.any_some, ofDigits_places]
  simp

/-! ## Six places of a double -/

theorem le_roundHalfEven (num den : Nat) : num / den ≤ roundHalfEven num den := by
  unfold roundHalfEven
  dsimp only
  split
  · exact Nat.le_refl _
  split
  · exact Nat.le_succ _
  split
  · exact Nat.le_refl _
  · exact Nat.le_succ _

theorem fixed_normal (x : Normal) :
    fixed x.float = placesOfMillionths (millionths x.significand x.exponent) := by
  rw [fixed, x.double]
  rfl

/-- A number above a sixty-fourth has millionths. -/
theorem millionths_pos {x : Normal} (h : -58 ≤ x.exponent) :
    0 < millionths x.significand x.exponent := by
  unfold millionths
  split
  · exact Nat.mul_pos (Nat.mul_pos x.pos (Nat.two_pow_pos _)) (by decide)
  · refine Nat.lt_of_lt_of_le (Nat.div_pos ?_ (Nat.two_pow_pos _)) (le_roundHalfEven _ _)
    have hpow : 2 ^ (-x.exponent).toNat ≤ 2 ^ 58 := Nat.pow_le_pow_right (by decide) (by omega)
    have hfull := x.full
    show 2 ^ (-x.exponent).toNat ≤ x.significand * 1000000
    omega

/-- A positive number of seconds is a positive number of minutes. -/
theorem isPositive_minutes {n : Int} (hpos : 0 < n) (hn : n < 2 ^ 64) :
    isPositive (fixed (floatOfInt n / 60)).toList = true := by
  obtain ⟨x, hx, hlow, hhigh⟩ := exists_floatOfInt hpos hn
  have hsixty : Normal.sixty.exponent = -47 := rfl
  obtain ⟨y, hy, hylow, -⟩ := x.exists_div .sixty (by omega) (by omega)
  rw [hx, Normal.float_sixty, hy, fixed_normal, isPositive_placesOfMillionths, decide_eq_true]
  exact millionths_pos (by omega)

theorem isPositive_noMinutes : isPositive (fixed (floatOfInt 0 / 60)).toList = false := by
  decide +kernel

end PanelQuery.Decimal
