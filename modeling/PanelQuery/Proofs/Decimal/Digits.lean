import Mathlib.Algebra.Group.Nat.Defs
import PanelQuery.Decimal.Fixed
import PanelQuery.Decimal.Numeral

/-! # Numbers read from their digits

A written integer is read as itself, and so is a count of millionths with its point. -/

namespace PanelQuery.Decimal

theorem isDigit_digits (n : Nat) : ∀ c ∈ digits n, c.isDigit = true := fun _ =>
  Nat.isDigit_of_mem_toDigits (by decide) (by decide)

theorem exists_digits (n : Nat) : ∃ d ds, digits n = d :: ds ∧ d.isDigit = true := by
  obtain ⟨d, ds, hd⟩ := List.exists_cons_of_ne_nil (Nat.toDigits_ne_nil (n := n) (b := 10))
  exact ⟨d, ds, hd, isDigit_digits n d (by simp [digits, hd])⟩

theorem ofDigits_eq (ds : List Char) : ofDigits ds = Nat.ofDigitChars 10 ds 0 := by
  rw [Nat.ofDigitChars_eq_foldl]
  simp only [Nat.mul_comm 10]
  rfl

theorem ofDigits_digits (n : Nat) : ofDigits (digits n) = n := by
  rw [ofDigits_eq, digits, Nat.ofDigitChars_ten_toDigits]

theorem toList_toString (n : Int) :
    (toString n).toList = if 0 ≤ n then digits n.natAbs else '-' :: digits n.natAbs := by
  rw [Int.toString_eq_repr, Int.repr_eq_if]
  split
  · next hn => rw [show n.toNat = n.natAbs by omega, Nat.repr_eq_ofList_toDigits,
      String.toList_ofList, digits]
  · next hn =>
    rw [show (-n).toNat = n.natAbs by omega, String.toList_append, Nat.repr_eq_ofList_toDigits,
      String.toList_ofList (l := Nat.toDigits 10 n.natAbs)]
    rfl

/-! ## Millionths -/

theorem ofDigits_append (a b : List Char) :
    ofDigits (a ++ b) = ofDigits a * 10 ^ b.length + ofDigits b := by
  rw [ofDigits_eq, ofDigits_eq, ofDigits_eq, Nat.ofDigitChars_append,
    Nat.ofDigitChars_eq_ofDigitChars_zero, Nat.mul_comm]

theorem ofDigits_padLeft (width : Nat) (ds : List Char) :
    ofDigits (padLeft width ds) = ofDigits ds := by
  rw [padLeft, ofDigits_append, ofDigits_eq (List.replicate _ _), Nat.ofDigitChars_replicate_zero,
    Nat.mul_zero, Nat.zero_mul, Nat.zero_add]

theorem length_padLeft {width : Nat} {ds : List Char} (h : ds.length ≤ width) :
    (padLeft width ds).length = width := by
  rw [padLeft, List.length_append, List.length_replicate, Nat.sub_add_cancel h]

/-- The digits on both sides of the point are the count of millionths. -/
theorem ofDigits_places (n : Nat) :
    ofDigits (digits (n / 1000000) ++ padLeft 6 (digits (n % 1000000))) = n := by
  have hlength : (digits (n % 1000000)).length ≤ 6 :=
    (Nat.length_toDigits_le_iff (by decide) (by decide)).mpr (by omega)
  rw [ofDigits_append, ofDigits_padLeft, length_padLeft hlength, ofDigits_digits, ofDigits_digits]
  omega

/-! ## Numerals -/

theorem takeSign_of_isDigit {c : Char} (h : c.isDigit = true) (cs : List Char) :
    takeSign (c :: cs) = (false, c :: cs) := by
  unfold takeSign
  split
  · next he =>
    rw [(List.cons.inj he).1] at h
    exact absurd h (by decide)
  · next he =>
    rw [(List.cons.inj he).1] at h
    exact absurd h (by decide)
  · rfl

theorem takeSign_digits_append (n : Nat) (cs : List Char) :
    takeSign (digits n ++ cs) = (false, digits n ++ cs) := by
  obtain ⟨d, ds, hd, hdigit⟩ := exists_digits n
  rw [hd]
  exact takeSign_of_isDigit hdigit _

/-- Digits end where no other digit follows. -/
theorem span_isDigit {ds : List Char} (hd : ∀ c ∈ ds, c.isDigit = true) (rest : List Char)
    (h : rest.head?.all (!·.isDigit)) :
    (ds ++ rest).takeWhile Char.isDigit = ds ∧ (ds ++ rest).dropWhile Char.isDigit = rest := by
  rw [List.takeWhile_append_of_pos hd, List.dropWhile_append_of_pos hd]
  cases rest with
  | nil => simp
  | cons c rest => simp_all

theorem isEmpty_digits (n : Nat) : (digits n).isEmpty = false := by
  obtain ⟨d, ds, hd, -⟩ := exists_digits n
  rw [hd, List.isEmpty_cons]

theorem integerOf?_toString (n : Int) : integerOf? (toString n).toList = some n := by
  have hnatural : ∀ m, naturalOf? (digits m) = some m := fun m => by
    have hall : (digits m).all Char.isDigit = true :=
      List.all_eq_true.mpr (isDigit_digits m)
    simp [naturalOf?, isEmpty_digits, hall, ofDigits_digits]
  have hsign := takeSign_digits_append n.natAbs []
  rw [List.append_nil] at hsign
  rw [toList_toString]
  split
  · next hn =>
    simp only [integerOf?, hsign, hnatural, Bool.false_eq_true, if_false]
    exact congrArg some (Int.natAbs_of_nonneg hn)
  · next hn =>
    have hnegative : -(n.natAbs : Int) = n := by omega
    simp only [integerOf?, takeSign, hnatural, if_true]
    exact congrArg some hnegative

theorem numeralOf?_toString (n : Int) : numeralOf? (toString n).toList =
    some ⟨decide (n < 0), digits n.natAbs, [], 0⟩ := by
  have hspan := span_isDigit (isDigit_digits n.natAbs) [] rfl
  have hsign := takeSign_digits_append n.natAbs []
  rw [List.append_nil] at hspan hsign
  have hunsigned : ∀ {cs : List Char} {negative : Bool},
      takeSign cs = (negative, digits n.natAbs) →
      numeralOf? cs = some ⟨negative, digits n.natAbs, [], 0⟩ := by
    intro cs negative h
    simp [numeralOf?, h, hspan, isEmpty_digits, exponentOf?]
  rw [toList_toString]
  split
  · next hn =>
    rw [decide_eq_false (by omega)]
    exact hunsigned hsign
  · next hn =>
    rw [decide_eq_true (by omega)]
    exact hunsigned rfl

theorem numeralOf?_placesOfMillionths (n : Nat) : numeralOf? (placesOfMillionths n).toList =
    some ⟨false, digits (n / 1000000), padLeft 6 (digits (n % 1000000)), 0⟩ := by
  have hplaces : ∀ c ∈ padLeft 6 (digits (n % 1000000)), c.isDigit = true := by
    intro c hc
    rcases List.mem_append.mp hc with hc | hc
    · rw [List.eq_of_mem_replicate hc]
      rfl
    · exact isDigit_digits _ c hc
  rw [placesOfMillionths, String.toList_ofList]
  generalize padLeft 6 (digits (n % 1000000)) = places at *
  have hwhole := span_isDigit (isDigit_digits (n / 1000000)) ('.' :: places) rfl
  have hfraction := span_isDigit hplaces [] rfl
  rw [List.append_nil] at hfraction
  simp [numeralOf?, takeSign_digits_append, hwhole, hfraction, isEmpty_digits, exponentOf?]

end PanelQuery.Decimal
