import Mathlib.Data.List.Infix

/-! # Patterns

A pattern is matched against a whole text: a per-cent sign stands for any text, an underscore for
any character, and every other character for itself. Patterns written one after the other match
texts one after the other. -/

namespace PanelQuery.Sql

/-- The text matches the pattern. -/
def likes : List Char → List Char → Bool
  | [], text => text.isEmpty
  | '%' :: pattern, text => text.tails.any (likes pattern)
  | '_' :: pattern, text =>
    match text with
    | [] => false
    | _ :: rest => likes pattern rest
  | c :: pattern, text =>
    match text with
    | [] => false
    | d :: rest => c == d && likes pattern rest

theorem likes_percent {pattern text : List Char} :
    likes ('%' :: pattern) text = true ↔
      ∃ skipped rest, text = skipped ++ rest ∧ likes pattern rest = true := by
  rw [likes, List.any_eq_true]
  constructor
  · rintro ⟨rest, hm, h⟩
    obtain ⟨skipped, rfl⟩ := (List.mem_tails _ _).mp hm
    exact ⟨skipped, rest, rfl, h⟩
  · rintro ⟨skipped, rest, rfl, h⟩
    exact ⟨rest, (List.mem_tails _ _).mpr (List.suffix_append skipped rest), h⟩

/-- Any character but a per-cent sign takes one character of the text. -/
theorem likes_cons {c : Char} (hc : c ≠ '%') {pattern text : List Char} :
    likes (c :: pattern) text = true ↔
      ∃ d rest, text = d :: rest ∧ (c = '_' ∨ c = d) ∧ likes pattern rest = true := by
  by_cases hu : c = '_'
  · subst hu
    cases text <;> simp [likes]
  · cases text <;> simp [likes, hu]

/-- A pattern of two parts splits the text. -/
theorem likes_append {p q text : List Char} : likes (p ++ q) text = true ↔
    ∃ a b, text = a ++ b ∧ likes p a = true ∧ likes q b = true := by
  induction p generalizing text with
  | nil => simp [likes]
  | cons c p ih =>
    rw [List.cons_append]
    by_cases hc : c = '%'
    · subst hc
      simp only [likes_percent, ih]
      constructor
      · rintro ⟨skipped, rest, rfl, a, b, rfl, hp, hq⟩
        exact ⟨skipped ++ a, b, by rw [List.append_assoc], ⟨skipped, a, rfl, hp⟩, hq⟩
      · rintro ⟨_, b, rfl, ⟨skipped, a, rfl, hp⟩, hq⟩
        exact ⟨skipped, a ++ b, by rw [List.append_assoc], a, b, rfl, hp, hq⟩
    · simp only [likes_cons hc, ih]
      constructor
      · rintro ⟨d, rest, rfl, hd, a, b, rfl, hp, hq⟩
        exact ⟨d :: a, b, rfl, ⟨d, a, rfl, hd, hp⟩, hq⟩
      · rintro ⟨_, b, rfl, ⟨d, a, rfl, hd, hp⟩, hq⟩
        exact ⟨d, a ++ b, rfl, hd, a, b, rfl, hp, hq⟩

/-- A text matches itself, also with wildcards in it. -/
theorem likes_self (text : List Char) : likes text text = true := by
  induction text with
  | nil => rfl
  | cons c text ih =>
    by_cases hc : c = '%'
    · subst hc
      exact likes_percent.mpr ⟨['%'], text, rfl, ih⟩
    · exact (likes_cons hc).mpr ⟨c, text, rfl, .inr rfl, ih⟩

/-- The pattern is found somewhere in the text. -/
theorem likes_anywhere {pattern text : List Char} :
    likes ('%' :: pattern ++ ['%']) text = true ↔
      ∃ before found after, text = before ++ found ++ after ∧ likes pattern found = true := by
  rw [List.cons_append]
  simp only [likes_percent, likes_append]
  constructor
  · rintro ⟨before, _, rfl, found, after, rfl, h, -⟩
    exact ⟨before, found, after, by simp, h⟩
  · rintro ⟨before, found, after, rfl, h⟩
    exact ⟨before, found ++ after, by simp, found, after, rfl, h, after, [], by simp, rfl⟩

end PanelQuery.Sql
