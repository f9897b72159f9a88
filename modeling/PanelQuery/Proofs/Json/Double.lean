import PanelQuery.Decimal.Shortest
import PanelQuery.Proofs.Json.Token

/-! # Written doubles as tokens

The text of a double is one number with a point or an exponent, whatever its digits are, so it is
never taken for an integer. Whether the number has the value of the double again is a question of
rounding; `ReadsBack` says that it has. -/

namespace PanelQuery.Json

open Decimal

/-! ## Numbers with point or exponent -/

/-- A number with a point, an exponent or both. -/
structure Lexeme where
  negative : Bool
  whole : List Char
  fraction : List Char
  exponent : Option Int
  isWhole : IsWhole whole
  isDigit : ∀ c ∈ fraction, c.isDigit = true
  marked : (fraction.isEmpty && exponent.isNone) = false

namespace Lexeme

def fractionChars (l : Lexeme) : List Char :=
  if l.fraction.isEmpty then [] else '.' :: l.fraction

def exponentChars (l : Lexeme) : List Char :=
  match l.exponent with
  | none => []
  | some e => 'e' :: (if 0 ≤ e then '+' else '-') :: digits e.natAbs

def chars (l : Lexeme) : List Char :=
  minus l.negative ++ (l.whole ++ (l.fractionChars ++ l.exponentChars))

def numeral (l : Lexeme) : Numeral := ⟨l.negative, l.whole, l.fraction, l.exponent.getD 0⟩

theorem exponentChars_head (l : Lexeme) {rest : List Char} (hr : EndsNumber rest) :
    (l.exponentChars ++ rest).head? ≠ some '.' ∧ EndsDigits (l.exponentChars ++ rest) := by
  unfold exponentChars
  split
  · refine ⟨fun he => ?_, hr.endsDigits⟩
    obtain ⟨after, rfl⟩ := List.head?_eq_some_iff.mp he
    exact (hr '.' after rfl).2.1 rfl
  · exact ⟨by simp, endsDigits_cons rfl _⟩

theorem fractionChars_head (l : Lexeme) {rest : List Char} (hr : EndsNumber rest) :
    EndsDigits (l.fractionChars ++ (l.exponentChars ++ rest)) := by
  unfold fractionChars
  split
  · exact (l.exponentChars_head hr).2
  · exact endsDigits_cons rfl _

theorem takeFraction (l : Lexeme) {rest : List Char} (hr : EndsNumber rest) :
    takeFraction (l.fractionChars ++ (l.exponentChars ++ rest)) =
      some (l.fraction, l.exponentChars ++ rest) := by
  obtain ⟨hpoint, hdigits⟩ := l.exponentChars_head hr
  unfold fractionChars
  split
  · next hempty =>
    rw [List.isEmpty_iff.mp hempty]
    exact takeFraction_none hpoint
  · next hsome => exact takeDigits_append l.isDigit (by simpa using hsome) hdigits

theorem takeSign_exponent (e : Int) (rest : List Char) :
    takeSign ((if 0 ≤ e then '+' else '-') :: rest) = (decide (e < 0), rest) := by
  by_cases he : 0 ≤ e
  · rw [if_pos he, decide_eq_false (by omega), takeSign]
  · rw [if_neg he, decide_eq_true (by omega), takeSign]

theorem signed_natAbs (e : Int) : (if decide (e < 0) then -(e.natAbs : Int) else e.natAbs) = e := by
  by_cases he : e < 0
  · rw [if_pos (decide_eq_true he)]
    omega
  · rw [if_neg (by simpa using he)]
    omega

theorem takeExponent (l : Lexeme) {rest : List Char} (hr : EndsNumber rest) :
    takeExponent (l.exponentChars ++ rest) = some (l.exponent, rest) := by
  unfold exponentChars
  split
  · next he => rw [he, List.nil_append, hr.takeExponent]
  · next e he =>
    have hdigits := takeDigits_append (isDigit_digits e.natAbs) Nat.toDigits_ne_nil hr.endsDigits
    have hsign := takeSign_exponent e (digits e.natAbs ++ rest)
    simp only [List.cons_append, Json.takeExponent, true_or, if_true, hsign, hdigits,
      Option.map_some, ofDigits_digits, he]
    rw [signed_natAbs]

theorem takeNumber_chars (l : Lexeme) {rest : List Char} (hr : EndsNumber rest) :
    takeNumber (l.chars ++ rest) = some (numberToken l.numeral false, rest) := by
  have hnumber := takeNumber_parts l.negative
    (l.isWhole.takeWhole (l.fractionChars_head hr)) (l.takeFraction hr) (l.takeExponent hr)
  rw [l.marked] at hnumber
  simpa [chars, numeral] using hnumber

/-- The text is read as one number, and not as an integer. -/
theorem tokens_chars (l : Lexeme) {rest : List Char} (hr : EndsNumber rest) :
    tokens (l.chars ++ rest) = numberToken l.numeral false :: tokens rest := by
  have hnumber := l.takeNumber_chars hr
  simp only [chars, List.append_assoc] at hnumber ⊢
  exact tokens_number l.isWhole hnumber

theorem takeSign_minus (negative : Bool) {whole : List Char} (h : IsWhole whole)
    (rest : List Char) :
    takeSign (minus negative ++ (whole ++ rest)) = (negative, whole ++ rest) := by
  obtain ⟨d, ds, rfl⟩ := List.exists_cons_of_ne_nil h.nonempty
  cases negative with
  | true => rfl
  | false => exact takeSign_of_isDigit (h.isDigit d (List.mem_cons_self ..)) _

theorem exponentOf?_exponentChars (l : Lexeme) :
    exponentOf? l.exponentChars = some (l.exponent.getD 0) := by
  unfold exponentChars
  split
  · next he => rw [he]; rfl
  · next e he =>
    have hall : (digits e.natAbs).all Char.isDigit = true :=
      List.all_eq_true.mpr (isDigit_digits e.natAbs)
    have hnatural : naturalOf? (digits e.natAbs) = some e.natAbs := by
      simp [naturalOf?, isEmpty_digits, hall, ofDigits_digits]
    have hvalue := signed_natAbs e
    simp only [exponentOf?, true_or, if_true, integerOf?, takeSign_exponent, hnatural, he,
      Option.getD_some]
    simpa using hvalue

theorem numeralOf?_chars (l : Lexeme) : numeralOf? l.chars = some l.numeral := by
  have hends : EndsNumber [] := nofun
  have hhead := l.fractionChars_head hends
  rw [List.append_nil] at hhead
  obtain ⟨hwhole, hafter⟩ := span_isDigit l.isWhole.isDigit _ hhead
  have hsome : l.whole.isEmpty = false := by simpa using l.isWhole.nonempty
  have hsign := takeSign_minus l.negative l.isWhole (l.fractionChars ++ l.exponentChars)
  have hexponent := l.exponentOf?_exponentChars
  have hpoint := l.exponentChars_head hends
  rw [List.append_nil] at hpoint
  simp only [numeralOf?, chars, hsign, hwhole, hafter, hsome, Bool.false_and, Bool.false_eq_true,
    if_false]
  by_cases hempty : l.fraction.isEmpty = true
  · simp only [fractionChars, hempty, if_true, List.nil_append]
    split
    · next after he => exact absurd (congrArg List.head? he) hpoint.1
    · rw [hexponent, numeral, List.isEmpty_iff.mp hempty, Option.map_some]
  · obtain ⟨htake, hdrop⟩ := span_isDigit l.isDigit _ hpoint.2
    simp only [fractionChars, hempty, Bool.false_eq_true, if_false, List.cons_append, htake, hdrop,
      hexponent, Option.map_some]
    rfl

theorem exists_point (negative : Bool) {whole fraction : List Char} (hwhole : IsWhole whole)
    (hdigit : ∀ c ∈ fraction, c.isDigit = true) (hne : fraction ≠ []) :
    ∃ l : Lexeme, minus negative ++ (whole ++ '.' :: fraction) = l.chars := by
  have hsome : fraction.isEmpty = false := by simpa using hne
  refine ⟨⟨negative, whole, fraction, none, hwhole, hdigit, by rw [hsome]; rfl⟩, ?_⟩
  simp [chars, fractionChars, exponentChars, hne]

theorem exists_exponent (negative : Bool) {first : Char} {more : List Char} (hfirst : first.isDigit)
    (hmore : ∀ c ∈ more, c.isDigit = true) (e : Int) :
    ∃ l : Lexeme, minus negative ++ (first :: ((if more.isEmpty then [] else '.' :: more) ++
      'e' :: (if 0 ≤ e then '+' else '-') :: digits e.natAbs)) = l.chars :=
  have hwhole : IsWhole [first] :=
    ⟨by simpa using hfirst, List.cons_ne_nil _ _, fun _ he => (List.cons.inj he).2.symm⟩
  ⟨⟨negative, [first], more, some e, hwhole, hmore, Bool.and_false _⟩, rfl⟩

end Lexeme

/-! ## Shortest decimals -/

/-- Zero lies outside the reals that round to a positive number. -/
theorem onGrid_pos {tie : Tie} {m : Nat} {q k : Int} {d : Scaled} (hm : 0 < m)
    (h : onGrid tie m q k = some d) : 0 < d.coefficient := by
  have hlow : 0 < (quarterBounds m q).1 := by
    unfold quarterBounds
    dsimp only
    split <;> omega
  have hright : 0 < twoTo (q - 2).toNat * tenTo (-k).toNat :=
    Nat.mul_pos (Nat.pow_pos (by decide)) (Nat.pow_pos (by decide))
  have hbound := Nat.mul_pos hlow hright
  unfold onGrid at h
  dsimp only at h
  split at h
  · next hinside =>
    split at h
    · cases h
      exact Nat.succ_pos _
    · cases h
      refine Nat.pos_of_ne_zero fun hzero => ?_
      dsimp only at hzero
      rw [hzero, Nat.zero_mul] at hinside
      simp only [Bool.and_eq_true, Bool.or_eq_true, decide_eq_true_eq, beq_iff_eq] at hinside
      omega
  split at h
  · cases h
    exact Nat.succ_pos _
  · cases h

/-- Among the shortest decimals only the plain zero has no digit but zero. -/
theorem shortest_exponent {tie : Tie} {m : Nat} {q : Int} (hm : 0 < m)
    (h : (shortest tie m q).coefficient = 0) : (shortest tie m q).exponent = 0 := by
  unfold shortest at h ⊢
  dsimp only at h ⊢
  generalize hfind : List.findSome? _ _ = found at h ⊢
  cases found with
  | none => rfl
  | some d =>
    obtain ⟨n, -, hn⟩ := List.exists_of_findSome?_eq_some hfind
    exact absurd h (Nat.ne_of_gt (onGrid_pos hm hn))

/-! ## Texts of doubles -/

theorem toList_signed (negative : Bool) (text : String) :
    (signed negative text).toList = minus negative ++ text.toList := by
  cases negative with
  | true => simp [signed, minus, String.toList_append]
  | false => rfl

theorem isDigit_zeros (k : Nat) : ∀ c ∈ List.replicate k '0', c.isDigit = true := by
  intro c hc
  rw [List.eq_of_mem_replicate hc]
  rfl

theorem isWhole_zeros {n k : Nat} (h : n = 0 → k = 0) :
    IsWhole (digits n ++ List.replicate k '0') where
  isDigit c hc := (List.mem_append.mp hc).elim (isDigit_digits n c) (isDigit_zeros k c)
  nonempty he := Nat.toDigits_ne_nil (List.append_eq_nil_iff.mp he).1
  zero more he := by
    obtain ⟨d, ds, hd, -⟩ := exists_digits n
    rw [hd, List.cons_append] at he
    obtain ⟨rfl, hmore⟩ := List.cons.inj he
    obtain rfl := digits_leading_zero hd
    have hn : n = 0 := by
      have hback := ofDigits_digits n
      rw [hd] at hback
      exact hback.symm
    rw [← hmore, h hn]
    rfl

theorem isDigit_padLeft (width n : Nat) : ∀ c ∈ padLeft width (digits n), c.isDigit = true :=
  fun c hc => (List.mem_append.mp hc).elim (isDigit_zeros _ c) (isDigit_digits n c)

/-- The digits in front of the last `places`, of which there is at least one. -/
theorem isWhole_padLeft (n : Nat) {places : Nat} (h : 0 < places) :
    IsWhole ((padLeft (places + 1) (digits n)).take
      ((padLeft (places + 1) (digits n)).length - places)) where
  isDigit c hc := isDigit_padLeft _ n c (List.mem_of_mem_take hc)
  nonempty he := by
    have hlength := congrArg List.length he
    simp only [List.length_take, List.length_nil, padLeft, List.length_append,
      List.length_replicate] at hlength
    omega
  zero more he := by
    by_cases hlong : places + 1 ≤ (digits n).length
    · have hpad : padLeft (places + 1) (digits n) = digits n := by
        rw [padLeft, Nat.sub_eq_zero_of_le hlong]
        rfl
      rw [hpad] at he
      have hdigits := List.take_append_drop ((digits n).length - places) (digits n)
      rw [he, List.cons_append] at hdigits
      have hnil := digits_leading_zero hdigits.symm
      exact (List.append_eq_nil_iff.mp hnil).1
    · have hlength := congrArg List.length he
      rw [List.length_take, length_padLeft (by omega), List.length_cons] at hlength
      exact List.length_eq_zero_iff.mp (by omega)

/-- The places after the point are left over by the digits in front of it. -/
theorem drop_padLeft_ne_nil (n : Nat) {places : Nat} (h : 0 < places) :
    (padLeft (places + 1) (digits n)).drop
      ((padLeft (places + 1) (digits n)).length - places) ≠ [] := by
  intro he
  have hlength := List.drop_eq_nil_iff.mp he
  rw [padLeft, List.length_append, List.length_replicate] at hlength
  omega

theorem toList_exponent (point : Int) :
    ((if 0 < point then "e+" else "e") ++ toString (point - 1)).toList =
      'e' :: (if 0 ≤ point - 1 then '+' else '-') :: digits (point - 1).natAbs := by
  rw [String.toList_append, toList_toString]
  by_cases hpoint : 0 < point
  · rw [if_pos hpoint, if_pos (by omega), if_pos (by omega)]
    rfl
  · rw [if_neg hpoint, if_neg (by omega), if_neg (by omega)]
    rfl

/-- A decimal in any of its layouts is a number with a point or an exponent. -/
theorem exists_exponential (negative : Bool) {d : Scaled}
    (h : d.coefficient = 0 → d.exponent = 0) :
    ∃ l : Lexeme, (signed negative d.exponential).toList = l.chars := by
  rw [toList_signed]
  unfold Scaled.exponential
  dsimp only
  split
  · next hpoint =>
    have hzeros : d.coefficient = 0 → d.exponent.toNat = 0 := fun hd => by rw [h hd]; rfl
    obtain ⟨l, hl⟩ := Lexeme.exists_point negative (isWhole_zeros hzeros) (isDigit_zeros 1)
      (List.cons_ne_nil _ _)
    refine ⟨l, hl ▸ ?_⟩
    simp [Scaled.positional, hpoint.1]
  split
  · next hexponent hpoint =>
    have hnegative : ¬ 0 ≤ d.exponent := fun he => hexponent ⟨he, hpoint.2⟩
    have hplaces : 0 < (-d.exponent).toNat := by omega
    obtain ⟨l, hl⟩ := Lexeme.exists_point negative (isWhole_padLeft d.coefficient hplaces)
      (fun c hc => isDigit_padLeft _ _ c (List.mem_of_mem_drop hc))
      (drop_padLeft_ne_nil d.coefficient hplaces)
    refine ⟨l, hl ▸ ?_⟩
    simp [Scaled.positional, hnegative]
  · next hfar hnear =>
    obtain ⟨first, more, hds, hfirst⟩ := exists_digits d.coefficient
    have hmore : ∀ c ∈ more, c.isDigit = true := fun c hc =>
      isDigit_digits d.coefficient c (hds ▸ List.mem_cons_of_mem _ hc)
    obtain ⟨l, hl⟩ := Lexeme.exists_exponent negative hfirst hmore
      ((digits d.coefficient).length + d.exponent - 1)
    refine ⟨l, hl ▸ ?_⟩
    have hexponent := toList_exponent ((digits d.coefficient).length + d.exponent)
    rw [String.append_assoc, String.toList_append, String.toList_ofList, hexponent]
    simp only [hds]
    cases more with
    | nil => rfl
    | cons c more => rfl

/-! ## Doubles -/

/-- The number in the text of a double has the value of the double. -/
def ReadsBack (x : Float) : Prop := (numeralOf? (jsonText x).toList).bind floatOf = some x

instance (x : Float) : Decidable (ReadsBack x) :=
  inferInstanceAs (Decidable ((numeralOf? (jsonText x).toList).bind floatOf = some x))

/-- A reader that rounds twice may miss the last bit. -/
example : ReadsBack 31.5 ∧ ¬ ReadsBack 31.245270191439438 := by decide +kernel

/-- Only a finite double is written as a number. -/
theorem ReadsBack.exists_lexeme {x : Float} (h : ReadsBack x) :
    ∃ l : Lexeme, (jsonText x).toList = l.chars ∧ floatOf l.numeral = some x := by
  have hlexeme : ∃ l : Lexeme, (jsonText x).toList = l.chars := by
    have hnull : (numeralOf? "null".toList).bind floatOf ≠ some x := by
      rw [show numeralOf? "null".toList = none by decide]
      exact nofun
    unfold ReadsBack at h
    unfold jsonText at h ⊢
    cases hx : Double.ofFloat x with
    | infinite negative =>
      rw [hx] at h
      exact absurd h hnull
    | notANumber =>
      rw [hx] at h
      exact absurd h hnull
    | finite negative m q =>
      by_cases hm : m = 0
      · rw [Double.jsonText, if_pos hm, toList_signed]
        exact Lexeme.exists_point negative (isWhole_digits 0) (isDigit_zeros 1)
          (List.cons_ne_nil _ _)
      · rw [Double.jsonText, if_neg hm]
        exact exists_exponential negative (shortest_exponent (Nat.pos_of_ne_zero hm))
  obtain ⟨l, hl⟩ := hlexeme
  refine ⟨l, hl, ?_⟩
  rwa [ReadsBack, hl, l.numeralOf?_chars, Option.bind_some] at h

/-- **Doubles stay doubles.** The text of a double that its number reads back to is that one
token. -/
theorem tokens_float {x : Float} (h : ReadsBack x) {rest : List Char} (hr : EndsNumber rest) :
    tokens ((jsonText x).toList ++ rest) = .float x :: tokens rest := by
  obtain ⟨l, hl, hvalue⟩ := h.exists_lexeme
  rw [hl, l.tokens_chars hr, numberToken, Bool.false_and, Bool.false_and, hvalue]
  simp

end PanelQuery.Json
