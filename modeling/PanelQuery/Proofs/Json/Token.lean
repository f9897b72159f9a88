import PanelQuery.Json.Token
import PanelQuery.Json.Value
import PanelQuery.Proofs.Decimal.Digits

/-! # Written texts and numbers as tokens

A quoted text is read as the text it was written for, whatever characters it has, and an integer of
64 bits as itself, as long as what follows cannot belong to the number. -/

namespace PanelQuery.Json

open Decimal (digits isDigit_digits exists_digits ofDigits_digits toList_toString)

theorem tokens_cons {c : Char} {rest after : List Char} {t : Token} (hs : isSpace c = false)
    (h : takeToken c rest = some (t, after)) : tokens (c :: rest) = t :: tokens after := by
  rw [tokens, if_neg (by simp [hs])]
  split
  · next he => rw [h] at he; cases he
  · next he => rw [h] at he; cases he; rfl

@[simp] theorem tokens_openArray (cs : List Char) : tokens ('[' :: cs) = .openArray :: tokens cs :=
  tokens_cons rfl rfl

@[simp] theorem tokens_closeArray (cs : List Char) :
    tokens (']' :: cs) = .closeArray :: tokens cs := tokens_cons rfl rfl

@[simp] theorem tokens_openObject (cs : List Char) :
    tokens ('\x7b' :: cs) = .openObject :: tokens cs := tokens_cons rfl rfl

@[simp] theorem tokens_closeObject (cs : List Char) :
    tokens ('\x7d' :: cs) = .closeObject :: tokens cs := tokens_cons rfl rfl

@[simp] theorem tokens_colon (cs : List Char) : tokens (':' :: cs) = .colon :: tokens cs :=
  tokens_cons rfl rfl

@[simp] theorem tokens_comma (cs : List Char) : tokens (',' :: cs) = .comma :: tokens cs :=
  tokens_cons rfl rfl

/-! ## Texts -/

theorem unit?_hexDigit {n : Nat} (h : n < 32) :
    unit? '0' '0' (hexDigit (n / 16)) (hexDigit (n % 16)) = some n := by
  have hall : ∀ m < 32, unit? '0' '0' (hexDigit (m / 16)) (hexDigit (m % 16)) = some m := by
    decide +kernel
  exact hall n h

/-- A unit below the surrogates is a character of its own, whatever follows it. -/
theorem charsOfUnits_unit {u : Nat} (h : u < 0xD800) (rest : List Unit16) :
    charsOfUnits (.unit u :: rest) = (charsOfUnits rest).map (Char.ofNat u :: ·) := by
  have hhigh : isHighSurrogate u = false := by simp [isHighSurrogate]; omega
  have hlow : isLowSurrogate u = false := by simp [isLowSurrogate]; omega
  rcases rest with _ | ⟨_ | low, rest⟩ <;> simp [charsOfUnits, hhigh, hlow]

/-- A written character is read as one element, and that is the character. -/
theorem takeUnits_escapeChar (c : Char) {cs after : List Char} {units : List Unit16}
    (h : takeUnits cs = some (units, after)) :
    ∃ u, takeUnits (escapeChar c ++ cs) = some (u :: units, after) ∧
      ∀ rest, charsOfUnits (u :: rest) = (charsOfUnits rest).map (c :: ·) := by
  unfold escapeChar
  split
  · next hc => exact ⟨.char c, by simp [takeUnits, simpleEscape?, h, hc], fun _ => rfl⟩
  split
  · next hc => exact ⟨.char c, by simp [takeUnits, simpleEscape?, h, hc], fun _ => rfl⟩
  next hbackslash =>
  split
  · next hc => exact ⟨.char c, by simp [takeUnits, simpleEscape?, h, hc], fun _ => rfl⟩
  split
  · next hc => exact ⟨.char c, by simp [takeUnits, simpleEscape?, h, hc], fun _ => rfl⟩
  split
  · next hc => exact ⟨.char c, by simp [takeUnits, simpleEscape?, h, hc], fun _ => rfl⟩
  split
  · next hc => exact ⟨.char c, by simp [takeUnits, simpleEscape?, h, hc], fun _ => rfl⟩
  split
  · next hc => exact ⟨.char c, by simp [takeUnits, simpleEscape?, h, hc], fun _ => rfl⟩
  split
  · next hcontrol =>
    refine ⟨.unit c.toNat, ?_, fun rest => ?_⟩
    · simp [takeUnits, unit?_hexDigit hcontrol, h]
    · rw [charsOfUnits_unit (by omega), Char.ofNat_toNat]
  · next hplain => exact ⟨.char c, by simp [takeUnits, hbackslash, hplain, h], fun _ => rfl⟩

theorem takeUnits_escaped (s rest : List Char) :
    ∃ units, takeUnits (s.flatMap escapeChar ++ '"' :: rest) = some (units, rest) ∧
      charsOfUnits units = some s := by
  induction s with
  | nil => exact ⟨[], by simp [takeUnits], rfl⟩
  | cons c s ih =>
    obtain ⟨units, hunits, hchars⟩ := ih
    obtain ⟨u, htake, hread⟩ := takeUnits_escapeChar c hunits
    refine ⟨u :: units, ?_, ?_⟩
    · rw [List.flatMap_cons, List.append_assoc, htake]
    · rw [hread, hchars, Option.map_some]

/-- A written text is read as that text. -/
theorem tokens_quoted (s : String) (rest : List Char) :
    tokens (quoted s ++ rest) = .text (some s) :: tokens rest := by
  obtain ⟨units, hunits, hchars⟩ := takeUnits_escaped s.toList rest
  have htext : takeToken '"' (s.toList.flatMap escapeChar ++ '"' :: rest) =
      some (.text (some s), rest) := by
    simp only [takeToken, takeText, hunits, Option.map_some, hchars, String.ofList_toList]
  have hquoted : quoted s ++ rest = '"' :: (s.toList.flatMap escapeChar ++ '"' :: rest) := by
    simp [quoted]
  rw [hquoted, tokens_cons rfl htext]

/-! ## Digits -/

/-- Text that no digit goes on with. -/
def EndsDigits (rest : List Char) : Prop := rest.head?.all (!·.isDigit) = true

theorem endsDigits_cons {c : Char} (h : c.isDigit = false) (rest : List Char) :
    EndsDigits (c :: rest) := by
  simp [EndsDigits, h]

theorem takeDigits_append {ds rest : List Char} (hd : ∀ c ∈ ds, c.isDigit = true) (hne : ds ≠ [])
    (hr : EndsDigits rest) : takeDigits (ds ++ rest) = some (ds, rest) := by
  obtain ⟨htake, hdrop⟩ := Decimal.span_isDigit hd rest hr
  rw [takeDigits, htake, hdrop, if_neg (by simpa using hne)]

/-- Digits of an integer part: there are some, and a leading zero stands alone. -/
structure IsWhole (ds : List Char) : Prop where
  isDigit : ∀ c ∈ ds, c.isDigit = true
  nonempty : ds ≠ []
  zero : ∀ more, ds = '0' :: more → more = []

theorem IsWhole.takeWhole {ds rest : List Char} (h : IsWhole ds) (hr : EndsDigits rest) :
    takeWhole (ds ++ rest) = some (ds, rest) := by
  have htake := takeDigits_append h.isDigit h.nonempty hr
  have hzero := h.zero
  unfold Json.takeWhole
  rw [htake]
  split
  · next he =>
    cases he
    rfl
  · next hsingle he =>
    cases he
    exact absurd (hzero _ rfl) hsingle
  · rfl

/-- Only zero is written with a leading zero, and it has no other digit. -/
theorem digits_leading_zero {n : Nat} {ds : List Char} (h : digits n = '0' :: ds) : ds = [] := by
  induction n using Nat.strongRecOn generalizing ds with
  | ind n ih =>
    rw [digits, Nat.toDigits_eq_if (by decide)] at h
    split at h
    · exact (List.cons.inj h).2.symm
    · next hn =>
      cases hq : digits (n / 10) with
      | nil => exact absurd hq Nat.toDigits_ne_nil
      | cons d more =>
        rw [← digits, hq, List.cons_append] at h
        obtain ⟨rfl, -⟩ := List.cons.inj h
        have hmore := ih (n / 10) (by omega) hq
        have hzero : n / 10 = 0 := by
          have hback := ofDigits_digits (n / 10)
          rw [hq, hmore] at hback
          exact hback.symm
        omega

theorem isWhole_digits (n : Nat) : IsWhole (digits n) :=
  ⟨isDigit_digits n, Nat.toDigits_ne_nil, fun _ => digits_leading_zero⟩

/-! ## Numbers -/

/-- The text cannot go on with a number that ends in front of it. -/
def EndsNumber (rest : List Char) : Prop :=
  ∀ c after, rest = c :: after → c.isDigit = false ∧ c ≠ '.' ∧ c ≠ 'e' ∧ c ≠ 'E'

theorem EndsNumber.endsDigits {rest : List Char} (hr : EndsNumber rest) : EndsDigits rest := by
  cases rest with
  | nil => rfl
  | cons c after => exact endsDigits_cons (hr c after rfl).1 after

theorem takeFraction_none {rest : List Char} (hr : rest.head? ≠ some '.') :
    takeFraction rest = some ([], rest) := by
  cases rest with
  | nil => rfl
  | cons c after =>
    rw [takeFraction]
    simpa using hr

theorem EndsNumber.takeFraction {rest : List Char} (hr : EndsNumber rest) :
    takeFraction rest = some ([], rest) := by
  refine takeFraction_none fun he => ?_
  obtain ⟨after, rfl⟩ := List.head?_eq_some_iff.mp he
  exact (hr '.' after rfl).2.1 rfl

theorem EndsNumber.takeExponent {rest : List Char} (hr : EndsNumber rest) :
    takeExponent rest = some (none, rest) := by
  cases rest with
  | nil => rfl
  | cons c after =>
    obtain ⟨-, -, hlower, hupper⟩ := hr c after rfl
    rw [Json.takeExponent, if_neg (by simp [hlower, hupper])]

/-- The sign in front of a number. -/
def minus (negative : Bool) : List Char := if negative then ['-'] else []

/-- A number is taken apart by its parts one after the other. -/
theorem takeNumber_parts (negative : Bool) {unsigned afterWhole afterFraction rest whole
    fraction : List Char} {exponent : Option Int}
    (hwhole : takeWhole unsigned = some (whole, afterWhole))
    (hfraction : takeFraction afterWhole = some (fraction, afterFraction))
    (hexponent : takeExponent afterFraction = some (exponent, rest)) :
    takeNumber (minus negative ++ unsigned) =
      some (numberToken ⟨negative, whole, fraction, exponent.getD 0⟩
        (fraction.isEmpty && exponent.isNone), rest) := by
  cases negative with
  | true => simp [minus, takeNumber, hwhole, hfraction, hexponent]
  | false =>
    simp only [minus, Bool.false_eq_true, if_false, List.nil_append]
    unfold takeNumber
    split
    · next negative body hsign =>
      have hpair : (negative, body) = (false, unsigned) := by
        rw [← hsign]
        split
        · next after => cases hwhole
        · rfl
      cases hpair
      simp [hwhole, hfraction, hexponent]

/-- A digit or a minus sign starts a number. -/
theorem takeToken_number {c : Char} (h : c.isDigit = true ∨ c = '-') (rest : List Char) :
    takeToken c rest = takeNumber (c :: rest) := by
  unfold takeToken
  split <;> first | rfl | exact absurd h (by decide)

theorem isSpace_number {c : Char} (h : c.isDigit = true ∨ c = '-') : isSpace c = false := by
  rw [Bool.eq_false_iff]
  intro hs
  simp only [isSpace, Bool.or_eq_true, beq_iff_eq] at hs
  rcases hs with ((rfl | rfl) | rfl) | rfl <;> exact absurd h (by decide)

/-- A text whose number has been taken starts with the token of that number. -/
theorem tokens_number {negative : Bool} {whole cs rest : List Char} {t : Token}
    (hwhole : IsWhole whole)
    (h : takeNumber (minus negative ++ (whole ++ cs)) = some (t, rest)) :
    tokens (minus negative ++ (whole ++ cs)) = t :: tokens rest := by
  obtain ⟨d, ds, rfl⟩ := List.exists_cons_of_ne_nil hwhole.nonempty
  have hd := hwhole.isDigit d (List.mem_cons_self ..)
  cases negative with
  | true => exact tokens_cons (isSpace_number (.inr rfl)) ((takeToken_number (.inr rfl) _).trans h)
  | false => exact tokens_cons (isSpace_number (.inl hd)) ((takeToken_number (.inl hd) _).trans h)

/-- A written integer of 64 bits is read as itself. -/
theorem tokens_int {n : Int} (hmin : Decimal.int64Min ≤ n) (hmax : n ≤ Decimal.uint64Max)
    {rest : List Char} (hr : EndsNumber rest) :
    tokens ((toString n).toList ++ rest) = .int n :: tokens rest := by
  have hvalue := ofDigits_digits n.natAbs
  have hchars : (toString n).toList ++ rest =
      minus (decide (n < 0)) ++ (digits n.natAbs ++ rest) := by
    rw [toList_toString]
    split
    · next hn => simp [minus, Int.not_lt.mpr hn]
    · next hn => simp [minus, Int.not_le.mp hn]
  have htoken : numberToken ⟨decide (n < 0), digits n.natAbs, [], 0⟩ true = .int n := by
    by_cases hn : n < 0
    · have hself : (Decimal.ofDigits (digits n.natAbs) : Int) = -n := by omega
      simp [numberToken, hself, hn, Int.ne_of_lt hn, hmin]
    · have hself : (Decimal.ofDigits (digits n.natAbs) : Int) = n := by omega
      simp [numberToken, hself, hn, hmax]
  have hnumber := takeNumber_parts (decide (n < 0)) ((isWhole_digits n.natAbs).takeWhole
    hr.endsDigits) hr.takeFraction hr.takeExponent
  rw [hchars, tokens_number (isWhole_digits n.natAbs) hnumber]
  exact congrArg (· :: tokens rest) htoken

end PanelQuery.Json
