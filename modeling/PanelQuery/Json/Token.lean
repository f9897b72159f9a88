import PanelQuery.Decimal.Numeral

/-!
Tokens of JSON text. Texts and numbers are decided here: an integer without point and exponent
stays an integer when it fits 64 bits, minus zero and everything else is a double. A number too
large for a double and a text with a lone surrogate are well-formed tokens without a value, since a
reader that skips them need not refuse them.
-/

namespace PanelQuery.Json

inductive Token where
  | openObject | closeObject | openArray | closeArray | colon | comma
  | null
  | bool (b : Bool)
  | int (n : Int)
  | float (x : Float)
  /-- A quoted text, or none if a surrogate stands alone in it. -/
  | text (s : Option String)
  | tooLarge
  | bad

/-! ## Numbers -/

/-- `x · 10^e` in steps of at most 308 powers, each rounded once; `none` beyond the doubles. -/
def scale (x : Float) (e : Int) : Option Float :=
  let finite (y : Float) : Option Float := if y.isInf then none else some y
  let power (n : Nat) : Float := Float.ofScientific 1 false n
  if e < 0 then
    let n := e.natAbs
    if n ≤ 308 then finite (x / power n)
    else if n ≤ 616 then finite (x / power 308 / power (n - 308))
    else some 0
  else if x == 0 then some x
  else if 308 < e then none
  else finite (x * power e.natAbs)

/-- The leading digits that fit 64 bits, and the digits after them. -/
def takeWord (significand : Nat) : List Char → Nat × List Char
  | [] => (significand, [])
  | d :: ds =>
    let next := significand * 10 + Decimal.digitValue d
    if Decimal.uint64Max < next then (significand, d :: ds) else takeWord next ds

/-- The double of a number with point or exponent, or of an integer beyond 64 bits: the leading
digits as one word, scaled by the power of ten. -/
def floatOf (n : Decimal.Numeral) : Option Float :=
  let (head, left) := takeWord 0 n.whole
  let (significand, unused) := takeWord head n.fraction
  let exponent : Int := n.exponent + left.length - (n.fraction.length - unused.length : Nat)
  (scale (Decimal.floatOfInt significand) exponent).map (Decimal.negateIf n.negative)

/-- The token of a number; `plain` tells that it has neither point nor exponent. -/
def numberToken (n : Decimal.Numeral) (plain : Bool) : Token :=
  let magnitude : Int := Decimal.ofDigits n.whole
  if plain && n.negative && magnitude != 0 && -magnitude ≥ Decimal.int64Min then .int (-magnitude)
  else if plain && !n.negative && magnitude ≤ Decimal.uint64Max then .int magnitude
  else match floatOf n with
    | some x => .float x
    | none => .tooLarge

/-- One or more digits and what follows them. -/
def takeDigits (cs : List Char) : Option (List Char × List Char) :=
  if (cs.takeWhile Char.isDigit).isEmpty then none
  else some (cs.takeWhile Char.isDigit, cs.dropWhile Char.isDigit)

/-- Digits of the integer part: a zero stands alone. -/
def takeWhole (cs : List Char) : Option (List Char × List Char) :=
  match takeDigits cs with
  | some (['0'], rest) => some (['0'], rest)
  | some ('0' :: _, _) => none
  | other => other

/-- The point and the digits after it, if a point stands here. -/
def takeFraction : List Char → Option (List Char × List Char)
  | '.' :: rest => takeDigits rest
  | rest => some ([], rest)

/-- The exponent, if one stands here. -/
def takeExponent : List Char → Option (Option Int × List Char)
  | [] => some (none, [])
  | c :: rest =>
    if c = 'e' ∨ c = 'E' then
      let (negative, unsigned) := Decimal.takeSign rest
      (takeDigits unsigned).map fun (ds, after) =>
        let n : Int := Decimal.ofDigits ds
        (some (if negative then -n else n), after)
    else some (none, c :: rest)

/-- The number at the start of `cs`, and the text after it. -/
def takeNumber (cs : List Char) : Option (Token × List Char) := do
  let (negative, unsigned) := match cs with
    | '-' :: rest => (true, rest)
    | rest => (false, rest)
  let (whole, afterWhole) ← takeWhole unsigned
  let (fraction, afterFraction) ← takeFraction afterWhole
  let (exponent, rest) ← takeExponent afterFraction
  let plain := fraction.isEmpty && exponent.isNone
  pure (numberToken ⟨negative, whole, fraction, exponent.getD 0⟩ plain, rest)

/-! ## Texts -/

def hexValue? (c : Char) : Option Nat :=
  if c.isDigit then some (c.toNat - 48)
  else if 'a' ≤ c ∧ c ≤ 'f' then some (c.toNat - 87)
  else if 'A' ≤ c ∧ c ≤ 'F' then some (c.toNat - 55)
  else none

/-- A UTF-16 unit written as four hexadecimal digits. -/
def unit? (a b c d : Char) : Option Nat := do
  return ((← hexValue? a) * 16 + (← hexValue? b)) * 256 + (← hexValue? c) * 16 + (← hexValue? d)

def isHighSurrogate (u : Nat) : Bool := 0xD800 ≤ u && u < 0xDC00
def isLowSurrogate (u : Nat) : Bool := 0xDC00 ≤ u && u < 0xE000

/-- The character of a one-letter escape. -/
def simpleEscape? (c : Char) : Option Char :=
  match c with
  | '"' => some '"'
  | '\\' => some '\\'
  | '/' => some '/'
  | 'b' => some '\x08'
  | 'f' => some '\x0c'
  | 'n' => some '\n'
  | 'r' => some '\r'
  | 't' => some '\t'
  | _ => none

/-- An element of a quoted text: a character, or a UTF-16 unit written in hexadecimal. -/
inductive Unit16 where
  | char (c : Char)
  | unit (u : Nat)

/-- The elements up to the closing quote, and the text after it. -/
def takeUnits : List Char → Option (List Unit16 × List Char)
  | [] => none
  | '"' :: rest => some ([], rest)
  | '\\' :: 'u' :: a :: b :: c :: d :: rest =>
    match unit? a b c d, takeUnits rest with
    | some u, some (units, after) => some (.unit u :: units, after)
    | _, _ => none
  | '\\' :: c :: rest =>
    match simpleEscape? c, takeUnits rest with
    | some e, some (units, after) => some (.char e :: units, after)
    | _, _ => none
  | c :: rest =>
    if c.toNat < 32 ∨ c = '\\' then none
    else (takeUnits rest).map fun (units, after) => (.char c :: units, after)

/-- The characters of a text; `none` if a surrogate stands alone. -/
def charsOfUnits : List Unit16 → Option (List Char)
  | [] => some []
  | .char c :: rest => (charsOfUnits rest).map (c :: ·)
  | .unit high :: .unit low :: rest =>
    if isHighSurrogate high && isLowSurrogate low then
      let code := 0x10000 + (high - 0xD800) * 0x400 + (low - 0xDC00)
      (charsOfUnits rest).map (Char.ofNat code :: ·)
    else if isHighSurrogate high || isLowSurrogate high then none
    else (charsOfUnits (.unit low :: rest)).map (Char.ofNat high :: ·)
  | .unit u :: rest =>
    if isHighSurrogate u || isLowSurrogate u then none
    else (charsOfUnits rest).map (Char.ofNat u :: ·)

/-- The quoted text whose opening quote has been read. -/
def takeText (cs : List Char) : Option (Token × List Char) :=
  (takeUnits cs).map fun (units, rest) =>
    (.text ((charsOfUnits units).map String.ofList), rest)

/-! ## Tokens -/

def isSpace (c : Char) : Bool := c == ' ' || c == '\t' || c == '\n' || c == '\r'

/-- The token that starts with `c`, and the text after it. -/
def takeToken (c : Char) (rest : List Char) : Option (Token × List Char) :=
  match c, rest with
  | '\x7b', _ => some (.openObject, rest)
  | '\x7d', _ => some (.closeObject, rest)
  | '[', _ => some (.openArray, rest)
  | ']', _ => some (.closeArray, rest)
  | ':', _ => some (.colon, rest)
  | ',', _ => some (.comma, rest)
  | '"', _ => takeText rest
  | 'n', 'u' :: 'l' :: 'l' :: after => some (.null, after)
  | 't', 'r' :: 'u' :: 'e' :: after => some (.bool true, after)
  | 'f', 'a' :: 'l' :: 's' :: 'e' :: after => some (.bool false, after)
  | _, _ => takeNumber (c :: rest)

theorem takeDigits_length {cs ds rest : List Char} (h : takeDigits cs = some (ds, rest)) :
    rest.length + ds.length = cs.length ∧ ds ≠ [] := by
  unfold takeDigits at h
  split at h
  · cases h
  · rename_i hne
    cases h
    refine ⟨?_, by simpa using hne⟩
    have := congrArg List.length (List.takeWhile_append_dropWhile (p := Char.isDigit) (l := cs))
    simp only [List.length_append] at this
    omega

theorem takeWhole_length {cs ds rest : List Char} (h : takeWhole cs = some (ds, rest)) :
    rest.length < cs.length := by
  have key : takeDigits cs = some (ds, rest) := by
    unfold takeWhole at h
    split at h <;> simp_all
  obtain ⟨hl, hne⟩ := takeDigits_length key
  have := List.length_pos_iff.mpr hne
  omega

theorem takeFraction_length {cs ds rest : List Char} (h : takeFraction cs = some (ds, rest)) :
    rest.length ≤ cs.length := by
  unfold takeFraction at h
  split at h
  · have := (takeDigits_length h).1
    simp only [List.length_cons]
    omega
  · cases h
    exact Nat.le_refl _

theorem takeSign_length (cs : List Char) : (Decimal.takeSign cs).2.length ≤ cs.length := by
  unfold Decimal.takeSign
  split <;> simp

theorem takeExponent_length {cs rest : List Char} {e : Option Int}
    (h : takeExponent cs = some (e, rest)) : rest.length ≤ cs.length := by
  unfold takeExponent at h
  split at h
  · cases h
    exact Nat.le_refl _
  · rename_i c tail
    split at h
    · simp only [Option.map_eq_some_iff, Prod.exists, Prod.mk.injEq] at h
      obtain ⟨ds, after, hd, _, rfl⟩ := h
      have := (takeDigits_length hd).1
      have := takeSign_length tail
      simp only [List.length_cons]
      omega
    · cases h
      exact Nat.le_refl _

theorem takeNumber_length {cs rest : List Char} {t : Token}
    (h : takeNumber cs = some (t, rest)) : rest.length < cs.length := by
  simp only [takeNumber, bind, Option.bind_eq_some_iff, Prod.exists, pure, Option.some.injEq,
    Prod.mk.injEq] at h
  obtain ⟨whole, afterWhole, hw, fraction, afterFraction, hf, e, after, he, _, rfl⟩ := h
  have h1 := takeWhole_length hw
  have h2 := takeFraction_length hf
  have h3 := takeExponent_length he
  have h4 : (match cs with
    | '-' :: rest => (true, rest)
    | rest => (false, rest)).2.length ≤ cs.length := by
    split <;> simp
  omega

theorem takeUnits_length {cs rest : List Char} {us : List Unit16}
    (h : takeUnits cs = some (us, rest)) : rest.length < cs.length := by
  fun_induction takeUnits cs generalizing us with
  | case1 => cases h
  | case2 => cases h; simp
  | case3 a b c d r u units after hr _ ih =>
    cases h
    have := ih hr
    simp only [List.length_cons]
    omega
  | case4 => cases h
  | case5 c r _ e units after hr _ ih =>
    cases h
    have := ih hr
    simp only [List.length_cons]
    omega
  | case6 => cases h
  | case7 => cases h
  | case8 c r =>
    rename_i ih
    simp only [Option.map_eq_some_iff, Prod.exists, Prod.mk.injEq] at h
    obtain ⟨units, after, hr, _, rfl⟩ := h
    have := ih hr
    simp only [List.length_cons]
    omega

theorem takeText_length {cs rest : List Char} {t : Token}
    (h : takeText cs = some (t, rest)) : rest.length < cs.length := by
  simp only [takeText, Option.map_eq_some_iff, Prod.exists] at h
  obtain ⟨us, after, hu, hm⟩ := h
  cases hm
  exact takeUnits_length hu

/-- Every token takes at least its first character. -/
theorem takeToken_length {c : Char} {cs rest : List Char} {t : Token}
    (h : takeToken c cs = some (t, rest)) : rest.length ≤ cs.length := by
  unfold takeToken at h
  split at h <;> try (cases h; simp; try omega)
  · exact Nat.le_of_lt (takeText_length h)
  · have := takeNumber_length h
    simp only [List.length_cons] at this
    omega

/-- The tokens of a text. The first character that starts no token ends the list with `bad`. -/
def tokens : List Char → List Token
  | [] => []
  | c :: rest =>
    if isSpace c then tokens rest
    else match _h : takeToken c rest with
      | none => [.bad]
      | some (t, after) => t :: tokens after
termination_by cs => cs.length
decreasing_by
  · simp
  · have := takeToken_length _h
    simp only [List.length_cons]
    omega

end PanelQuery.Json
