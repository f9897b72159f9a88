import Mathlib.Data.Rat.Defs
import PanelQuery.Proofs.Decimal.Digits
import PanelQuery.Proofs.Sql.Hole

/-! # Reading literals back

The literals of the store: the words NULL, true and false, numbers, texts between single quotes in
which a backslash escapes, and lists between brackets or parentheses. A reader takes one literal off
the front of a text, character by character. A word or a number goes on as long as letters, digits,
underscores and points do, so what follows one must not begin with such a character; a text or a
list ends with its own last character, whatever follows. -/

namespace PanelQuery.Sql

inductive Bracket where
  | square | round
  deriving DecidableEq, Repr

def Bracket.opening : Bracket → Char
  | .square => '['
  | .round => '('

def Bracket.closing : Bracket → Char
  | .square => ']'
  | .round => ')'

/-- A literal that has been read. Numbers with a point or an exponent are taken exactly. -/
inductive Literal where
  | null
  | bool (b : Bool)
  | int (n : Int)
  | decimal (q : ℚ)
  | text (s : String)
  | list (b : Bracket) (items : List Literal)

namespace Literal

/-! ## Words and numbers -/

/-- The character goes on with a word or a number. -/
def goesOn (c : Char) : Bool := Text.isWordChar c || c == '.'

/-- The exact number that a numeral writes. -/
def ofNumeral (n : Decimal.Numeral) : ℚ :=
  (if n.negative then -1 else 1) * Decimal.ofDigits (n.whole ++ n.fraction) *
    (10 : ℚ) ^ (n.exponent - n.fraction.length)

def ofWord? (cs : List Char) : Option Literal :=
  match Decimal.integerOf? cs with
  | some n => some (.int n)
  | none =>
    if cs = ['N', 'U', 'L', 'L'] then some .null
    else if cs = ['t', 'r', 'u', 'e'] then some (.bool true)
    else if cs = ['f', 'a', 'l', 's', 'e'] then some (.bool false)
    else (Decimal.numeralOf? cs).map fun n => .decimal (ofNumeral n)

/-! ## Reading -/

/-- What a backslash and the character after it stand for. -/
def unescape (c : Char) : List Char :=
  if c = 'b' then ['\x08']
  else if c = 'f' then ['\x0c']
  else if c = 'n' then ['\n']
  else if c = 'r' then ['\r']
  else if c = 't' then ['\t']
  else if c = '0' then ['\x00']
  else if c = 'a' then ['\x07']
  else if c = 'v' then ['\x0b']
  else if c = '\\' ∨ c = '\'' ∨ c = '"' ∨ c = '\x60' ∨ c = '/' ∨ c = '=' then [c]
  else ['\\', c]

/-- A list whose end has not been read, with its finished items, the last one first. -/
structure Open where
  bracket : Bracket
  items : List Literal := []

/-- The list when its end is read. -/
def Open.closed (o : Open) : Literal := .list o.bracket o.items.reverse

/-- Where a reader stands: in front of a literal, in a word or number, inside of quotes with the
text read so far, there right after a backslash, or behind a literal. -/
inductive Place where
  | start
  | word (cs : List Char)
  | text (content : List Char)
  | escaped (content : List Char)
  | ended (l : Literal)

structure Reader where
  place : Place
  outer : List Open := []

/-- The first character of a literal. -/
def begin (outer : List Open) (c : Char) : Option Reader :=
  if c = '\'' then some ⟨.text [], outer⟩
  else if c = '[' then some ⟨.start, ⟨.square, []⟩ :: outer⟩
  else if c = '(' then some ⟨.start, ⟨.round, []⟩ :: outer⟩
  else if goesOn c || c == '-' || c == '+' then some ⟨.word [c], outer⟩
  else match outer with
    -- only a list without items ends where a literal may begin
    | ⟨b, []⟩ :: outer => if c = b.closing then some ⟨.ended (.list b []), outer⟩ else none
    | _ => none

/-- A character behind an item of a list. -/
def follow (l : Literal) (outer : List Open) (c : Char) : Option Reader :=
  match outer with
  | [] => none
  | o :: outer =>
    let o := { o with items := l :: o.items }
    if c = ',' then some ⟨.start, o :: outer⟩
    else if c = o.bracket.closing then some ⟨.ended o.closed, outer⟩
    else none

namespace Reader

def step (r : Reader) (c : Char) : Option Reader :=
  match r.place with
  | .start => begin r.outer c
  | .word cs =>
    if goesOn c then some { r with place := .word (cs ++ [c]) }
    else (ofWord? cs).bind fun l => follow l r.outer c
  | .text content =>
    if c = '\\' then some { r with place := .escaped content }
    else if c = '\'' then some { r with place := .ended (.text (String.ofList content)) }
    else some { r with place := .text (content ++ [c]) }
  | .escaped content => some { r with place := .text (content ++ unescape c) }
  | .ended l => follow l r.outer c

/-- The literal that is complete in front of what follows. Inside of a list none is. -/
def complete? (r : Reader) (next : Option Char) : Option Literal :=
  match r.place, r.outer with
  | .word cs, [] => if next.any goesOn then none else ofWord? cs
  | .ended l, [] => some l
  | _, _ => none

/-- The literal and what follows it. -/
def take (r : Reader) : List Char → Option (Literal × List Char)
  | [] => (r.complete? none).map (·, [])
  | c :: cs =>
    match r.complete? (some c) with
    | some l => some (l, c :: cs)
    | none => match r.step c with
      | some r => r.take cs
      | none => none

end Reader

/-- The literal at the front of a text, and the rest. -/
def read (cs : List Char) : Option (Literal × List Char) := Reader.take ⟨.start, []⟩ cs

/-- The items of a list without the brackets around it. -/
def readItems (cs : List Char) : Option (List Literal) :=
  match read ('(' :: (cs ++ [')'])) with
  | some (.list .round items, []) => some items
  | _ => none

open Reader (take)

theorem take_of_step {place : Place} {outer : List Open} {c : Char} {r : Reader}
    (hcomplete : Reader.complete? ⟨place, outer⟩ (some c) = none)
    (hstep : Reader.step ⟨place, outer⟩ c = some r) (cs : List Char) :
    take ⟨place, outer⟩ (c :: cs) = r.take cs := by
  rw [take, hcomplete]
  dsimp only
  rw [hstep]

/-- What follows a literal is an end of the text. -/
theorem suffix_of_take {r : Reader} {cs rest : List Char} {l : Literal}
    (h : r.take cs = some (l, rest)) : rest <:+ cs := by
  induction cs generalizing r with
  | nil =>
    obtain ⟨_, -, he⟩ := Option.map_eq_some_iff.mp h
    cases he
    exact List.suffix_refl _
  | cons c cs ih =>
    rw [take] at h
    split at h
    · cases h
      exact List.suffix_refl _
    · split at h
      · exact (ih h).trans (List.suffix_cons c cs)
      · cases h

theorem take_ended (l : Literal) (rest : List Char) :
    take ⟨.ended l, []⟩ rest = some (l, rest) := by
  cases rest <;> rfl

end Literal

/-! ## Parts that are read as a literal -/

open Literal (goesOn Reader)
open Literal.Reader (take)

/-- The text of a part. -/
def chars (s : Sql) : List Char := s.text.toList

theorem chars_append (a b : Sql) : chars (a ++ b) = chars a ++ chars b := by
  rw [chars, text_append, String.toList_append, chars, chars]

theorem chars_raw {w : String} {cs : List Char} (h : w = String.ofList cs) :
    chars (raw w) = cs := by
  rw [chars, text_raw, h, String.toList_ofList]

/-- The text does not go on with a word or a number. -/
def EndsWord (rest : List Char) : Prop := rest.head?.any goesOn = false

theorem endsWord_cons {c : Char} (h : goesOn c = false) (rest : List Char) :
    EndsWord (c :: rest) := by
  rwa [EndsWord, List.head?_cons, Option.any_some]

/-- Wherever a literal may stand, the part is read as `l`, whatever follows. -/
def Delimited (s : Sql) (l : Literal) : Prop :=
  ∀ outer rest, take ⟨.start, outer⟩ (s.chars ++ rest) = take ⟨.ended l, outer⟩ rest

/-- Wherever a literal may stand, the part is read as `l` if nothing goes on with it. -/
def ReadsAs (s : Sql) (l : Literal) : Prop :=
  ∀ outer rest, EndsWord rest →
    take ⟨.start, outer⟩ (s.chars ++ rest) = take ⟨.ended l, outer⟩ rest

theorem Delimited.readsAs {s : Sql} {l : Literal} (h : Delimited s l) : ReadsAs s l :=
  fun outer rest _ => h outer rest

theorem ReadsAs.read {s : Sql} {l : Literal} (h : ReadsAs s l) {rest : List Char}
    (hr : EndsWord rest) : Literal.read (s.chars ++ rest) = some (l, rest) := by
  rw [Literal.read, h [] rest hr, Literal.take_ended]

theorem Delimited.read {s : Sql} {l : Literal} (h : Delimited s l) (rest : List Char) :
    Literal.read (s.chars ++ rest) = some (l, rest) := by
  rw [Literal.read, h [] rest, Literal.take_ended]

/-! ### Words -/

namespace Literal

theorem take_word {cs : List Char} (h : ∀ c ∈ cs, goesOn c = true) (done rest : List Char)
    (outer : List Open) :
    take ⟨.word done, outer⟩ (cs ++ rest) = take ⟨.word (done ++ cs), outer⟩ rest := by
  induction cs generalizing done with
  | nil => simp
  | cons c cs ih =>
    rw [List.forall_mem_cons] at h
    have hcomplete : Reader.complete? ⟨.word done, outer⟩ (some c) = none := by
      cases outer <;> simp [Reader.complete?, h.1]
    rw [List.cons_append, take_of_step hcomplete (r := ⟨.word (done ++ [c]), outer⟩)
      (by simp [Reader.step, h.1]), ih h.2, List.append_assoc]
    rfl

/-- A complete word is the literal that it writes. -/
theorem take_wordEnd {cs : List Char} {l : Literal} (h : ofWord? cs = some l)
    (outer : List Open) {rest : List Char} (hr : EndsWord rest) :
    take ⟨.word cs, outer⟩ rest = take ⟨.ended l, outer⟩ rest := by
  have hcomplete : ∀ next, next.any goesOn = false →
      Reader.complete? ⟨.word cs, outer⟩ next = Reader.complete? ⟨.ended l, outer⟩ next := by
    intro next hn
    cases outer <;> simp [Reader.complete?, hn, h]
  cases rest with
  | nil => rw [take, take, hcomplete none rfl]
  | cons c rest =>
    have hc : goesOn c = false := by simpa [EndsWord] using hr
    have hstep : Reader.step ⟨.word cs, outer⟩ c = Reader.step ⟨.ended l, outer⟩ c := by
      simp [Reader.step, hc, h]
    rw [take, take, hcomplete (some c) (by simpa using hc), hstep]

end Literal

/-- The part is a word or a number, perhaps with a minus sign, that writes `l`. -/
structure IsWord (s : Sql) (l : Literal) : Prop where
  chars : ∃ c cs, s.chars = c :: cs ∧ (goesOn c = true ∨ c = '-') ∧ ∀ d ∈ cs, goesOn d = true
  literal : Literal.ofWord? s.chars = some l

namespace IsWord

variable {s : Sql} {l : Literal}

/-- A reader in front of a word is inside of it after its last character. -/
theorem take_start (h : IsWord s l) (outer : List Literal.Open) (rest : List Char) :
    take ⟨.start, outer⟩ (s.chars ++ rest) = take ⟨.word s.chars, outer⟩ rest := by
  obtain ⟨c, cs, hs, hc, hcs⟩ := h.chars
  have hbegin : Literal.begin outer c = some ⟨.word [c], outer⟩ := by
    have hplain : c ≠ '\'' ∧ c ≠ '[' ∧ c ≠ '(' := by
      refine ⟨?_, ?_, ?_⟩ <;> rintro rfl <;> exact absurd hc (by decide)
    have hword : (goesOn c || c == '-' || c == '+') = true := by
      rcases hc with h | rfl
      · rw [h, Bool.true_or, Bool.true_or]
      · rfl
    unfold Literal.begin
    rw [if_neg hplain.1, if_neg hplain.2.1, if_neg hplain.2.2, if_pos hword]
  rw [hs, List.cons_append, Literal.take_of_step rfl (by exact hbegin), Literal.take_word hcs]
  rfl

theorem readsAs (h : IsWord s l) : ReadsAs s l := fun outer _ hr =>
  (h.take_start outer _).trans (Literal.take_wordEnd h.literal outer hr)

/-- If something goes on with a word, what is read is longer than the word. -/
theorem endsWord_of_read (h : IsWord s l) {l' : Literal} {rest : List Char}
    (hread : Literal.read (s.chars ++ rest) = some (l', rest)) : EndsWord rest := by
  cases rest with
  | nil => rfl
  | cons c rest =>
    rw [EndsWord, List.head?_cons, Option.any_some, ← Bool.not_eq_true]
    intro hc
    have hcomplete : Reader.complete? ⟨.word s.chars, []⟩ (some c) = none := by
      simp [Reader.complete?, hc]
    have hstep : Reader.step ⟨.word s.chars, []⟩ c = some ⟨.word (s.chars ++ [c]), []⟩ := by
      simp [Reader.step, hc]
    rw [Literal.read, h.take_start, Literal.take_of_step hcomplete hstep] at hread
    exact absurd (Literal.suffix_of_take hread).length_le (by simp)

end IsWord

/-- Wording that is a word. -/
theorem isWord_raw {w : String} {cs : List Char} {l : Literal} (hw : w = String.ofList cs)
    (hne : cs ≠ []) (hcs : cs.all goesOn = true) (hl : Literal.ofWord? cs = some l) :
    IsWord (raw w) l := by
  obtain ⟨c, cs, rfl⟩ := List.exists_cons_of_ne_nil hne
  have hall := List.forall_mem_cons.mp (List.all_eq_true.mp hcs)
  refine ⟨⟨c, cs, chars_raw hw, .inl hall.1, hall.2⟩, ?_⟩
  rw [chars_raw hw, hl]

theorem goesOn_of_isDigit {c : Char} (h : c.isDigit = true) : goesOn c = true := by
  simp [goesOn, Text.isWordChar, Char.isAlphanum, h]

theorem chars_int (n : Int) : chars [.int n] = (toString n).toList := by
  rw [chars, text_int_cons, text_nil, String.append_empty]

theorem ofWord?_toString (n : Int) : Literal.ofWord? (toString n).toList = some (.int n) := by
  rw [Literal.ofWord?, Decimal.integerOf?_toString]

theorem isWord_int (n : Int) : IsWord [.int n] (.int n) := by
  obtain ⟨d, ds, hd, hdigit⟩ := Decimal.exists_digits n.natAbs
  have hdigits : ∀ c ∈ Decimal.digits n.natAbs, goesOn c = true := fun c hc =>
    goesOn_of_isDigit (Decimal.isDigit_digits _ c hc)
  refine ⟨?_, by rw [chars_int, ofWord?_toString]⟩
  rw [chars_int, Decimal.toList_toString]
  split
  · rw [hd, List.forall_mem_cons] at hdigits
    exact ⟨d, ds, hd, .inl hdigits.1, hdigits.2⟩
  · exact ⟨'-', _, rfl, .inr rfl, hdigits⟩

/-! ### Texts -/

namespace Literal

theorem take_escapeChar (content : List Char) (c : Char) (outer : List Open)
    (rest : List Char) :
    take ⟨.text content, outer⟩ (escapeChar c ++ rest) =
      take ⟨.text (content ++ [c]), outer⟩ rest := by
  have hescaped : ∀ d, unescape d = [d] → take ⟨.text content, outer⟩ ('\\' :: d :: rest) =
      take ⟨.text (content ++ [d]), outer⟩ rest := by
    intro d hd
    rw [take_of_step rfl rfl, take_of_step rfl rfl, hd]
  unfold escapeChar
  split
  · next hb =>
    subst hb
    exact hescaped '\\' rfl
  · next hb =>
    split
    · next hq =>
      subst hq
      exact hescaped '\'' rfl
    · next hq =>
      exact take_of_step rfl (by simp [Reader.step, hb, hq]) rest

/-- Escaped text keeps the reader inside of the quotes, with exactly that text read. -/
theorem take_escapeChars (content s : List Char) (outer : List Open) (rest : List Char) :
    take ⟨.text content, outer⟩ (escapeChars s ++ rest) =
      take ⟨.text (content ++ s), outer⟩ rest := by
  induction s generalizing content with
  | nil => simp [escapeChars]
  | cons c s ih =>
    have hs : escapeChars (c :: s) = escapeChar c ++ escapeChars s := rfl
    rw [hs, List.append_assoc, take_escapeChar, ih, List.append_assoc]
    rfl

end Literal

theorem chars_literal (s : String) : chars (literal s) = quoteChars s := by
  rw [chars, text, literal, bind_cons, bind_nil, String.append_empty, String.toList_ofList]
  simp [Piece.chars, Stretch.chars, quoteChars]

theorem delimited_literal (s : String) : Delimited (literal s) (.text s) := by
  intro outer rest
  rw [chars_literal, quoteChars, List.cons_append, List.cons_append, List.append_assoc,
    Literal.take_of_step rfl rfl, Literal.take_escapeChars, List.nil_append,
    List.singleton_append, Literal.take_of_step rfl rfl, String.ofList_toList]

/-! ### Lists -/

/-- Inside of a list, items with commas between them up to the closing bracket. -/
theorem take_join (b : Bracket) {parts : List Sql} {ls : List Literal}
    (h : List.Forall₂ ReadsAs parts ls) (hne : parts ≠ []) (done : List Literal)
    (outer : List Literal.Open) (rest : List Char) :
    take ⟨.start, ⟨b, done⟩ :: outer⟩ ((join "," parts).chars ++ b.closing :: rest) =
      take ⟨.ended (.list b (done.reverse ++ ls)), outer⟩ rest := by
  induction h generalizing done with
  | nil => exact absurd rfl hne
  | @cons part l parts ls hpart hparts ih =>
    cases hparts with
    | nil =>
      have hclose : Reader.step ⟨.ended l, ⟨b, done⟩ :: outer⟩ b.closing =
          some ⟨.ended (.list b (done.reverse ++ [l])), outer⟩ := by
        cases b <;> simp [Reader.step, Literal.follow, Literal.Open.closed, Bracket.closing]
      rw [join, hpart _ _ (endsWord_cons (by cases b <;> rfl) rest),
        Literal.take_of_step rfl hclose]
    | @cons next l' parts ls hnext hparts =>
      have hsplit : (join "," (part :: next :: parts)).chars ++ b.closing :: rest =
          part.chars ++ ',' :: ((join "," (next :: parts)).chars ++ b.closing :: rest) := by
        rw [join, chars_append, chars_append, chars_raw (show "," = String.ofList [','] from rfl)]
        · simp
        · simp
      rw [hsplit, hpart _ _ (endsWord_cons rfl _), Literal.take_of_step rfl rfl,
        ih (by simp)]
      simp

/-- Literals between brackets are a list of them. -/
theorem delimited_list (b : Bracket) {parts : List Sql} {ls : List Literal}
    (h : List.Forall₂ ReadsAs parts ls) {opening closing : String}
    (ho : opening = String.ofList [b.opening]) (hc : closing = String.ofList [b.closing]) :
    Delimited (raw opening ++ join "," parts ++ raw closing) (.list b ls) := by
  intro outer rest
  have hopen : Reader.step ⟨.start, outer⟩ b.opening = some ⟨.start, ⟨b, []⟩ :: outer⟩ := by
    cases b <;> rfl
  rw [chars_append, chars_append, chars_raw ho, chars_raw hc, List.append_assoc,
    List.append_assoc, List.singleton_append, List.singleton_append,
    Literal.take_of_step rfl hopen]
  by_cases hne : parts = []
  · subst hne
    cases h
    have hclose : Reader.step ⟨.start, ⟨b, []⟩ :: outer⟩ b.closing =
        some ⟨.ended (.list b []), outer⟩ := by
      cases b <;> rfl
    exact Literal.take_of_step rfl hclose rest
  · rw [take_join b h hne]
    rfl

end PanelQuery.Sql
