import PanelQuery.Pipeline.Selection
import PanelQuery.Proofs.Decimal.Digits

/-! # The words of a condition

A condition of the transform language is cut into tokens from left to right: words, signs, texts
between double quotes, in which a backslash escapes, and single marks. A word or a sign goes on as
long as its kind of character does, so what is written after a clause must not go on with it. -/

namespace PanelQuery.Pipeline.Grammar

/-- A token. Texts stand without their quotes and escapes. -/
inductive Token where
  | and | or | not | nil | isMatch
  | bool (b : Bool)
  | int (n : Int)
  | name (s : String)
  | sign (c : Comparison)
  | text (s : String)
  | opening | closing | leftBracket | rightBracket | comma
  /-- What is no token of the language. -/
  | broken
  deriving DecidableEq

/-- The characters that go on for a while. -/
inductive Kind where
  | word | sign
  deriving DecidableEq

def kind? (c : Char) : Option Kind :=
  if c.isAlphanum || c == '_' || c == '.' || c == '-' then some .word
  else if c == '=' || c == '!' || c == '<' || c == '>' then some .sign
  else none

/-- A word is an integer, one of the words of the language, or a name. -/
def wordToken (cs : List Char) : Token :=
  match Decimal.integerOf? cs with
  | some n => .int n
  | none =>
    if cs = "and".toList then .and
    else if cs = "or".toList then .or
    else if cs = "not".toList then .not
    else if cs = "nil".toList then .nil
    else if cs = "IsMatch".toList then .isMatch
    else if cs = "true".toList then .bool true
    else if cs = "false".toList then .bool false
    else if cs.head?.any Char.isAlpha then .name (String.ofList cs)
    else .broken

def signToken (cs : List Char) : Token :=
  if cs = "==".toList then .sign .eq
  else if cs = "!=".toList then .sign .ne
  else if cs = "<".toList then .sign .lt
  else if cs = "<=".toList then .sign .le
  else if cs = ">".toList then .sign .gt
  else if cs = ">=".toList then .sign .ge
  else .broken

def Kind.token : Kind → List Char → Token
  | .word => wordToken
  | .sign => signToken

def mark (c : Char) : Token :=
  if c = '(' then .opening
  else if c = ')' then .closing
  else if c = '[' then .leftBracket
  else if c = ']' then .rightBracket
  else if c = ',' then .comma
  else .broken

/-- What a character after a backslash stands for. -/
def unescape? (c : Char) : Option Char :=
  if c = '\\' then some '\\'
  else if c = '"' then some '"'
  else if c = 'n' then some '\n'
  else if c = 't' then some '\t'
  else if c = 'r' then some '\r'
  else none

/-- Where a reader stands: between tokens, in a word or a sign that may go on, inside a text with
what it has read of it, or there right after a backslash. -/
inductive Place where
  | between
  | run (k : Kind) (cs : List Char)
  | inside (cs : List Char)
  | escaped (cs : List Char)
  deriving DecidableEq

/-- A character that goes on with nothing. -/
def start (c : Char) : List Token × Place :=
  match kind? c with
  | some k => ([], .run k [c])
  | none =>
    if c = '"' then ([], .inside [])
    else if c = ' ' then ([], .between)
    else ([mark c], .between)

/-- One character: the tokens that are complete with it, and the next place. -/
def step : Place → Char → List Token × Place
  | .between, c => start c
  | .run k cs, c =>
    if kind? c = some k then ([], .run k (cs ++ [c])) else (k.token cs :: (start c).1, (start c).2)
  | .inside cs, c =>
    if c = '\\' then ([], .escaped cs)
    else if c = '"' then ([.text (String.ofList cs)], .between)
    else ([], .inside (cs ++ [c]))
  | .escaped cs, c =>
    match unescape? c with
    | some c => ([], .inside (cs ++ [c]))
    | none => ([.broken], .between)

/-- The tokens of a text and the place after it. -/
def scan : Place → List Char → List Token × Place
  | p, [] => ([], p)
  | p, c :: cs => ((step p c).1 ++ (scan (step p c).2 cs).1, (scan (step p c).2 cs).2)

/-- The token that is complete when nothing follows. -/
def Place.last : Place → List Token
  | .between => []
  | .run k cs => [k.token cs]
  | .inside _ | .escaped _ => [.broken]

/-- Not in the middle of a text. -/
def Place.isOutside : Place → Bool
  | .between | .run _ _ => true
  | .inside _ | .escaped _ => false

/-- The tokens of a condition. -/
def tokens (s : String) : List Token :=
  (scan .between s.toList).1 ++ (scan .between s.toList).2.last

example : tokens "not a.b[\"\\\"\"]<=-7" =
    [.not, .name "a.b", .leftBracket, .text "\"", .rightBracket, .sign .le, .int (-7)] := by
  decide +kernel

theorem scan_append (p : Place) (a b : List Char) :
    scan p (a ++ b) = ((scan p a).1 ++ (scan (scan p a).2 b).1, (scan (scan p a).2 b).2) := by
  induction a generalizing p with
  | nil => simp [scan]
  | cons c a ih => simp [scan, ih]

/-! ## Reading piece by piece -/

/-- The piece is read as the tokens, and nothing that follows goes on with it. -/
def Closed (s : String) (ts : List Token) : Prop := scan .between s.toList = (ts, .between)

instance (s : String) (ts : List Token) : Decidable (Closed s ts) :=
  inferInstanceAs (Decidable (_ = _))

/-- The piece is read as the tokens if nothing goes on with it. -/
def Lexes (s : String) (ts : List Token) : Prop :=
  tokens s = ts ∧ (scan .between s.toList).2.isOutside = true

instance (s : String) (ts : List Token) : Decidable (Lexes s ts) :=
  inferInstanceAs (Decidable (_ ∧ _))

/-- The text begins with a character that goes on with nothing. -/
def Apart (s : String) : Prop := ∃ c cs, s.toList = c :: cs ∧ kind? c = none

variable {a b : String} {ts us : List Token}

theorem Lexes.exists_scan (h : Lexes a ts) : ∃ init p, scan .between a.toList = (init, p) ∧
    init ++ p.last = ts ∧ p.isOutside = true := ⟨_, _, rfl, h.1, h.2⟩

theorem lexes_of_scan {init : List Token} {p : Place} (h : scan .between a.toList = (init, p))
    (hp : p.isOutside = true) : Lexes a (init ++ p.last) := by
  constructor
  · rw [tokens, h]
  · rwa [h]

theorem Closed.lexes (h : Closed a ts) : Lexes a ts := by
  have hlexes := lexes_of_scan h rfl
  rwa [Place.last, List.append_nil] at hlexes

theorem Closed.append (ha : Closed a ts) (hb : Closed b us) : Closed (a ++ b) (ts ++ us) := by
  rw [Closed, String.toList_append, scan_append, ha, hb]

theorem Closed.append_lexes (ha : Closed a ts) (hb : Lexes b us) : Lexes (a ++ b) (ts ++ us) := by
  obtain ⟨init, p, hscan, rfl, hp⟩ := hb.exists_scan
  rw [← List.append_assoc]
  refine lexes_of_scan ?_ hp
  rw [String.toList_append, scan_append, ha, hscan]

/-- A word or a sign is complete where a character comes that does not go on with it. -/
theorem step_of_outside {p : Place} (hp : p.isOutside = true) {c : Char} (hc : kind? c = none) :
    step p c = (p.last ++ (start c).1, (start c).2) := by
  cases p with
  | between => rfl
  | run k cs => simp [step, hc, Place.last]
  | inside | escaped => cases hp

theorem scan_of_outside {p : Place} (hp : p.isOutside = true) (hb : Apart b) :
    scan p b.toList = (p.last ++ (scan .between b.toList).1, (scan .between b.toList).2) := by
  obtain ⟨c, cs, hcs, hc⟩ := hb
  rw [hcs, scan, scan, step_of_outside hp hc, step_of_outside rfl hc]
  simp [Place.last]

theorem Lexes.append_closed (ha : Lexes a ts) (hb : Closed b us) (h : Apart b) :
    Closed (a ++ b) (ts ++ us) := by
  obtain ⟨init, p, hscan, rfl, hp⟩ := ha.exists_scan
  rw [Closed, String.toList_append, scan_append, hscan, scan_of_outside hp h, hb]
  simp

/-! ## Quoted texts -/

theorem scan_escapeChar (cs : List Char) (c : Char) (rest : List Char) :
    scan (.inside cs) (escapeChar c ++ rest) = scan (.inside (cs ++ [c])) rest := by
  unfold escapeChar
  split
  · next hc =>
    rw [hc]
    rfl
  · next hb =>
    split
    · next hc =>
      rw [hc]
      rfl
    · next hq => simp [scan, step, hb, hq]

/-- Escaped text keeps the reader inside of the quotes, with exactly that text read. -/
theorem scan_escape (cs s rest : List Char) :
    scan (.inside cs) (s.flatMap escapeChar ++ rest) = scan (.inside (cs ++ s)) rest := by
  induction s generalizing cs with
  | nil => simp
  | cons c s ih =>
    rw [List.flatMap_cons, List.append_assoc, scan_escapeChar, ih, List.append_assoc]
    rfl

theorem closed_quote (s : String) : Closed (quote s) [.text s] := by
  have hlist : (quote s).toList = '"' :: (s.toList.flatMap escapeChar ++ ['"']) := by
    simp [quote, escape, String.toList_append]
  have hopen : ∀ rest, scan .between ('"' :: rest) = scan (.inside []) rest := fun rest => by
    simp [scan, step, start, kind?]
  rw [Closed, hlist, hopen, scan_escape, List.nil_append]
  simp [scan, step]

theorem closed_index (key : String) :
    Closed (index key) [.leftBracket, .text key, .rightBracket] := by
  have hleft : Closed "[" [.leftBracket] := by decide +kernel
  have hright : Closed "]" [.rightBracket] := by decide +kernel
  exact (hleft.append (closed_quote key)).append hright

/-! ## Numbers -/

theorem scan_run {k : Kind} {cs : List Char} (h : ∀ c ∈ cs, kind? c = some k) (done : List Char) :
    scan (.run k done) cs = ([], .run k (done ++ cs)) := by
  induction cs generalizing done with
  | nil => simp [scan]
  | cons c cs ih =>
    rw [List.forall_mem_cons] at h
    simp [scan, step, h.1, ih h.2]

theorem lexes_run {s : String} {k : Kind} (hne : s.toList ≠ [])
    (h : ∀ c ∈ s.toList, kind? c = some k) : Lexes s [k.token s.toList] := by
  obtain ⟨c, cs, hcs⟩ := List.exists_cons_of_ne_nil hne
  rw [hcs, List.forall_mem_cons] at h
  have hscan : scan .between s.toList = ([], .run k s.toList) := by
    rw [hcs]
    simp [scan, step, start, h.1, scan_run h.2]
  exact lexes_of_scan hscan rfl

theorem lexes_int (n : Int) : Lexes (toString n) [.int n] := by
  have hdigits : ∀ c ∈ Decimal.digits n.natAbs, kind? c = some .word := fun c hc => by
    have hdigit := Decimal.isDigit_digits _ c hc
    simp [kind?, Char.isAlphanum, hdigit]
  have hrun : Lexes (toString n) [Kind.word.token (toString n).toList] := by
    obtain ⟨d, ds, hd, -⟩ := Decimal.exists_digits n.natAbs
    refine lexes_run ?_ ?_
    · rw [Decimal.toList_toString, hd]
      split <;> exact List.cons_ne_nil _ _
    · rw [Decimal.toList_toString]
      split
      · exact hdigits
      · exact List.forall_mem_cons.mpr ⟨rfl, hdigits⟩
  rwa [Kind.token, wordToken, Decimal.integerOf?_toString] at hrun

end PanelQuery.Pipeline.Grammar
