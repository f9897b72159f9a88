import Mathlib.Data.List.Forall2
import PanelQuery.Sql.Piece

/-! # Statements as trees

A statement is read into trees: its words, names, values, commas and other marks, with what stands
between parentheses as one tree. Wording is read character by character, and a word goes on into the
next stretch of wording; a name or a value counts as one sign. `Reads` says that a part of a
statement is read as given trees wherever it stands, if nothing goes on with its last word;
`Loose` says so of a part that does not end with a word. -/

namespace PanelQuery.Sql

inductive Tree where
  | word (cs : List Char)
  /-- A word right in front of parentheses. -/
  | function (cs : List Char)
  | name (n : String)
  | ticked (n : String)
  | value
  | comma
  | mark (c : Char)
  | group (items : List Tree)

namespace Tree

/-! ## Reading -/

/-- What a reader sees of a statement. -/
inductive Sign where
  | char (c : Char)
  | name (n : String)
  | ticked (n : String)
  | value

/-- A character that belongs to a word or a number. -/
def isLetter (c : Char) : Bool := Text.isWordChar c || c == '.'

/-- The trees with a word after them, if there is one. All of them are kept last one first. -/
def push (make : List Char → Tree) (word : List Char) (level : List Tree) : List Tree :=
  match word with
  | [] => level
  | cs => make cs.reverse :: level

/-- Where a reader stands: in a word, behind the trees of the parentheses it is in, with those in
front of the parentheses around it. -/
structure Reader where
  word : List Char := []
  level : List Tree := []
  outer : List (List Tree) := []

namespace Reader

/-- What has been read in the innermost parentheses. -/
def read (r : Reader) : List Tree := push .word r.word r.level

def step (r : Reader) : Sign → Option Reader
  | .char c =>
    if isLetter c then some { r with word := c :: r.word }
    else if c = '(' then some ⟨[], [], push .function r.word r.level :: r.outer⟩
    else if c = ')' then match r.outer with
      | [] => none
      | level :: outer => some ⟨[], .group r.read.reverse :: level, outer⟩
    else if c = ' ' then some ⟨[], r.read, r.outer⟩
    else if c = ',' then some ⟨[], .comma :: r.read, r.outer⟩
    else some ⟨[], .mark c :: r.read, r.outer⟩
  | .name n => some ⟨[], .name n :: r.read, r.outer⟩
  | .ticked n => some ⟨[], .ticked n :: r.read, r.outer⟩
  | .value => some ⟨[], .value :: r.read, r.outer⟩

def run (r : Reader) : List Sign → Option Reader
  | [] => some r
  | s :: ss => match r.step s with
    | some r => r.run ss
    | none => none

theorem run_append (r : Reader) (a b : List Sign) :
    r.run (a ++ b) = (r.run a).bind fun r' => r'.run b := by
  induction a generalizing r with
  | nil => rfl
  | cons s a ih =>
    rw [List.cons_append, run, run]
    cases r.step s with
    | none => rfl
    | some r' => exact ih r'

end Reader

end Tree

open PanelQuery.Sql.Tree (Sign Reader push isLetter)

/-- Literals and numbers are values, directions are wording. -/
def Piece.signs : Piece → List Sign
  | .fixed text => text.toList.map .char
  | .name n => [.name n]
  | .backticked n => [.ticked n]
  | .direction d => d.text.toList.map .char
  | .quoted _ | .int _ | .float _ | .topNGroups => [.value]

def signs (sql : Sql) : List Sign := sql.flatMap Piece.signs

/-- The trees of a statement, if its parentheses match. -/
def trees? (sql : Sql) : Option (List Tree) :=
  match Reader.run {} sql.signs with
  | some ⟨word, level, []⟩ => some (push .word word level).reverse
  | _ => none

theorem signs_append (a b : Sql) : signs (a ++ b) = signs a ++ signs b := List.flatMap_append

theorem signs_raw {w : String} {cs : List Char} (h : w = String.ofList cs) :
    signs (raw w) = cs.map .char := by
  rw [raw, signs, List.flatMap_singleton, Piece.signs, h, String.toList_ofList]

/-- Wording is read the same in one piece or in two. -/
theorem signs_raw_append (v w : String) :
    signs (raw (v ++ w)) = signs (raw v) ++ signs (raw w) := by
  simp [raw, signs, Piece.signs]

/-! ## Parts -/

/-- The part is read as these trees, and nothing goes on with the last one. -/
def Loose (s : Sql) (ts : List Tree) : Prop :=
  ∀ level outer, Reader.run ⟨[], level, outer⟩ s.signs = some ⟨[], ts.reverse ++ level, outer⟩

/-- The part is read as these trees if nothing goes on with the last one. -/
def Reads (s : Sql) (ts : List Tree) : Prop :=
  ∀ level outer, ∃ word level', Reader.run ⟨[], level, outer⟩ s.signs = some ⟨word, level', outer⟩ ∧
    push .word word level' = ts.reverse ++ level

/-- The part does not go on with a word in front of it. -/
def Apart (s : Sql) : Prop :=
  ∀ word level outer, Reader.run ⟨word, level, outer⟩ s.signs =
    Reader.run ⟨[], push .word word level, outer⟩ s.signs

/-- The part ends inside of parentheses, with these trees in front of them and inside. -/
def Opens (s : Sql) (ts inside : List Tree) : Prop :=
  ∀ level outer, Reader.run ⟨[], level, outer⟩ s.signs =
    some ⟨[], inside.reverse, (ts.reverse ++ level) :: outer⟩

section

variable {a b c : Sql} {ts us inside : List Tree}

theorem loose_nil : Loose [] [] := fun _ _ => rfl

theorem Loose.reads (h : Loose a ts) : Reads a ts := fun level outer => ⟨[], _, h level outer, rfl⟩

theorem Loose.append (ha : Loose a ts) (hb : Loose b us) : Loose (a ++ b) (ts ++ us) := by
  intro level outer
  rw [signs_append, Reader.run_append, ha, Option.bind_some, hb, List.reverse_append,
    List.append_assoc]

theorem Loose.before (ha : Loose a ts) (hb : Reads b us) : Reads (a ++ b) (ts ++ us) := by
  intro level outer
  obtain ⟨word, level', hrun, hpush⟩ := hb (ts.reverse ++ level) outer
  refine ⟨word, level', ?_, by rw [hpush, List.reverse_append, List.append_assoc]⟩
  rw [signs_append, Reader.run_append, ha, Option.bind_some, hrun]

theorem Reads.before (ha : Reads a ts) (hapart : Apart b) (hb : Reads b us) :
    Reads (a ++ b) (ts ++ us) := by
  intro level outer
  obtain ⟨word, level', hrun, hpush⟩ := ha level outer
  obtain ⟨word', level'', hrun', hpush'⟩ := hb (ts.reverse ++ level) outer
  refine ⟨word', level'', ?_, by rw [hpush', List.reverse_append, List.append_assoc]⟩
  rw [signs_append, Reader.run_append, hrun, Option.bind_some, hapart, hpush, hrun']

theorem Reads.loose (ha : Reads a ts) (hapart : Apart b) (hb : Loose b us) :
    Loose (a ++ b) (ts ++ us) := by
  intro level outer
  obtain ⟨word, level', hrun, hpush⟩ := ha level outer
  rw [signs_append, Reader.run_append, hrun, Option.bind_some, hapart, hpush, hb,
    List.reverse_append, List.append_assoc]

theorem Loose.opens (ha : Loose a ts) (hb : Opens b us inside) :
    Opens (a ++ b) (ts ++ us) inside := by
  intro level outer
  rw [signs_append, Reader.run_append, ha, Option.bind_some, hb, List.reverse_append,
    List.append_assoc]

theorem Apart.append (h : Apart a) (b : Sql) : Apart (a ++ b) := by
  intro word level outer
  rw [signs_append, Reader.run_append, h, ← Reader.run_append]

/-- Only the signs of a part count. -/
theorem Reads.of_signs (h : Reads a ts) (hs : signs b = signs a) : Reads b ts := by
  rwa [Reads, hs]

theorem Loose.of_signs (h : Loose a ts) (hs : signs b = signs a) : Loose b ts := by
  rwa [Loose, hs]

theorem Opens.within (ha : Opens a ts inside) (hb : Loose b us) :
    Opens (a ++ b) ts (inside ++ us) := by
  intro level outer
  rw [signs_append, Reader.run_append, ha, Option.bind_some, hb, List.reverse_append]

theorem Opens.of_signs (h : Opens a ts inside) (hs : signs b = signs a) : Opens b ts inside := by
  rwa [Opens, hs]

/-- Wording on both sides of a part is read as parentheses around it. -/
theorem Opens.close (ha : Opens a ts inside) (hb : Reads b us) :
    Loose (a ++ b ++ raw ")") (ts ++ [.group (inside ++ us)]) := by
  intro level outer
  obtain ⟨word, level', hrun, hpush⟩ := hb inside.reverse ((ts.reverse ++ level) :: outer)
  have hclose : Reader.run ⟨word, level', (ts.reverse ++ level) :: outer⟩ (signs (raw ")")) =
      some ⟨[], .group (inside ++ us) :: (ts.reverse ++ level), outer⟩ := by
    have hread : Reader.read ⟨word, level', (ts.reverse ++ level) :: outer⟩ =
        us.reverse ++ inside.reverse := hpush
    rw [signs_raw (show ")" = String.ofList [')'] from rfl)]
    simp [Reader.run, Reader.step, isLetter, Text.isWordChar, hread]
  rw [signs_append, signs_append, Reader.run_append, Reader.run_append, ha, Option.bind_some, hrun,
    Option.bind_some, hclose, List.reverse_append]
  rfl

end

/-- The part is read as these trees after any other part. -/
def Follows (s : Sql) (ts : List Tree) : Prop :=
  ∀ (a : Sql) (us : List Tree), Reads a us → Reads (a ++ s) (us ++ ts)

section

variable {a b : Sql} {ts us : List Tree}

theorem follows_nil : Follows [] [] := fun _ _ h => by rwa [List.append_nil, List.append_nil]

theorem Reads.follows (h : Reads a ts) (hapart : Apart a) : Follows a ts := fun _ _ hb =>
  hb.before hapart h

theorem Follows.append (ha : Follows a ts) (hb : Follows b us) : Follows (a ++ b) (ts ++ us) :=
  fun _ _ h => by
    rw [← List.append_assoc, ← List.append_assoc]
    exact hb _ _ (ha _ _ h)

theorem Follows.of_signs (h : Follows a ts) (hs : signs b = signs a) : Follows b ts :=
  fun _ _ hc => (h _ _ hc).of_signs (by rw [signs_append, signs_append, hs])

/-- Parts with a separator between them. -/
theorem reads_join {sep : String} {t : Tree} (hsep : Loose (raw sep) [t]) (hapart : Apart (raw sep))
    {parts : List Sql} {tss : List (List Tree)} (h : List.Forall₂ Reads parts tss) :
    Reads (join sep parts) ([t].intercalate tss) := by
  induction h with
  | nil => exact loose_nil.reads
  | @cons part ts parts tss hpart htail ih =>
    cases htail with
    | nil => simpa [join] using hpart
    | cons hnext htail =>
      rw [join, List.intercalate_cons_cons]
      · exact (hpart.loose hapart hsep).before ih
      · exact List.cons_ne_nil _ _

/-- A statement on its own. -/
theorem Reads.trees (h : Reads a ts) : trees? a = some ts := by
  obtain ⟨word, level, hrun, hpush⟩ := h [] []
  rw [trees?, hrun]
  simp [hpush]

end

/-! ### Wording -/

/-- Wording that begins with a blank or a mark is not the end of a word. -/
theorem apart_raw {w : String} {c : Char} {cs : List Char} (hw : w = String.ofList (c :: cs))
    (h : isLetter c = false) (hc : c ≠ '(') : Apart (raw w) := by
  intro word level outer
  have hread : ∀ word level, push .word [] (push .word word level) = push .word word level :=
    fun _ _ => rfl
  rw [signs_raw hw, List.map_cons, Reader.run, Reader.run]
  simp only [Reader.step, h, hc, Reader.read, hread, Bool.false_eq_true, if_false]

theorem run_letters {cs : List Char} (h : ∀ c ∈ cs, isLetter c = true) (word : List Char)
    (level : List Tree) (outer : List (List Tree)) :
    Reader.run ⟨word, level, outer⟩ (cs.map .char) = some ⟨cs.reverse ++ word, level, outer⟩ := by
  induction cs generalizing word with
  | nil => rfl
  | cons c cs ih =>
    rw [List.forall_mem_cons] at h
    rw [List.map_cons, Reader.run, Reader.step, if_pos h.1]
    simpa using ih h.2 (c :: word)

theorem push_of_ne_nil (make : List Char → Tree) {word : List Char} (h : word ≠ [])
    (level : List Tree) : push make word level = make word.reverse :: level := by
  cases word with
  | nil => exact absurd rfl h
  | cons c cs => rfl

/-- A word that is not known. -/
theorem reads_word {s : Sql} {cs : List Char} (hs : signs s = cs.map .char) (hne : cs ≠ [])
    (h : ∀ c ∈ cs, isLetter c = true) : Reads s [.word cs] := by
  intro level outer
  refine ⟨cs.reverse, level, ?_, ?_⟩
  · rw [hs, run_letters h, List.append_nil]
  · rw [push_of_ne_nil _ (List.reverse_ne_nil_iff.mpr hne), List.reverse_reverse]
    rfl

theorem Apart.raw_append {v : String} (h : Apart (raw v)) (w : String) : Apart (raw (v ++ w)) := by
  have happend := h.append (raw w)
  rwa [Apart, signs_append, ← signs_raw_append] at happend

/-! ## Clause words -/

/-- The words that begin a clause. -/
inductive Keyword where
  | select | from | where | group | having | order | limit
  deriving DecidableEq, Repr

def Keyword.chars : Keyword → List Char
  | .select => ['s', 'e', 'l', 'e', 'c', 't']
  | .from => ['f', 'r', 'o', 'm']
  | .where => ['w', 'h', 'e', 'r', 'e']
  | .group => ['g', 'r', 'o', 'u', 'p']
  | .having => ['h', 'a', 'v', 'i', 'n', 'g']
  | .order => ['o', 'r', 'd', 'e', 'r']
  | .limit => ['l', 'i', 'm', 'i', 't']

def Keyword.all : List Keyword := [.select, .from, .where, .group, .having, .order, .limit]

namespace Tree

/-- The word in any case. -/
def isWord (lower : List Char) : Tree → Bool
  | .word cs => cs.map Char.toLower == lower
  | _ => false

def isComma : Tree → Bool
  | .comma => true
  | _ => false

def keyword? (t : Tree) : Option Keyword := Keyword.all.find? fun k => t.isWord k.chars

/-- The word between a list of keys and the groups that they are restricted to. -/
def isGlobal : Tree → Bool := isWord ['g', 'l', 'o', 'b', 'a', 'l']

/-- A tree of a condition: no clause begins with it, and it restricts no keys. -/
def isPlain (t : Tree) : Bool := t.keyword?.isNone && !t.isGlobal

/-- A tree of an expression in a list of several. -/
def isTerm (t : Tree) : Bool := t.isPlain && !t.isComma

/-- A tree of a literal value. -/
def isLiteral : Tree → Bool
  | .word cs =>
    cs = ['N', 'U', 'L', 'L'] ∨ cs = ['t', 'r', 'u', 'e'] ∨ cs = ['f', 'a', 'l', 's', 'e']
  | .value | .comma | .mark _ => true
  | _ => false

end Tree

/-! ## Parts whose trees are of one kind -/

section

variable (p : Tree → Bool)

/-- The part is read as trees of the kind. -/
def Parsed (s : Sql) : Prop := ∃ ts, Reads s ts ∧ ∀ t ∈ ts, p t = true

/-- The part is read as trees of the kind, and nothing goes on with it. -/
def Still (s : Sql) : Prop := ∃ ts, Loose s ts ∧ ∀ t ∈ ts, p t = true

/-- The part ends inside of parentheses, with trees of the kind in front of them. -/
def Calls (s : Sql) : Prop := ∃ ts inside, Opens s ts inside ∧ ∀ t ∈ ts, p t = true

end

/-- The parentheses of the part match. -/
abbrev Balanced (s : Sql) : Prop := Parsed (fun _ => true) s

section

variable {p q : Tree → Bool} {a b c : Sql}

theorem Still.parsed (h : Still p a) : Parsed p a := h.imp fun _ h => ⟨h.1.reads, h.2⟩

theorem Parsed.mono (h : Parsed p a) (hpq : ∀ t, p t = true → q t = true) : Parsed q a :=
  h.imp fun _ h => ⟨h.1, fun t ht => hpq t (h.2 t ht)⟩

theorem Parsed.balanced (h : Parsed p a) : Balanced a := h.mono fun _ _ => rfl

theorem Parsed.of_signs (h : Parsed p a) (hs : signs b = signs a) : Parsed p b :=
  h.imp fun _ h => ⟨h.1.of_signs hs, h.2⟩

theorem Still.of_signs (h : Still p a) (hs : signs b = signs a) : Still p b :=
  h.imp fun _ h => ⟨h.1.of_signs hs, h.2⟩

theorem still_nil : Still p [] := ⟨[], loose_nil, nofun⟩

theorem Still.append (ha : Still p a) (hb : Still p b) : Still p (a ++ b) := by
  obtain ⟨ts, ha, hts⟩ := ha
  obtain ⟨us, hb, hus⟩ := hb
  exact ⟨ts ++ us, ha.append hb, List.forall_mem_append.mpr ⟨hts, hus⟩⟩

theorem Still.before (ha : Still p a) (hb : Parsed p b) : Parsed p (a ++ b) := by
  obtain ⟨ts, ha, hts⟩ := ha
  obtain ⟨us, hb, hus⟩ := hb
  exact ⟨ts ++ us, ha.before hb, List.forall_mem_append.mpr ⟨hts, hus⟩⟩

theorem Parsed.before (ha : Parsed p a) (hapart : Apart b) (hb : Parsed p b) :
    Parsed p (a ++ b) := by
  obtain ⟨ts, ha, hts⟩ := ha
  obtain ⟨us, hb, hus⟩ := hb
  exact ⟨ts ++ us, ha.before hapart hb, List.forall_mem_append.mpr ⟨hts, hus⟩⟩

theorem Parsed.still (ha : Parsed p a) (hapart : Apart b) (hb : Still p b) : Still p (a ++ b) := by
  obtain ⟨ts, ha, hts⟩ := ha
  obtain ⟨us, hb, hus⟩ := hb
  exact ⟨ts ++ us, ha.loose hapart hb, List.forall_mem_append.mpr ⟨hts, hus⟩⟩

theorem Still.calls (ha : Still p a) (hb : Calls p b) : Calls p (a ++ b) := by
  obtain ⟨ts, ha, hts⟩ := ha
  obtain ⟨us, inside, hb, hus⟩ := hb
  exact ⟨ts ++ us, inside, ha.opens hb, List.forall_mem_append.mpr ⟨hts, hus⟩⟩

/-- What follows stands between the parentheses. -/
theorem Calls.within (ha : Calls p a) (hb : Still (fun _ => true) b) : Calls p (a ++ b) := by
  obtain ⟨ts, inside, ha, hts⟩ := ha
  obtain ⟨us, hb, -⟩ := hb
  exact ⟨ts, inside ++ us, ha.within hb, hts⟩

theorem Calls.of_signs (h : Calls p a) (hs : signs b = signs a) : Calls p b :=
  h.imp fun _ h => h.imp fun _ h => ⟨h.1.of_signs hs, h.2⟩

/-- What stands between parentheses may be of any kind. -/
theorem Calls.close (ha : Calls p a) (hb : Balanced b) (hp : ∀ us, p (.group us) = true) :
    Still p (a ++ b ++ raw ")") := by
  obtain ⟨ts, inside, ha, hts⟩ := ha
  obtain ⟨us, hb, -⟩ := hb
  exact ⟨_, ha.close hb, List.forall_mem_append.mpr ⟨hts, List.forall_mem_singleton.mpr (hp _)⟩⟩

/-! Wording put together from two texts. -/

theorem signs_two (v w : String) : signs (raw (v ++ w)) = signs (raw v ++ raw w) := by
  rw [signs_raw_append, signs_append]

theorem Still.raw_append {v w : String} (hv : Still p (raw v)) (hw : Still p (raw w)) :
    Still p (raw (v ++ w)) := (hv.append hw).of_signs (signs_two v w)

theorem Still.raw_before {v w : String} (hv : Still p (raw v)) (hw : Parsed p (raw w)) :
    Parsed p (raw (v ++ w)) := (hv.before hw).of_signs (signs_two v w)

theorem Still.raw_calls {v w : String} (hv : Still p (raw v)) (hw : Calls p (raw w)) :
    Calls p (raw (v ++ w)) := (hv.calls hw).of_signs (signs_two v w)

theorem Calls.raw_within {v w : String} (hv : Calls p (raw v))
    (hw : Still (fun _ => true) (raw w)) : Calls p (raw (v ++ w)) :=
  (hv.within hw).of_signs (signs_two v w)

theorem Parsed.raw_still {v w : String} (hv : Parsed p (raw v)) (hapart : Apart (raw w))
    (hw : Still p (raw w)) : Still p (raw (v ++ w)) := (hv.still hapart hw).of_signs (signs_two v w)

/-- Parts with a separator between them. -/
theorem Parsed.join {sep : String} (hsep : Still p (raw sep)) (hapart : Apart (raw sep))
    {parts : List Sql} (h : ∀ s ∈ parts, Parsed p s) : Parsed p (join sep parts) := by
  induction parts with
  | nil => exact still_nil.parsed
  | cons s parts ih =>
    rw [List.forall_mem_cons] at h
    cases parts with
    | nil => exact h.1
    | cons next parts => exact (h.1.still hapart hsep).before (ih h.2)

end

/-! ### Reading from anywhere -/

namespace Tree

/-- The trees of a reader that has begun behind `level` and inside of `outer`. -/
def under (level : List Tree) (outer : List (List Tree)) :
    List Tree → List (List Tree) → List Tree × List (List Tree)
  | own, [] => (own ++ level, outer)
  | own, next :: rest => (own, (under level outer next rest).1 :: (under level outer next rest).2)

/-- The same reader, if it has begun behind `level` and inside of `outer`. -/
def Reader.shift (level : List Tree) (outer : List (List Tree)) (r : Reader) : Reader :=
  ⟨r.word, (under level outer r.level r.outer).1, (under level outer r.level r.outer).2⟩

section

variable (level : List Tree) (outer : List (List Tree))

theorem under_cons (t : Tree) (own : List Tree) (rest : List (List Tree)) :
    under level outer (t :: own) rest =
      (t :: (under level outer own rest).1, (under level outer own rest).2) := by
  cases rest <;> rfl

theorem under_push (make : List Char → Tree) (word : List Char) (own : List Tree)
    (rest : List (List Tree)) : under level outer (push make word own) rest =
      (push make word (under level outer own rest).1, (under level outer own rest).2) := by
  cases word with
  | nil => rfl
  | cons c cs => exact under_cons _ _ _ _ _

theorem Reader.read_shift (r : Reader) :
    (r.shift level outer).read = (under level outer r.read r.outer).1 ∧
      (r.shift level outer).outer = (under level outer r.read r.outer).2 := by
  simp [Reader.read, Reader.shift, under_push]

theorem Reader.step_shift {r r' : Reader} {s : Sign} (h : r.step s = some r') :
    (r.shift level outer).step s = some (r'.shift level outer) := by
  obtain ⟨hlevel, houter⟩ := read_shift level outer r
  have hpush : ∀ t : Tree, some (Reader.mk [] (t :: (r.shift level outer).read)
      (r.shift level outer).outer) =
        some (Reader.shift level outer ⟨[], t :: r.read, r.outer⟩) := by
    intro t
    rw [hlevel, houter, Reader.shift, under_cons]
  cases s with
  | name n | ticked n | value =>
    cases h
    exact hpush _
  | char c =>
    unfold Reader.step at h ⊢
    dsimp only at h ⊢
    split at h
    · next hc =>
      cases h
      rw [if_pos hc]
      rfl
    next hc =>
    rw [if_neg hc]
    split at h
    · next hc =>
      cases h
      rw [if_pos hc]
      simp [Reader.shift, under, under_push]
    next hc =>
    rw [if_neg hc]
    split at h
    · next hc =>
      rw [if_pos hc]
      split at h
      · cases h
      · next next rest hnext =>
        cases h
        simp [Reader.shift, Reader.read, hnext, under, under_cons]
    next hc =>
    rw [if_neg hc]
    split at h
    · next hc =>
      cases h
      rw [if_pos hc, hlevel, houter]
      rfl
    next hc =>
    rw [if_neg hc]
    split at h
    · next hc =>
      cases h
      rw [if_pos hc]
      exact hpush _
    next hc =>
    cases h
    rw [if_neg hc]
    exact hpush _

theorem Reader.run_shift {ss : List Sign} {r r' : Reader} (h : r.run ss = some r') :
    (r.shift level outer).run ss = some (r'.shift level outer) := by
  induction ss generalizing r with
  | nil =>
    cases h
    rfl
  | cons s ss ih =>
    rw [Reader.run] at h ⊢
    cases hs : r.step s with
    | none => rw [hs] at h; cases h
    | some r'' =>
      rw [hs] at h
      rw [Reader.step_shift level outer hs]
      exact ih h

end

/-- What wording on its own is read as. -/
def ofWording (cs : List Char) : Option Reader := Reader.run {} (cs.map .char)

theorem run_wording {cs : List Char} {r : Reader} (h : ofWording cs = some r)
    (level : List Tree) (outer : List (List Tree)) :
    Reader.run ⟨[], level, outer⟩ (cs.map .char) = some (r.shift level outer) :=
  Reader.run_shift level outer h

/-- The trees of wording with which nothing goes on. -/
def looseTrees? (cs : List Char) : Option (List Tree) :=
  match ofWording cs with
  | some ⟨[], level, []⟩ => some level.reverse
  | _ => none

/-- The trees of wording. -/
def wholeTrees? (cs : List Char) : Option (List Tree) :=
  match ofWording cs with
  | some ⟨letters, level, []⟩ => some (push .word letters level).reverse
  | _ => none

/-- The trees of wording that opens parentheses, in front of them and inside. -/
def openTrees? (cs : List Char) : Option (List Tree × List Tree) :=
  match ofWording cs with
  | some ⟨[], inside, [level]⟩ => some (level.reverse, inside.reverse)
  | _ => none

section

variable (p : Tree → Bool) (cs : List Char)

def isStill : Bool := (looseTrees? cs).any (·.all p)

def isParsed : Bool := (wholeTrees? cs).any (·.all p)

/-- Only the trees in front of the parentheses have to be of the kind. -/
def isCall : Bool := (openTrees? cs).any (·.1.all p)

end

end Tree

open PanelQuery.Sql.Tree (looseTrees? wholeTrees? openTrees? isStill isParsed isCall)

section

variable {p : Tree → Bool} {w : String} {cs : List Char} {ts inside : List Tree}

theorem loose_raw (hw : w = String.ofList cs) (h : looseTrees? cs = some ts) :
    Loose (raw w) ts := by
  unfold looseTrees? at h
  split at h
  · next level hread =>
    cases h
    intro outside outer
    rw [signs_raw hw, Tree.run_wording hread, List.reverse_reverse]
    rfl
  · cases h

theorem reads_raw (hw : w = String.ofList cs) (h : wholeTrees? cs = some ts) :
    Reads (raw w) ts := by
  unfold wholeTrees? at h
  split at h
  · next word level hread =>
    cases h
    intro outside outer
    refine ⟨word, level ++ outside, ?_, by cases word <;> simp [push]⟩
    rw [signs_raw hw, Tree.run_wording hread]
    rfl
  · cases h

theorem opens_raw (hw : w = String.ofList cs) (h : openTrees? cs = some (ts, inside)) :
    Opens (raw w) ts inside := by
  unfold openTrees? at h
  split at h
  · next level outside hread =>
    cases h
    intro outside outer
    rw [signs_raw hw, Tree.run_wording hread, List.reverse_reverse, List.reverse_reverse]
    rfl
  · cases h

theorem still_raw (hw : w = String.ofList cs) (h : isStill p cs = true) : Still p (raw w) := by
  obtain ⟨ts, hts, hp⟩ := (Option.any_eq_true _ _).mp h
  exact ⟨ts, loose_raw hw hts, List.all_eq_true.mp hp⟩

theorem parsed_raw (hw : w = String.ofList cs) (h : isParsed p cs = true) : Parsed p (raw w) := by
  obtain ⟨ts, hts, hp⟩ := (Option.any_eq_true _ _).mp h
  exact ⟨ts, reads_raw hw hts, List.all_eq_true.mp hp⟩

theorem calls_raw (hw : w = String.ofList cs) (h : isCall p cs = true) : Calls p (raw w) := by
  obtain ⟨⟨ts, inside⟩, hts, hp⟩ := (Option.any_eq_true _ _).mp h
  exact ⟨ts, inside, opens_raw hw hts, List.all_eq_true.mp hp⟩

/-- A literal or a number. -/
theorem still_value {s : Sql} (hs : signs s = [.value]) (hp : p .value = true) : Still p s :=
  ⟨[.value], fun _ _ => by rw [hs]; rfl, List.forall_mem_singleton.mpr hp⟩

end

end PanelQuery.Sql
