import Mathlib.Data.List.Infix
import PanelQuery.Pipeline.Selection

/-! # Patterns that stand for themselves

The regular expressions of the collector, as far as single characters, groups, alternatives and
repetition go: a backslash takes the meaning from a sign, and in front of a letter or a digit it
names something else. Character classes, counted repetition and what else is not known here are
refused. The pattern for a text is read as the characters of the text, and so it is found exactly in
the subjects that contain it. -/

namespace PanelQuery

/-- A regular expression. -/
inductive Regex where
  | empty
  | char (c : Char)
  /-- Any character but a line feed. -/
  | any
  /-- The beginning of the subject. -/
  | atStart
  /-- The end of the subject. -/
  | atEnd
  | cat (r s : Regex)
  | alt (r s : Regex)
  | star (r : Regex)
  deriving DecidableEq

namespace Regex

/-! ## Meaning -/

/-- The expression matches a part of the subject between what comes before and after. -/
inductive Matches : Regex → List Char → List Char → List Char → Prop
  | empty {before after} : Matches empty before [] after
  | char {c before after} : Matches (char c) before [c] after
  | any {c before after} (h : c ≠ '\n') : Matches any before [c] after
  | atStart {after} : Matches atStart [] [] after
  | atEnd {before} : Matches atEnd before [] []
  | cat {r s before first second after} (hr : Matches r before first (second ++ after))
    (hs : Matches s (before ++ first) second after) :
    Matches (cat r s) before (first ++ second) after
  | left {r s before part after} (h : Matches r before part after) :
    Matches (alt r s) before part after
  | right {r s before part after} (h : Matches s before part after) :
    Matches (alt r s) before part after
  | none {r before after} : Matches (star r) before [] after
  | more {r before first second after} (hr : Matches r before first (second ++ after))
    (hs : Matches (star r) (before ++ first) second after) :
    Matches (star r) before (first ++ second) after

/-- The expression matches somewhere in the subject. -/
def Finds (r : Regex) (subject : List Char) : Prop :=
  ∃ before part after, subject = before ++ part ++ after ∧ r.Matches before part after

/-! ## Syntax -/

/-- A sign with a meaning. -/
inductive Sign where
  | escape
  | opening | closing | bar
  /-- Repetition: the least number of times, and whether there may be more than one. -/
  | repeated (optional many : Bool)
  | single (r : Regex)
  /-- A sign of the syntax that is not known here. -/
  | unknown

def sign? (c : Char) : Option Sign :=
  match c with
  | '\\' => some .escape
  | '(' => some .opening
  | ')' => some .closing
  | '|' => some .bar
  | '*' => some (.repeated true true)
  | '+' => some (.repeated false true)
  | '?' => some (.repeated true false)
  | '.' => some (.single any)
  | '^' => some (.single atStart)
  | '$' => some (.single atEnd)
  | '[' | ']' | '\x7b' | '\x7d' => some .unknown
  | _ => none

/-- After a backslash, these stand for themselves. -/
def isPunctuation (c : Char) : Bool := decide (c.toNat < 128) && !c.isAlphanum

def seq : List Regex → Regex
  | [] => empty
  | r :: rs => cat r (seq rs)

def repeated (optional many : Bool) (r : Regex) : Regex :=
  match optional, many with
  | true, true => star r
  | false, true => cat r (star r)
  | true, false => alt r empty
  | false, false => r

/-- What is read inside one pair of parentheses: the alternatives before the last bar, the items
since then, and whether the last of them may still be repeated. -/
structure Level where
  alternatives : Option Regex := none
  items : List Regex := []
  repeatable : Bool := false

namespace Level

def put (l : Level) (r : Regex) : Level :=
  { l with items := l.items ++ [r], repeatable := true }

def regex (l : Level) : Regex :=
  match l.alternatives with
  | none => seq l.items
  | some r => alt r (seq l.items)

/-- The last item is repeated, once. -/
def repeat? (l : Level) (optional many : Bool) : Option Level :=
  if l.repeatable then l.items.getLast?.map fun r =>
    { l with items := l.items.dropLast ++ [Regex.repeated optional many r], repeatable := false }
  else none

end Level

/-- A reader between two characters: is it behind a backslash, and at which levels is it. -/
structure Reader where
  escaped : Bool := false
  level : Level := {}
  outer : List Level := []

def Reader.step (r : Reader) (c : Char) : Option Reader :=
  if r.escaped then
    if isPunctuation c then some ⟨false, r.level.put (char c), r.outer⟩ else none
  else match sign? c with
    | none => some { r with level := r.level.put (char c) }
    | some .escape => some { r with escaped := true }
    | some .opening => some { level := {}, outer := r.level :: r.outer }
    | some .closing =>
      match r.outer with
      | [] => none
      | level :: outer => some { level := level.put r.level.regex, outer }
    | some .bar => some { r with level := { alternatives := some r.level.regex } }
    | some (.repeated optional many) =>
      (r.level.repeat? optional many).map fun level => { r with level }
    | some (.single s) => some { r with level := r.level.put s }
    | some .unknown => none

def Reader.run (r : Reader) (cs : List Char) : Option Reader := cs.foldlM step r

/-- The expression that a pattern spells, if its syntax is known here. -/
def read? (pattern : String) : Option Regex :=
  match Reader.run {} pattern.toList with
  | some ⟨false, level, []⟩ => some level.regex
  | _ => none

example : read? "a(b|\\.)*$" =
    some (cat (char 'a') (cat (star (alt (cat (char 'b') empty) (cat (char '.') empty)))
      (cat atEnd empty))) := by
  decide +kernel

/-! ## Characters one after the other -/

def literal (cs : List Char) : Regex := seq (cs.map char)

theorem matches_literal {cs before part after : List Char} :
    (literal cs).Matches before part after ↔ part = cs := by
  induction cs generalizing before part with
  | nil =>
    constructor
    · intro h
      cases h
      rfl
    · rintro rfl
      exact .empty
  | cons c cs ih =>
    constructor
    · intro h
      cases h with
      | cat hr hs =>
        cases hr
        rw [ih.mp hs]
        rfl
    · rintro rfl
      show (literal (c :: cs)).Matches before ([c] ++ cs) after
      exact .cat .char (ih.mpr rfl)

theorem finds_literal {cs subject : List Char} : (literal cs).Finds subject ↔ cs <:+: subject := by
  constructor
  · rintro ⟨before, part, after, rfl, h⟩
    rw [matches_literal.mp h]
    exact List.infix_append before cs after
  · rintro ⟨before, after, rfl⟩
    exact ⟨before, cs, after, rfl, matches_literal.mpr rfl⟩

/-! ## Verbatim patterns -/

open Pipeline (metaChars verbatim)

theorem isPunctuation_of_meta {c : Char} (h : c ∈ metaChars) : isPunctuation c = true := by
  have hall : metaChars.all isPunctuation = true := rfl
  exact List.all_eq_true.mp hall c h

/-- The signs with a meaning are the ones that a verbatim pattern takes it from. -/
theorem sign?_eq_none {c : Char} (h : c ∉ metaChars) : sign? c = none := by
  unfold sign?
  split <;> first | rfl | exact absurd (by decide) h

theorem run_verbatimChar (r : Reader) (hr : r.escaped = false) (c : Char) (rest : List Char) :
    r.run ((if metaChars.contains c then ['\\', c] else [c]) ++ rest) =
      Reader.run { r with level := r.level.put (char c) } rest := by
  obtain ⟨escaped, level, outer⟩ := r
  cases hr
  split
  · next hc =>
    have hpunctuation := isPunctuation_of_meta (List.contains_iff_mem.mp hc)
    simp [Reader.run, Reader.step, sign?, hpunctuation]
  · next hc =>
    have hsign := sign?_eq_none fun hmem => hc (List.contains_iff_mem.mpr hmem)
    simp [Reader.run, Reader.step, hsign]

/-- At any level, a verbatim pattern adds the characters of its text. -/
theorem run_verbatim (cs : List Char) (level : Level) (outer : List Level) :
    ∃ repeatable, Reader.run ⟨false, level, outer⟩
      (cs.flatMap fun c => if metaChars.contains c then ['\\', c] else [c]) =
        some ⟨false, ⟨level.alternatives, level.items ++ cs.map char, repeatable⟩, outer⟩ := by
  induction cs generalizing level with
  | nil => exact ⟨level.repeatable, by simp [Reader.run]⟩
  | cons c cs ih =>
    obtain ⟨repeatable, hrun⟩ := ih (level.put (char c))
    refine ⟨repeatable, ?_⟩
    rw [List.flatMap_cons, run_verbatimChar _ rfl]
    simpa [Level.put] using hrun

/-- Every character of the text stands for itself. -/
theorem read?_verbatim (s : String) : read? (verbatim s) = some (literal s.toList) := by
  obtain ⟨repeatable, hrun⟩ := run_verbatim s.toList {} []
  rw [read?, verbatim, String.toList_ofList]
  simp only [hrun]
  rfl

end Regex

end PanelQuery
