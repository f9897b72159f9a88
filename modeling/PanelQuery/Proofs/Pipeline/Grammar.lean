import PanelQuery.Proofs.Pipeline.Tokens

/-! # Reading a condition by its grammar

The tokens of a condition are tests of a record, parentheses, and the words `not`, `and` and `or`.
`not` takes the test or the parentheses after it, `and` binds tighter than `or`, and both associate
to the left. The reader keeps one level for every open pair of parentheses and refuses a condition
in which an operand is missing or a parenthesis has no partner. -/

namespace PanelQuery.Pipeline.Grammar

/-! ## Tests -/

/-- A field of a record: the map it lies in and its key there. -/
structure Field where
  root : String
  key : String
  deriving DecidableEq

/-- What a field is compared with. -/
inductive Operand where
  | nil
  | bool (b : Bool)
  | int (n : Int)
  | text (s : String)
  deriving DecidableEq

/-- A test of a record. -/
inductive Atom where
  | compare (f : Field) (c : Comparison) (v : Operand)
  | isMatch (f : Field) (pattern : String)
  deriving DecidableEq

def Operand.ofToken? : Token → Option Operand
  | .nil => some .nil
  | .bool b => some (.bool b)
  | .int n => some (.int n)
  | .text s => some (.text s)
  | _ => none

/-- A mark of a condition. -/
inductive Mark where
  | atom (a : Atom)
  | opening | closing | not
  | word (op : Connective)

/-- The marks of a condition. The tokens of a test are one mark. -/
def marks? : List Token → Option (List Mark)
  | [] => some []
  | .opening :: ts => (marks? ts).map (.opening :: ·)
  | .closing :: ts => (marks? ts).map (.closing :: ·)
  | .not :: ts => (marks? ts).map (.not :: ·)
  | .and :: ts => (marks? ts).map (.word .and :: ·)
  | .or :: ts => (marks? ts).map (.word .or :: ·)
  | .name root :: .leftBracket :: .text key :: .rightBracket :: .sign c :: v :: ts =>
    (Operand.ofToken? v).bind fun v => (marks? ts).map (.atom (.compare ⟨root, key⟩ c v) :: ·)
  | .isMatch :: .opening :: .name root :: .leftBracket :: .text key :: .rightBracket :: .comma ::
      .text pattern :: .closing :: ts =>
    (marks? ts).map (.atom (.isMatch ⟨root, key⟩ pattern) :: ·)
  | _ => none

/-- Wherever the tokens stand, they are read as the marks. -/
def Marks (ts : List Token) (ms : List Mark) : Prop :=
  ∀ rest, marks? (ts ++ rest) = (marks? rest).map (ms ++ ·)

/-! ## Formulas -/

inductive Formula where
  | atom (a : Atom)
  | not (f : Formula)
  | and (f g : Formula)
  | or (f g : Formula)
  deriving DecidableEq

namespace Formula

/-- The truth of a formula on a record, given that of the tests. -/
def holds (truth : Atom → Bool) : Formula → Bool
  | atom a => truth a
  | not f => !f.holds truth
  | and f g => f.holds truth && g.holds truth
  | or f g => f.holds truth || g.holds truth

/-- A formula behind what stands to the left of it, if anything. -/
def behind (op : Formula → Formula → Formula) : Option Formula → Formula → Formula
  | none, f => f
  | some g, f => op g f

theorem holds_behind_and (truth : Atom → Bool) (left : Option Formula) (f : Formula) :
    (behind and left f).holds truth = (left.all (holds truth) && f.holds truth) := by
  cases left <;> rfl

theorem holds_behind_or (truth : Atom → Bool) (left : Option Formula) (f : Formula) :
    (behind or left f).holds truth = (left.any (holds truth) || f.holds truth) := by
  cases left <;> rfl

end Formula

/-- What is read inside one pair of parentheses: the alternatives before the last `or`, the operands
since then, and whether a `not` waits for its operand. -/
structure Level where
  alternatives : Option Formula := none
  conjuncts : Option Formula := none
  negated : Bool := false

namespace Level

/-- An operand is read. -/
def put (l : Level) (f : Formula) : Level where
  alternatives := l.alternatives
  conjuncts := some (.behind .and l.conjuncts (if l.negated then .not f else f))

/-- All that is read at a level. -/
def formula? (l : Level) : Option Formula := l.conjuncts.map (.behind .or l.alternatives)

end Level

/-- A reader between two marks: does it wait for an operand, and at which levels is it. -/
structure Reader where
  waits : Bool
  level : Level
  outer : List Level

def Reader.step (r : Reader) : Mark → Option Reader
  | .atom a => if r.waits then some ⟨false, r.level.put (.atom a), r.outer⟩ else none
  | .not =>
    if r.waits && !r.level.negated then some { r with level := { r.level with negated := true } }
    else none
  | .opening => if r.waits then some ⟨true, {}, r.level :: r.outer⟩ else none
  | .closing =>
    if r.waits then none
    else match r.outer, r.level.formula? with
      | level :: outer, some f => some ⟨false, level.put f, outer⟩
      | _, _ => none
  | .word .and => if r.waits then none else some ⟨true, r.level, r.outer⟩
  | .word .or =>
    if r.waits then none else some ⟨true, { alternatives := r.level.formula? }, r.outer⟩

def Reader.run (r : Reader) (ms : List Mark) : Option Reader := ms.foldlM step r

/-- The formula of a condition, if it can be read. -/
def parse (s : String) : Option Formula := do
  let ms ← marks? (tokens s)
  match ← Reader.run ⟨true, {}, []⟩ ms with
  | ⟨false, level, []⟩ => level.formula?
  | _ => none

example : parse "a[\"x\"] == nil or not IsMatch(a[\"x\"], \"p\") and (a[\"y\"] < 1)" =
    some (.or (.atom (.compare ⟨"a", "x"⟩ .eq .nil))
      (.and (.not (.atom (.isMatch ⟨"a", "x"⟩ "p")))
        (.atom (.compare ⟨"a", "y"⟩ .lt (.int 1))))) := by
  decide +kernel

variable {ts us : List Token} {ms ns : List Mark}

/-! ## From tokens to marks -/

theorem Marks.append (h : Marks ts ms) (h' : Marks us ns) : Marks (ts ++ us) (ms ++ ns) := by
  intro rest
  rw [List.append_assoc, h, h', Option.map_map]
  refine congrArg (Option.map · _) (funext fun _ => ?_)
  simp

theorem Marks.marks? (h : Marks ts ms) : marks? ts = some ms := by
  have hrest := h []
  rw [List.append_nil, Grammar.marks?, Option.map_some, List.append_nil] at hrest
  exact hrest

/-! ## From marks to formulas -/

/-- What a part of a condition says, given the truth of the tests. -/
abbrev Meaning := (Atom → Bool) → Bool

/-- The second level is the first with operands read behind it that mean `b` together. -/
structure Level.Adds (l l' : Level) (b : Meaning) : Prop where
  alternatives : l'.alternatives = l.alternatives
  negated : l'.negated = false
  conjuncts : ∃ f, l'.conjuncts = some f ∧
    ∀ truth, f.holds truth = (l.conjuncts.all (·.holds truth) && b truth)

/-- Wherever an operand may stand, the marks are read as operands that mean `b` together. -/
def Operands (b : Meaning) (ms : List Mark) : Prop :=
  ∀ level outer, level.negated = false →
    ∃ level', Reader.run ⟨true, level, outer⟩ ms = some ⟨false, level', outer⟩ ∧
      level.Adds level' b

/-- Behind whatever alternatives, the marks are read as more of them, which mean `b` together. -/
def Alternatives (b : Meaning) (ms : List Mark) : Prop :=
  ∀ left outer, ∃ level f,
    Reader.run ⟨true, { alternatives := left }, outer⟩ ms = some ⟨false, level, outer⟩ ∧
      level.formula? = some f ∧
      ∀ truth, f.holds truth = (left.any (·.holds truth) || b truth)

theorem run_append (r : Reader) (ms ns : List Mark) :
    r.run (ms ++ ns) = (r.run ms).bind (·.run ns) := List.foldlM_append ..

theorem Level.adds_put (l : Level) (f : Formula) :
    l.Adds (l.put f) fun truth => f.holds truth != l.negated where
  alternatives := rfl
  negated := rfl
  conjuncts := by
    refine ⟨_, rfl, fun truth => ?_⟩
    rw [Formula.holds_behind_and]
    cases l.negated <;> simp [Formula.holds]

theorem Level.Adds.trans {l l' l'' : Level} {b b' : Meaning} (h : l.Adds l' b)
    (h' : l'.Adds l'' b') : l.Adds l'' fun truth => b truth && b' truth where
  alternatives := h'.alternatives.trans h.alternatives
  negated := h'.negated
  conjuncts := by
    obtain ⟨f, hf, hholds⟩ := h.conjuncts
    obtain ⟨g, hg, hholds'⟩ := h'.conjuncts
    refine ⟨g, hg, fun truth => ?_⟩
    rw [hholds', hf, Option.all_some, hholds, Bool.and_assoc]

/-- A test with or without a `not` in front. -/
theorem operands_atom (negated : Bool) (a : Atom) :
    Operands (fun truth => truth a != negated)
      (if negated then [.not, .atom a] else [.atom a]) := by
  intro level outer h
  cases negated with
  | false =>
    refine ⟨_, rfl, ?_⟩
    have hput := level.adds_put (.atom a)
    rwa [h] at hput
  | true =>
    have hput := Level.adds_put { level with negated := true } (.atom a)
    refine ⟨_, ?_, hput.alternatives, hput.negated, hput.conjuncts⟩
    simp [Reader.run, Reader.step, h]

theorem Operands.and {b b' : Meaning} (h : Operands b ms) (h' : Operands b' ns) :
    Operands (fun truth => b truth && b' truth) (ms ++ .word .and :: ns) := by
  intro level outer hl
  obtain ⟨level', hrun, hadds⟩ := h level outer hl
  obtain ⟨level'', hrun', hadds'⟩ := h' level' outer hadds.negated
  refine ⟨level'', ?_, hadds.trans hadds'⟩
  rw [run_append, hrun]
  exact hrun'

/-- Operands joined by `and` are one alternative. -/
theorem Operands.alternatives {b : Meaning} (h : Operands b ms) : Alternatives b ms := by
  intro left outer
  obtain ⟨level, hrun, hadds⟩ := h { alternatives := left } outer rfl
  obtain ⟨f, hf, hholds⟩ := hadds.conjuncts
  refine ⟨level, .behind .or left f, hrun, ?_, fun truth => ?_⟩
  · rw [Level.formula?, hf, hadds.alternatives]
    rfl
  · rw [Formula.holds_behind_or, hholds]
    rfl

theorem Alternatives.or {b b' : Meaning} (h : Alternatives b ms) (h' : Alternatives b' ns) :
    Alternatives (fun truth => b truth || b' truth) (ms ++ .word .or :: ns) := by
  intro left outer
  obtain ⟨level, f, hrun, hf, hholds⟩ := h left outer
  obtain ⟨level', f', hrun', hf', hholds'⟩ := h' (some f) outer
  refine ⟨level', f', ?_, hf', fun truth => ?_⟩
  · rw [← hf] at hrun'
    rw [run_append, hrun]
    exact hrun'
  · rw [hholds', Option.any_some, hholds, Bool.or_assoc]

/-- What is read inside of parentheses is one operand outside of them. -/
theorem Alternatives.enclosed {b : Meaning} (h : Alternatives b ms) :
    Operands b (.opening :: (ms ++ [.closing])) := by
  intro level outer hl
  obtain ⟨inner, f, hrun, hf, hholds⟩ := h none (level :: outer)
  have hput := level.adds_put f
  refine ⟨level.put f, ?_, hput.alternatives, hput.negated, ?_⟩
  · have hclose : Reader.run ⟨false, inner, level :: outer⟩ [.closing] =
        some ⟨false, level.put f, outer⟩ := by
      simp [Reader.run, Reader.step, hf]
    refine (run_append ⟨true, {}, level :: outer⟩ ms [.closing]).trans ?_
    rw [hrun]
    exact hclose
  · simpa [hl, hholds] using hput.conjuncts

/-! ## From texts to formulas -/

/-- The text is read as marks of which `P` holds. -/
def Spells (P : List Mark → Prop) (s : String) : Prop := ∃ ts ms, Lexes s ts ∧ Marks ts ms ∧ P ms

theorem Spells.imp {P Q : List Mark → Prop} {s : String} (h : Spells P s)
    (hPQ : ∀ ms, P ms → Q ms) : Spells Q s := by
  obtain ⟨ts, ms, hlex, hmarks, hP⟩ := h
  exact ⟨ts, ms, hlex, hmarks, hPQ ms hP⟩

/-- A connective between blanks. -/
def spaced : Connective → String
  | .and => " and "
  | .or => " or "

theorem Spells.join {P Q R : List Mark → Prop} {s t : String} (op : Connective)
    (hR : ∀ {ms ns}, P ms → Q ns → R (ms ++ .word op :: ns)) (hs : Spells P s) (ht : Spells Q t) :
    Spells R (s ++ spaced op ++ t) := by
  obtain ⟨ts, ms, hlex, hmarks, hP⟩ := hs
  obtain ⟨us, ns, hlex', hmarks', hQ⟩ := ht
  have hword : ∃ t, Closed (spaced op) [t] ∧ Marks [t] [.word op] := by
    cases op with
    | and => exact ⟨.and, by decide +kernel, fun _ => rfl⟩
    | or => exact ⟨.or, by decide +kernel, fun _ => rfl⟩
  have hapart : Apart (spaced op) := by
    cases op with
    | and => exact ⟨' ', "and ".toList, rfl, rfl⟩
    | or => exact ⟨' ', "or ".toList, rfl, rfl⟩
  obtain ⟨t, hclosed, hmark⟩ := hword
  refine ⟨_, _, (hlex.append_closed hclosed hapart).append_lexes hlex',
    (hmarks.append hmark).append hmarks', ?_⟩
  rw [List.append_assoc]
  exact hR hP hQ

theorem Spells.enclosed {b : Meaning} {s : String} (h : Spells (Alternatives b) s) :
    Spells (Operands b) ("(" ++ s ++ ")") := by
  obtain ⟨ts, ms, hlex, hmarks, hms⟩ := h
  have hopen : Closed "(" [.opening] := by decide +kernel
  have hclose : Closed ")" [.closing] := by decide +kernel
  refine ⟨_, _, ((hopen.append_lexes hlex).append_closed hclose ⟨')', [], rfl, rfl⟩).lexes, ?_,
    hms.enclosed⟩
  have hopening : Marks [.opening] [.opening] := fun _ => rfl
  have hclosing : Marks [.closing] [.closing] := fun _ => rfl
  exact (hopening.append hmarks).append hclosing

/-- A condition is read as one formula. -/
theorem Spells.parse {b : Meaning} {s : String} (h : Spells (Alternatives b) s) :
    ∃ f, parse s = some f ∧ ∀ truth, f.holds truth = b truth := by
  obtain ⟨ts, ms, hlex, hmarks, hms⟩ := h
  obtain ⟨level, f, hrun, hf, hholds⟩ := hms none []
  refine ⟨f, ?_, fun truth => hholds truth⟩
  simp [Grammar.parse, hlex.1, hmarks.marks?, hrun, hf]

end PanelQuery.Pipeline.Grammar
