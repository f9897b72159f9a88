import PanelQuery.Proofs.Agree
import PanelQuery.Sql.Condition

/-! # Reading a clause by precedence

A clause is read from left to right as a row of marks: atoms, parentheses, and the words AND and OR.
AND binds tighter than OR. The reader keeps one level for every open pair of parentheses and refuses
a clause in which an operand is missing, or a parenthesis has no partner. A clause written from
conditions, none of whose groups is empty, reads as what the conditions mean. -/

namespace PanelQuery.Sql.Precedence

/-- A mark of a clause whose atoms are of type `α`. A blank may stand inside of a parenthesis. -/
inductive Mark (α : Type) where
  | atom (a : α)
  | opening (blank : Bool)
  | closing (blank : Bool)
  | word (op : Connective)

/-- What is known inside one pair of parentheses: whether one of the alternatives before the last OR
holds, and whether all operands since then do. -/
structure Level where
  passed : Bool
  current : Bool

namespace Level

def start : Level := ⟨false, true⟩

def value (l : Level) : Bool := l.passed || l.current

/-- An operand of the current alternative is read. -/
def put (l : Level) (b : Bool) : Level := { l with current := l.current && b }

/-- The next alternative begins. -/
def next (l : Level) : Level := ⟨l.value, true⟩

theorem put_put (l : Level) (a b : Bool) : (l.put a).put b = l.put (a && b) := by
  simp [put, Bool.and_assoc]

end Level

/-- A reader between two marks: does it wait for an operand, and at which levels is it. -/
structure Reader where
  waits : Bool
  level : Level
  outer : List Level

section

variable {α : Type} (truth : α → Bool)

def Reader.step (r : Reader) : Mark α → Option Reader
  | .atom a => if r.waits then some ⟨false, r.level.put (truth a), r.outer⟩ else none
  | .opening _ => if r.waits then some ⟨true, .start, r.level :: r.outer⟩ else none
  | .closing _ =>
    if r.waits then none
    else match r.outer with
      | [] => none
      | level :: outer => some ⟨false, level.put r.level.value, outer⟩
  | .word .and => if r.waits then none else some ⟨true, r.level, r.outer⟩
  | .word .or => if r.waits then none else some ⟨true, r.level.next, r.outer⟩

def Reader.run (r : Reader) (marks : List (Mark α)) : Option Reader := marks.foldlM (step truth) r

/-- The truth of a clause, if it can be read. A clause without marks is true. -/
def read (marks : List (Mark α)) : Option Bool :=
  if marks.isEmpty then some true
  else match Reader.run truth ⟨true, .start, []⟩ marks with
    | some ⟨false, level, []⟩ => some level.value
    | _ => none

/-- The clause can be read, and is true if and only if `p` is. -/
def Reads (marks : List (Mark α)) (p : Prop) : Prop :=
  ∃ value, read truth marks = some value ∧ (value = true ↔ p)

/-- Wherever an operand may stand, the marks are read as one with the value `b`. -/
def Operand (marks : List (Mark α)) (b : Bool) : Prop :=
  ∀ level outer, Reader.run truth ⟨true, level, outer⟩ marks = some ⟨false, level.put b, outer⟩

end

/-- Rows of marks with a word between neighbours. -/
def joined {α : Type} (op : Connective) : List (List (Mark α)) → List (Mark α)
  | [] => []
  | [part] => part
  | part :: parts => part ++ .word op :: joined op parts

section

variable {α : Type} {truth : α → Bool}

theorem Reads.imp {marks : List (Mark α)} {p p' : Prop} (h : Reads truth marks p) (hp : p ↔ p') :
    Reads truth marks p' := by
  obtain ⟨value, hr, hv⟩ := h
  exact ⟨value, hr, hv.trans hp⟩

theorem run_append (r : Reader) (a b : List (Mark α)) :
    r.run truth (a ++ b) = (r.run truth a).bind (·.run truth b) := List.foldlM_append ..

theorem run_cons (r : Reader) (m : Mark α) (marks : List (Mark α)) :
    r.run truth (m :: marks) = (r.step truth m).bind (·.run truth marks) := List.foldlM_cons ..

theorem operand_atom (a : α) : Operand truth [.atom a] (truth a) := fun _ _ => rfl

theorem operands_atoms (as : List α) :
    List.Forall₂ (Operand truth) (as.map fun a => [.atom a]) (as.map truth) := by
  rw [List.forall₂_map_left_iff, List.forall₂_map_right_iff]
  exact List.forall₂_same.mpr fun a _ => operand_atom a

/-- What is read inside of parentheses is an operand outside of them. -/
theorem operand_enclosed {marks : List (Mark α)} {b : Bool} (blank blank' : Bool)
    (h : ∀ outer, ∃ level : Level, level.value = b ∧
      Reader.run truth ⟨true, .start, outer⟩ marks = some ⟨false, level, outer⟩) :
    Operand truth (.opening blank :: (marks ++ [.closing blank'])) b := by
  intro level outer
  obtain ⟨inner, rfl, hrun⟩ := h (level :: outer)
  rw [run_cons]
  have hopen : Reader.step truth ⟨true, level, outer⟩ (.opening blank) =
      some ⟨true, .start, level :: outer⟩ := rfl
  rw [hopen, Option.bind_some, run_append, hrun]
  rfl

theorem run_operand {marks : List (Mark α)} {b : Bool} (h : Operand truth marks b) (op : Connective)
    (level : Level) (outer : List Level) (rest : List (Mark α)) :
    Reader.run truth ⟨true, level, outer⟩ (marks ++ .word op :: rest) =
      Reader.run truth ⟨true, match op with
        | .and => level.put b
        | .or => (level.put b).next, outer⟩ rest := by
  rw [run_append, h level outer, Option.bind_some, run_cons]
  cases op <;> rfl

/-- Operands joined by AND are one operand. -/
theorem operand_and {parts : List (List (Mark α))} {bs : List Bool}
    (h : List.Forall₂ (Operand truth) parts bs) (hne : parts ≠ []) :
    Operand truth (joined .and parts) (bs.all id) := by
  induction h with
  | nil => exact absurd rfl hne
  | @cons part b parts bs hpart ht ih =>
    intro level outer
    cases ht with
    | nil =>
      rw [joined, hpart level outer]
      simp
    | cons _ _ =>
      rw [joined, run_operand hpart, ih (by simp) (level.put b) outer, Level.put_put]
      · simp
      · simp

/-- Operands joined by OR, at the start of an alternative. -/
theorem run_or {parts : List (List (Mark α))} {bs : List Bool}
    (h : List.Forall₂ (Operand truth) parts bs) (hne : parts ≠ []) (passed : Bool)
    (outer : List Level) :
    ∃ level : Level, level.value = (passed || bs.any id) ∧
      Reader.run truth ⟨true, ⟨passed, true⟩, outer⟩ (joined .or parts) =
        some ⟨false, level, outer⟩ := by
  induction h generalizing passed with
  | nil => exact absurd rfl hne
  | @cons part b parts bs hpart ht ih =>
    cases ht with
    | nil => exact ⟨_, by simp [Level.value, Level.put], hpart _ outer⟩
    | cons _ _ =>
      obtain ⟨level, hv, hrun⟩ := ih (by simp) (passed || b)
      refine ⟨level, by simpa [Bool.or_assoc] using hv, ?_⟩
      rw [joined, run_operand hpart]
      · simpa [Level.put, Level.next, Level.value] using hrun
      · simp

theorem operand_group (op : Connective) {parts : List (List (Mark α))} {bs : List Bool}
    (h : List.Forall₂ (Operand truth) parts bs) (hne : parts ≠ []) (blank blank' : Bool) :
    Operand truth (.opening blank :: (joined op parts ++ [.closing blank']))
      (match op with | .and => bs.all id | .or => bs.any id) := by
  refine operand_enclosed blank blank' fun outer => ?_
  cases op with
  | and => exact ⟨_, by simp [Level.start, Level.put, Level.value], operand_and h hne .start outer⟩
  | or =>
    obtain ⟨level, hv, hrun⟩ := run_or h hne false outer
    exact ⟨level, by simpa using hv, hrun⟩

/-- A clause of operands joined by AND reads as all of them. -/
theorem read_joined {parts : List (List (Mark α))} {bs : List Bool}
    (h : List.Forall₂ (Operand truth) parts bs) :
    read truth (joined .and parts) = some (bs.all id) := by
  by_cases hne : parts = []
  · subst hne
    cases h
    rfl
  · have hrun := operand_and h hne .start []
    have hmarks : (joined .and parts).isEmpty = false := by
      rw [List.isEmpty_eq_false_iff]
      intro he
      rw [he] at hrun
      cases hrun
    rw [read, hmarks, hrun]
    simp [Level.start, Level.put, Level.value]

end

/-! ## Conditions -/

/-- Every pair of parentheses has a condition inside. -/
inductive Proper : Condition → Prop
  | atom (s : Sql) : Proper (.atom s)
  | group (op : Connective) {parts : List Condition} (hne : parts ≠ [])
      (h : ∀ part ∈ parts, Proper part) : Proper (.group op parts)
  | padded {parts : List Condition} (hne : parts ≠ []) (h : ∀ part ∈ parts, Proper part) :
      Proper (.padded parts)

section

variable {α : Type} (f : Sql → α)

mutual

/-- The marks of a condition. Every atom is one mark. -/
def marks : Condition → List (Mark α)
  | .atom s => [.atom (f s)]
  | .group op parts => .opening false :: (joined op (partsMarks parts) ++ [.closing false])
  | .padded parts => .opening true :: (joined .and (partsMarks parts) ++ [.closing true])

def partsMarks : List Condition → List (List (Mark α))
  | [] => []
  | part :: parts => marks part :: partsMarks parts

end

theorem partsMarks_eq_map (parts : List Condition) : partsMarks f parts = parts.map (marks f) := by
  induction parts with
  | nil => rw [partsMarks, List.map_nil]
  | cons part parts ih => rw [partsMarks, ih, List.map_cons]

/-- The text of a mark, given that of its atoms. -/
def Mark.sql (text : α → Sql) : Mark α → Sql
  | .atom a => text a
  | .opening blank => raw (if blank then "( " else "(")
  | .closing blank => raw (if blank then " )" else ")")
  | .word op => raw (" " ++ op.word ++ " ")

/-- The text of a row of marks. -/
def marksSql (text : α → Sql) (ms : List (Mark α)) : Sql := ms.flatMap (Mark.sql text)

variable {f} {text : α → Sql}

theorem marksSql_append (a b : List (Mark α)) :
    marksSql text (a ++ b) = marksSql text a ++ marksSql text b := List.flatMap_append

theorem marksSql_joined (op : Connective) (parts : List (List (Mark α))) :
    marksSql text (joined op parts) =
      Sql.join (" " ++ op.word ++ " ") (parts.map (marksSql text)) := by
  induction parts with
  | nil => rfl
  | cons part parts ih =>
    cases parts with
    | nil => rfl
    | cons next parts =>
      rw [joined, marksSql_append, List.map_cons, List.map_cons, Sql.join, List.append_assoc]
      · exact congrArg (fun rest => marksSql text part ++ (raw (" " ++ op.word ++ " ") ++ rest)) ih
      · simp
      · simp

theorem partsSql_eq_join (op : Connective) (parts : List Condition) :
    Condition.partsSql op parts = Sql.join (" " ++ op.word ++ " ") (parts.map Condition.sql) := by
  induction parts with
  | nil => rw [Condition.partsSql, List.map_nil, Sql.join]
  | cons part parts ih =>
    cases parts with
    | nil => rw [Condition.partsSql, List.map_cons, List.map_nil, Sql.join]
    | cons next parts =>
      rw [Condition.partsSql.eq_def, List.map_cons, List.map_cons, Sql.join]
      · exact congrArg (part.sql ++ raw (" " ++ op.word ++ " ") ++ ·) ih
      · simp

mutual

/-- The marks of a condition have its text. -/
theorem marksSql_marks (hf : ∀ s, text (f s) = s) : ∀ c : Condition,
    marksSql text (marks f c) = c.sql
  | .atom s => by
    rw [marks, Condition.sql, marksSql, List.flatMap_singleton]
    exact hf s
  | .group op parts => by
    rw [marks, Condition.sql, partsSql_eq_join, ← map_partsMarks hf parts, ← marksSql_joined,
      List.append_assoc, ← List.singleton_append, marksSql_append, marksSql_append]
    rfl
  | .padded parts => by
    rw [marks, Condition.sql, partsSql_eq_join, ← map_partsMarks hf parts, ← marksSql_joined,
      List.append_assoc, ← List.singleton_append, marksSql_append, marksSql_append]
    rfl

theorem map_partsMarks (hf : ∀ s, text (f s) = s) : ∀ parts : List Condition,
    (partsMarks f parts).map (marksSql text) = parts.map Condition.sql
  | [] => by rw [partsMarks, List.map_nil, List.map_nil]
  | part :: parts => by
    rw [partsMarks, List.map_cons, List.map_cons, marksSql_marks hf part, map_partsMarks hf parts]

end

/-! ## The meaning of a condition -/

variable {truth : α → Bool}

theorem allHold_eq_all (holds : Sql → Bool) (parts : List Condition) :
    Condition.allHold holds parts = parts.all (·.holds holds) := by
  induction parts with
  | nil => rw [Condition.allHold, List.all_nil]
  | cons part parts ih => rw [Condition.allHold, List.all_cons, ih]

theorem anyHolds_eq_any (holds : Sql → Bool) (parts : List Condition) :
    Condition.anyHolds holds parts = parts.any (·.holds holds) := by
  induction parts with
  | nil => rw [Condition.anyHolds, List.any_nil]
  | cons part parts ih => rw [Condition.anyHolds, List.any_cons, ih]

theorem atom_mem_joined {op : Connective} {a : α} {parts : List (List (Mark α))} :
    .atom a ∈ joined op parts ↔ ∃ part ∈ parts, .atom a ∈ part := by
  induction parts with
  | nil => simp [joined]
  | cons part parts ih =>
    cases parts with
    | nil => simp [joined]
    | cons next parts =>
      rw [joined, List.mem_append, List.mem_cons, ih, List.exists_mem_cons_iff]
      · simp
      · simp

theorem atom_mem_group {op : Connective} {a : α} {parts : List Condition} :
    .atom a ∈ marks f (.group op parts) ↔ ∃ part ∈ parts, .atom a ∈ marks f part := by
  rw [marks, partsMarks_eq_map]
  simp [atom_mem_joined]

theorem operands_of_forall {parts : List Condition} {b : Condition → Bool}
    (h : ∀ part ∈ parts, Operand truth (marks f part) (b part)) :
    List.Forall₂ (Operand truth) (parts.map (marks f)) (parts.map b) := by
  rw [List.forall₂_map_left_iff, List.forall₂_map_right_iff]
  exact List.forall₂_same.mpr h

/-- The marks of a proper condition are an operand that means what the condition means. -/
theorem Proper.operand {c : Condition} (h : Proper c) :
    Operand truth (marks f c) (c.holds fun s => truth (f s)) := by
  induction h with
  | atom s =>
    rw [marks, Condition.holds]
    exact operand_atom (f s)
  | @group op parts hne _ ih =>
    have hgroup := operand_group op (operands_of_forall ih) (by simpa using hne) false false
    rw [marks, partsMarks_eq_map]
    cases op with
    | and =>
      rw [Condition.holds, allHold_eq_all]
      simpa using hgroup
    | or =>
      rw [Condition.holds, anyHolds_eq_any]
      simpa using hgroup
  | @padded parts hne _ ih =>
    have hgroup := operand_group .and (operands_of_forall ih) (by simpa using hne) true true
    rw [marks, partsMarks_eq_map, Condition.holds, allHold_eq_all]
    simpa using hgroup

end

/-! ## Clauses -/

/-- The marks of conditions joined by AND. -/
def clause (conditions : List Condition) : List (Mark Sql) :=
  joined .and (conditions.map (marks id))

theorem marksSql_clause (conditions : List Condition) :
    marksSql id (clause conditions) = conjunction conditions := by
  rw [clause, marksSql_joined, List.map_map, conjunction, partsSql_eq_join]
  exact congrArg _ (List.map_congr_left fun c _ => marksSql_marks (fun _ => rfl) c)

/-- A clause of proper conditions reads as all of them. -/
theorem reads_clause {conditions : List Condition} (h : ∀ c ∈ conditions, Proper c)
    (truth : Sql → Bool) :
    Reads truth (clause conditions) (∀ c ∈ conditions, c.holds truth = true) := by
  refine ⟨_, read_joined (operands_of_forall fun c hc => (h c hc).operand), ?_⟩
  simp

end PanelQuery.Sql.Precedence
