import PanelQuery.Proofs.Sql.Tree

/-! # Names and their columns

A statement is cut into its clauses, and its select list into columns. `WellScoped` says that every
name by which a clause refers to a column is one of the select list of its own statement, and that a
statement over another one selects only from columns which that one has. -/

namespace PanelQuery.Sql

open PanelQuery.Sql.Tree (isPlain isTerm isComma isGlobal isWord)

/-! ## Clauses -/

/-- The trees in front of the first clause, and the clauses. -/
def clauses : List Tree → List Tree × List (Keyword × List Tree)
  | [] => ([], [])
  | t :: ts => match t.keyword? with
    | some k => ([], (k, (clauses ts).1) :: (clauses ts).2)
    | none => (t :: (clauses ts).1, (clauses ts).2)

/-- What stands behind the word of a clause, or nothing if there is no such clause. -/
def clause (k : Keyword) (ts : List Tree) : List Tree := ((clauses ts).2.lookup k).getD []

/-- The trees are these clauses. -/
inductive Laid : List Tree → List (Keyword × List Tree) → Prop
  | nil : Laid [] []
  | cons {k : Keyword} {t : Tree} {content ts : List Tree} {cs : List (Keyword × List Tree)}
      (hk : t.keyword? = some k) (hcontent : ∀ u ∈ content, u.keyword? = none) (h : Laid ts cs) :
      Laid (t :: (content ++ ts)) ((k, content) :: cs)

theorem clauses_append {content : List Tree} (h : ∀ u ∈ content, u.keyword? = none)
    (ts : List Tree) : clauses (content ++ ts) = (content ++ (clauses ts).1, (clauses ts).2) := by
  induction content with
  | nil => rfl
  | cons u content ih =>
    rw [List.forall_mem_cons] at h
    rw [List.cons_append, clauses, h.1, ih h.2]
    rfl

namespace Laid

variable {a b : List Tree} {cs ds : List (Keyword × List Tree)}

theorem clauses_eq (h : Laid a cs) : clauses a = ([], cs) := by
  induction h with
  | nil => rfl
  | @cons k t content ts cs hk hcontent _ ih =>
    rw [clauses, hk, clauses_append hcontent, ih, List.append_nil]

theorem append (ha : Laid a cs) (hb : Laid b ds) : Laid (a ++ b) (cs ++ ds) := by
  induction ha with
  | nil => exact hb
  | cons hk hcontent _ ih =>
    rw [List.cons_append, List.append_assoc]
    exact cons hk hcontent ih

/-- A single clause. -/
theorem one {k : Keyword} {t : Tree} {content : List Tree} (hk : t.keyword? = some k)
    (hcontent : ∀ u ∈ content, u.keyword? = none) : Laid (t :: content) [(k, content)] := by
  simpa using cons hk hcontent nil

theorem clause_eq (h : Laid a cs) (k : Keyword) : clause k a = (cs.lookup k).getD [] := by
  rw [clause, h.clauses_eq]

end Laid

/-- The part is read as these clauses. -/
def Lays (s : Sql) (cs : List (Keyword × List Tree)) : Prop := ∃ ts, Reads s ts ∧ Laid ts cs

/-- The part goes on with these clauses after any other. -/
def GoesOn (s : Sql) (cs : List (Keyword × List Tree)) : Prop := ∃ ts, Follows s ts ∧ Laid ts cs

section

variable {a b : Sql} {cs ds : List (Keyword × List Tree)}

theorem goesOn_nil : GoesOn [] [] := ⟨[], follows_nil, .nil⟩

theorem GoesOn.append (ha : GoesOn a cs) (hb : GoesOn b ds) : GoesOn (a ++ b) (cs ++ ds) := by
  obtain ⟨ts, ha, hts⟩ := ha
  obtain ⟨us, hb, hus⟩ := hb
  exact ⟨ts ++ us, ha.append hb, hts.append hus⟩

theorem GoesOn.of_signs (h : GoesOn a cs) (hs : signs b = signs a) : GoesOn b cs :=
  h.imp fun _ h => ⟨h.1.of_signs hs, h.2⟩

theorem Lays.append (ha : Lays a cs) (hb : GoesOn b ds) : Lays (a ++ b) (cs ++ ds) := by
  obtain ⟨ts, ha, hts⟩ := ha
  obtain ⟨us, hb, hus⟩ := hb
  exact ⟨ts ++ us, hb _ _ ha, hts.append hus⟩

end

/-! ## Names -/

/-- Words that are no names, and numbers. -/
def isReserved (cs : List Char) : Bool :=
  (cs.head?.map Char.isDigit).getD false ||
    ["and", "as", "asc", "by", "desc", "false", "global", "in", "not", "null", "true"].any
      (·.toList == cs.map Char.toLower)

namespace Tree

def name? : Tree → Option String
  | .word cs => if isReserved cs then none else some (String.ofList cs)
  | .name n | .ticked n => some n
  | _ => none

mutual

/-- The names in a tree. The name of a function is none of them. -/
def names : Tree → List String
  | .word cs => if isReserved cs then [] else [String.ofList cs]
  | .name n | .ticked n => [n]
  | .group items => namesIn items
  | _ => []

def namesIn : List Tree → List String
  | [] => []
  | t :: ts => t.names ++ namesIn ts

end

end Tree

open PanelQuery.Sql.Tree (namesIn)

/-! ## Columns -/

/-- The parts of a list between its commas. -/
def items (ts : List Tree) : List (List Tree) := ts.splitOnP isComma

/-- The name of a column is the one after AS, or the only one. -/
def columnName? (item : List Tree) : Option String :=
  match item.reverse with
  | [] => none
  | [t] => t.name?
  | t :: word :: _ => if word.isWord ['a', 's'] then t.name? else none

/-- What a column is computed from. -/
def expression (item : List Tree) : List Tree :=
  match item.reverse with
  | _ :: word :: rest => if word.isWord ['a', 's'] then rest.reverse else item
  | _ => item

/-- The names of the columns in a select list. -/
def columnsOf (list : List Tree) : List String := (items list).filterMap columnName?

/-- The columns of a statement. -/
def columns (ts : List Tree) : List String := columnsOf (clause .select ts)

/-- The names that the select list reads. -/
def selectReads (ts : List Tree) : List String :=
  (items (clause .select ts)).flatMap fun item => namesIn (expression item)

/-- The names of the keys that a condition restricts to groups. -/
def restricted : List Tree → List String
  | [] => []
  | t :: ts => (if (ts.head?.map isGlobal).getD false then t.names else []) ++ restricted ts

/-- The names by which the clauses refer to columns of the select list. -/
def clauseReads (ts : List Tree) : List String :=
  namesIn (clause .group ts) ++ namesIn (clause .having ts) ++ namesIn (clause .order ts) ++
    restricted (clause .where ts)

/-- The statement in parentheses that the statement selects from. -/
def derived? (ts : List Tree) : Option (List Tree) :=
  match clause .from ts with
  | [.group inner] => some inner
  | _ => none

/-- Every name that is read has a column. -/
inductive WellScoped : List Tree → Prop
  | table {ts : List Tree} (hsource : derived? ts = none)
      (hclauses : ∀ n ∈ clauseReads ts, n ∈ columns ts) : WellScoped ts
  | derived {ts inner : List Tree} (hsource : derived? ts = some inner)
      (hclauses : ∀ n ∈ clauseReads ts, n ∈ columns ts)
      (hselect : ∀ n ∈ selectReads ts, n ∈ columns inner) (h : WellScoped inner) : WellScoped ts

/-! ## Order and HAVING -/

/-- An item of an order, with its direction as it is written. -/
def orderItem? : List Tree → Option (Tree × List Char)
  | [t, .word d] => if d.map Char.toLower ∈ [['a', 's', 'c'], ['d', 'e', 's', 'c']] then some (t, d)
    else none
  | _ => none

/-- The items of an ORDER BY clause, with nothing for an item that is none. -/
def orderItems : List Tree → List (Option (Tree × List Char))
  | [] => []
  | t :: ts => if t.isWord ['b', 'y'] then (items ts).map orderItem? else [none]

/-- What the conditions of a HAVING clause begin with. -/
def subjects (ts : List Tree) : List (Option Tree) :=
  if ts.isEmpty then [] else (ts.splitOnP (isWord ['a', 'n', 'd'])).map List.head?

/-! ## Lists of names and columns -/

theorem namesIn_append (a b : List Tree) : namesIn (a ++ b) = namesIn a ++ namesIn b := by
  induction a with
  | nil => rfl
  | cons t a ih => rw [List.cons_append, namesIn, namesIn, ih, List.append_assoc]

theorem namesIn_intercalate {t : Tree} (ht : t.names = []) (parts : List (List Tree)) :
    namesIn ([t].intercalate parts) = parts.flatMap namesIn := by
  induction parts with
  | nil => rfl
  | cons part parts ih =>
    cases parts with
    | nil => rw [List.intercalate_singleton, List.flatMap_singleton]
    | cons next parts =>
      rw [List.intercalate_cons_cons, namesIn_append, namesIn_append, ih, List.flatMap_cons,
        namesIn, ht]
      simp [namesIn]

/-- No name stands between the items of a list. -/
theorem namesIn_items (ts : List Tree) : namesIn ts = (items ts).flatMap namesIn := by
  induction ts with
  | nil => simp [items, namesIn]
  | cons t ts ih =>
    rw [items, List.splitOnP_cons_eq_if_modifyHead, namesIn, ih]
    split
    · next ht =>
      cases t with
      | comma => rfl
      | _ => cases ht
    · obtain ⟨item, rest, hitems⟩ := List.exists_cons_of_ne_nil (List.splitOnP_ne_nil isComma ts)
      rw [items, hitems, List.modifyHead_cons, List.flatMap_cons, List.flatMap_cons, namesIn,
        List.append_assoc]

theorem forall_mem_intercalate {P : Tree → Prop} {t : Tree} (ht : P t) {parts : List (List Tree)}
    (h : ∀ part ∈ parts, ∀ u ∈ part, P u) : ∀ u ∈ [t].intercalate parts, P u := by
  induction parts with
  | nil => exact nofun
  | cons part parts ih =>
    rw [List.forall_mem_cons] at h
    cases parts with
    | nil => simpa using h.1
    | cons next parts =>
      rw [List.intercalate_cons_cons, List.forall_mem_append, List.forall_mem_append,
        List.forall_mem_singleton]
      exact ⟨⟨h.1, ht⟩, ih h.2⟩

/-- Parts are found again between their separators. -/
theorem splitOnP_intercalate {p : Tree → Bool} {t : Tree} (ht : p t = true)
    {parts : List (List Tree)} (hne : parts ≠ []) (h : ∀ part ∈ parts, ∀ u ∈ part, p u = false) :
    ([t].intercalate parts).splitOnP p = parts := by
  induction parts with
  | nil => exact absurd rfl hne
  | cons part parts ih =>
    rw [List.forall_mem_cons] at h
    cases parts with
    | nil => exact (congrArg _ List.intercalate_singleton).trans (List.splitOnP_eq_singleton h.1)
    | cons next parts =>
      rw [List.intercalate_cons_cons, List.append_assoc, List.singleton_append,
        List.splitOnP_append_cons_of_forall_mem h.1 t ht, ih (by simp) h.2]

/-- The first column of a list. -/
theorem columnsOf_item {item : List Tree} (h : ∀ t ∈ item, isComma t = false) {n : String}
    (hn : columnName? item = some n) (list : List Tree) :
    columnsOf (item ++ .comma :: list) = n :: columnsOf list := by
  rw [columnsOf, items, List.splitOnP_append_cons_of_forall_mem h .comma rfl,
    List.filterMap_cons_some hn]
  rfl

/-- The last column of a list. -/
theorem columnsOf_last {item : List Tree} (h : ∀ t ∈ item, isComma t = false) {n : String}
    (hn : columnName? item = some n) : columnsOf item = [n] := by
  rw [columnsOf, items, List.splitOnP_eq_singleton h, List.filterMap_cons_some hn]
  rfl

/-- A column is called by the name after AS. -/
theorem columnName?_as (item : List Tree) {word t : Tree} (hword : word.isWord ['a', 's'] = true) :
    columnName? (item ++ [word, t]) = t.name? := by
  have hreverse : (item ++ [word, t]).reverse = t :: word :: item.reverse := by simp
  rw [columnName?, hreverse]
  exact if_pos hword

/-- Nothing is restricted in front of a condition with no restriction. -/
theorem restricted_append {a b : List Tree} (ha : ∀ t ∈ a, isGlobal t = false)
    (hb : (b.head?.map isGlobal).getD false = false) : restricted (a ++ b) = restricted b := by
  induction a with
  | nil => rfl
  | cons t a ih =>
    rw [List.forall_mem_cons] at ha
    have hnext : ((a ++ b).head?.map isGlobal).getD false = false := by
      cases a with
      | nil => exact hb
      | cons u a => exact ha.2 u (by simp)
    rw [List.cons_append, restricted, hnext, ih ha.2]
    rfl

theorem names_of_isWord {t : Tree} {lower : List Char} (h : t.isWord lower = true)
    (hlower : lower = ['b', 'y'] ∨ lower = ['a', 's', 'c'] ∨ lower = ['d', 'e', 's', 'c']) :
    t.names = [] := by
  cases t with
  | word cs =>
    have hcs : cs.map Char.toLower = lower := by simpa [isWord] using h
    have hreserved : isReserved cs = true := by
      rw [isReserved, hcs]
      rcases hlower with rfl | rfl | rfl <;> simp
    rw [Tree.names, if_pos hreserved]
  | _ => cases h

theorem names_of_orderItem {item : List Tree} {term : Tree × List Char}
    (h : orderItem? item = some term) : namesIn item = term.1.names := by
  unfold orderItem? at h
  split at h
  · next t d =>
    split at h
    · next hd =>
      cases h
      have hword : (Tree.word d).names = [] := by
        simp only [List.mem_cons, List.not_mem_nil, or_false] at hd
        have hlower : (Tree.word d).isWord (d.map Char.toLower) = true := by simp [isWord]
        exact names_of_isWord hlower (.inr hd)
      simp [namesIn, hword]
    · cases h
  · cases h

/-- The names of an order are those of its terms. -/
theorem names_of_orderItems {ts : List Tree} {terms : List (Tree × List Char)}
    (h : orderItems ts = terms.map some) : namesIn ts = terms.flatMap fun term => term.1.names := by
  have hitems : ∀ {parts : List (List Tree)} {terms : List (Tree × List Char)},
      parts.map orderItem? = terms.map some →
        parts.flatMap namesIn = terms.flatMap fun term => term.1.names := by
    intro parts
    induction parts with
    | nil =>
      intro terms h
      cases terms with
      | nil => rfl
      | cons => cases h
    | cons part parts ih =>
      intro terms h
      cases terms with
      | nil => cases h
      | cons term terms =>
        obtain ⟨hpart, hparts⟩ := List.cons.inj h
        rw [List.flatMap_cons, List.flatMap_cons, names_of_orderItem hpart, ih hparts]
  cases ts with
  | nil =>
    cases terms with
    | nil => rfl
    | cons => cases h
  | cons t ts =>
    rw [orderItems] at h
    split at h
    · next ht =>
      rw [namesIn, names_of_isWord ht (.inl rfl), namesIn_items, hitems h, List.nil_append]
    · rcases terms with _ | ⟨term, terms⟩ <;> cases h

end PanelQuery.Sql
