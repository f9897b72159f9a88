import PanelQuery.Proofs.Agree
import PanelQuery.Proofs.Pipeline.Grammar
import PanelQuery.Proofs.Pipeline.Marker
import PanelQuery.Proofs.Pipeline.Regex

/-! # A written selection asks what the filter asks

An item of a filter asks a record for a row of tests, all of which must hold: that the field is
there, say, and that it does not match. The selection that is written for the filter is read back as
all of the items or one of them, with the keys and values of the items in its tests. -/

namespace PanelQuery.Pipeline

namespace Grammar

/-! ## What items ask -/

/-- The field of a key that lies in a map. -/
def Field.ofKey (key : AttributeKey) : Field where
  root := if key.kind = .resource then "resource.attributes" else "attributes"
  key := key.name

/-- A value that is compared as it is. -/
def Operand.ofValue? : FilterValue → Option Operand
  | .null => some .nil
  | .bool b => some (.bool b)
  | .int n => some (.int n.toInt)
  | .text s => some (.text s)
  | .float _ | .array _ => none

/-- A test that must hold, or must not. -/
structure Conjunct where
  negated : Bool
  atom : Atom

def Conjunct.holds (truth : Atom → Bool) (c : Conjunct) : Bool := truth c.atom != c.negated

/-- The field is there. -/
def Conjunct.present (f : Field) : Conjunct := ⟨false, .compare f .ne .nil⟩

/-- The tests of an item. A text that is searched for is the pattern of its own characters. -/
def conjuncts (item : FilterItem) : List Conjunct :=
  let field := Field.ofKey item.key
  match item.op with
  | .compare c => (Operand.ofValue? item.value).toList.map fun v => ⟨false, .compare field c v⟩
  | .regex negated => [.present field, ⟨negated, .isMatch field item.value.plain⟩]
  | .contains negated => [.present field, ⟨negated, .isMatch field (verbatim item.value.plain)⟩]
  | .presence negated => [⟨false, .compare field (if negated then .eq else .ne) .nil⟩]
  | .like _ | .member _ | .has _ => []

/-- What an item asks of a record, given the truth of tests on it. -/
def asks (item : FilterItem) : Meaning := fun truth => (conjuncts item).all (·.holds truth)

/-- What a filter asks: all of its items, or one of them. -/
def asksFor (filter : FilterSet) : Meaning := fun truth =>
  match filter.op with
  | .and => filter.items.all (asks · truth)
  | .or => filter.items.any (asks · truth)

/-! ## Pieces of a clause -/

def fieldTokens (f : Field) : List Token :=
  [.name f.root, .leftBracket, .text f.key, .rightBracket]

theorem closed_keyPath {key : AttributeKey} (h : key.kind ≠ .unspecified) :
    Closed (keyPath key) (fieldTokens (.ofKey key)) := by
  have hbracket : Apart (index key.name) := by
    refine ⟨'[', (quote key.name ++ "]").toList, ?_, rfl⟩
    simp [index, String.toList_append]
  have hroot : ∀ {root : String}, Lexes root [.name root] →
      Closed (root ++ index key.name) (fieldTokens ⟨root, key.name⟩) := fun hlex =>
    hlex.append_closed (closed_index key.name) hbracket
  unfold keyPath Field.ofKey
  cases hkind : key.kind with
  | unspecified => exact absurd hkind h
  | tag => exact hroot (by decide +kernel)
  | resource => exact hroot (by decide +kernel)

/-- A literal is one token, which is the operand of the value. -/
theorem lexes_literal {value : FilterValue} {l : Literal} (h : Literal.ofValue value = .ok l)
    (hfloat : ∀ x, value ≠ .float x) : ∃ t v, Lexes l.written [t] ∧ Operand.ofToken? t = some v ∧
      Operand.ofValue? value = some v := by
  cases value with
  | null =>
    cases h
    exact ⟨.nil, .nil, by decide +kernel, rfl, rfl⟩
  | bool b =>
    cases h
    cases b with
    | false => exact ⟨.bool false, .bool false, by decide +kernel, rfl, rfl⟩
    | true => exact ⟨.bool true, .bool true, by decide +kernel, rfl, rfl⟩
  | int n =>
    cases h
    exact ⟨.int n.toInt, .int n.toInt, lexes_int n.toInt, rfl, rfl⟩
  | float x => exact absurd rfl (hfloat x)
  | text s =>
    cases h
    exact ⟨.text s, .text s, (closed_quote s).lexes, rfl, rfl⟩
  | array items => cases h

theorem closed_sign (c : Comparison) : Closed (" " ++ sign c ++ " ") [.sign c] := by
  cases c <;> decide +kernel

theorem marks_compare (f : Field) (c : Comparison) {t : Token} {v : Operand}
    (h : Operand.ofToken? t = some v) :
    Marks (fieldTokens f ++ [.sign c, t]) [.atom (.compare f c v)] := by
  intro rest
  simp [fieldTokens, marks?, h]

/-- The text of a comparison is read as that test. -/
theorem spells_compare {path value : String} {f : Field} (hpath : Closed path (fieldTokens f))
    (c : Comparison) {t : Token} {v : Operand} (hvalue : Lexes value [t])
    (ht : Operand.ofToken? t = some v) :
    Spells (Operands fun truth => truth (.compare f c v))
      (path ++ " " ++ sign c ++ " " ++ value) := by
  have hlex := (hpath.append (closed_sign c)).append_lexes hvalue
  have hatom := operands_atom false (.compare f c v)
  simp only [Bool.bne_false] at hatom
  refine ⟨_, _, ?_, marks_compare f c ht, hatom⟩
  simpa [String.append_assoc, List.append_assoc] using hlex

/-- The text of a match is read as that test, and with `not` in front as its opposite. -/
theorem spells_isMatch {path : String} {f : Field} (hpath : Closed path (fieldTokens f))
    (negated : Bool) (pattern : String) :
    Spells (Operands fun truth => truth (.isMatch f pattern) != negated)
      ((if negated then "not " else "") ++ "IsMatch(" ++ path ++ ", " ++ quote pattern ++ ")") := by
  have hnot : Closed (if negated then "not " else "") (if negated then [.not] else []) := by
    cases negated <;> decide +kernel
  have hopen : Closed "IsMatch(" [.isMatch, .opening] := by decide +kernel
  have hcomma : Closed ", " [.comma] := by decide +kernel
  have hclose : Closed ")" [.closing] := by decide +kernel
  have hlex := ((((hnot.append hopen).append hpath).append hcomma).append
    (closed_quote pattern)).append hclose
  refine ⟨_, _, hlex.lexes, ?_, operands_atom negated (.isMatch f pattern)⟩
  intro rest
  cases negated with
  | false => simp [fieldTokens, marks?]
  | true =>
    simp [fieldTokens, marks?]
    rfl

/-- The presence of a field, or its absence. -/
theorem spells_presence {path : String} {f : Field} (hpath : Closed path (fieldTokens f))
    (absent : Bool) :
    Spells (Operands fun truth => truth (.compare f (if absent then .eq else .ne) .nil))
      (path ++ (if absent then " == nil" else " != nil")) := by
  have hnil : Lexes "nil" [.nil] := by decide +kernel
  have hcompare := spells_compare hpath (if absent then .eq else .ne) hnil rfl
  cases absent <;> simpa [String.append_assoc, sign, Comparison.word] using hcompare

/-! ## Clauses -/

/-- A match is asked for with the presence of the field. -/
theorem spells_matching {path : String} {f : Field} (hpath : Closed path (fieldTokens f))
    (negated : Bool) (pattern : String) :
    Spells (Operands fun truth =>
        [Conjunct.present f, ⟨negated, .isMatch f pattern⟩].all (·.holds truth))
      (Clause.matching path negated pattern).written := by
  have hjoined := (spells_presence hpath false).join .and Operands.and
    (spells_isMatch hpath negated pattern)
  have htext : " != nil and " = " != nil" ++ spaced .and := by decide +kernel
  rw [Clause.written, htext]
  simpa [String.append_assoc, Conjunct.present, Conjunct.holds] using hjoined

/-- The text of a clause is read as the tests of its item. -/
theorem spells_clause {item : FilterItem} {c : Clause} (h : Clause.ofItem item = .ok c)
    (hkind : item.key.kind ≠ .unspecified) (hfloat : ∀ x, item.value ≠ .float x) :
    Spells (Operands (asks item)) c.written := by
  have hpath := closed_keyPath hkind
  unfold Clause.ofItem at h
  unfold asks
  cases hop : item.op with
  | compare c =>
    rw [hop] at h
    obtain ⟨l, hl, h⟩ := ok_of_bind h
    cases h
    obtain ⟨t, v, hlex, ht, hv⟩ := lexes_literal hl hfloat
    have hcompare := spells_compare hpath c hlex ht
    simpa [conjuncts, hop, hv, Conjunct.holds, Clause.written] using hcompare
  | regex negated =>
    rw [hop] at h
    cases h
    simp only [conjuncts, hop]
    exact spells_matching hpath negated item.value.plain
  | contains negated =>
    rw [hop] at h
    cases h
    simp only [conjuncts, hop]
    exact spells_matching hpath negated (verbatim item.value.plain)
  | presence negated =>
    rw [hop] at h
    cases h
    have hpresence := spells_presence hpath negated
    simpa [conjuncts, hop, Conjunct.holds, Clause.written] using hpresence
  | like | member | has =>
    rw [hop] at h
    cases h

/-! ## Selections -/

/-- Texts joined by one connective are read as all of them, if two are. -/
theorem spells_joined {α : Type} {P : Meaning → List Mark → Prop} {one : α → Meaning}
    (op : Connective) (combine : Bool → Bool → Bool) (all : List α → Meaning)
    (hP : ∀ {b b' : Meaning} {ms ns : List Mark}, P b ms → P b' ns →
      P (fun truth => combine (b truth) (b' truth)) (ms ++ .word op :: ns))
    (hone : ∀ a, all [a] = one a)
    (hcons : ∀ a as, all (a :: as) = fun truth => combine (one a truth) (all as truth))
    {as : List α} {texts : List String}
    (h : List.Forall₂ (fun a s => Spells (P (one a)) s) as texts) (hne : as ≠ []) :
    Spells (P (all as)) (Text.join (spaced op) texts) := by
  induction h with
  | nil => exact absurd rfl hne
  | @cons a text as texts ha hrest ih =>
    cases hrest with
    | nil =>
      rw [hone]
      exact ha
    | cons _ _ =>
      rw [hcons, Text.join]
      · exact ha.join op hP (ih (List.cons_ne_nil _ _))
      · exact List.cons_ne_nil _ _

/-- What is written for a filter with items is one alternative. -/
theorem spells_written {filter : FilterSet} {clauses : List Clause}
    (h : List.Forall₂ (fun item c => Spells (Operands (asks item)) c.written) filter.items clauses)
    (hne : clauses ≠ []) :
    Spells (Alternatives (asksFor filter)) (Selection.written ⟨filter.op, clauses⟩) := by
  obtain ⟨op, items⟩ := filter
  have hitems : items ≠ [] := by
    rintro rfl
    cases h
    exact hne rfl
  cases op with
  | and =>
    have hjoined := spells_joined .and Bool.and (fun items truth => items.all (asks · truth))
      Operands.and (fun a => by simp) (fun a as => by simp) (List.forall₂_map_right_iff.mpr h)
      hitems
    obtain ⟨c, clauses, rfl⟩ := List.exists_cons_of_ne_nil hne
    exact hjoined.imp fun ms => Operands.alternatives
  | or =>
    have henclosed : List.Forall₂ (fun item s => Spells (Alternatives (asks item)) s) items
        (clauses.map fun c => "(" ++ c.written ++ ")") := by
      rw [List.forall₂_map_right_iff]
      refine h.imp fun item c hc => ?_
      exact (hc.imp fun _ => Operands.alternatives).enclosed.imp fun _ => Operands.alternatives
    have hjoined := spells_joined .or Bool.or (fun items truth => items.any (asks · truth))
      Alternatives.or (fun a => by simp) (fun a as => by simp) henclosed hitems
    obtain ⟨c, clauses, rfl⟩ := List.exists_cons_of_ne_nil hne
    exact hjoined.enclosed.imp fun ms => Operands.alternatives

end Grammar

open Grammar

/-- **A written selection asks what the filter asks.** For a filter on keys that lie in maps, with
no float among its values, the text that is written is read back as a formula that says what the
filter asks, all of its items or one of them, whatever the tests on a record give. The pattern for a
text that is searched for is read as the characters of the text, and is found in exactly the subjects
that contain them. -/
theorem selection_reads {filter : FilterSet} {s : Selection} (h : Selection.ofFilter filter = .ok s)
    (hne : s.written ≠ "") (hkeys : ∀ item ∈ filter.items, item.key.kind ≠ .unspecified)
    (hvalues : ∀ item ∈ filter.items, ∀ x, item.value ≠ .float x) :
    (∃ f, parse s.written = some f ∧ ∀ truth, f.holds truth = asksFor filter truth) ∧
      ∀ text, Regex.read? (verbatim text) = some (Regex.literal text.toList) ∧
        ∀ subject, (Regex.literal text.toList).Finds subject ↔ text.toList <:+: subject := by
  obtain ⟨clauses, hclauses, hs⟩ := ok_of_bind h
  cases hs
  refine ⟨?_, fun text => ⟨Regex.read?_verbatim text, fun subject => Regex.finds_literal⟩⟩
  have hspells : List.Forall₂ (fun item c => Spells (Operands (asks item)) c.written)
      filter.items clauses := by
    have hasked : ∀ item ∈ filter.items,
        item.key.kind ≠ .unspecified ∧ ∀ x, item.value ≠ .float x := fun item hitem =>
      ⟨hkeys item hitem, hvalues item hitem⟩
    have hitems := (List.forall₂_and_left _ _).mpr ⟨hasked, mapM_ok_iff.mp hclauses⟩
    exact hitems.imp fun item c hc => spells_clause hc.2 hc.1.1 hc.1.2
  rw [Ne, Selection.written_eq_empty_iff] at hne
  exact (spells_written hspells hne).parse

/-- A search for signs that mean something both in patterns and in texts, under a key with a quote,
next to a pattern that must not match and a number. -/
def intricate : FilterSet where
  op := .or
  items :=
    [{ key := { name := "k\"", kind := .tag }, op := .contains false, value := .text "a.\\\"b" },
      { key := { name := "host", kind := .resource }, op := .regex true, value := .text "^x|y$" },
      { key := { name := "code", kind := .tag }, op := .compare .le, value := .int (-5) }]

/-- The backslashes of the search are doubled twice, and what is read is what the filter asks. -/
theorem selection_reads_intricate : ∃ s f, Selection.ofFilter intricate = .ok s ∧
    s.written = "((attributes[\"k\\\"\"] != nil" ++
      " and IsMatch(attributes[\"k\\\"\"], \"a\\\\.\\\\\\\\\\\"b\"))" ++
      " or (resource.attributes[\"host\"] != nil" ++
      " and not IsMatch(resource.attributes[\"host\"], \"^x|y$\"))" ++
      " or (attributes[\"code\"] <= -5))" ∧
    parse s.written = some f ∧
    (∀ truth, f.holds truth = intricate.items.any (asks · truth)) ∧
    ∀ subject, (Regex.literal "a.\\\"b".toList).Finds subject ↔ "a.\\\"b".toList <:+: subject := by
  have hfilter : ∃ s, Selection.ofFilter intricate = .ok s ∧ s.clauses.length = 3 := ⟨_, rfl, rfl⟩
  obtain ⟨s, h, hlength⟩ := hfilter
  have hne : s.written ≠ "" := by
    rw [Ne, Selection.written_eq_empty_iff]
    intro hempty
    rw [hempty] at hlength
    cases hlength
  have hkeys : ∀ item ∈ intricate.items, item.key.kind ≠ .unspecified := by
    simp [intricate]
  have hvalues : ∀ item ∈ intricate.items, ∀ x, item.value ≠ .float x := by
    simp [intricate]
  obtain ⟨⟨f, hparse, hholds⟩, hverbatim⟩ := selection_reads h hne hkeys hvalues
  refine ⟨s, f, h, ?_, hparse, hholds, (hverbatim _).2⟩
  cases h
  decide +kernel

end PanelQuery.Pipeline
