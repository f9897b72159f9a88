import PanelQuery.Json.Value
import PanelQuery.Proofs.Filter.Lookup
import PanelQuery.Proofs.Sql.Like
import PanelQuery.Proofs.Sql.Reading

/-! # Labels and predicates on them

The labels of a fingerprint are stored as one text, an object with a member for each label, and the
lookup reads that text in lower case. Here the conditions of a label test are read for given labels,
by their wording, and it is said what each kind of predicate asks of the value of the label. -/

namespace PanelQuery

open Sql (Stretch likes)

/-! ## Labels -/

/-- The text stands in JSON as it is. -/
def Json.Unescaped (s : String) : Prop := ∀ c ∈ s.toList, Json.escapeChar c = [c]

instance (s : String) : Decidable (Json.Unescaped s) :=
  List.decidableBAll (fun c => Json.escapeChar c = [c]) s.toList

theorem Json.escapeChar_eq_self {c : Char} (hq : c ≠ '"') (hb : c ≠ '\\') (hc : 32 ≤ c.toNat) :
    Json.escapeChar c = [c] := by
  have hn : ∀ d : Char, d.toNat < 32 → c ≠ d := by
    rintro d hd rfl
    omega
  rw [escapeChar, if_neg hq, if_neg hb, if_neg (hn _ (by decide)), if_neg (hn _ (by decide)),
    if_neg (hn _ (by decide)), if_neg (hn _ (by decide)), if_neg (hn _ (by decide)),
    if_neg (by omega)]

/-- Lowering makes no character that has to be escaped. -/
theorem Json.escapeChar_toLower {c : Char} (h : Json.escapeChar c = [c]) :
    Json.escapeChar c.toLower = [c.toLower] := by
  unfold Char.toLower
  split
  · next hu =>
    have hge : 65 ≤ c.val.toNat := hu.1
    have hle : c.val.toNat ≤ 90 := hu.2
    have hn : (c.val + ('a'.val - 'A'.val)).toNat = c.val.toNat + 32 := by
      rw [UInt32.toNat_add, show ('a'.val - 'A'.val).toNat = 32 from rfl]
      omega
    refine escapeChar_eq_self ?_ ?_ ?_
    · intro he
      have : (c.val + ('a'.val - 'A'.val)).toNat = 34 := congrArg Char.toNat he
      omega
    · intro he
      have : (c.val + ('a'.val - 'A'.val)).toNat = 92 := congrArg Char.toNat he
      omega
    · change 32 ≤ (c.val + ('a'.val - 'A'.val)).toNat
      omega
  · exact h

theorem Json.Unescaped.asciiLower {s : String} (h : Json.Unescaped s) :
    Json.Unescaped (Text.asciiLower s) := by
  rw [Json.Unescaped, Text.asciiLower, String.toList_ofList, List.forall_mem_map]
  exact fun c hc => Json.escapeChar_toLower (h c hc)

theorem Json.Unescaped.quoted {s : String} (h : Json.Unescaped s) :
    Json.quoted s = '"' :: s.toList ++ ['"'] := by
  have hs : s.toList.flatMap Json.escapeChar = s.toList := by
    rw [List.flatMap_congr h, List.flatMap_singleton']
  rw [Json.quoted, hs]

/-- The labels of a fingerprint. No key and no value needs an escape in JSON. -/
structure LabelSet where
  labels : List (String × String)
  unescaped : ∀ l ∈ labels, Json.Unescaped l.1 ∧ Json.Unescaped l.2

namespace LabelSet

def members (labels : List (String × String)) : List (String × Json) :=
  labels.map fun l => (l.1, .str l.2)

/-- The labels as one text. -/
def text (f : LabelSet) : List Char := (Json.obj (members f.labels)).chars

def value? (f : LabelSet) (key : String) : Option String := f.labels.lookup key

def lowerLabel (l : String × String) : String × String := (Text.asciiLower l.1, Text.asciiLower l.2)

/-- The labels in lower case. -/
def lowered (f : LabelSet) : LabelSet where
  labels := f.labels.map lowerLabel
  unescaped := List.forall_mem_map.mpr fun l hl =>
    have ⟨hk, hv⟩ := f.unescaped l hl
    ⟨hk.asciiLower, hv.asciiLower⟩

theorem memberChars_cons {k v : String} (hk : Json.Unescaped k) (hv : Json.Unescaped v)
    (rest : List (String × String)) :
    Json.memberChars (members ((k, v) :: rest)) =
      '"' :: k.toList ++ ['"', ':', '"'] ++ v.toList ++ '"' ::
        (if rest = [] then [] else ',' :: Json.memberChars (members rest)) := by
  cases rest <;> simp [members, Json.memberChars, Json.chars, hk.quoted, hv.quoted]

/-- The text of the labels in lower case. -/
def loweredText (f : LabelSet) : List Char := f.text.map Char.toLower

/-- Lowering the text as a whole lowers the labels. -/
theorem text_lowered (f : LabelSet) : f.lowered.text = f.loweredText := by
  have hm : ∀ labels : List (String × String),
      (∀ l ∈ labels, Json.Unescaped l.1 ∧ Json.Unescaped l.2) →
      Json.memberChars (members (labels.map lowerLabel)) =
        (Json.memberChars (members labels)).map Char.toLower := by
    intro labels h
    induction labels with
    | nil => rfl
    | cons l labels ih =>
      obtain ⟨hl, hrest⟩ := List.forall_mem_cons.mp h
      rw [List.map_cons, lowerLabel, memberChars_cons hl.1.asciiLower hl.2.asciiLower,
        memberChars_cons hl.1 hl.2, ih hrest]
      cases labels <;> simp [Text.asciiLower]
  simp [text, loweredText, lowered, Json.chars, hm _ f.unescaped]

/-- A label stands in the text, the key before the value. -/
theorem text_of_mem {f : LabelSet} {k v : String} (h : (k, v) ∈ f.labels) :
    ∃ before between after, f.text = before ++ k.toList ++ between ++ v.toList ++ after := by
  obtain ⟨front, back, hl⟩ := List.append_of_mem h
  have hm : ∀ front : List (String × String), (∀ l ∈ front ++ (k, v) :: back,
      Json.Unescaped l.1 ∧ Json.Unescaped l.2) → ∃ before between after,
      Json.memberChars (members (front ++ (k, v) :: back)) =
        before ++ k.toList ++ between ++ v.toList ++ after := by
    intro front h
    induction front with
    | nil =>
      obtain ⟨hl, -⟩ := List.forall_mem_cons.mp h
      exact ⟨['"'], ['"', ':', '"'], _, by rw [List.nil_append, memberChars_cons hl.1 hl.2]; rfl⟩
    | cons l front ih =>
      obtain ⟨hl, hrest⟩ := List.forall_mem_cons.mp h
      obtain ⟨before, between, after, he⟩ := ih hrest
      rw [List.cons_append, memberChars_cons hl.1 hl.2, if_neg (by simp), he]
      exact ⟨'"' :: l.1.toList ++ ['"', ':', '"'] ++ l.2.toList ++ '"' :: ',' :: before, between,
        after, by simp⟩
  obtain ⟨before, between, after, he⟩ := hm front (hl ▸ f.unescaped)
  exact ⟨'\x7b' :: before, between, after ++ ['\x7d'], by simp [text, Json.chars, hl, he]⟩

end LabelSet

/-! ## Truth of conditions -/

/-- How two texts compare, by code points. -/
def Comparison.relates : Comparison → String → String → Bool
  | .eq, a, b => a == b
  | .ne, a, b => a != b
  | .lt, a, b => decide (a < b)
  | .le, a, b => !decide (b < a)
  | .gt, a, b => decide (b < a)
  | .ge, a, b => !decide (a < b)

def FilterValue.text? : FilterValue → Option String
  | .text s => some s
  | _ => none

namespace LabelSet

/-- The content of a literal, escapes undone. -/
def contentOf (inside : List Stretch) : String := String.ofList (inside.flatMap Stretch.content)

/-- The texts among the elements of a list literal, where `depth` brackets are open. -/
def elements (depth : Nat) : Sql → List String
  | [] => []
  | .fixed "[" :: rest => elements (depth + 1) rest
  | .fixed "]" :: rest => elements (depth - 1) rest
  | .quoted inside :: rest =>
    (if depth = 1 then [contentOf inside] else []) ++ elements depth rest
  | _ :: rest => elements depth rest

/-- The text of an operand that is one literal. -/
def literalText? : Sql → Option String
  | [.quoted inside] => some (contentOf inside)
  | _ => none

/-- What the wording between a label and its operand says. Anything but membership is refused when
the operand is no text, and a list has only its texts as elements. -/
def judge (word label : String) (operand : Sql) : Bool :=
  match word with
  | " = " => (literalText? operand).any (Comparison.eq.relates label)
  | " != " => (literalText? operand).any (Comparison.ne.relates label)
  | " < " => (literalText? operand).any (Comparison.lt.relates label)
  | " <= " => (literalText? operand).any (Comparison.le.relates label)
  | " > " => (literalText? operand).any (Comparison.gt.relates label)
  | " >= " => (literalText? operand).any (Comparison.ge.relates label)
  | " LIKE " => (literalText? operand).any fun p => likes p.toList label.toList
  | " NOT LIKE " => (literalText? operand).any fun p => !likes p.toList label.toList
  | " IN " => decide (label ∈ elements 0 operand)
  | " NOT IN " => !decide (label ∈ elements 0 operand)
  | _ => false

/-- The value of a label; that of a missing one is empty. -/
def value (f : LabelSet) (key : String) : String := (f.value? key).getD ""

/-- Truth of a condition for the labels, where `regex` tells which texts an expression matches. -/
def truth (regex : String → String → Bool) (f : LabelSet) : Sql → Bool
  | [.fixed "lower(labels) like ", .quoted p] => likes (contentOf p).toList f.loweredText
  | [.fixed "lower(labels) not like ", .quoted p] => !likes (contentOf p).toList f.loweredText
  | [.fixed "simpleJSONHas(lower(labels), ", .quoted key, .fixed ")"] =>
    (f.lowered.value? (contentOf key)).isSome
  | [.fixed "not simpleJSONHas(lower(labels), ", .quoted key, .fixed ")"] =>
    !(f.lowered.value? (contentOf key)).isSome
  | [.fixed "match(simpleJSONExtractString(labels, ", .quoted key, .fixed "), ", .quoted p,
      .fixed ")"] => regex (contentOf p) (f.value (contentOf key))
  | [.fixed "NOT match(simpleJSONExtractString(labels, ", .quoted key, .fixed "), ", .quoted p,
      .fixed ")"] => !regex (contentOf p) (f.value (contentOf key))
  | .fixed "simpleJSONExtractString(lower(labels), " :: .quoted key :: .fixed ")" :: .fixed word
      :: operand => judge word (f.lowered.value (contentOf key)) operand
  | _ => false

variable {regex : String → String → Bool} {f : LabelSet} {key : String}

@[simp] theorem contentOf_given (s : String) : contentOf [.given s] = s := by
  simp [contentOf, Stretch.content]

theorem truth_loweredLabel (word : String) (operand : Sql) :
    f.truth regex (LabelTest.loweredLabel key ++ Sql.raw word ++ operand) =
      judge word (f.lowered.value key) operand := by
  change judge word (f.lowered.value (contentOf [.given key])) operand = _
  rw [contentOf_given]

/-! ### Predicates -/

theorem literalText?_literal (v : FilterValue) : literalText? v.literal = v.text? := by
  cases v with
  | text s => exact congrArg some (contentOf_given s)
  | _ => rfl

theorem truth_compare (c : Comparison) (v : FilterValue) :
    f.truth regex ((LabelTest.compare c v).predicate key) =
      v.text?.any (c.relates (f.lowered.value key)) := by
  rw [LabelTest.predicate, truth_loweredLabel, ← literalText?_literal]
  cases c <;> rfl

/-- A pattern in lower case, as it is or to be found anywhere. -/
def patternChars (anywhere : Bool) (v : FilterValue) : List Char :=
  if anywhere then '%' :: v.plain.toList ++ ['%'] else v.plain.toList

theorem literalText?_pattern (v : FilterValue) (anywhere : Bool) :
    literalText? (v.pattern anywhere) = some (String.ofList (patternChars anywhere v)) := by
  cases anywhere <;>
    simp [FilterValue.pattern, literalText?, contentOf, Stretch.content, patternChars]

theorem truth_like (negated anywhere : Bool) (v : FilterValue) :
    f.truth regex ((LabelTest.like negated anywhere v).predicate key) =
      (negated ^^ likes (patternChars anywhere v) (f.lowered.value key).toList) := by
  have hp : ∀ g, (literalText? (v.pattern anywhere)).any g =
      g (String.ofList (patternChars anywhere v)) := fun g => by
    rw [literalText?_pattern, Option.any_some]
  rw [LabelTest.predicate, truth_loweredLabel]
  cases negated
  · exact (hp _).trans (by simp)
  · exact (hp _).trans (by simp)

theorem elements_open (depth : Nat) (rest : Sql) :
    elements depth (Sql.raw "[" ++ rest) = elements (depth + 1) rest := by
  rw [Sql.raw, List.singleton_append, elements]

theorem elements_close (depth : Nat) (rest : Sql) :
    elements (depth + 1) (Sql.raw "]" ++ rest) = elements depth rest := by
  rw [Sql.raw, List.singleton_append, elements, Nat.add_sub_cancel]

theorem elements_comma (depth : Nat) (rest : Sql) :
    elements depth (Sql.raw "," ++ rest) = elements depth rest := by
  simp [Sql.raw, elements]

mutual

theorem elements_literal (depth : Nat) (v : FilterValue) (rest : Sql) :
    elements (depth + 1) (v.literal ++ rest) =
      (if depth = 0 then v.text?.toList else []) ++ elements (depth + 1) rest := by
  cases v with
  | array items =>
    rw [FilterValue.literal, List.append_assoc, List.append_assoc, elements_open,
      elements_items (depth + 1) items, elements_close]
    simp [FilterValue.text?]
  | text s =>
    rw [FilterValue.literal, Sql.literal, List.singleton_append, elements, contentOf_given]
    simp [FilterValue.text?]
  | bool b =>
    cases b <;>
      simp [FilterValue.literal, FilterValue.ofBool, Sql.raw, elements, FilterValue.text?]
  | null => simp [FilterValue.literal, Sql.raw, elements, FilterValue.text?]
  | int n => simp [FilterValue.literal, elements, FilterValue.text?]
  | float x => simp [FilterValue.literal, elements, FilterValue.text?]

theorem elements_items (depth : Nat) (items : List FilterValue) (rest : Sql) :
    elements (depth + 1) (FilterValue.itemLiterals items ++ rest) =
      (if depth = 0 then items.filterMap FilterValue.text? else []) ++
        elements (depth + 1) rest := by
  have hcons : ∀ (v : FilterValue) (vs : List FilterValue),
      (v :: vs).filterMap FilterValue.text? = v.text?.toList ++ vs.filterMap FilterValue.text? := by
    intro v vs
    cases h : v.text? <;> simp [h]
  match items with
  | [] => simp [FilterValue.itemLiterals]
  | [item] =>
    rw [FilterValue.itemLiterals, elements_literal depth item rest, hcons, List.filterMap_nil,
      List.append_nil]
  | item :: next :: items =>
    change elements (depth + 1)
      (item.literal ++ Sql.raw "," ++ FilterValue.itemLiterals (next :: items) ++ rest) = _
    rw [List.append_assoc, List.append_assoc, elements_literal depth item, elements_comma,
      elements_items depth (next :: items), ← List.append_assoc, hcons item]
    split <;> rfl

end

theorem truth_member (negated : Bool) (items : List FilterValue) :
    f.truth regex ((LabelTest.member negated items).predicate key) =
      (negated ^^ decide (f.lowered.value key ∈ items.filterMap FilterValue.text?)) := by
  have he : elements 0 (FilterValue.array items).literal = items.filterMap FilterValue.text? := by
    rw [← List.append_nil (FilterValue.literal _), FilterValue.literal, List.append_assoc,
      List.append_assoc, elements_open, elements_items, elements_close]
    simp [elements]
  rw [LabelTest.predicate, truth_loweredLabel, ← he]
  cases negated
  · exact (Bool.false_xor _).symm
  · exact (Bool.true_xor _).symm

theorem truth_presence (negated : Bool) :
    f.truth regex ((LabelTest.presence negated).predicate key) =
      (negated ^^ (f.lowered.value? key).isSome) := by
  have hk : (f.lowered.value? (contentOf [.given key])).isSome =
      (f.lowered.value? key).isSome := by rw [contentOf_given]
  cases negated
  · exact hk.trans (Bool.false_xor _).symm
  · exact (congrArg Bool.not hk).trans (Bool.true_xor _).symm

end LabelSet

end PanelQuery
