import Mathlib.Data.List.Nodup
import PanelQuery.Filter.Resource
import PanelQuery.Proofs.Agree
import PanelQuery.Proofs.Sql.Literal
import PanelQuery.Proofs.Sql.Reading

/-! # Which label a condition looks up

The first condition of a resource item calls a function that looks a label up by its key, in the
text of the labels as it is stored or in lower case. Text and key are read off the condition here.
The key is that of the item in lower case, for every operator. In the text in lower case it finds
the label that the item names; in the stored text, which regular expressions are matched on, it
finds a label only if that is spelled in lower case. -/

namespace PanelQuery

open Sql.Lexical

/-! ## Reading a lookup -/

/-- The two texts of labels. -/
inductive LabelText where
  | stored | lowered
  deriving DecidableEq, Repr

namespace LabelText

/-- How the text is written as an argument. -/
def word : LabelText → String
  | .stored => "labels"
  | .lowered => "lower(labels)"

/-- The functions that look a label up by its key. -/
def functions : List String := ["simpleJSONExtractString", "simpleJSONHas"]

/-- The text in which a call looks for the key that comes next. -/
def searched? (opening : List Char) : Option LabelText :=
  [stored, lowered].find? fun t =>
    functions.any fun f => (f.toList ++ '(' :: t.word.toList ++ [',', ' ']).isSuffixOf opening

/-- The labels in a text, where the store lowers every text by `lower`. -/
def labels (lower : String → String) (labels : List (String × String)) :
    LabelText → List (String × String)
  | .stored => labels
  | .lowered => labels.map fun l => (lower l.1, lower l.2)

end LabelText

/-- A label looked up in one of the texts. -/
structure LabelLookup where
  text : LabelText
  key : String
  deriving DecidableEq, Repr

namespace LabelLookup

/-- The lookup that is called behind `opening`, with the first literal as the key. -/
def ofTokens? (opening : List Char) : List Token → Option LabelLookup
  | .bare c :: rest => ofTokens? (opening ++ [c]) rest
  | .quoted .literal key :: _ =>
    (LabelText.searched? opening).map (⟨·, String.ofList key⟩)
  | _ => none

/-- The lookup that the text of a condition calls first. -/
def read? (text : String) : Option LabelLookup := ofTokens? [] (scan .outside text.toList).1

/-- The value that a lookup finds, for the labels of a resource. -/
def value? (lower : String → String) (labels : List (String × String)) (l : LabelLookup) :
    Option String :=
  (l.text.labels lower labels).lookup l.key

variable {lower : String → String} {labels : List (String × String)}

theorem ofTokens?_bare (cs : List Char) (opening : List Char) (rest : List Token) :
    ofTokens? opening (cs.map .bare ++ rest) = ofTokens? (opening ++ cs) rest := by
  induction cs generalizing opening with
  | nil => simp
  | cons c cs ih =>
    rw [List.map_cons, List.cons_append, ofTokens?, ih, List.append_assoc]
    rfl

/-- The key of a lookup is read back, whatever it is and whatever follows. -/
theorem read?_call {opening : String} (h : Unquoted opening.toList) (key : String) (rest : Sql) :
    read? (Sql.raw opening ++ (Sql.literal key ++ rest)).text =
      (LabelText.searched? opening.toList).map (⟨·, key⟩) := by
  have htext : (Sql.raw opening ++ (Sql.literal key ++ rest)).text.toList =
      opening.toList ++ (Sql.quoteChars key ++ rest.chars) := by
    rw [← Sql.chars, Sql.chars_append, Sql.chars_append, Sql.chars_literal, Sql.chars,
      Sql.text_raw]
  have hliteral : Sql.quoteChars key ++ rest.chars =
      Quote.literal.mark :: (Sql.escapeChars key.toList ++ Quote.literal.mark :: rest.chars) := by
    simp [Sql.quoteChars, Quote.mark]
  have htokens : (scan .outside (Sql.quoteChars key ++ rest.chars)).1 =
      .quoted .literal key.toList :: (scan .outside rest.chars).1 := by
    rw [hliteral, scan_open, scan_escapeChars, scan_close]
    rfl
  rw [read?, htext, Sql.scan_append_of_outside (Sql.scan_of_unquoted h), scan_unquoted h, htokens,
    ofTokens?_bare, ofTokens?, List.nil_append, String.ofList_toList]

/-- With one label for each key, a lookup finds what is there. -/
theorem lookup_eq_some_iff {entries : List (String × String)} (h : (entries.map Prod.fst).Nodup)
    {key v : String} : entries.lookup key = some v ↔ (key, v) ∈ entries := by
  constructor
  · intro hv
    obtain ⟨front, back, rfl, -⟩ := List.lookup_eq_some_iff.mp hv
    exact List.mem_append_right _ List.mem_cons_self
  · intro hmem
    obtain ⟨front, back, rfl⟩ := List.append_of_mem hmem
    rw [List.map_append, List.map_cons, List.nodup_append] at h
    refine List.lookup_eq_some_iff.mpr ⟨front, back, rfl, fun e he => ?_⟩
    have hne : e.1 ≠ key := h.2.2 e.1 (List.mem_map_of_mem he) key List.mem_cons_self
    exact bne_iff_ne.mpr hne.symm

/-- In lower case a lookup finds the label that has the key in lower case. -/
theorem value?_lowered (h : (labels.map fun l => lower l.1).Nodup) {key v : String} :
    value? lower labels ⟨.lowered, key⟩ = some v ↔
      ∃ l ∈ labels, lower l.1 = key ∧ lower l.2 = v := by
  have hkeys : ((labels.map fun l => (lower l.1, lower l.2)).map Prod.fst).Nodup := by
    rwa [List.map_map]
  rw [value?, LabelText.labels, lookup_eq_some_iff hkeys, List.mem_map]
  simp only [Prod.mk.injEq]

/-- In the stored text it finds the label that has the very key. -/
theorem value?_stored (h : (labels.map fun l => lower l.1).Nodup) {key v : String} :
    value? lower labels ⟨.stored, key⟩ = some v ↔ ∃ l ∈ labels, l.1 = key ∧ l.2 = v := by
  have hkeys : (labels.map Prod.fst).Nodup := by
    rw [← Function.comp_def, ← List.map_map] at h
    exact List.Nodup.of_map lower h
  rw [value?, LabelText.labels, lookup_eq_some_iff hkeys]
  constructor
  · intro hmem
    exact ⟨(key, v), hmem, rfl, rfl⟩
  · rintro ⟨l, hmem, rfl, rfl⟩
    exact hmem

/-- A lookup finds something if there is a label whose value it finds. -/
theorem isSome_value?_iff {l : LabelLookup} {P : String × String → Prop}
    {f : String × String → String}
    (h : ∀ v, l.value? lower labels = some v ↔ ∃ label ∈ labels, P label ∧ f label = v) :
    (l.value? lower labels).isSome = true ↔ ∃ label ∈ labels, P label := by
  rw [Option.isSome_iff_exists]
  constructor
  · rintro ⟨v, hv⟩
    obtain ⟨label, hmem, hp, -⟩ := (h v).mp hv
    exact ⟨label, hmem, hp⟩
  · rintro ⟨label, hmem, hp⟩
    exact ⟨f label, (h _).mpr ⟨label, hmem, hp, rfl⟩⟩

end LabelLookup

/-! ## The lookup of a test -/

namespace LabelTest

/-- What predicates write in front of the key, and the text that is searched by it. -/
def openings : List (String × LabelText) :=
  [("simpleJSONExtractString(lower(labels), ", .lowered),
   ("simpleJSONHas(lower(labels), ", .lowered),
   ("not simpleJSONHas(lower(labels), ", .lowered),
   ("match(simpleJSONExtractString(labels, ", .stored),
   ("NOT match(simpleJSONExtractString(labels, ", .stored)]

theorem searched?_opening : ∀ o ∈ openings,
    Unquoted o.1.toList ∧ LabelText.searched? o.1.toList = some o.2 := by decide +kernel

/-- Only regular expressions are matched on the labels as they are stored. -/
def text : LabelTest → LabelText
  | .regex .. => .stored
  | _ => .lowered

theorem exists_opening (t : LabelTest) (key : String) : ∃ opening rest,
    (opening, t.text) ∈ openings ∧
      t.predicate key = Sql.raw opening ++ (Sql.literal key ++ rest) := by
  cases t with
  | compare c v => exact ⟨_, _, List.mem_of_getElem? (i := 0) rfl, rfl⟩
  | like negated anywhere v => exact ⟨_, _, List.mem_of_getElem? (i := 0) rfl, rfl⟩
  | member negated items => exact ⟨_, _, List.mem_of_getElem? (i := 0) rfl, rfl⟩
  | presence negated =>
    cases negated with
    | false => exact ⟨_, _, List.mem_of_getElem? (i := 1) rfl, rfl⟩
    | true => exact ⟨_, _, List.mem_of_getElem? (i := 2) rfl, rfl⟩
  | regex negated pattern =>
    cases negated with
    | false => exact ⟨_, _, List.mem_of_getElem? (i := 3) rfl, rfl⟩
    | true => exact ⟨_, _, List.mem_of_getElem? (i := 4) rfl, rfl⟩

theorem read?_predicate (t : LabelTest) (key : String) :
    LabelLookup.read? (t.predicate key).text = some ⟨t.text, key⟩ := by
  obtain ⟨opening, rest, hopening, hpredicate⟩ := t.exists_opening key
  obtain ⟨hunquoted, hsearched⟩ := searched?_opening _ hopening
  rw [hpredicate, LabelLookup.read?_call hunquoted, hsearched]
  rfl

end LabelTest

/-! ## The lookup of an item -/

/-- The text in which the label of an item is looked up. -/
def FilterOperator.labelText : FilterOperator → LabelText
  | .regex _ => .stored
  | _ => .lowered

namespace FilterItem

variable {item : FilterItem} {t : LabelTest}

theorem text_labelTest (h : item.labelTest = .ok t) : t.text = item.op.labelText := by
  obtain ⟨test, htest, ht⟩ := ok_of_bind h
  unfold FilterItem.test at htest
  cases hop : item.op with
  | presence negated =>
    simp only [hop] at htest
    cases htest
    cases ht
    rfl
  | member negated =>
    simp only [hop] at htest
    obtain ⟨v, -, htest⟩ := ok_of_bind htest
    obtain ⟨items, -, htest⟩ := ok_of_bind htest
    cases htest
    cases ht
    rfl
  | compare _ | like _ | contains _ | regex _ =>
    simp only [hop] at htest
    obtain ⟨v, -, htest⟩ := ok_of_bind htest
    cases htest
    cases ht
    rfl
  | has _ =>
    simp only [hop] at htest
    obtain ⟨v, -, htest⟩ := ok_of_bind htest
    cases htest
    cases ht

/-- **What the condition of a resource item looks up.** Let the labels of a resource differ in their
keys in lower case, however the store lowers a text. For every operator but those of regular
expressions, the first condition of an item that compiles finds a label if and only if there is one
whose key in lower case is the key of the item in lower case, and then the value of that label. The
conditions of regular expressions find a label if and only if the key of the item in lower case is
the key of a label as it stands. -/
theorem finds_label (h : item.labelTest = .ok t) (lower : String → String)
    {labels : List (String × String)} (hdistinct : (labels.map fun l => lower l.1).Nodup) :
    ∃ first hints lookup, t.conditions (Text.lowercase item.key.name) = first :: hints ∧
      LabelLookup.read? first.sql.text = some lookup ∧
      ((∀ negated, item.op ≠ .regex negated) →
        ((lookup.value? lower labels).isSome = true ↔
          ∃ l ∈ labels, lower l.1 = Text.lowercase item.key.name) ∧
        ∀ v, lookup.value? lower labels = some v ↔
          ∃ l ∈ labels, lower l.1 = Text.lowercase item.key.name ∧ lower l.2 = v) ∧
      ∀ negated, item.op = .regex negated →
        ((lookup.value? lower labels).isSome = true ↔
          ∃ l ∈ labels, l.1 = Text.lowercase item.key.name) ∧
        ∀ v, lookup.value? lower labels = some v ↔
          ∃ l ∈ labels, l.1 = Text.lowercase item.key.name ∧ l.2 = v := by
  refine ⟨_, _, _, rfl, t.read?_predicate _, fun hop => ?_, fun negated hop => ?_⟩
  · have htext : t.text = .lowered := by
      rw [text_labelTest h]
      cases hitem : item.op with
      | regex negated => exact absurd hitem (hop negated)
      | _ => rfl
    have hvalue := @LabelLookup.value?_lowered lower labels hdistinct (Text.lowercase item.key.name)
    rw [htext]
    exact ⟨LabelLookup.isSome_value?_iff fun _ => hvalue, fun _ => hvalue⟩
  · have htext : t.text = .stored := by
      rw [text_labelTest h, hop]
      rfl
    have hvalue := @LabelLookup.value?_stored lower labels hdistinct (Text.lowercase item.key.name)
    rw [htext]
    exact ⟨LabelLookup.isSome_value?_iff fun _ => hvalue, fun _ => hvalue⟩

/-- A regular expression on `Host` is matched on no label of a resource that has the label `Host`,
while a comparison finds it. -/
theorem finds_label_host :
    let key : AttributeKey := { name := "Host", dataType := .scalar .string, kind := .resource }
    let labels := [("Host", "H1")]
    (labels.map fun l => Text.lowercase l.1).Nodup ∧
      (∃ l ∈ labels, Text.lowercase l.1 = Text.lowercase key.name) ∧
      (∃ t first hints lookup, labelTest ⟨key, .compare .eq, .text "H1"⟩ = .ok t ∧
        t.conditions (Text.lowercase key.name) = first :: hints ∧
        LabelLookup.read? first.sql.text = some lookup ∧
        lookup.value? Text.lowercase labels = some "h1") ∧
      ∃ t first hints lookup, labelTest ⟨key, .regex false, .text "H1"⟩ = .ok t ∧
        t.conditions (Text.lowercase key.name) = first :: hints ∧
        LabelLookup.read? first.sql.text = some lookup ∧
        lookup.value? Text.lowercase labels = none := by
  intro key labels
  have hdistinct : (labels.map fun l => Text.lowercase l.1).Nodup := List.nodup_singleton _
  have hequal : labelTest ⟨key, .compare .eq, .text "H1"⟩ =
      .ok (.compare .eq (FilterValue.lowered (.text "H1"))) := rfl
  have hregex : labelTest ⟨key, .regex false, .text "H1"⟩ = .ok (.regex false "H1") := rfl
  refine ⟨hdistinct, ⟨_, List.mem_singleton_self _, rfl⟩, ?_, ?_⟩
  · obtain ⟨first, hints, lookup, hfirst, hread, hfound, -⟩ :=
      finds_label hequal Text.lowercase hdistinct
    refine ⟨_, first, hints, lookup, hequal, hfirst, hread, ((hfound nofun).2 "h1").mpr ?_⟩
    exact ⟨_, List.mem_singleton_self _, rfl, by decide⟩
  · obtain ⟨first, hints, lookup, hfirst, hread, -, hfound⟩ :=
      finds_label hregex Text.lowercase hdistinct
    refine ⟨_, first, hints, lookup, hregex, hfirst, hread, ?_⟩
    rw [Option.eq_none_iff_forall_ne_some]
    intro v hv
    obtain ⟨l, hl, hkey, -⟩ := ((hfound false rfl).2 v).mp hv
    rw [List.mem_singleton.mp hl] at hkey
    exact absurd hkey (by decide)

end FilterItem

end PanelQuery
