import PanelQuery.Filter.Item
import PanelQuery.Filter.Resource
import PanelQuery.Proofs.Sql.Alike
import PanelQuery.Sql.Value

/-! # Filter values that differ only in their texts

A value is masked by emptying its texts. Two values with the same mask, whose parts at every
position have texts that may stand for each other, give alike literals and patterns; and the check
against a declared type takes them to such values again, or refuses both for the same reason. -/

namespace PanelQuery

open Sql (Origin)

namespace FilterValue

/-! ## Parts and masks -/

/-- The part of a value at a position: the value itself, or a part of one of its items. -/
def part? : List Nat → FilterValue → Option FilterValue
  | [], v => some v
  | i :: path, .array items => items[i]?.bind (part? path)
  | _ :: _, _ => none

mutual

/-- The value with its texts emptied. -/
def masked : FilterValue → FilterValue
  | .text _ => .text ""
  | .array items => .array (maskedItems items)
  | v => v

def maskedItems : List FilterValue → List FilterValue
  | [] => []
  | item :: items => item.masked :: maskedItems items

end

mutual

theorem masked_lowered (v : FilterValue) : v.lowered.masked = v.masked := by
  cases v with
  | array items => rw [lowered, masked, masked, maskedItems_loweredItems items]
  | _ => rfl

theorem maskedItems_loweredItems (items : List FilterValue) :
    maskedItems (loweredItems items) = maskedItems items := by
  cases items with
  | nil => rfl
  | cons item items =>
    rw [loweredItems, maskedItems, maskedItems, masked_lowered item,
      maskedItems_loweredItems items]

end

theorem getElem?_loweredItems (items : List FilterValue) (i : Nat) :
    (loweredItems items)[i]? = items[i]?.map lowered := by
  induction items generalizing i with
  | nil => rfl
  | cons item items ih =>
    cases i with
    | zero => rfl
    | succ i => exact ih i

theorem part?_lowered (path : List Nat) (v : FilterValue) :
    v.lowered.part? path = (v.part? path).map lowered := by
  induction path generalizing v with
  | nil => cases v <;> rfl
  | cons i path ih =>
    cases v with
    | array items =>
      rw [lowered, part?, part?, getElem?_loweredItems]
      cases items[i]? with
      | none => rfl
      | some item => exact ih item
    | _ => rfl

/-! ## Alike values -/

/-- The values have the same mask, and what they contribute to a literal at the same position may
stand there. -/
structure Alike (o : Origin) (v v' : FilterValue) : Prop where
  shape : v.masked = v'.masked
  texts : ∀ path u u', v.part? path = some u → v'.part? path = some u' → o.text u.plain u'.plain

variable {o : Origin}

theorem Alike.plain {v v' : FilterValue} (h : v.Alike o v') : o.text v.plain v'.plain :=
  h.texts [] v v' rfl rfl

theorem alike_items {items items' : List FilterValue} (hs : maskedItems items = maskedItems items')
    (ht : ∀ (i : Nat) path u u', items[i]?.bind (part? path) = some u →
      items'[i]?.bind (part? path) = some u' → o.text u.plain u'.plain) :
    List.Forall₂ (Alike o) items items' := by
  induction items generalizing items' with
  | nil =>
    cases items' with
    | nil => exact .nil
    | cons _ _ => cases hs
  | cons item items ih =>
    cases items' with
    | nil => cases hs
    | cons item' items' =>
      rw [maskedItems, maskedItems, List.cons.injEq] at hs
      exact .cons ⟨hs.1, fun path u u' h h' => ht 0 path u u' h h'⟩
        (ih hs.2 fun i path u u' h h' => ht (i + 1) path u u' h h')

theorem Alike.array {items : List FilterValue} {v' : FilterValue} (h : (array items).Alike o v') :
    ∃ items', v' = .array items' ∧ List.Forall₂ (Alike o) items items' := by
  cases v' with
  | array items' =>
    have hs : maskedItems items = maskedItems items' := by
      have hs := h.shape
      rw [masked, masked] at hs
      exact FilterValue.array.inj hs
    exact ⟨items', rfl, alike_items hs fun i path => h.texts (i :: path)⟩
  | _ => cases h.shape

mutual

theorem Alike.literal {v v' : FilterValue} (h : v.Alike o v') :
    Sql.Alike o v.literal v'.literal := by
  cases v with
  | array items =>
    obtain ⟨items', rfl, hs⟩ := h.array
    rw [FilterValue.literal, FilterValue.literal]
    exact ((Sql.own_raw .leftBracket).append (alike_itemLiterals hs)).append
      (Sql.own_raw .rightBracket)
  | text s =>
    cases v' with
    | text s' => exact Sql.alike_literal h.plain
    | _ => cases h.shape
  | null =>
    cases v' with
    | null => exact Sql.own_raw .null
    | _ => cases h.shape
  | bool b =>
    cases v' with
    | bool b' => cases h.shape; exact Sql.own_raw (.bool b)
    | _ => cases h.shape
  | int n =>
    cases v' with
    | int n' => cases h.shape; exact Sql.own_int _
    | _ => cases h.shape
  | float x =>
    cases v' with
    | float x' => cases h.shape; exact Sql.own_float _
    | _ => cases h.shape

theorem alike_itemLiterals {items items' : List FilterValue}
    (h : List.Forall₂ (Alike o) items items') :
    Sql.Alike o (itemLiterals items) (itemLiterals items') := by
  cases items with
  | nil =>
    cases h
    exact .nil
  | cons item items =>
    cases h with
    | cons hi ht =>
      have hrest := alike_itemLiterals ht
      cases ht with
      | nil => exact hi.literal
      | cons _ _ =>
        rw [itemLiterals.eq_def, itemLiterals.eq_def]
        exact (hi.literal.append (Sql.own_raw .comma)).append hrest

end

theorem Alike.pattern {v v' : FilterValue} (h : v.Alike o v') (anywhere : Bool) :
    Sql.Alike o (v.pattern anywhere) (v'.pattern anywhere) := by
  have hg : Sql.Stretch.Alike o (.given v.plain) (.given v'.plain) := .given h.plain
  cases anywhere with
  | false => exact Sql.alike_quoted (.cons hg .nil)
  | true =>
    exact Sql.alike_quoted (.cons (.fixed .wildcard) (.cons hg (.cons (.fixed .wildcard) .nil)))

/-! ## Checked values -/

/-- The value is no text and has no items. -/
def isAtom : FilterValue → Bool
  | .text _ | .array _ => false
  | _ => true

theorem castTo?_cases {t : ScalarType} {v w : FilterValue} (h : castTo? t v = some w) :
    w = v ∨ w.isAtom = true ∨ ∃ u : FilterValue, u.isAtom = true ∧ w = .text u.plain := by
  unfold castTo? at h
  split at h
  case h_2 | h_4 | h_5 | h_8 =>
    obtain ⟨_, _, rfl⟩ := Option.map_eq_some_iff.mp h
    exact .inr (.inl rfl)
  case h_1 | h_3 | h_6 | h_9 => exact .inl (Option.some.inj h).symm
  case h_7 => exact .inr (.inl (Option.some.inj h ▸ rfl))
  case h_10 | h_11 | h_12 => exact .inr (.inr ⟨_, rfl, (Option.some.inj h).symm⟩)
  case h_13 => cases h

/-- A checked value is the value itself, or an atom, or the text of an atom. -/
theorem cast_cases {t : DataType} {v w : FilterValue} (h : v.cast t = .ok w) :
    w = v ∨ w.isAtom = true ∨ ∃ u : FilterValue, u.isAtom = true ∧ w = .text u.plain := by
  have hscalar : ∀ s, castScalar s v = .ok w → w = v ∨ w.isAtom = true ∨
      ∃ u : FilterValue, u.isAtom = true ∧ w = .text u.plain := by
    intro s hs
    unfold castScalar at hs
    split at hs
    · next r hr => exact castTo?_cases (Except.ok.inj hs ▸ hr)
    · cases hs
  have hcheck : ∀ s, castOrCheck s v = .ok w → w = v ∨ w.isAtom = true ∨
      ∃ u : FilterValue, u.isAtom = true ∧ w = .text u.plain := by
    intro s hs
    unfold castOrCheck at hs
    split at hs
    · next items =>
      cases hi : checkItems s items with
      | error e => rw [hi] at hs; cases hs
      | ok _ => rw [hi] at hs; exact .inl (Except.ok.inj hs).symm
    · exact hscalar s hs
  unfold cast at h
  split at h
  · exact .inl (Except.ok.inj h).symm
  · exact hcheck _ h
  · exact hcheck _ h

theorem cast_element (t : DataType) (v : FilterValue) : v.cast t.element = v.cast t := by
  cases t <;> rfl

theorem castScalar_string_bind {v v' : FilterValue} (h : v.masked = v'.masked)
    (x : Except CastFault Unit) :
    (castScalar .string v >>= fun _ => x) = castScalar .string v' >>= fun _ => x := by
  cases v <;> cases v' <;> first | (cases h; rfl) | rfl | cases h

theorem checkItems_string {items items' : List FilterValue}
    (h : maskedItems items = maskedItems items') :
    checkItems .string items = checkItems .string items' := by
  induction items generalizing items' with
  | nil =>
    cases items' with
    | nil => rfl
    | cons _ _ => cases h
  | cons item items ih =>
    cases items' with
    | nil => cases h
    | cons item' items' =>
      rw [maskedItems, maskedItems, List.cons.injEq] at h
      rw [checkItems, checkItems, ih h.2]
      exact castScalar_string_bind h.1 _

end FilterValue

/-- Values of the type are texts, or may be. -/
def DataType.isTextual (t : DataType) : Bool :=
  t.element = .unspecified || t.element = .scalar .string

namespace FilterValue

/-- Under a textual type the check looks at no text: values with one mask both stay as they are, or
are refused for the same reason, unless they are the same to begin with. -/
theorem cast_textual {t : DataType} (ht : t.isTextual = true) {v v' : FilterValue}
    (h : v.masked = v'.masked) :
    v = v' ∨ (v.cast t = .ok v ∧ v'.cast t = .ok v') ∨
      ∃ e, v.cast t = .error e ∧ v'.cast t = .error e := by
  have hcast : t = .unspecified ∨ ∀ u : FilterValue, u.cast t = castOrCheck .string u := by
    match t, ht with
    | .unspecified, _ => exact .inl rfl
    | .scalar .string, _ | .array .string, _ => exact .inr fun _ => rfl
  rcases hcast with rfl | hcast
  · exact .inr (.inl ⟨rfl, rfl⟩)
  cases v with
  | text s =>
    cases v' with
    | text s' => exact .inr (.inl ⟨hcast _, hcast _⟩)
    | _ => cases h
  | array items =>
    cases v' with
    | array items' =>
      have hs : maskedItems items = maskedItems items' := by
        rw [masked, masked] at h
        exact FilterValue.array.inj h
      rw [hcast, hcast, castOrCheck, castOrCheck, checkItems_string hs]
      cases checkItems .string items' with
      | ok _ => exact .inr (.inl ⟨rfl, rfl⟩)
      | error e => exact .inr (.inr ⟨e, rfl, rfl⟩)
    | _ => cases h
  | _ => exact .inl (by cases v' <;> first | exact h | cases h)

/-- Checks of related values agree, if atoms and their texts are related to themselves. -/
theorem agree_cast {R : FilterValue → FilterValue → Prop} {t : DataType} {v v' : FilterValue}
    (h : v = v' ∨ t.isTextual = true ∧ v.masked = v'.masked) (hR : R v v')
    (hatom : ∀ u : FilterValue, u.isAtom = true → R u u ∧ R (.text u.plain) (.text u.plain)) :
    Agree R (v.cast t) (v'.cast t) := by
  have hsame : v = v' → Agree R (v.cast t) (v'.cast t) := by
    rintro rfl
    refine .same fun w hw => ?_
    rcases cast_cases hw with rfl | hw | ⟨u, hu, rfl⟩
    · exact hR
    · exact (hatom w hw).1
    · exact (hatom u hu).2
  rcases h with h | ⟨ht, hm⟩
  · exact hsame h
  rcases cast_textual ht hm with h | ⟨hv, hv'⟩ | ⟨e, hv, hv'⟩
  · exact hsame h
  · rw [hv, hv']
    exact .ok hR
  · rw [hv, hv']
    exact .error e

theorem part?_of_isAtom {u w : FilterValue} (hu : u.isAtom = true) {path : List Nat}
    (h : u.part? path = some w) : w = u := by
  cases path with
  | nil => exact (Option.some.inj h).symm
  | cons i path => cases u <;> first | cases h | cases hu

theorem alike_atom {u : FilterValue} (hu : u.isAtom = true) (h : o.text u.plain u.plain) :
    u.Alike o u := by
  refine ⟨rfl, fun path w w' hw hw' => ?_⟩
  rw [part?_of_isAtom hu hw, part?_of_isAtom hu hw']
  exact h

theorem alike_text {s : String} (h : o.text s s) : (FilterValue.text s).Alike o (.text s) := by
  refine ⟨rfl, fun path w w' hw hw' => ?_⟩
  cases path with
  | nil =>
    cases Option.some.inj hw
    cases Option.some.inj hw'
    exact h
  | cons i path => cases hw

theorem lowered_of_isAtom {u : FilterValue} (hu : u.isAtom = true) : u.lowered = u := by
  cases u <;> first | rfl | cases hu

end FilterValue

/-! ## Items and tests -/

variable {o : Origin}

/-- What a statement may write for a key: its name, the JSON path it spells, and the names of its
materialised columns. -/
structure Sql.Origin.Covers (o : Origin) (key : AttributeKey) : Prop where
  name : o.name key.name
  text : o.text key.name key.name
  lowered : o.text (Text.lowercase key.name) (Text.lowercase key.name)
  path : ∀ p, Body.path key.name = .ok p → o.text p p
  materialized : o.name (Schema.materializedName key)
  flag : o.name (Schema.materializedName key ++ "_exists")

/-- The items have one key and operator, and values that are related by `R` once they are
checked. -/
structure FilterItem.Related (o : Origin) (R : FilterValue → FilterValue → Prop)
    (item item' : FilterItem) : Prop where
  key : item'.key = item.key
  op : item'.op = item.op
  covered : o.Covers item.key
  checked : Agree R (item.value.cast item.key.dataType) (item'.value.cast item.key.dataType)

inductive Test.Related (R : FilterValue → FilterValue → Prop) : Test → Test → Prop
  | compare (c : Comparison) {v v' : FilterValue} (h : R v v') :
      Related R (.compare c v) (.compare c v')
  | like (negated : Bool) {v v' : FilterValue} (h : R v v') :
      Related R (.like negated v) (.like negated v')
  | contains (negated : Bool) {v v' : FilterValue} (h : R v v') :
      Related R (.contains negated v) (.contains negated v')
  | regex (negated : Bool) {v v' : FilterValue} (h : R v v') :
      Related R (.regex negated v) (.regex negated v')
  | member (negated : Bool) {items items' : List FilterValue} (h : R (.array items) (.array items')) :
      Related R (.member negated items) (.member negated items')
  | presence (negated : Bool) : Related R (.presence negated) (.presence negated)
  | has (negated : Bool) {v v' : FilterValue} (h : R v v') :
      Related R (.has negated v) (.has negated v')

namespace FilterItem

variable {R : FilterValue → FilterValue → Prop} {item item' : FilterItem}

theorem Related.valueAs (h : item.Related o R item') {t : DataType}
    (ht : t.element = item.key.dataType.element) :
    Agree R (item.valueAs t) (item'.valueAs t) := by
  have hc := h.checked
  rw [← FilterValue.cast_element, ← FilterValue.cast_element _ item'.value, ← ht,
    FilterValue.cast_element, FilterValue.cast_element] at hc
  unfold FilterItem.valueAs
  rw [h.key]
  cases hv : item.value.cast t <;> cases hv' : item'.value.cast t <;> rw [hv, hv'] at hc
  · exact congrArg (Fault.castFailed item.key.name) hc
  · exact hc
  · exact hc
  · exact hc

theorem Related.checkedValue (h : item.Related o R item') :
    Agree R item.checkedValue item'.checkedValue := by
  unfold FilterItem.checkedValue
  rw [h.key]
  exact h.valueAs rfl

theorem Related.itemsOf (h : item.Related o R item') {v v' : FilterValue} (hv : R v v')
    (hshape : v.masked = v'.masked) :
    Agree (fun items items' => R (.array items) (.array items')) (item.itemsOf v)
      (item'.itemsOf v') := by
  unfold FilterItem.itemsOf
  rw [h.key, h.op]
  cases v <;> cases v' <;> first | exact hv | exact rfl | cases hshape

/-- Tests of related items are related, or refused for the same reason. -/
theorem Related.test (h : item.Related o R item') (hR : ∀ v v', R v v' → v.masked = v'.masked) :
    Agree (Test.Related R) item.test item'.test := by
  unfold FilterItem.test
  rw [h.op]
  cases item.op with
  | compare c => exact h.checkedValue.bind fun v v' hv => .ok (.compare c hv)
  | like negated => exact h.checkedValue.bind fun v v' hv => .ok (.like negated hv)
  | contains negated => exact h.checkedValue.bind fun v v' hv => .ok (.contains negated hv)
  | regex negated => exact h.checkedValue.bind fun v v' hv => .ok (.regex negated hv)
  | member negated =>
    exact h.checkedValue.bind fun v v' hv => (h.itemsOf hv (hR v v' hv)).bind fun items items' hi =>
      .ok (.member negated hi)
  | presence negated => exact .ok (.presence negated)
  | has negated => exact h.checkedValue.bind fun v v' hv => .ok (.has negated hv)

end FilterItem

/-- The items have one key and operator, and values that are alike once they are checked. -/
abbrev FilterItem.Alike (o : Origin) : FilterItem → FilterItem → Prop :=
  FilterItem.Related o (FilterValue.Alike o)

abbrev Test.Alike (o : Origin) : Test → Test → Prop := Test.Related (FilterValue.Alike o)

theorem FilterItem.Related.alikeTest {item item' : FilterItem} (h : item.Alike o item') :
    Agree (Test.Alike o) item.test item'.test := h.test fun _ _ hv => hv.shape

end PanelQuery
