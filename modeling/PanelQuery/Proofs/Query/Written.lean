import PanelQuery.Proofs.Decimal.Word
import PanelQuery.Proofs.Json.Record
import PanelQuery.Query.Codec

/-! # Written queries as documents

Every part of a query is read from what is written for it: the words of the choices, the values of
the filters, and the records with their fields in order. -/

namespace PanelQuery

open Json (Reader)
open Json.Document

/-! ## Words -/

theorem asChoice_ofJson {α : Type} {choices : List (String × α)} {word : String} {a : α}
    (h : choices.lookup word = some a) : asChoice choices (ofJson (.str word)) = .ok a := by
  rw [ofJson, asChoice, h]

theorem DataType.read_word (t : DataType) : read (ofJson (.str t.word)) = .ok t :=
  asChoice_ofJson (by
    cases t with
    | unspecified => rfl
    | scalar t | array t => cases t <;> rfl)

theorem KeyKind.read_word (k : KeyKind) : read (ofJson (.str k.word)) = .ok k :=
  asChoice_ofJson (by cases k <;> rfl)

theorem FilterOperator.read_word (op : FilterOperator) : read (ofJson (.str op.word)) = .ok op := by
  have hall : ∀ op ∈ all, ofText op.word = .ok op := by decide +kernel
  have hmem : op ∈ all := by
    cases op with
    | compare c => cases c <;> decide
    | _ negated => cases negated <;> decide
  rw [ofJson, read, asText]
  simp only [bind, Except.bind, hall op hmem]

theorem Connective.read_word (c : Connective) : read (ofJson (.str c.word)) = .ok c :=
  asChoice_ofJson (by cases c <;> rfl)

theorem HavingOperator.read_word (op : HavingOperator) : read (ofJson (.str op.word)) = .ok op :=
  asChoice_ofJson (by
    cases op with
    | compare c => cases c <;> rfl
    | member negated => cases negated <;> rfl)

theorem AggregateOperator.read_word (op : AggregateOperator) :
    read (ofJson (.str op.word)) = .ok op :=
  asChoice_ofJson (by
    cases op with
    | plain f | ofRate f | rateOf f => cases f <;> rfl
    | percentile p => cases p <;> rfl
    | histogramQuantile q => cases q <;> rfl
    | _ => rfl)

theorem TimeAggregation.read_word (t : TimeAggregation) : read (ofJson (.str t.word)) = .ok t :=
  asChoice_ofJson (by cases t <;> rfl)

theorem SpaceAggregation.read_word (s : SpaceAggregation) : read (ofJson (.str s.word)) = .ok s :=
  asChoice_ofJson (by
    cases s with
    | function f => cases f <;> rfl
    | count => rfl
    | percentile q => cases q <;> rfl)

theorem Temporality.read_word (t : Temporality) : read (ofJson (.str t.word)) = .ok t :=
  asChoice_ofJson (by cases t <;> rfl)

theorem MetricType.read_word (m : MetricType) : read (ofJson (.str m.word)) = .ok m :=
  asChoice_ofJson (by cases m <;> rfl)

theorem ReduceTo.read_word (r : ReduceTo) : read (ofJson (.str r.word)) = .ok r :=
  asChoice_ofJson (by cases r <;> rfl)

theorem Signal.read_word (s : Signal) : read (ofJson (.str s.word)) = .ok s :=
  asChoice_ofJson (by cases s <;> rfl)

/-! ## Values -/

theorem asText_ofJson (s : String) : asText (ofJson (.str s)) = .ok s := rfl

theorem asBool_ofJson (b : Bool) : asBool (ofJson (.bool b)) = .ok b := rfl

theorem asInt64_ofJson (n : Int64) : asInt64 (ofJson (.int n.toInt)) = .ok n := by
  rw [ofJson, asInt64, asInteger, Decimal.int64Of?_toInt]

theorem asUInt64_ofJson (n : UInt64) : asUInt64 (ofJson (.int n.toNat)) = .ok n := by
  have hword : Decimal.uint64Of? n.toNat = some n := by
    have hmax : n.toNat < 2 ^ 64 := n.toNat_lt
    have hfits : (n.toNat : Int) ≤ Decimal.uint64Max := by
      rw [Decimal.uint64Max]
      omega
    rw [Decimal.uint64Of?, if_pos ⟨Int.natCast_nonneg _, hfits⟩, Int.toNat_natCast,
      UInt64.ofNat_toNat]
  rw [ofJson, asUInt64, asInteger, hword]

namespace FilterValue

mutual

/-- Integers stay integers and doubles stay doubles. -/
theorem ofJson?_toJson : ∀ v : FilterValue, ofJson? v.toJson = some v
  | .null | .bool _ | .float _ | .text _ => rfl
  | .int n => by rw [toJson, ofJson?, Decimal.int64Of?_toInt]
  | .array items => by rw [toJson, ofJson?, ofItems?_itemsToJson items, Option.map_some]

theorem ofItems?_itemsToJson : ∀ items : List FilterValue,
    ofItems? (itemsToJson items) = some items
  | [] => rfl
  | item :: items => by
    rw [itemsToJson, ofItems?, ofJson?_toJson item, ofItems?_itemsToJson items]

end

theorem read_toJson (v : FilterValue) : read (ofJson v.toJson) = .ok v := by
  simp only [read, plain_ofJson, bind, Except.bind, ofJson?_toJson]

end FilterValue

/-- Null stands for nothing, so what is written for something must not be null. -/
theorem asOption_ofJson {α : Type} {read : Reader α} {write : α → Json} {o : Option α}
    (h : ∀ a, read (ofJson (write a)) = .ok a) (hnull : ∀ a, ofJson (write a) ≠ .null) :
    asOption read (ofJson (optionToJson write o)) = .ok o := by
  cases o with
  | none => rfl
  | some a =>
    rw [optionToJson, asOption]
    · rw [h]
      rfl
    · exact hnull a

/-! ## Records -/

theorem AttributeKey.read_toJson (k : AttributeKey) : read (ofJson k.toJson) = .ok k := by
  rw [read, toJson, asRecord_ofJson (by decide) rfl]
  simp only [List.map_cons, List.map_nil]
  rw [storeItems_need (asText_ofJson _), storeItems_may (DataType.read_word _),
    storeItems_may (KeyKind.read_word _), storeItems_may (asBool_ofJson _),
    storeItems_may (asBool_ofJson _)]
  rfl

theorem FilterItem.read_toJson (i : FilterItem) : read (ofJson i.toJson) = .ok i := by
  rw [read, toJson, asRecord_ofJson (by decide) rfl]
  simp only [List.map_cons, List.map_nil]
  rw [storeItems_need (AttributeKey.read_toJson _), storeItems_need (FilterOperator.read_word _),
    storeItems_may (FilterValue.read_toJson _)]
  rfl

theorem FilterSet.read_toJson (s : FilterSet) : read (ofJson s.toJson) = .ok s := by
  rw [read, toJson, asRecord_ofJson (by decide) rfl]
  simp only [List.map_cons, List.map_nil]
  rw [storeItems_may (Connective.read_word _),
    storeItems_may (asList_ofJson FilterItem.read_toJson _)]
  rfl

theorem OrderBy.read_toJson (o : OrderBy) : read (ofJson o.toJson) = .ok o := by
  rw [read, toJson, asRecord_ofJson (by decide) rfl]
  simp only [List.map_cons, List.map_nil]
  rw [storeItems_need (asText_ofJson _), storeItems_need (asText_ofJson _),
    storeItems_may (asText_ofJson _), storeItems_may (DataType.read_word _),
    storeItems_may (KeyKind.read_word _), storeItems_may (asBool_ofJson _)]
  rfl

theorem Having.read_toJson (h : Having) : read (ofJson h.toJson) = .ok h := by
  rw [read, toJson, asRecord_ofJson (by decide) rfl]
  simp only [List.map_cons, List.map_nil]
  rw [storeItems_need (asText_ofJson _), storeItems_need (HavingOperator.read_word _),
    storeItems_need (FilterValue.read_toJson _)]
  rfl

/-- **Written queries are read as themselves**, field by field. -/
theorem Query.read_toJson (q : Query) : read (ofJson q.toJson) = .ok q := by
  rw [read, toJson, asRecord_ofJson (by decide) rfl]
  simp only [List.map_cons, List.map_nil]
  rw [storeItems_may (asText_ofJson _), storeItems_need (Signal.read_word _),
    storeItems_may (AttributeKey.read_toJson _), storeItems_may (AggregateOperator.read_word _),
    storeItems_may (asOption_ofJson TimeAggregation.read_word nofun),
    storeItems_may (asOption_ofJson SpaceAggregation.read_word nofun),
    storeItems_may (Temporality.read_word _), storeItems_may (MetricType.read_word _),
    storeItems_may (asOption_ofJson FilterSet.read_toJson nofun),
    storeItems_may (asList_ofJson AttributeKey.read_toJson _),
    storeItems_may (asList_ofJson OrderBy.read_toJson _),
    storeItems_may (asList_ofJson Having.read_toJson _),
    storeItems_may (asInt64_ofJson _), storeItems_may (asUInt64_ofJson _),
    storeItems_may (asUInt64_ofJson _), storeItems_may (asUInt64_ofJson _),
    storeItems_may (ReduceTo.read_word _), storeItems_may (asText_ofJson _),
    storeItems_may (asBool_ofJson _)]
  rfl

end PanelQuery
