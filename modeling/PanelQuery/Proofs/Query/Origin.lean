import PanelQuery.Engine
import PanelQuery.Proofs.Metrics.Compile

/-! # Where the texts of a statement come from

Two queries are compared that have the same mask: they are equal but for the texts of filter values
whose keys have textual types. The names in their statements are names of the mask, and a text in a
literal is either one of the mask, in both statements the same, or stands at a slot: a part of the
value of an item, which each query fills with its own text. -/

namespace PanelQuery

open Sql (Origin)

/-! ## Masks -/

/-- The item with the texts of its value emptied, if values of its key are texts. -/
def FilterItem.masked (item : FilterItem) : FilterItem :=
  if item.key.dataType.isTextual then { item with value := item.value.masked } else item

def FilterSet.masked (set : FilterSet) : FilterSet :=
  { set with items := set.items.map FilterItem.masked }

/-- The query without the texts of its filter values. -/
def Query.masked (q : Query) : Query := { q with filters := q.filters.map FilterSet.masked }

theorem FilterItem.masked_key (item : FilterItem) : item.masked.key = item.key := by
  unfold masked
  split <;> rfl

theorem FilterItem.masked_op (item : FilterItem) : item.masked.op = item.op := by
  unfold masked
  split <;> rfl

theorem FilterItem.value_of_masked {item item' : FilterItem} (h : item.masked = item'.masked) :
    item.value = item'.value ∨
      item.key.dataType.isTextual = true ∧ item.value.masked = item'.value.masked := by
  have hk : item.key = item'.key := by
    rw [← item.masked_key, h, item'.masked_key]
  unfold masked at h
  rw [← hk] at h
  split at h
  · next ht => exact .inr ⟨ht, congrArg FilterItem.value h⟩
  · exact .inl (congrArg FilterItem.value h)

theorem Query.filterItems_masked (q : Query) :
    q.masked.filterItems = q.filterItems.map FilterItem.masked := by
  unfold filterItems masked
  cases q.filters <;> rfl

/-! ## Names, texts and slots -/

/-- The names that a query mentions. -/
def Query.names (q : Query) : List String :=
  q.aggregateAttribute.name :: (q.groupBy.map (·.name) ++ q.filterItems.map (·.key.name)
    ++ q.orderBy.flatMap fun r => [r.column, r.key])

theorem Query.names_masked (q : Query) : q.masked.names = q.names := by
  have hkeys : q.masked.filterItems.map (·.key.name) = q.filterItems.map (·.key.name) := by
    rw [filterItems_masked, List.map_map]
    exact List.map_congr_left fun item _ => congrArg AttributeKey.name item.masked_key
  unfold names
  rw [hkeys]
  rfl

/-- The names that a statement may write: those of the query, materialised columns made of them,
the time column, and the bucket bound of histograms. -/
inductive Query.Named (q : Query) : String → Prop
  | own {n : String} (h : n ∈ q.names) : Named q n
  | materialized {key : AttributeKey} (h : key.name ∈ q.names) :
      Named q (Schema.materializedName key)
  | flag {key : AttributeKey} (h : key.name ∈ q.names) :
      Named q (Schema.materializedName key ++ "_exists")
  | timestamp : Named q "timestamp"
  | bound : Named q Metrics.leTag

/-- The texts that a statement may have in its literals beside those of filter values. -/
inductive Query.Given (q : Query) : String → Prop
  | name {n : String} (h : n ∈ q.names) : Given q n
  | loweredName {n : String} (h : n ∈ q.names) : Given q (Text.lowercase n)
  | path {n p : String} {rest : List Char} (h : n ∈ q.names)
      (hn : n.toList = "body".toList ++ rest) (hp : p.toList = '$' :: rest) : Given q p
  | bound : Given q Metrics.leTag
  | having {c : Having} {path : List Nat} {v : FilterValue} (h : c ∈ q.having)
      (hv : c.value.part? path = some v) : Given q v.plain
  | instant (n : Int) : Given q (toString n)
  | atom {v : FilterValue} (h : v.isAtom = true) : Given q v.plain
  | loweredAtom {v : FilterValue} (h : v.isAtom = true) : Given q (Text.lowercase v.plain)

/-- The texts of the item go into the statement in lower case. -/
def Query.lowers (q : Query) (item : FilterItem) : Bool :=
  q.signal == .logs && item.key.kind == .resource && !item.op.isRegex

/-- A part of the value of a filter item, by position. -/
structure Slot where
  item : Nat
  path : List Nat
  deriving DecidableEq, Repr

/-- The text that a query has for a slot: the text itself, or the items joined by commas. -/
def Slot.text? (slot : Slot) (q : Query) : Option String := do
  let item ← q.filterItems[slot.item]?
  let part ← item.value.part? slot.path
  return (if q.lowers item then part.lowered else part).plain

/-- What statements of two queries with one mask are made of. -/
def Query.origin (q q' : Query) : Origin where
  name := q.masked.Named
  text a b := a = b ∧ q.masked.Given a ∨
    ∃ slot : Slot, slot.text? q = some a ∧ slot.text? q' = some b

section

variable {q q' : Query}

theorem origin_covers {key : AttributeKey} (h : key.name ∈ q.names) :
    (q.origin q').Covers key := by
  rw [← q.names_masked] at h
  refine ⟨.own h, .inl ⟨rfl, .name h⟩, .inl ⟨rfl, .loweredName h⟩, fun p hp => ?_,
    .materialized h, .flag h⟩
  obtain ⟨rest, hn, hd⟩ := Body.path_eq hp
  exact .inl ⟨rfl, .path h hn hd⟩

theorem covered_origin : q.Covered (q.origin q') := by
  have hmem : ∀ r ∈ q.orderBy, r.column ∈ q.names ∧ r.target.name ∈ q.names := by
    intro r hr
    have hnames : ∀ n ∈ [r.column, r.key], n ∈ q.names := fun n hn =>
      List.mem_cons_of_mem _ (List.mem_append_right _ (List.mem_flatMap.mpr ⟨r, hr, hn⟩))
    refine ⟨hnames _ (by simp), hnames _ ?_⟩
    unfold OrderBy.target
    dsimp only
    split <;> simp
  refine ⟨fun key hk => origin_covers ?_, origin_covers List.mem_cons_self, fun r hr => ?_,
    fun r hr => origin_covers (hmem r hr).2, fun c hc => ⟨rfl, fun path u u' hu hu' => ?_⟩,
    fun n => .inl ⟨rfl, .instant n⟩, .timestamp, .bound, .inl ⟨rfl, .bound⟩⟩
  · exact List.mem_cons_of_mem _ (List.mem_append_left _ (List.mem_append_left _
      (List.mem_map_of_mem hk)))
  · exact .own (q.names_masked ▸ (hmem r hr).1)
  · rw [hu] at hu'
    cases Option.some.inj hu'
    exact .inl ⟨rfl, .having hc hu⟩

end

/-! ## Items at one position -/

section

variable {q q' : Query} {i : Nat} {item item' : FilterItem}

/-- The items at one position of two queries with one mask. -/
structure SamePlace (q q' : Query) (i : Nat) (item item' : FilterItem) : Prop where
  signal : q'.signal = q.signal
  left : q.filterItems[i]? = some item
  right : q'.filterItems[i]? = some item'
  masked : item.masked = item'.masked

namespace SamePlace

theorem key (h : SamePlace q q' i item item') : item'.key = item.key := by
  rw [← item.masked_key, h.masked, item'.masked_key]

theorem op (h : SamePlace q q' i item item') : item'.op = item.op := by
  rw [← item.masked_op, h.masked, item'.masked_op]

theorem lowers (h : SamePlace q q' i item item') : q'.lowers item' = q.lowers item := by
  unfold Query.lowers
  rw [h.signal, h.key, h.op]

theorem shape (h : SamePlace q q' i item item') : item.value.masked = item'.value.masked := by
  rcases FilterItem.value_of_masked h.masked with he | ⟨-, hm⟩
  · rw [he]
  · exact hm

theorem covers (h : SamePlace q q' i item item') : (q.origin q').Covers item.key := by
  refine origin_covers (List.mem_cons_of_mem _ (List.mem_append_left _ (List.mem_append_right _ ?_)))
  exact List.mem_map_of_mem (List.mem_of_getElem? h.left)

/-- Parts of the values at one position fill the same slot. -/
theorem slot (h : SamePlace q q' i item item') {path : List Nat} {u u' : FilterValue}
    (hu : item.value.part? path = some u) (hu' : item'.value.part? path = some u') :
    (q.origin q').text (if q.lowers item then u.lowered else u).plain
      (if q.lowers item then u'.lowered else u').plain := by
  refine .inr ⟨⟨i, path⟩, ?_, ?_⟩
  · simp [Slot.text?, h.left, hu]
  · simp [Slot.text?, h.right, hu', h.lowers]

theorem alike (h : SamePlace q q' i item item') (hl : q.lowers item = false) :
    item.value.Alike (q.origin q') item'.value := by
  refine ⟨h.shape, fun path u u' hu hu' => ?_⟩
  have hs := h.slot hu hu'
  rw [hl] at hs
  exact hs

theorem alike_lowered (h : SamePlace q q' i item item') (hl : q.lowers item = true) :
    item.value.lowered.Alike (q.origin q') item'.value.lowered := by
  refine ⟨?_, fun path u u' hu hu' => ?_⟩
  · rw [FilterValue.masked_lowered, FilterValue.masked_lowered, h.shape]
  · rw [FilterValue.part?_lowered] at hu hu'
    obtain ⟨w, hw, rfl⟩ := Option.map_eq_some_iff.mp hu
    obtain ⟨w', hw', rfl⟩ := Option.map_eq_some_iff.mp hu'
    have hs := h.slot hw hw'
    rw [hl] at hs
    exact hs

theorem alikeItem (h : SamePlace q q' i item item') (hl : q.lowers item = false) :
    item.Alike (q.origin q') item' := by
  refine ⟨h.key, h.op, h.covers, ?_⟩
  refine FilterValue.agree_cast (FilterItem.value_of_masked h.masked) (h.alike hl) fun u hu => ?_
  exact ⟨FilterValue.alike_atom hu (.inl ⟨rfl, .atom hu⟩),
    FilterValue.alike_text (.inl ⟨rfl, .atom hu⟩)⟩

theorem alikeInLookup (h : SamePlace q q' i item item')
    (hl : q.lowers item = !item.op.isRegex) : item.AlikeInLookup (q.origin q') item' := by
  refine ⟨⟨h.key, h.op, h.covers, ?_⟩, fun hr => ?_⟩
  · refine FilterValue.agree_cast (FilterItem.value_of_masked h.masked)
      ⟨h.shape, fun hr => h.alike_lowered (by rw [hl, hr]; rfl)⟩ fun u hu => ?_
    refine ⟨⟨rfl, fun _ => ?_⟩, rfl, fun _ => FilterValue.alike_text (.inl ⟨rfl, .loweredAtom hu⟩)⟩
    rw [FilterValue.lowered_of_isAtom hu]
    exact FilterValue.alike_atom hu (.inl ⟨rfl, .atom hu⟩)
  · exact (h.alike (by rw [hl, hr]; rfl)).plain

/-- Exactly the items of the lookup that are no patterns fill their slots in lower case. -/
theorem alikeOn (h : SamePlace q q' i item item') {s : Schema}
    (hs : (q.signal == .logs) = (s == .logs)) : item.AlikeOn (q.origin q') s item' := by
  have hl : q.lowers item = (s.looksUp item.key && !item.op.isRegex) := by
    rw [Query.lowers, hs]
    rfl
  refine ⟨h.key, fun hk => h.alikeItem ?_, fun hk => h.alikeInLookup ?_⟩
  · rw [hl, hk]
    rfl
  · rw [hl, hk]
    rfl

end SamePlace

theorem forall₂_of_masked {R : FilterItem → FilterItem → Prop} {items items' : List FilterItem}
    (h : items.map FilterItem.masked = items'.map FilterItem.masked)
    (hR : ∀ (i : Nat) item item', items[i]? = some item → items'[i]? = some item' →
      item.masked = item'.masked → R item item') : List.Forall₂ R items items' := by
  induction items generalizing items' with
  | nil =>
    cases items' with
    | nil => exact .nil
    | cons _ _ => cases h
  | cons item items ih =>
    cases items' with
    | nil => cases h
    | cons item' items' =>
      obtain ⟨hi, ht⟩ := List.cons.inj h
      exact .cons (hR 0 item item' rfl rfl hi) (ih ht fun i => hR (i + 1))

/-- Queries with one mask differ in their filters only, and items at one position are related. -/
theorem filters_of_masked (h : q.masked = q'.masked) :
    q' = { q with filters := q'.filters } ∧
      Option.Rel (FilterSet.Related fun item item' => ∃ i, SamePlace q q' i item item') q.filters
        q'.filters := by
  have hrest : { q.masked with filters := q'.filters } = { q'.masked with filters := q'.filters } :=
    by rw [h]
  refine ⟨hrest.symm, ?_⟩
  have hsignal : q'.signal = q.signal := (congrArg Query.signal h).symm
  have hfilters : q.filters.map FilterSet.masked = q'.filters.map FilterSet.masked :=
    congrArg Query.filters h
  cases hf : q.filters with
  | none =>
    cases hf' : q'.filters with
    | none => exact .none
    | some set' => rw [hf, hf'] at hfilters; cases hfilters
  | some set =>
    cases hf' : q'.filters with
    | none => rw [hf, hf'] at hfilters; cases hfilters
    | some set' =>
      rw [hf, hf'] at hfilters
      have hset : set.masked = set'.masked := Option.some.inj hfilters
      refine .some ⟨(congrArg FilterSet.op hset).symm,
        forall₂_of_masked (congrArg FilterSet.items hset) fun i item item' hl hr hm => ⟨i, ?_⟩⟩
      refine ⟨hsignal, ?_, ?_, hm⟩
      · rw [Query.filterItems, hf]
        exact hl
      · rw [Query.filterItems, hf']
        exact hr

/-- Statements of two queries with one mask are alike, or there are none for the same reason. -/
theorem agree_statementSql (h : q.masked = q'.masked) (features : List String) (start stop : Int)
    (panel : Panel) (options : QueryOptions) :
    Agree (Sql.Alike (q.origin q')) (Engine.statementSql features start stop panel q options)
      (Engine.statementSql features start stop panel q' options) := by
  obtain ⟨hq, hf⟩ := filters_of_masked h
  have hsignal : q'.signal = q.signal := (congrArg Query.signal h).symm
  have htable : ∀ s : Schema, (q.signal == .logs) = (s == .logs) →
      Agree (TableStatement.Alike (q.origin q')) (q.tableStatement s start stop panel options)
        (q'.tableStatement s start stop panel options) := by
    intro s hs
    have ha := agree_tableStatement covered_origin s (optionRel_imp hf fun _ _ hset =>
      hset.mono fun _ _ ⟨_, hi⟩ => hi.alikeOn hs) start stop panel options
    rwa [← hq] at ha
  unfold Engine.statementSql
  rw [hsignal]
  cases hs : q.signal with
  | logs => exact (htable .logs (by rw [hs]; rfl)).bind fun t t' ht => .ok ht.sql
  | traces => exact (htable .traces (by rw [hs]; rfl)).bind fun t t' ht => .ok ht.sql
  | metrics =>
    have hm := agree_metricsStatement covered_origin (optionRel_imp hf fun _ _ hset =>
      hset.mono fun _ _ ⟨_, hi⟩ => hi.alikeItem (by rw [Query.lowers, hs]; rfl)) start stop panel
      (Engine.prefersRpm features)
    rw [← hq] at hm
    exact hm.bind fun t t' ht => .ok ht.sql

end

end PanelQuery
