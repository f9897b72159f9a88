import PanelQuery.Proofs.Json.Written
import PanelQuery.Proofs.Query.Written

/-! # Queries through their text

A query that was read from a text is written as a text that is read as the same query. What was
read is never too deep and holds only finite doubles, so the only thing that can be lost is the last
bit of a double. -/

namespace PanelQuery

open Json (Legible LegibleMembers ReadsBack)
open Json.Document

/-! ## Values that can be read -/

namespace FilterValue

/-- Arrays are nested at most `room` deep, and doubles are finite. -/
inductive Fits : Nat → FilterValue → Prop where
  | null {room : Nat} : Fits room .null
  | bool {room : Nat} (b : Bool) : Fits room (.bool b)
  | int {room : Nat} (n : Int64) : Fits room (.int n)
  | float {room : Nat} {x : Float} (h : x.isFinite = true) : Fits room (.float x)
  | text {room : Nat} (s : String) : Fits room (.text s)
  | array {room : Nat} {items : List FilterValue} (h : ∀ v ∈ items, Fits room v) :
      Fits (room + 1) (.array items)

/-- The values of an array are those of its items. -/
theorem ofItems?_iff {items : List Json} {vs : List FilterValue} :
    ofItems? items = some vs ↔ List.Forall₂ (fun j v => ofJson? j = some v) items vs := by
  induction items generalizing vs with
  | nil => cases vs <;> simp [ofItems?]
  | cons j items ih =>
    rw [ofItems?]
    split
    · next v ws hv hws =>
      cases vs with
      | nil => simp
      | cons w vs => simp [hv, ← ih, hws]
    · next hnone =>
      cases vs with
      | nil => simp
      | cons w vs =>
        rw [List.forall₂_cons, ← ih]
        constructor
        · intro hread
          cases hread
        · rintro ⟨hw, hvs⟩
          exact (hnone w vs hw hvs).elim

theorem fits_of_plain {room : Nat} {d : Json.Document} {j : Json} {v : FilterValue}
    (hd : Sound room d) (hj : d.plain = .ok j) (hv : ofJson? j = some v) : v.Fits room := by
  induction hd generalizing j v with
  | null =>
    cases hj
    cases hv
    exact .null
  | bool b =>
    cases hj
    cases hv
    exact .bool b
  | text s =>
    cases hj
    cases hv
    exact .text s
  | float h =>
    cases hj
    cases hv
    exact .float h
  | @int room n hmin hmax =>
    cases hj
    rw [ofJson?] at hv
    split at hv
    · cases hv
      exact .int _
    · next hbeyond =>
      cases hv
      refine .float (Decimal.isFinite_floatOfInt ?_ hmax)
      by_contra hneg
      have hword : Decimal.int64Of? n = some (Int64.ofInt n) :=
        if_pos ⟨hmin, by rw [Decimal.int64Max]; omega⟩
      rw [hword] at hbeyond
      cases hbeyond
  | @arr room items hitems ih =>
    obtain ⟨js, hjs, hdone⟩ := ok_of_bind hj
    cases hdone
    rw [ofJson?] at hv
    obtain ⟨vs, hvs, rfl⟩ := Option.map_eq_some_iff.mp hv
    rw [plainItems_eq, mapM_ok_iff] at hjs
    refine .array fun w hw => ?_
    obtain ⟨j, hj, hjw⟩ := forall₂_exists_left (ofItems?_iff.mp hvs) hw
    obtain ⟨d, hd, hdj⟩ := forall₂_exists_left hjs hj
    exact ih d hd hdj hjw
  | openArr items =>
    obtain ⟨js, -, hdone⟩ := ok_of_bind hj
    cases hdone
  | obj hmembers =>
    obtain ⟨js, -, hdone⟩ := ok_of_bind hj
    cases hdone
    cases hv
  | openObj members =>
    obtain ⟨js, -, hdone⟩ := ok_of_bind hj
    cases hdone
  | unreadable => cases hj
  | broken => cases hj

theorem fits_of_read {room : Nat} {d : Json.Document} {v : FilterValue} (hd : Sound room d)
    (h : read d = .ok v) : v.Fits room := by
  obtain ⟨j, hj, hv⟩ := ok_of_bind h
  split at hv
  · next w hw =>
    cases hv
    exact fits_of_plain hd hj hw
  · cases hv

/-! ## Doubles of a value -/

mutual

/-- The doubles in a value. -/
def doubles : FilterValue → List Float
  | .float x => [x]
  | .array items => itemsDoubles items
  | _ => []

def itemsDoubles : List FilterValue → List Float
  | [] => []
  | item :: items => item.doubles ++ itemsDoubles items

end

theorem itemsDoubles_eq (items : List FilterValue) :
    itemsDoubles items = items.flatMap doubles := by
  induction items with
  | nil => rfl
  | cons item items ih => rw [itemsDoubles, ih, List.flatMap_cons]

theorem itemsToJson_eq (items : List FilterValue) : itemsToJson items = items.map toJson := by
  induction items with
  | nil => rfl
  | cons item items ih => rw [itemsToJson, ih, List.map_cons]

theorem legible_toJson {room : Nat} {v : FilterValue} (h : v.Fits room)
    (hdoubles : ∀ x ∈ v.doubles, x.isFinite = true → ReadsBack x) : Legible room v.toJson := by
  induction h with
  | null => simp only [toJson, Legible]
  | bool b => simp only [toJson, Legible]
  | text s => simp only [toJson, Legible]
  | int n =>
    obtain ⟨hmin, hmax⟩ := Decimal.isInt64_toInt n
    simp only [toJson, Legible, Decimal.int64Max, Decimal.uint64Max] at hmax ⊢
    exact ⟨hmin, by omega⟩
  | float hfinite =>
    simp only [toJson, Legible]
    exact hdoubles _ (List.mem_singleton_self _) hfinite
  | @array room items hitems ih =>
    rw [doubles, itemsDoubles_eq] at hdoubles
    rw [toJson, itemsToJson_eq, Legible, Json.legibleItems_iff, List.forall_mem_map]
    exact fun v hv => ih v hv fun x hx => hdoubles x (List.mem_flatMap_of_mem hv hx)

end FilterValue

/-! ## Queries that can be read -/

theorem FilterItem.fits_of_read {room : Nat} {d : Json.Document} {i : FilterItem}
    (hd : Sound (room + 1) d) (h : read d = .ok i) : i.value.Fits room := by
  refine asRecord_keeps (P := fun i => i.value.Fits room) ?_ .null hd h
  simp only [List.forall_mem_cons, List.not_mem_nil, false_implies, implies_true, and_true]
  exact ⟨Field.keeps_need fun _ _ _ hs _ _ => hs, Field.keeps_need fun _ _ _ hs _ _ => hs,
    Field.keeps_may fun _ _ _ _ hd hv => FilterValue.fits_of_read hd hv⟩

theorem FilterSet.fits_of_read {room : Nat} {d : Json.Document} {s : FilterSet}
    (hd : Sound (room + 3) d) (h : read d = .ok s) : ∀ i ∈ s.items, i.value.Fits room := by
  refine asRecord_keeps (P := fun s => ∀ i ∈ s.items, i.value.Fits room) ?_ (by simp) hd h
  simp only [List.forall_mem_cons, List.not_mem_nil, false_implies, implies_true, and_true]
  exact ⟨Field.keeps_may fun _ _ _ hs _ _ => hs, Field.keeps_may fun _ _ _ _ hd hv =>
    asList_keeps (fun _ _ hd hi => FilterItem.fits_of_read hd hi) hd hv⟩

theorem Having.fits_of_read {room : Nat} {d : Json.Document} {c : Having}
    (hd : Sound (room + 1) d) (h : read d = .ok c) : c.value.Fits room := by
  refine asRecord_keeps (P := fun c => c.value.Fits room) ?_ .null hd h
  simp only [List.forall_mem_cons, List.not_mem_nil, false_implies, implies_true, and_true]
  exact ⟨Field.keeps_need fun _ _ _ hs _ _ => hs, Field.keeps_need fun _ _ _ hs _ _ => hs,
    Field.keeps_need fun _ _ _ _ hd hv => FilterValue.fits_of_read hd hv⟩

namespace Query

/-- The values that a query holds, in filters and in conditions on the aggregate, fit in the room
that is left by the containers around them. -/
structure Fits (room : Nat) (q : Query) : Prop where
  filters : ∀ s ∈ q.filters, ∀ i ∈ s.items, i.value.Fits room
  having : ∀ c ∈ q.having, c.value.Fits (room + 1)

theorem fits_of_read {room : Nat} {d : Json.Document} {q : Query} (hd : Sound (room + 4) d)
    (h : read d = .ok q) : q.Fits room := by
  refine asRecord_keeps (P := Fits room) (fun f hf => ?_) ⟨by simp, by simp⟩ hd h
  simp only [List.mem_cons, List.not_mem_nil, or_false] at hf
  rcases hf with rfl | rfl | rfl | rfl | rfl | rfl | rfl | rfl | rfl | rfl | rfl | rfl | rfl | rfl |
    rfl | rfl | rfl | rfl | rfl
  -- All fields but the filters and the conditions on the aggregate leave the values as they are.
  all_goals first
    | exact Field.keeps_may fun _ _ _ hs _ _ => ⟨hs.filters, hs.having⟩
    | exact Field.keeps_need fun _ _ _ hs _ _ => ⟨hs.filters, hs.having⟩
    | exact Field.keeps_may fun _ _ _ hs hd hv =>
        ⟨asOption_keeps (fun _ => FilterSet.fits_of_read hd) hv, hs.having⟩
    | exact Field.keeps_may fun _ _ _ hs hd hv =>
        ⟨hs.filters, asList_keeps (fun _ _ => Having.fits_of_read) hd hv⟩

/-- The doubles that a query holds, in filters and in conditions on the aggregate. -/
def doubles (q : Query) : List Float :=
  (q.filterItems.map (·.value) ++ q.having.map (·.value)).flatMap FilterValue.doubles

end Query

/-! ## Written queries are legible -/

theorem legible_map {α : Type} {write : α → Json} {room : Nat} {xs : List α}
    (h : ∀ x ∈ xs, Legible room (write x)) : Legible (room + 1) (.arr (xs.map write)) := by
  rw [Legible, Json.legibleItems_iff, List.forall_mem_map]
  exact h

theorem legible_optionToJson {α : Type} {write : α → Json} {room : Nat} {o : Option α}
    (h : ∀ a ∈ o, Legible room (write a)) : Legible room (optionToJson write o) := by
  cases o with
  | none => simp only [optionToJson, Legible]
  | some a => exact h a rfl

theorem legible_word {room : Nat} (n : UInt64) : Legible room (.int n.toNat) := by
  have hmax := n.toNat_lt
  simp only [Legible, Decimal.int64Min, Decimal.uint64Max]
  omega

theorem AttributeKey.legible_toJson (room : Nat) (k : AttributeKey) :
    Legible (room + 1) k.toJson := by
  simp [toJson, Legible, LegibleMembers]

theorem OrderBy.legible_toJson (room : Nat) (o : OrderBy) : Legible (room + 1) o.toJson := by
  simp [toJson, Legible, LegibleMembers]

theorem FilterItem.legible_toJson {room : Nat} {i : FilterItem}
    (h : Legible (room + 1) i.value.toJson) : Legible (room + 2) i.toJson := by
  simp only [toJson, Legible, LegibleMembers, and_true, true_and]
  exact ⟨i.key.legible_toJson room, h⟩

theorem FilterSet.legible_toJson {room : Nat} {s : FilterSet}
    (h : ∀ i ∈ s.items, Legible (room + 1) i.value.toJson) : Legible (room + 4) s.toJson := by
  have hitems : Legible (room + 3) (.arr (s.items.map FilterItem.toJson)) :=
    legible_map fun i hi => FilterItem.legible_toJson (h i hi)
  rw [toJson, Legible]
  simp only [LegibleMembers, hitems, and_true]
  simp only [Legible]

theorem Having.legible_toJson {room : Nat} {c : Having} (h : Legible room c.value.toJson) :
    Legible (room + 1) c.toJson := by
  simp only [toJson, Legible, LegibleMembers, and_true, true_and]
  exact h

namespace Query

theorem legible_toJson {room : Nat} {q : Query} (h : q.Fits (room + 1))
    (hdoubles : ∀ x ∈ q.doubles, x.isFinite = true → ReadsBack x) :
    Legible (room + 5) q.toJson := by
  have hvalues : ∀ v ∈ q.filterItems.map (·.value) ++ q.having.map (·.value),
      ∀ x ∈ v.doubles, x.isFinite = true → ReadsBack x := fun v hv x hx =>
    hdoubles x (List.mem_flatMap_of_mem hv hx)
  have hfilters : Legible (room + 4) (optionToJson FilterSet.toJson q.filters) := by
    refine legible_optionToJson fun s hs => FilterSet.legible_toJson fun i hi => ?_
    refine FilterValue.legible_toJson (h.filters s hs i hi) (hvalues _ ?_)
    refine List.mem_append_left _ (List.mem_map_of_mem ?_)
    rw [filterItems, hs]
    exact hi
  have hhaving : Legible (room + 4) (.arr (q.having.map Having.toJson)) := by
    refine legible_map fun c hc => Having.legible_toJson ?_
    exact FilterValue.legible_toJson (h.having c hc)
      (hvalues _ (List.mem_append_right _ (List.mem_map_of_mem hc)))
  have hgroupBy : Legible (room + 4) (.arr (q.groupBy.map AttributeKey.toJson)) :=
    legible_map fun k _ => k.legible_toJson _
  have horderBy : Legible (room + 4) (.arr (q.orderBy.map OrderBy.toJson)) :=
    legible_map fun o _ => o.legible_toJson _
  have htime : Legible (room + 4) (optionToJson (fun t => .str t.word) q.timeAggregation) :=
    legible_optionToJson fun t _ => by simp only [Legible]
  have hspace : Legible (room + 4) (optionToJson (fun s => .str s.word) q.spaceAggregation) :=
    legible_optionToJson fun t _ => by simp only [Legible]
  have hstep : Legible (room + 4) (.int q.stepInterval.toInt) :=
    FilterValue.legible_toJson (.int q.stepInterval) nofun
  rw [toJson, Legible]
  simp only [LegibleMembers, hfilters, hhaving, hgroupBy, horderBy, htime, hspace, hstep,
    legible_word, AttributeKey.legible_toJson, and_true, true_and]
  simp only [Legible, and_self]

/-- The text of the query that a text holds. -/
def rewrite (text : String) : Except Json.ReadError String :=
  (read (readWhole text)).map fun q => q.toJson.render

/-- **Queries survive their text.** What is written for a query that was read is read as that query,
and a text that was rewritten once is not changed by rewriting it again. The finite doubles in the
query are assumed to read back from their shortest decimals. -/
theorem survives_text {text : String} {q : Query} (h : read (readWhole text) = .ok q)
    (hdoubles : ∀ x ∈ q.doubles, x.isFinite = true → ReadsBack x) :
    read (readWhole q.toJson.render) = .ok q ∧ (rewrite text >>= rewrite) = rewrite text := by
  -- The containers around a value in a filter take four of the levels that the reader goes down.
  have hfits : q.Fits (122 + 1) := fits_of_read (sound_readWhole text) h
  have hread : read (readWhole q.toJson.render) = .ok q := by
    rw [readWhole_render (legible_toJson hfits hdoubles), read_toJson]
  have htext : rewrite text = .ok q.toJson.render := by
    rw [rewrite, h]
    rfl
  have hagain : rewrite q.toJson.render = .ok q.toJson.render := by
    rw [rewrite, hread]
    rfl
  exact ⟨hread, by rw [htext]; exact hagain⟩

/-- A query that is not spelled the canonical way, with a value in which doubles are nested. -/
def spelled : String :=
  "\x7b\"dataSource\":\"logs\",\"filters\":\x7b\"op\":\"and\",\"items\":[" ++
  "\x7b\"key\":\x7b\"key\":\"k\",\"isJSON\":true\x7d,\"op\":\" NIN \"," ++
  "\"value\":[[1.0,18446744073709551615],null]\x7d]\x7d\x7d"

theorem survives_text_spelled : ∃ q, read (readWhole spelled) = .ok q ∧
    q.doubles = [1, 18446744073709551616] ∧
    (∀ x ∈ q.doubles, x.isFinite = true → ReadsBack x) ∧
    read (readWhole q.toJson.render) = .ok q ∧ (rewrite spelled >>= rewrite) = rewrite spelled := by
  have hread : (read (readWhole spelled)).map doubles = .ok [1, 18446744073709551616] := by
    decide +kernel
  have hback : ∀ x ∈ ([1, 18446744073709551616] : List Float), ReadsBack x := by decide +kernel
  obtain ⟨q, hq, hd⟩ := ok_of_map hread
  have hdoubles : ∀ x ∈ q.doubles, x.isFinite = true → ReadsBack x := fun x hx _ =>
    hback x (hd ▸ hx)
  exact ⟨q, hq, hd, hdoubles, survives_text hq hdoubles⟩

end Query

end PanelQuery
