import PanelQuery.Proofs.Filter.Formula
import PanelQuery.Proofs.Sql.Hole
import PanelQuery.Proofs.Statement.Compile

/-! # Where statements have holes

Nothing that a query brings into a logs or traces statement is a hole: filters, lookups, labels,
aggregates, conditions on them and orders are written without one. The only hole of a statement is
that of the restriction to ranked groups. -/

namespace PanelQuery

open Sql (Condition holes)

/-! ## Values and columns -/

namespace FilterValue

mutual

@[simp] theorem holes_literal : (v : FilterValue) → holes v.literal = 0
  | .null | .bool _ | .int _ | .float _ | .text _ => by simp [literal]
  | .array items => by simp [literal, holes_itemLiterals items]

theorem holes_itemLiterals : (items : List FilterValue) → holes (itemLiterals items) = 0
  | [] => rfl
  | [item] => by simp [itemLiterals, holes_literal item]
  | item :: next :: items => by
    simp [itemLiterals, holes_literal item, holes_itemLiterals (next :: items)]

end

@[simp] theorem holes_pattern (v : FilterValue) (anywhere : Bool) :
    holes (v.pattern anywhere) = 0 := by
  unfold pattern
  split <;> simp

end FilterValue

@[simp] theorem Column.holes_sql (c : Column) : holes c.sql = 0 := by
  cases c <;> simp [Column.sql]

@[simp] theorem Presence.holes_sql (p : Presence) (notWord : String) (negated : Bool) :
    holes (p.sql notWord negated) = 0 := by
  cases p <;> simp [Presence.sql]

@[simp] theorem Schema.holes_guard (s : Schema) (key : AttributeKey) (negated : Bool) :
    holes (s.guard key negated) = 0 := Presence.holes_sql _ _ _

/-! ## Filter items -/

namespace Body

theorem holes_accessor {key : String} {t : DataType} {field : Sql}
    (h : accessor key t = .ok field) : holes field = 0 := by
  obtain ⟨p, -, h⟩ := ok_of_bind h
  cases h
  split <;> simp

@[simp] theorem holes_notIf (negated : Bool) (sql : Sql) :
    holes (notIf negated sql) = holes sql := by
  unfold notIf
  split <;> simp

theorem holes_scalarCondition {item : FilterItem} {field sql : Sql} {t : Test}
    (hf : holes field = 0) (h : scalarCondition item field t = .ok sql) : holes sql = 0 := by
  cases t with
  | presence negated =>
    obtain ⟨p, -, h⟩ := ok_of_bind h
    cases h
    simp
  | has negated v => cases h
  | _ =>
    cases h
    simp [ilikeSql, hf]

theorem holes_condition {item : FilterItem} {sql : Sql} (h : condition item = .ok sql) :
    holes sql = 0 := by
  have hscalar : ∀ {field : Sql}, holes field = 0 →
      item.test >>= scalarCondition item field = .ok sql → holes sql = 0 := by
    intro field hf ht
    obtain ⟨t, -, ht⟩ := ok_of_bind ht
    exact holes_scalarCondition hf ht
  obtain ⟨field, hfield, h⟩ := ok_of_bind h
  have hf : holes field = 0 := holes_accessor hfield
  split at h
  · exact holes_scalarCondition hf h
  · split at h
    · split at h
      · obtain ⟨v, -, h⟩ := ok_of_bind h
        cases h
        simp [hasSql, hf]
      · cases h
    · exact hscalar hf h

end Body

namespace Schema

variable {s : Schema}

@[simp] theorem holes_likeSql (key : AttributeKey) (negated : Bool) (pattern : Sql) :
    holes (s.likeSql key negated pattern) = holes pattern := by
  unfold likeSql
  split <;> simp

@[simp] theorem holes_testSql (key : AttributeKey) (t : Test) : holes (s.testSql key t) = 0 := by
  cases t <;> simp [testSql, Body.hasSql]

theorem holes_itemCondition {item : FilterItem} {sql : Sql} (h : s.itemCondition item = .ok sql) :
    holes sql = 0 := by
  unfold itemCondition at h
  split at h
  · exact Body.holes_condition h
  · obtain ⟨t, -, h⟩ := ok_of_bind h
    cases h
    exact holes_testSql _ t

end Schema

/-! ## Conditions -/

/-- The condition is written without a hole. -/
def Sql.Condition.Filled (c : Condition) : Prop := holes c.sql = 0

section

variable {parts : List Condition}

theorem filled_atom {sql : Sql} (h : holes sql = 0) : (Condition.atom sql).Filled := by
  rw [Condition.Filled, Condition.sql]
  exact h

theorem holes_partsSql (op : Connective) (h : ∀ c ∈ parts, c.Filled) :
    holes (Condition.partsSql op parts) = 0 := by
  rw [Sql.Precedence.partsSql_eq_join]
  exact Sql.holes_join _ (List.forall_mem_map.mpr h)

theorem filled_group (op : Connective) (h : ∀ c ∈ parts, c.Filled) :
    (Condition.group op parts).Filled := by
  rw [Condition.Filled, Condition.sql]
  simp [holes_partsSql op h]

theorem filled_padded (h : ∀ c ∈ parts, c.Filled) : (Condition.padded parts).Filled := by
  rw [Condition.Filled, Condition.sql]
  simp [holes_partsSql .and h]

theorem holes_conjunction (h : ∀ c ∈ parts, c.Filled) : holes (Sql.conjunction parts) = 0 :=
  holes_partsSql .and h

end

namespace FilterUnit

theorem filled_conjuncts {u : FilterUnit} (h : ∀ sql ∈ u.atoms, holes sql = 0) :
    ∀ c ∈ u.conjuncts, c.Filled := by
  rw [conjuncts_eq_map, List.forall_mem_map]
  exact fun sql hs => filled_atom (h sql hs)

theorem filled_whole {u : FilterUnit} (h : ∀ sql ∈ u.atoms, holes sql = 0) : u.whole.Filled := by
  unfold whole
  split
  · exact filled_atom (h u.condition List.mem_cons_self)
  · exact filled_group .and (filled_conjuncts h)

theorem filled_combine (op : Connective) {units : List FilterUnit}
    (h : ∀ u ∈ units, ∀ sql ∈ u.atoms, holes sql = 0) : ∀ c ∈ combine op units, c.Filled := by
  have hwhole : ∀ c ∈ units.map whole, c.Filled :=
    List.forall_mem_map.mpr fun u hu => filled_whole (h u hu)
  cases op with
  | and => exact List.forall_mem_flatMap.mpr fun u hu => filled_conjuncts (h u hu)
  | or =>
    rcases units with _ | ⟨u, _ | ⟨v, units⟩⟩
    · simp [combine]
    · simpa [combine] using hwhole
    · simpa [combine] using filled_group .or hwhole

end FilterUnit

theorem Schema.filled_conditions {s : Schema} {filters : Option FilterSet} {scope : Scope}
    {conds : List Condition} (h : s.conditions filters scope = .ok conds) :
    ∀ c ∈ conds, c.Filled := by
  obtain ⟨units, hu, rfl⟩ := conditions_ok h
  rw [List.forall_mem_append]
  constructor
  · refine FilterUnit.filled_combine _ fun u hm sql hs => ?_
    obtain ⟨item, -, hi⟩ := forall₂_exists_left hu hm
    obtain ⟨hcond, hguard⟩ := unit_ok hi
    rcases List.mem_cons.mp hs with rfl | hs
    · exact holes_itemCondition hcond
    · rw [hguard] at hs
      split at hs
      · obtain rfl := List.mem_singleton.mp hs
        exact holes_guard s item.key false
      · cases hs
  · intro c hc
    obtain ⟨sql, hs, rfl⟩ := List.mem_map.mp hc
    obtain ⟨key, -, hk⟩ := List.mem_filterMap.mp hs
    obtain ⟨-, -, rfl⟩ := referenceGuard_eq.mp hk
    exact filled_atom (holes_guard s key false)

/-! ## The lookup of fingerprints -/

namespace LabelTest

@[simp] theorem holes_loweredLabel (key : String) : holes (loweredLabel key) = 0 := by
  simp [loweredLabel]

theorem holes_predicate (key : String) (t : LabelTest) : holes (t.predicate key) = 0 := by
  cases t <;> simp [predicate]

theorem filled_hintSql (negated : Bool) (stretches : List String) :
    (Condition.atom (hintSql negated stretches)).Filled := filled_atom (by simp [hintSql])

theorem filled_hint (key : String) (t : LabelTest) : ∀ c ∈ t.hint key, c.Filled := by
  intro c hc
  cases t with
  | compare op v =>
    cases op <;> cases hc <;> exact filled_hintSql _ _
  | like negated anywhere v =>
    cases hc
    exact filled_hintSql _ _
  | regex negated pattern => cases hc
  | member negated items =>
    cases negated <;> cases items <;> cases hc
    exact filled_group .or (List.forall_mem_map.mpr fun v _ => filled_hintSql _ _)
  | presence negated =>
    cases negated <;> cases hc
    exact filled_hintSql _ _

theorem filled_conditions (key : String) (t : LabelTest) : ∀ c ∈ t.conditions key, c.Filled := by
  rw [conditions, List.forall_mem_cons]
  refine ⟨filled_atom (holes_predicate key t), fun c hc => ?_⟩
  exact filled_hint key t c (Option.mem_toList.mp hc)

end LabelTest

namespace ResourceLookup

theorem filled_conditions (l : ResourceLookup) : ∀ c ∈ l.conditions, c.Filled := by
  rw [conditions, List.forall_mem_append, List.forall_mem_append]
  refine ⟨⟨?_, ?_⟩, ?_⟩
  · cases l.buckets with
    | none => simp
    | some b =>
      have hfilled : ∀ c ∈ bucketConditions b, c.Filled := by
        simp [bucketConditions, Condition.Filled, Condition.sql]
      exact hfilled
  · exact List.forall_mem_flatMap.mpr fun p _ => LabelTest.filled_conditions p.1 p.2
  · split
    · simp
    · have hkeys : ∀ c ∈ l.presentKeys.map keyCondition, c.Filled :=
        List.forall_mem_map.mpr fun key _ =>
          filled_group .and (LabelTest.filled_conditions key _)
      rw [List.forall_mem_singleton]
      exact filled_padded hkeys

@[simp] theorem holes_sql (l : ResourceLookup) : holes l.sql = 0 := by
  simp [sql, holes_conjunction l.filled_conditions]

end ResourceLookup

theorem RowFilter.holes_sql {f : RowFilter} (h : ∀ c ∈ f.main, c.Filled) : holes f.sql = 0 := by
  have hall : ∀ c ∈ f.conditions, c.Filled := by
    rw [RowFilter.conditions, List.forall_mem_append]
    refine ⟨h, ?_⟩
    cases f.resource with
    | none => simp
    | some l => simpa using filled_atom l.holes_sql
  unfold RowFilter.sql
  split
  · rfl
  · simp [holes_conjunction hall]

theorem Query.holes_rowFilter {q : Query} {s : Schema} {buckets : Option BucketRange}
    {f : RowFilter} (h : q.rowFilter s buckets = .ok f) : holes f.sql = 0 :=
  RowFilter.holes_sql (s.filled_conditions (rowFilter_iff.mp h).1)

/-! ## Aggregations -/

@[simp] theorem TimeBounds.holes_sql (b : TimeBounds) : holes b.sql = 0 := by
  refine holes_conjunction ?_
  cases b <;> simp [conditions, between, Condition.Filled, Condition.sql, Condition.partsSql]

@[simp] theorem Label.holes_selectSql (labels : List Label) : holes (selectSql labels) = 0 :=
  Sql.holes_flatMap fun l _ => by simp [sql]

@[simp] theorem Label.holes_keysSql (labels : List Label) : holes (keysSql labels) = 0 :=
  Sql.holes_join _ (List.forall_mem_map.mpr fun l _ => by simp)

@[simp] theorem holes_havingClause (having : List Having) : holes (havingClause having) = 0 := by
  have hconditions : holes (havingConditions having) = 0 :=
    Sql.holes_join _ (List.forall_mem_map.mpr fun h _ => by simp [Having.sql])
  unfold havingClause
  split <;> simp [hconditions]

@[simp] theorem holes_orderSql (items : List OrderItem) : holes (orderSql items) = 0 := by
  refine Sql.holes_join _ (List.forall_mem_map.mpr fun item _ => ?_)
  cases item <;> simp [OrderItem.sql]

theorem Query.holes_attributeSql {q : Query} {s : Schema} {sql : Sql}
    (h : q.attributeSql s = some sql) : holes sql = 0 := by
  unfold attributeSql at h
  split at h
  · cases h
  · cases h
    exact Column.holes_sql _

theorem AggregateOperator.holes_valueSql {op : AggregateOperator} {operand : Option Sql}
    {divisor : Float} {sql : Sql} (ho : ∀ a, operand = some a → holes a = 0)
    (h : op.valueSql operand divisor = .ok sql) : holes sql = 0 := by
  have hrequired : ∀ {a : Sql}, op.required operand = .ok a → holes a = 0 := by
    intro a ha
    unfold required at ha
    split at ha
    · cases ha
      exact ho _ rfl
    · cases ha
  have hoptional : holes (operand.getD []) = 0 := by
    cases operand with
    | none => rfl
    | some a => exact ho a rfl
  unfold valueSql at h
  cases op with
  | percentile p | countDistinct | plain f | rateOf f =>
    obtain ⟨a, ha, h⟩ := ok_of_bind h
    cases h
    simp [hrequired ha]
  | count | rate =>
    cases h
    simp [hoptional]
  | noop | ofRate f | histogramQuantile p => cases h

namespace Aggregation

/-- Neither the filter nor the value has a hole. -/
structure Filled (a : Aggregation) : Prop where
  filter : holes a.filter.sql = 0
  value : holes a.value = 0

variable {a : Aggregation}

theorem Filled.body (h : a.Filled) : holes a.body = 0 := by
  simp [Aggregation.body, h.filter, h.value]

@[simp] theorem holes_ending (a : Aggregation) : holes a.ending = 0 := by
  simp [ending]

theorem Filled.ranking (h : a.Filled) : holes a.ranking = 0 := by
  simp [Aggregation.ranking, h.body]

@[simp] theorem holes_bucket (s : Schema) (bucket : Bucket) : holes (bucket.sql s) = 0 := by
  cases bucket <;> simp [Bucket.sql]

theorem Filled.head (h : a.Filled) (bucket : Bucket) : holes (a.head bucket) = 0 := by
  simp [Aggregation.head, h.body]

@[simp] theorem holes_tail (a : Aggregation) (bucket : Bucket) : holes (a.tail bucket) = 0 := by
  unfold tail groupClause
  split <;> simp

end Aggregation

end PanelQuery
