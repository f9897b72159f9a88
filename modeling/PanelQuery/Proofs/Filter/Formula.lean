import PanelQuery.Filter.Where
import PanelQuery.Proofs.Agree
import PanelQuery.Proofs.Sql.Precedence

/-! # The formula of the main conditions

The conditions on the main table, read by precedence among any others, say what the filter set, the
grouped keys and the aggregated attribute ask for. First the combined units are read, then the
references; guards of references are conjuncts of the clause and stand in no group. -/

namespace PanelQuery

open Sql (Condition)
open Sql.Precedence

/-- What a connective asks of a list: all of it, or at least one if there is any. -/
def AllOrAny (op : Connective) {α : Type} (p : α → Prop) (as : List α) : Prop :=
  match op with
  | .and => ∀ a ∈ as, p a
  | .or => as = [] ∨ ∃ a ∈ as, p a

theorem allOrAny_congr {α β : Type} (op : Connective) {p : α → Prop} {p' : β → Prop} {as : List α}
    {bs : List β} (h : List.Forall₂ (fun a b => p a ↔ p' b) as bs) :
    AllOrAny op p as ↔ AllOrAny op p' bs := by
  cases op with
  | and => exact forall₂_forall_iff h
  | or =>
    refine or_congr ?_ (forall₂_exists_iff h)
    rw [← List.length_eq_zero_iff, h.length_eq, List.length_eq_zero_iff]

/-- Only an operator that asks for presence makes a test of presence. -/
theorem FilterItem.test_ne_presence (item : FilterItem) {test : Test} (h : item.test = .ok test)
    (hop : ∀ negated, item.op ≠ .presence negated) (negated : Bool) : test ≠ .presence negated := by
  rintro rfl
  unfold FilterItem.test at h
  split at h
  case h_1 n hp => exact hop n hp
  case h_7 =>
    obtain ⟨_, _, h⟩ := ok_of_bind h
    obtain ⟨_, _, h⟩ := ok_of_bind h
    cases h
  all_goals
    obtain ⟨_, _, h⟩ := ok_of_bind h
    cases h

/-! ## Units -/

namespace FilterUnit

variable {truth : Sql → Bool} {u : FilterUnit} {units : List FilterUnit}

/-- The texts of a unit. -/
def atoms (u : FilterUnit) : List Sql := u.condition :: u.guard.toList

def Holds (truth : Sql → Bool) (u : FilterUnit) : Prop := ∀ s ∈ u.atoms, truth s = true

theorem conjuncts_eq_map (u : FilterUnit) : u.conjuncts = u.atoms.map .atom := by
  rw [conjuncts, atoms]
  cases u.guard <;> rfl

theorem holds_conjuncts : (∀ c ∈ u.conjuncts, c.holds truth = true) ↔ u.Holds truth := by
  rw [conjuncts_eq_map, List.forall_mem_map]
  simp only [Condition.holds, Holds]

theorem holds_whole : u.whole.holds truth = true ↔ u.Holds truth := by
  rw [whole]
  cases hg : u.guard with
  | none => simp [Condition.holds, Holds, atoms, hg]
  | some g =>
    simp only [Condition.holds, allHold_eq_all, List.all_eq_true]
    exact holds_conjuncts

theorem proper_conjuncts : ∀ c ∈ u.conjuncts, Proper c := by
  rw [conjuncts_eq_map, List.forall_mem_map]
  exact fun s _ => .atom s

theorem proper_whole : Proper u.whole := by
  rw [whole]
  split
  · exact .atom _
  · exact .group .and (by simp [conjuncts]) proper_conjuncts

theorem holds_combine (op : Connective) :
    (∀ c ∈ combine op units, c.holds truth = true) ↔ AllOrAny op (Holds truth) units := by
  cases op with
  | and =>
    simp only [combine, AllOrAny, List.forall_mem_flatMap, holds_conjuncts]
  | or =>
    rcases units with _ | ⟨u, _ | ⟨v, units⟩⟩
    · simp [combine, AllOrAny]
    · simp [combine, AllOrAny, holds_whole]
    · simp [combine, AllOrAny, Condition.holds, anyHolds_eq_any, holds_whole]

theorem proper_combine (op : Connective) : ∀ c ∈ combine op units, Proper c := by
  cases op with
  | and =>
    rw [combine]
    exact List.forall_mem_flatMap.mpr fun u _ => proper_conjuncts
  | or =>
    rcases units with _ | ⟨u, _ | ⟨v, units⟩⟩
    · simp [combine]
    · simpa [combine] using proper_whole
    · have hwhole : ∀ c ∈ (u :: v :: units).map whole, Proper c :=
        List.forall_mem_map.mpr fun u _ => proper_whole
      simpa [combine] using Proper.group .or (by simp) hwhole

theorem atom_of_conjuncts {c : Condition} (hc : c ∈ u.conjuncts) {sql : Sql}
    (hm : .atom sql ∈ marks id c) : sql ∈ u.atoms := by
  rw [conjuncts_eq_map, List.mem_map] at hc
  obtain ⟨a, ha, rfl⟩ := hc
  simp only [marks, id, List.mem_singleton, Mark.atom.injEq] at hm
  rwa [hm]

theorem atom_of_whole {sql : Sql} (hm : .atom sql ∈ marks id u.whole) : sql ∈ u.atoms := by
  rw [whole] at hm
  split at hm
  · exact atom_of_conjuncts (by simp [conjuncts]) hm
  · obtain ⟨c, hc, ha⟩ := atom_mem_group.mp hm
    exact atom_of_conjuncts hc ha

/-- The atoms of combined units are texts of the units. -/
theorem atom_of_combine {op : Connective} {c : Condition} (hc : c ∈ combine op units) {sql : Sql}
    (hm : .atom sql ∈ marks id c) : ∃ u ∈ units, sql ∈ u.atoms := by
  cases op with
  | and =>
    obtain ⟨u, hu, hc⟩ := List.mem_flatMap.mp hc
    exact ⟨u, hu, atom_of_conjuncts hc hm⟩
  | or =>
    rcases units with _ | ⟨u, _ | ⟨v, units⟩⟩
    · cases hc
    · obtain rfl := List.mem_singleton.mp hc
      exact ⟨u, by simp, atom_of_whole hm⟩
    · obtain rfl := List.mem_singleton.mp hc
      obtain ⟨c, hc, ha⟩ := atom_mem_group.mp hm
      obtain ⟨w, hw, rfl⟩ := List.mem_map.mp hc
      exact ⟨w, hw, atom_of_whole ha⟩

/-- The texts of a unit are atoms of the conditions that combine it with others. -/
theorem atom_mem_combine {op : Connective} (hu : u ∈ units) {sql : Sql} (h : sql ∈ u.atoms) :
    ∃ c ∈ combine op units, .atom sql ∈ marks id c := by
  have hconjunct : Condition.atom sql ∈ u.conjuncts := by
    rw [conjuncts_eq_map]
    exact List.mem_map_of_mem h
  have hatom : Mark.atom sql ∈ marks id (.atom sql) := List.mem_singleton_self _
  have hwhole : .atom sql ∈ marks id u.whole := by
    unfold whole
    split
    · next hnone =>
      rw [atoms, hnone] at h
      rw [List.mem_singleton.mp h]
      exact List.mem_singleton_self _
    · exact atom_mem_group.mpr ⟨_, hconjunct, hatom⟩
  cases op with
  | and => exact ⟨_, List.mem_flatMap.mpr ⟨u, hu, hconjunct⟩, hatom⟩
  | or =>
    rcases units with _ | ⟨first, _ | ⟨second, rest⟩⟩
    · cases hu
    · obtain rfl := List.mem_singleton.mp hu
      exact ⟨_, List.mem_singleton_self _, hwhole⟩
    · exact ⟨_, List.mem_singleton_self _, atom_mem_group.mpr ⟨_, List.mem_map_of_mem hu, hwhole⟩⟩

end FilterUnit

namespace Schema

variable {s : Schema} {filters : Option FilterSet} {scope : Scope}

/-! ## The formula -/

/-- The items of a set that are not left to the fingerprint lookup. -/
def Scope.kept (scope : Scope) (filters : Option FilterSet) : List FilterItem :=
  ((filters.map FilterSet.items).getD []).filter fun item => !scope.skips item.key

/-- An item holds if its condition does, and if the attribute it is about is there: columns and
JSON fields are not asked for, and neither is anything if the item itself asks for presence. -/
structure ItemHolds (s : Schema) (truth : Sql → Bool) (item : FilterItem) : Prop where
  condition : ∃ sql, s.itemCondition item = .ok sql ∧ truth sql = true
  presence : s.guardsItems = true → item.key.isColumn = false → item.key.isJson = false →
    (∀ negated, item.op ≠ .presence negated) → truth (s.guard item.key false) = true

/-- The attribute is there, unless it is a JSON field or always there. -/
def Present (s : Schema) (truth : Sql → Bool) (key : AttributeKey) : Prop :=
  key.isJson = false → s.isTopLevel key = false → truth (s.guard key false) = true

/-- What the filter set and the references of a statement ask of a row. -/
structure Admits (s : Schema) (filters : Option FilterSet) (scope : Scope) (truth : Sql → Bool) :
    Prop where
  items : AllOrAny ((filters.map FilterSet.op).getD .and) (s.ItemHolds truth)
    (scope.kept filters)
  grouped : ∀ key ∈ scope.groupBy, scope.skips key = false → s.Present truth key
  aggregated : scope.aggregated.isEmpty = false → scope.skips scope.aggregated = false →
    scope.operator ≠ .noop → (∀ p, scope.operator ≠ .percentile p) →
    s.Present truth scope.aggregated

theorem needsGuard_iff {item : FilterItem} : s.needsGuard item = true ↔
    s.guardsItems = true ∧ item.key.isColumn = false ∧ item.key.isJson = false ∧
      ∀ negated, item.op ≠ .presence negated := by
  have hop : item.op.isExistence = false ↔ ∀ negated, item.op ≠ .presence negated := by
    cases item.op <;> simp [FilterOperator.isExistence]
  rw [needsGuard, ← hop]
  simp [and_assoc]

theorem guardsAttribute_iff {op : AggregateOperator} : op.guardsAttribute = true ↔
    op ≠ .noop ∧ ∀ p, op ≠ .percentile p := by
  cases op <;> simp [AggregateOperator.guardsAttribute]

/-- The texts of the unit of an item. -/
theorem unit_ok {item : FilterItem} {u : FilterUnit} (h : s.unit item = .ok u) :
    s.itemCondition item = .ok u.condition ∧
      u.guard = if s.needsGuard item then some (s.guard item.key false) else none := by
  unfold unit at h
  cases hc : s.itemCondition item with
  | error e => rw [hc] at h; cases h
  | ok sql =>
    rw [hc] at h
    cases h
    exact ⟨rfl, rfl⟩

theorem holds_unit {item : FilterItem} {u : FilterUnit} (h : s.unit item = .ok u)
    (truth : Sql → Bool) : s.ItemHolds truth item ↔ u.Holds truth := by
  obtain ⟨hc, hg⟩ := unit_ok h
  constructor
  · rintro ⟨⟨sql, hsql, ht⟩, hp⟩
    rw [hc] at hsql
    cases hsql
    rw [FilterUnit.Holds, FilterUnit.atoms, List.forall_mem_cons, hg]
    refine ⟨ht, ?_⟩
    by_cases hn : s.needsGuard item = true
    · obtain ⟨hs, hcol, hjson, hop⟩ := needsGuard_iff.mp hn
      simpa [hn] using hp hs hcol hjson hop
    · simp [hn]
  · intro hu
    rw [FilterUnit.Holds, FilterUnit.atoms, List.forall_mem_cons, hg] at hu
    refine ⟨⟨_, hc, hu.1⟩, fun hs hcol hjson hop => hu.2 _ ?_⟩
    simp [needsGuard_iff.mpr ⟨hs, hcol, hjson, hop⟩]

theorem mem_references {key : AttributeKey} : key ∈ scope.references ↔
    key ∈ scope.groupBy ∧ scope.skips key = false ∨
      key = scope.aggregated ∧ scope.aggregated.isEmpty = false ∧
        scope.skips scope.aggregated = false ∧ scope.operator.guardsAttribute = true := by
  unfold Scope.references
  rw [List.mem_append, List.mem_filter]
  refine or_congr (by simp) ?_
  split
  · next h => simpa [and_assoc] using fun _ => h
  · next h => simpa [and_assoc] using fun _ => h

theorem referenceGuard_eq {key : AttributeKey} {sql : Sql} : s.referenceGuard key = some sql ↔
    key.isJson = false ∧ s.isTopLevel key = false ∧ sql = s.guard key false := by
  unfold referenceGuard
  split
  · next h =>
    rw [Bool.or_eq_true] at h
    refine ⟨nofun, fun ⟨hj, ht, _⟩ => ?_⟩
    simp [hj, ht] at h
  · next h =>
    obtain ⟨hj, ht⟩ := Bool.or_eq_false_iff.mp (Bool.eq_false_iff.mpr h)
    rw [Option.some_inj, eq_comm]
    simp [hj, ht]

/-- All references are guarded if and only if the attributes they name are there. -/
theorem holds_references (truth : Sql → Bool) :
    (∀ sql ∈ scope.references.filterMap s.referenceGuard, truth sql = true) ↔
      ∀ key ∈ scope.references, s.Present truth key := by
  constructor
  · intro h key hk hj ht
    exact h _ (List.mem_filterMap.mpr ⟨key, hk, referenceGuard_eq.mpr ⟨hj, ht, rfl⟩⟩)
  · intro h sql hm
    obtain ⟨key, hk, hg⟩ := List.mem_filterMap.mp hm
    obtain ⟨hj, ht, rfl⟩ := referenceGuard_eq.mp hg
    exact h key hk hj ht

/-- The conditions are those of the units, then the guards of the references. -/
theorem conditions_iff {conds : List Condition} : s.conditions filters scope = .ok conds ↔
    ∃ units, List.Forall₂ (fun item u => s.unit item = .ok u) (scope.kept filters) units ∧
      conds = FilterUnit.combine ((filters.map FilterSet.op).getD .and) units ++
        (scope.references.filterMap s.referenceGuard).map .atom := by
  have hsteps : s.conditions filters scope = (scope.kept filters).mapM s.unit >>= fun units =>
      .ok (FilterUnit.combine ((filters.map FilterSet.op).getD .and) units ++
        (scope.references.filterMap s.referenceGuard).map .atom) := by
    cases filters <;> rfl
  rw [hsteps]
  constructor
  · intro h
    obtain ⟨units, hu, hc⟩ := ok_of_bind h
    exact ⟨units, mapM_ok_iff.mp hu, (Except.ok.inj hc).symm⟩
  · rintro ⟨units, hu, rfl⟩
    rw [mapM_ok_iff.mpr hu]
    rfl

theorem conditions_ok {conds : List Condition} (h : s.conditions filters scope = .ok conds) :
    ∃ units, List.Forall₂ (fun item u => s.unit item = .ok u) (scope.kept filters) units ∧
      conds = FilterUnit.combine ((filters.map FilterSet.op).getD .and) units ++
        (scope.references.filterMap s.referenceGuard).map .atom := conditions_iff.mp h

/-- The conditions together say what the filter set and the references ask for. -/
theorem holds_conditions {conds : List Condition} (h : s.conditions filters scope = .ok conds)
    (truth : Sql → Bool) : (∀ c ∈ conds, c.holds truth = true) ↔ s.Admits filters scope truth := by
  obtain ⟨units, hu, rfl⟩ := conditions_ok h
  have hunits := allOrAny_congr ((filters.map FilterSet.op).getD .and)
    (hu.imp fun _ _ hi => holds_unit hi truth)
  rw [List.forall_mem_append, FilterUnit.holds_combine, ← hunits, List.forall_mem_map]
  simp only [Condition.holds]
  rw [holds_references]
  constructor
  · rintro ⟨hi, hr⟩
    refine ⟨hi, fun key hk hs => hr key (mem_references.mpr (.inl ⟨hk, hs⟩)), ?_⟩
    intro he hs hnoop hp
    exact hr _ (mem_references.mpr (.inr ⟨rfl, he, hs, guardsAttribute_iff.mpr ⟨hnoop, hp⟩⟩))
  · intro ha
    refine ⟨ha.items, fun key hk => ?_⟩
    rcases mem_references.mp hk with ⟨hg, hs⟩ | ⟨rfl, he, hs, hop⟩
    · exact ha.grouped key hg hs
    · obtain ⟨hnoop, hp⟩ := guardsAttribute_iff.mp hop
      exact ha.aggregated he hs hnoop hp

theorem proper_conditions {conds : List Condition} (h : s.conditions filters scope = .ok conds) :
    ∀ c ∈ conds, Proper c := by
  obtain ⟨units, -, rfl⟩ := conditions_ok h
  rw [List.forall_mem_append, List.forall_mem_map]
  exact ⟨FilterUnit.proper_combine _, fun sql _ => .atom sql⟩

/-- **The conditions on the main table mean what the query asks for.** Every item that is kept has a
condition. The conditions are those of the items, whose texts are conditions and guards of items,
and beside them one atom for the guard of each reference, in no group. Joined by AND to any other
conditions and read by precedence, they say: all items hold, or under OR at least one if there is
any; the grouped keys are there; and so is the aggregated attribute, where it has to be. -/
theorem conditions_read {conds : List Condition} (h : s.conditions filters scope = .ok conds) :
    (∀ item ∈ scope.kept filters, ∃ sql, s.itemCondition item = .ok sql) ∧
    (∃ (own : List Condition) (guards : List Sql), conds = own ++ guards.map .atom ∧
      (∀ c ∈ own, ∀ sql, .atom sql ∈ marks id c → ∃ item ∈ scope.kept filters,
        s.itemCondition item = .ok sql ∨
          s.needsGuard item = true ∧ sql = s.guard item.key false) ∧
      ∀ sql, sql ∈ guards ↔ ∃ key ∈ scope.references,
        key.isJson = false ∧ s.isTopLevel key = false ∧ sql = s.guard key false) ∧
    ∀ before after : List Condition, (∀ c ∈ before ++ after, Proper c) →
      marksSql id (clause (before ++ conds ++ after)) = Sql.conjunction (before ++ conds ++ after) ∧
      ∀ truth, Reads truth (clause (before ++ conds ++ after))
        ((∀ c ∈ before, c.holds truth = true) ∧ s.Admits filters scope truth ∧
          ∀ c ∈ after, c.holds truth = true) := by
  refine ⟨?_, ?_, fun before after hproper => ⟨marksSql_clause _, fun truth => ?_⟩⟩
  · obtain ⟨units, hu, -⟩ := conditions_ok h
    intro item hi
    obtain ⟨u, -, hui⟩ := forall₂_exists_left hu.flip hi
    exact ⟨_, (unit_ok hui).1⟩
  · obtain ⟨units, hu, rfl⟩ := conditions_ok h
    refine ⟨_, _, rfl, fun c hc sql hm => ?_, fun sql => ?_⟩
    · obtain ⟨u, hmem, ha⟩ := FilterUnit.atom_of_combine hc hm
      obtain ⟨item, hi, hui⟩ := forall₂_exists_left hu hmem
      obtain ⟨hcond, hguard⟩ := unit_ok hui
      refine ⟨item, hi, ?_⟩
      rcases List.mem_cons.mp ha with rfl | hg
      · exact .inl hcond
      · rw [hguard] at hg
        by_cases hn : s.needsGuard item = true
        · exact .inr ⟨hn, by simpa [hn] using hg⟩
        · simp [hn] at hg
    · rw [List.mem_filterMap]
      simp only [referenceGuard_eq]
  · rw [List.forall_mem_append] at hproper
    refine (reads_clause ?_ truth).imp ?_
    · intro c hc
      rw [List.append_assoc, List.mem_append, List.mem_append] at hc
      rcases hc with hb | hc | ha
      · exact hproper.1 c hb
      · exact proper_conditions h c hc
      · exact hproper.2 c ha
    · rw [List.append_assoc, List.forall_mem_append, List.forall_mem_append, holds_conditions h]

/-- Records of one service, or those with an error. -/
def failedOrOwn : FilterSet :=
  ⟨.or, [⟨{ name := "service", dataType := .scalar .string, kind := .tag }, .compare .eq,
    .text "api"⟩, ⟨{ name := "error", kind := .tag }, .presence false, .null⟩]⟩

def byMethod : Scope :=
  ⟨[{ name := "method", dataType := .scalar .string, kind := .tag }], {}, .count, false⟩

theorem conditions_read_failedOrOwn : ∃ conds,
    Schema.logs.conditions (some failedOrOwn) byMethod = .ok conds ∧
      ∀ truth, Reads truth (clause conds) (Schema.logs.Admits (some failedOrOwn) byMethod truth) := by
  have hc : ∃ conds, Schema.logs.conditions (some failedOrOwn) byMethod = .ok conds := ⟨_, rfl⟩
  obtain ⟨conds, h⟩ := hc
  refine ⟨conds, h, fun truth => ?_⟩
  obtain ⟨-, -, hread⟩ := conditions_read h
  simpa using (hread [] [] (by simp)).2 truth

end Schema

end PanelQuery
