import PanelQuery.Filter.Resource
import PanelQuery.Proofs.Agree
import PanelQuery.Proofs.Sql.Precedence

/-! # Which fingerprints a lookup admits

The clause of a lookup is read for one entry of the resource table: a fingerprint with its labels,
seen in one bucket. It holds if the bucket is in the range, if all tests of labels hold, and if all
grouped labels are there. The connective of the filter set plays no part in it. -/

namespace PanelQuery

open Sql (Condition)
open Sql.Precedence

/-! ## Tests of a label -/

namespace LabelTest

variable {key : String} {t : LabelTest}

/-- The predicate of the test holds for the labels, and so does what narrows the scan. -/
def Holds (labels : Sql → Bool) (key : String) (t : LabelTest) : Prop :=
  ∀ c ∈ t.conditions key, c.holds labels = true

theorem proper_hint {c : Condition} (h : t.hint key = some c) : Proper c := by
  cases t with
  | compare op v => cases op <;> cases h <;> exact .atom _
  | like negated anywhere v =>
    cases h
    exact .atom _
  | regex negated pattern => cases h
  | member negated items =>
    rcases negated with _ | _
    · rcases items with _ | ⟨v, items⟩
      · cases h
      · cases h
        exact .group .or (by simp) (List.forall_mem_map.mpr fun v _ => .atom _)
    · cases h
  | presence negated =>
    rcases negated with _ | _ <;> cases h
    exact .atom _

theorem proper_conditions : ∀ c ∈ t.conditions key, Proper c := by
  intro c hc
  rcases List.mem_cons.mp hc with rfl | hh
  · exact .atom _
  · exact proper_hint (Option.mem_toList.mp hh)

end LabelTest

/-! ## Entries -/

/-- An atom of the clause of a lookup: a bound of the bucket, or something about the labels. -/
inductive EntryAtom where
  | notBefore (first : Int)
  | notAfter (last : Int)
  | labels (sql : Sql)

namespace EntryAtom

def sql : EntryAtom → Sql
  | .notBefore first => Sql.raw "(seen_at_ts_bucket_start >= " ++ [.int first] ++ Sql.raw ")"
  | .notAfter last => Sql.raw "(seen_at_ts_bucket_start <= " ++ [.int last] ++ Sql.raw ")"
  | .labels s => s

/-- Truth of an atom for an entry with these labels, seen in the bucket that starts at `bucket`. -/
def truth (labels : Sql → Bool) (bucket : Int) : EntryAtom → Bool
  | .notBefore first => decide (first ≤ bucket)
  | .notAfter last => decide (bucket ≤ last)
  | .labels s => labels s

end EntryAtom

namespace ResourceLookup

variable {l : ResourceLookup} {labels : Sql → Bool}

/-- The conditions on the labels of an entry. -/
def labelConditions (l : ResourceLookup) : List Condition :=
  l.tests.flatMap (fun (key, t) => t.conditions key) ++
    if l.presentKeys.isEmpty then [] else [keysCondition l.presentKeys]

/-- The bounds of the bucket, as atoms. -/
def bounds (l : ResourceLookup) : List EntryAtom :=
  (l.buckets.map fun b => [.notBefore b.first, .notAfter b.last]).getD []

/-- The clause of a lookup. -/
def clause (l : ResourceLookup) : List (Mark EntryAtom) :=
  joined .and ((l.bounds.map fun a => [.atom a]) ++ l.labelConditions.map (marks .labels))

/-- The bucket is one that the lookup looks at. -/
def Covers (l : ResourceLookup) (bucket : Int) : Prop :=
  ∀ b, l.buckets = some b → b.first ≤ bucket ∧ bucket ≤ b.last

/-- Labels that pass all tests and are there for every grouped key. -/
structure Accepts (l : ResourceLookup) (labels : Sql → Bool) : Prop where
  tests : ∀ test ∈ l.tests, test.2.Holds labels test.1
  present : ∀ key ∈ l.presentKeys, (LabelTest.presence false).Holds labels key

/-- The text of a lookup around that of its clause. -/
def around (clause : Sql) : Sql :=
  Sql.raw ("(resource_fingerprint GLOBAL IN (SELECT fingerprint FROM " ++ table ++ " WHERE ")
    ++ clause ++ Sql.raw "))"

theorem sql_eq_around (l : ResourceLookup) : l.sql = around (marksSql EntryAtom.sql l.clause) := by
  have hbounds : (l.bounds.map fun a => ([.atom a] : List (Mark EntryAtom))).map
      (marksSql EntryAtom.sql) = ((l.buckets.map bucketConditions).getD []).map Condition.sql := by
    unfold bounds
    cases l.buckets <;> rfl
  have hlabels : (l.labelConditions.map (marks .labels)).map (marksSql EntryAtom.sql) =
      l.labelConditions.map Condition.sql := by
    rw [List.map_map]
    exact List.map_congr_left fun c _ => marksSql_marks (fun _ => rfl) c
  have htext : marksSql EntryAtom.sql l.clause = Sql.conjunction l.conditions := by
    rw [clause, marksSql_joined, List.map_append, hlabels, hbounds, ← List.map_append,
      Sql.conjunction, partsSql_eq_join, conditions, labelConditions, List.append_assoc]
  rw [around, htext, sql]

theorem proper_labelConditions : ∀ c ∈ l.labelConditions, Proper c := by
  have hkey : ∀ key, Proper (keyCondition key) := fun key =>
    .group .and (by simp [LabelTest.conditions]) LabelTest.proper_conditions
  rw [labelConditions, List.forall_mem_append, List.forall_mem_flatMap]
  refine ⟨fun test _ => LabelTest.proper_conditions, ?_⟩
  split
  · simp
  · next hne =>
    rw [List.forall_mem_singleton]
    exact .padded (by simpa using hne) (List.forall_mem_map.mpr fun key _ => hkey key)

theorem holds_keyCondition {key : String} : (keyCondition key).holds labels = true ↔
    (LabelTest.presence false).Holds labels key := by
  rw [keyCondition, Condition.holds, allHold_eq_all, List.all_eq_true]
  rfl

theorem holds_labelConditions :
    (∀ c ∈ l.labelConditions, c.holds labels = true) ↔ l.Accepts labels := by
  have hpresent : (∀ c ∈ if l.presentKeys.isEmpty then [] else [keysCondition l.presentKeys],
      c.holds labels = true) ↔ ∀ key ∈ l.presentKeys, (LabelTest.presence false).Holds labels key := by
    split
    · next he => simp [List.isEmpty_iff.mp he]
    · rw [List.forall_mem_singleton, keysCondition, Condition.holds, allHold_eq_all,
        List.all_eq_true, List.forall_mem_map]
      simp only [holds_keyCondition]
  rw [labelConditions, List.forall_mem_append, List.forall_mem_flatMap, hpresent]
  exact ⟨fun h => ⟨h.1, h.2⟩, fun h => ⟨h.tests, h.present⟩⟩

theorem holds_bounds (labels : Sql → Bool) {bucket : Int} :
    (∀ a ∈ l.bounds, a.truth labels bucket = true) ↔ l.Covers bucket := by
  unfold bounds Covers
  cases l.buckets with
  | none => simp
  | some b => simp [EntryAtom.truth]

/-- The clause of a lookup, read for an entry. -/
theorem read_clause (l : ResourceLookup) (labels : Sql → Bool) (bucket : Int) :
    Reads (EntryAtom.truth labels bucket) l.clause (l.Covers bucket ∧ l.Accepts labels) := by
  have hlabels : List.Forall₂ (Operand (EntryAtom.truth labels bucket))
      (l.labelConditions.map (marks .labels)) (l.labelConditions.map (·.holds labels)) :=
    operands_of_forall fun c hc => (proper_labelConditions c hc).operand
  refine ⟨_, read_joined (List.rel_append (operands_atoms l.bounds) hlabels), ?_⟩
  rw [List.all_append, Bool.and_eq_true, ← holds_bounds labels, ← holds_labelConditions]
  simp [EntryAtom.truth]

end ResourceLookup

/-! ## The lookup of a query -/

/-- A resource item holds for labels if its test does. -/
def FilterItem.HoldsFor (labels : Sql → Bool) (item : FilterItem) : Prop :=
  ∃ t, item.labelTest = .ok t ∧ t.Holds labels (Text.lowercase item.key.name)

/-- Every resource item has a predicate that labels must satisfy. -/
theorem FilterItem.not_holdsFor_false (item : FilterItem) : ¬ item.HoldsFor fun _ => false := by
  rintro ⟨test, -, h⟩
  have hp := h (.atom (test.predicate _)) List.mem_cons_self
  rw [Condition.holds] at hp
  cases hp

/-- A resource key is a label. -/
def AttributeKey.IsLabel (labels : Sql → Bool) (key : AttributeKey) : Prop :=
  (LabelTest.presence false).Holds labels (Text.lowercase key.name)

/-- The query filters or groups by resources. -/
def Query.ReadsResources (q : Query) : Prop :=
  (∃ item ∈ q.filterItems, item.key.kind = .resource) ∨ ∃ key ∈ q.groupBy, key.kind = .resource

theorem holds_labelTest (labels : Sql → Bool) {item : FilterItem} {test : String × LabelTest}
    (h : (do return (Text.lowercase item.key.name, ← item.labelTest) : Except Fault _) = .ok test) :
    item.HoldsFor labels ↔ test.2.Holds labels test.1 := by
  obtain ⟨t, ht, he⟩ := ok_of_bind h
  cases he
  refine ⟨?_, fun hh => ⟨t, ht, hh⟩⟩
  rintro ⟨t', ht', hh⟩
  rw [ht] at ht'
  cases ht'
  exact hh

/-- There is a lookup if resources are read, and it accepts the labels for which all resource items
hold and that have all grouped resource keys. -/
theorem lookup_ok {q : Query} {buckets : Option BucketRange} {found : Option ResourceLookup}
    (h : ResourceLookup.ofQuery q buckets = .ok found) :
    (found = none ∧ ¬ q.ReadsResources) ∨ ∃ l, found = some l ∧ q.ReadsResources ∧
      l.buckets = buckets ∧ ∀ labels, l.Accepts labels ↔
        (∀ item ∈ q.filterItems, item.key.kind = .resource → item.HoldsFor labels) ∧
          ∀ key ∈ q.groupBy, key.kind = .resource → key.IsLabel labels := by
  have hnone : ((q.filterItems.filter (·.key.kind == .resource)).isEmpty &&
      (q.groupBy.filter (·.kind == .resource)).isEmpty) = true ↔ ¬ q.ReadsResources := by
    simp [Query.ReadsResources]
  unfold ResourceLookup.ofQuery at h
  dsimp only at h
  split at h
  · next he =>
    cases h
    exact .inl ⟨rfl, hnone.mp he⟩
  · next he =>
    obtain ⟨tests, ht, hl⟩ := ok_of_bind h
    cases hl
    refine .inr ⟨_, rfl, not_not.mp fun hn => he (hnone.mpr hn), rfl, fun labels => ?_⟩
    have htests := forall₂_forall_iff ((mapM_ok_iff.mp ht).imp fun _ _ => holds_labelTest labels)
    constructor
    · rintro ⟨hall, hkeys⟩
      refine ⟨fun item hi hk => htests.mpr hall item (by simp [hi, hk]), fun key hg hk => ?_⟩
      exact hkeys _ (List.mem_map.mpr ⟨key, by simp [hg, hk], rfl⟩)
    · rintro ⟨hall, hkeys⟩
      refine ⟨htests.mp fun item hi => ?_, List.forall_mem_map.mpr fun key hg => ?_⟩
      · obtain ⟨hi, hk⟩ := List.mem_filter.mp hi
        exact hall item hi (by simpa using hk)
      · obtain ⟨hg, hk⟩ := List.mem_filter.mp hg
        exact hkeys key hg (by simpa using hk)

end PanelQuery
