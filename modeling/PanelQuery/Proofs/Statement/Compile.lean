import PanelQuery.Proofs.Agree
import PanelQuery.Proofs.Statement.Clause
import PanelQuery.Statement.Compile

/-! # What a compiled statement is made of

A statement over a range has the time bounds of the range and the row filter it was compiled with,
whatever its panel, pass and shape. -/

namespace PanelQuery

variable {q : Query} {s : Schema} {range : NanoRange} {f : RowFilter} {panel : Panel}
  {options : QueryOptions} {t : TableStatement}

namespace Query

/-- The lookup of a statement: that of its query for logs, and none for traces. -/
def lookupOn (q : Query) (s : Schema) (buckets : Option BucketRange) :
    Except Fault (Option ResourceLookup) :=
  match s with
  | .logs => ResourceLookup.ofQuery q buckets
  | .traces => .ok none

theorem rowFilter_iff {buckets : Option BucketRange} : q.rowFilter s buckets = .ok f ↔
    s.conditions q.filters (q.scope s) = .ok f.main ∧ q.lookupOn s buckets = .ok f.resource := by
  have hsteps : q.rowFilter s buckets = s.conditions q.filters (q.scope s) >>= fun main =>
      q.lookupOn s buckets >>= fun found => .ok ⟨main, found⟩ := by
    cases s <;> rfl
  rw [hsteps]
  constructor
  · intro h
    obtain ⟨main, hmain, h⟩ := ok_of_bind h
    obtain ⟨found, hfound, h⟩ := ok_of_bind h
    cases h
    exact ⟨hmain, hfound⟩
  · rintro ⟨hmain, hfound⟩
    rw [hmain, hfound]
    rfl

/-- An aggregation reads the rows of its range, and its columns are those of its query. -/
theorem aggregation_ok {a : Aggregation} (h : q.aggregation s range f panel options = .ok a) :
    a.schema = s ∧ a.time = range.bounds s ∧ a.filter = f ∧ a.labels = s.labels q.groupBy ∧
      a.having = q.having ∧
      ∃ divisor, q.aggregateOperator.valueSql (q.attributeSql s) divisor = .ok a.value := by
  unfold aggregation at h
  cases s with
  | logs =>
    simp only [reduceCtorEq, if_false, if_true] at h
    obtain ⟨value, hv, h⟩ := ok_of_bind h
    obtain ⟨order, -, h⟩ := ok_of_bind h
    obtain ⟨_, -, h⟩ := ok_of_bind h
    cases h
    exact ⟨rfl, rfl, rfl, rfl, rfl, _, hv⟩
  | traces =>
    simp only [reduceCtorEq, if_false, if_true] at h
    obtain ⟨_, -, h⟩ := ok_of_bind h
    obtain ⟨value, hv, h⟩ := ok_of_bind h
    obtain ⟨order, -, h⟩ := ok_of_bind h
    cases h
    exact ⟨rfl, rfl, rfl, rfl, rfl, _, hv⟩

/-- The order of an aggregation, and that its pass has groups. -/
theorem aggregation_order {a : Aggregation}
    (h : q.aggregation s range f panel options = .ok a) :
    s.orderItems panel q.orderBy q.groupBy = .ok a.order ∧ q.checkPass options.pass = .ok () := by
  unfold aggregation at h
  cases s with
  | logs =>
    simp only [reduceCtorEq, if_false, if_true] at h
    obtain ⟨_, -, h⟩ := ok_of_bind h
    obtain ⟨order, ho, h⟩ := ok_of_bind h
    obtain ⟨_, hp, h⟩ := ok_of_bind h
    cases h
    exact ⟨ho, hp⟩
  | traces =>
    simp only [reduceCtorEq, if_false, if_true] at h
    obtain ⟨_, hp, h⟩ := ok_of_bind h
    obtain ⟨_, -, h⟩ := ok_of_bind h
    obtain ⟨order, ho, h⟩ := ok_of_bind h
    cases h
    exact ⟨ho, hp⟩

/-- Only a second pass restricts a statement to groups. -/
theorem rangeStatement_ok (h : q.rangeStatement s range f panel options = .ok t) :
    t.columnConditions = (range.bounds s).conditions ++ f.main ∧ t.lookup = f.resource ∧
      (options.pass ≠ .second → t.restriction = none) := by
  unfold rangeStatement at h
  split at h
  · unfold listStatement at h
    dsimp only at h
    split at h
    · cases h
    · obtain ⟨order, -, h⟩ := ok_of_bind h
      obtain ⟨page, -, h⟩ := ok_of_bind h
      cases h
      exact ⟨rfl, rfl, fun _ => rfl⟩
  split at h
  · cases h
  split at h
  · cases h
  · obtain ⟨a, ha, h⟩ := ok_of_bind h
    cases h
    obtain ⟨-, htime, rfl, -⟩ := aggregation_ok ha
    rw [← htime]
    unfold aggregationStatement
    cases options.pass with
    | first => exact ⟨rfl, rfl, fun _ => rfl⟩
    | none => exact ⟨rfl, rfl, fun _ => rfl⟩
    | second => exact ⟨rfl, rfl, fun hp => absurd rfl hp⟩

/-- A list has the rows of its range, in the requested order, on the requested page. -/
theorem tableStatement_list_iff {start stop : Int} (htail : options.liveTail = false) :
    q.tableStatement s start stop .list options = .ok t ↔
      q.aggregateOperator = .noop ∧ ∃ f order page,
        q.rowFilter s (some (NanoRange.ofInstants start stop).buckets) = .ok f ∧
        s.orderItems .list q.orderBy q.groupBy = .ok order ∧ Page.ofQuery q = .ok page ∧
        t = .list s ((NanoRange.ofInstants start stop).bounds s) f order page := by
  unfold tableStatement
  rw [htail, if_neg Bool.false_ne_true]
  constructor
  · intro h
    obtain ⟨f, hf, h⟩ := ok_of_bind h
    unfold rangeStatement at h
    split at h
    · next hop =>
      obtain ⟨order, horder, h⟩ := ok_of_bind h
      obtain ⟨page, hpage, h⟩ := ok_of_bind h
      cases h
      exact ⟨hop, f, order, page, hf, horder, hpage, rfl⟩
    · cases h
  · rintro ⟨hop, f, order, page, hf, horder, hpage, rfl⟩
    simp only [hf, rangeStatement, if_pos hop, listStatement, horder, hpage, bind, Except.bind,
      ne_eq, not_true_eq_false, if_false]
    rfl

/-- A statement with an aggregate is written from an aggregation. -/
theorem tableStatement_aggregation {start stop : Int}
    (h : q.tableStatement s start stop panel options = .ok t)
    (hop : q.aggregateOperator ≠ .noop) (htail : options.liveTail = false) :
    panel ≠ .list ∧ ∃ f a,
      q.rowFilter s (some (NanoRange.ofInstants start stop).buckets) = .ok f ∧
      q.aggregation s (NanoRange.ofInstants start stop) f panel options = .ok a ∧
      t = q.aggregationStatement a panel options.pass := by
  unfold tableStatement at h
  rw [htail, if_neg Bool.false_ne_true] at h
  obtain ⟨f, hf, h⟩ := ok_of_bind h
  unfold rangeStatement at h
  rw [if_neg hop] at h
  split at h
  · cases h
  next hpanel =>
  split at h
  · cases h
  obtain ⟨a, ha, h⟩ := ok_of_bind h
  cases h
  exact ⟨hpanel, f, a, hf, ha, rfl⟩

end Query

end PanelQuery
