import PanelQuery.Proofs.Filter.Lookup
import PanelQuery.Statement.Table

/-! # The WHERE clause of a statement, read for a row

The atoms of a WHERE clause speak about the columns of a row, except for one: the lookup, which asks
for an entry of the row's fingerprint. The marks of the clause have the text that stands in the
statement between `where` and the next clause. -/

namespace PanelQuery

open Sql (Condition)
open Sql.Precedence

/-! ## Rows -/

/-- What is true of a row, of the labels of its resource fingerprint, and the buckets in which the
fingerprint was seen. -/
structure LogRecord where
  columns : Sql → Bool
  labels : Sql → Bool
  seen : List Int

inductive RowAtom where
  | columns (sql : Sql)
  | fingerprint (l : ResourceLookup)

def RowAtom.sql : RowAtom → Sql
  | .columns s => s
  | .fingerprint l => l.sql

/-- A row has an admitted fingerprint if the clause of the lookup is true for an entry of it. -/
def LogRecord.truth (row : LogRecord) : RowAtom → Bool
  | .columns s => row.columns s
  | .fingerprint l =>
    row.seen.any fun bucket => read (EntryAtom.truth row.labels bucket) l.clause == some true

theorem truth_fingerprint (row : LogRecord) (l : ResourceLookup) :
    row.truth (.fingerprint l) = true ↔
      (∃ bucket ∈ row.seen, l.Covers bucket) ∧ l.Accepts row.labels := by
  have hread : ∀ bucket, (read (EntryAtom.truth row.labels bucket) l.clause == some true) = true ↔
      l.Covers bucket ∧ l.Accepts row.labels := by
    intro bucket
    obtain ⟨value, hr, hv⟩ := l.read_clause row.labels bucket
    rw [hr, ← hv]
    simp
  simp only [LogRecord.truth, List.any_eq_true, hread]
  constructor
  · rintro ⟨bucket, hs, hc, ha⟩
    exact ⟨⟨bucket, hs, hc⟩, ha⟩
  · rintro ⟨⟨bucket, hs, hc⟩, ha⟩
    exact ⟨bucket, hs, hc, ha⟩

/-! ## Clauses -/

namespace TableStatement

/-- The conditions of a statement on the columns of its table, the time bounds first. -/
def columnConditions : TableStatement → List Condition
  | .list _ time filter _ _ => time.conditions ++ filter.main
  | .tail _ filter => filter.main
  | .groups a _ | .series a _ _ _ _ => a.time.conditions ++ a.filter.main

def lookup : TableStatement → Option ResourceLookup
  | .list _ _ filter _ _ | .tail _ filter => filter.resource
  | .groups a _ | .series a _ _ _ _ => a.filter.resource

/-- The restriction to the groups of a first pass. -/
def restriction : TableStatement → Option Sql
  | .series a _ true _ _ => some a.restriction
  | _ => none

/-- What the clause has beside conditions on columns. -/
def rowAtoms (t : TableStatement) : List RowAtom :=
  t.lookup.toList.map .fingerprint ++ t.restriction.toList.map .columns

/-- The WHERE clause of a statement. -/
def clause (t : TableStatement) : List (Mark RowAtom) :=
  joined .and (t.columnConditions.map (marks .columns) ++ t.rowAtoms.map fun a => [.atom a])

/-- The clause of a statement, read for a row. -/
theorem read_clause {t : TableStatement} (h : ∀ c ∈ t.columnConditions, Proper c)
    (row : LogRecord) :
    Reads row.truth t.clause ((∀ c ∈ t.columnConditions, c.holds row.columns = true) ∧
      (∀ l, t.lookup = some l → (∃ bucket ∈ row.seen, l.Covers bucket) ∧ l.Accepts row.labels) ∧
      ∀ s, t.restriction = some s → row.columns s = true) := by
  have hcolumns : List.Forall₂ (Operand row.truth) (t.columnConditions.map (marks .columns))
      (t.columnConditions.map (·.holds row.columns)) :=
    operands_of_forall fun c hc => (h c hc).operand
  refine ⟨_, read_joined (List.rel_append hcolumns (operands_atoms t.rowAtoms)), ?_⟩
  rw [List.all_append, Bool.and_eq_true]
  refine and_congr (by simp) ?_
  simp only [List.all_eq_true, List.forall_mem_map, rowAtoms, List.forall_mem_append, id,
    truth_fingerprint, Option.mem_toList]
  rfl

end TableStatement

/-! ## The clause in the text -/

/-- The words that end a clause. -/
def clauseEnds : List String := [" group by ", " group by ts", " having ", " order by "]

/-- The text has the clause between the word that begins it and one that ends it. -/
def HasClause (sql clause : Sql) : Prop :=
  ∃ front w next back, next ∈ clauseEnds ∧
    sql = front ++ Sql.raw (w ++ " where ") ++ clause ++ (Sql.raw next ++ back)

namespace HasClause

variable {sql clause : Sql}

theorem after (h : HasClause sql clause) (front : Sql) : HasClause (front ++ sql) clause := by
  obtain ⟨f, w, next, b, hn, rfl⟩ := h
  exact ⟨front ++ f, w, next, b, hn, by simp⟩

theorem before (h : HasClause sql clause) (back : Sql) : HasClause (sql ++ back) clause := by
  obtain ⟨f, w, next, b, hn, rfl⟩ := h
  exact ⟨f, w, next, b ++ back, hn, by simp⟩

end HasClause

/-- The text ends with the clause and stays open for one more condition. -/
def EndsOpen (sql clause : Sql) : Prop :=
  ∃ w, sql = Sql.raw (w ++ " where ") ++ clause ++ Sql.raw " AND " ∨
    clause = [] ∧ sql = Sql.raw (w ++ " where ")

theorem join_append (sep : String) {as : List Sql} (h : as ≠ []) (bs : List Sql) :
    Sql.join sep (as ++ bs) =
      Sql.join sep as ++ if bs.isEmpty then [] else Sql.raw sep ++ Sql.join sep bs := by
  induction as with
  | nil => exact absurd rfl h
  | cons a as ih =>
    cases as with
    | nil => cases bs <;> simp [Sql.join]
    | cons next as =>
      have hrest := ih (by simp)
      simp only [List.cons_append] at hrest ⊢
      simp [Sql.join, hrest]

theorem conjunction_append {as : List Condition} (h : as ≠ []) (bs : List Condition) :
    Sql.conjunction (as ++ bs) =
      Sql.conjunction as ++ if bs.isEmpty then [] else Sql.raw " AND " ++ Sql.conjunction bs := by
  simp only [Sql.conjunction, partsSql_eq_join, List.map_append]
  rw [join_append _ (by simpa using h), List.isEmpty_map]
  rfl

theorem timeConditions_ne_nil (time : TimeBounds) : time.conditions ≠ [] := by
  cases time <;> simp [TimeBounds.conditions]

/-- Time bounds, conditions, lookup and restriction are joined by AND. -/
theorem conjunction_rows (time : TimeBounds) (f : RowFilter) (restriction : Option Sql) :
    Sql.conjunction (time.conditions ++ f.conditions ++ restriction.toList.map .atom) =
      time.sql ++ f.sql ++ (restriction.map (Sql.raw " AND " ++ ·)).getD [] := by
  rw [conjunction_append (by simp [timeConditions_ne_nil]),
    conjunction_append (timeConditions_ne_nil time), TimeBounds.sql, RowFilter.sql]
  cases restriction with
  | none => rfl
  | some s => simp [Sql.conjunction, Condition.partsSql, Condition.sql]

namespace TableStatement

/-- The conditions whose text the clause has. -/
def written (t : TableStatement) : List Condition :=
  t.columnConditions ++ (t.lookup.map fun l => .atom l.sql).toList ++ t.restriction.toList.map .atom

theorem marksSql_clause (t : TableStatement) :
    marksSql RowAtom.sql t.clause = Sql.conjunction t.written := by
  have hcolumns : (t.columnConditions.map (marks .columns)).map (marksSql RowAtom.sql) =
      t.columnConditions.map Condition.sql := by
    rw [List.map_map]
    exact List.map_congr_left fun c _ => marksSql_marks (fun _ => rfl) c
  have hatoms : (t.rowAtoms.map fun a => ([.atom a] : List (Mark RowAtom))).map
      (marksSql RowAtom.sql) = t.rowAtoms.map RowAtom.sql := by
    rw [List.map_map]
    exact List.map_congr_left fun a _ => by simp [marksSql, Mark.sql]
  have hrow : t.rowAtoms.map RowAtom.sql = ((t.lookup.map fun l => Condition.atom l.sql).toList ++
      t.restriction.toList.map Condition.atom).map Condition.sql := by
    rw [rowAtoms]
    cases t.lookup <;> cases t.restriction <;> simp [RowAtom.sql, Condition.sql]
  rw [clause, marksSql_joined, List.map_append, hcolumns, hatoms, hrow, ← List.map_append,
    Sql.conjunction, partsSql_eq_join, written, List.append_assoc]

theorem written_aggregation (a : Aggregation) (extra : Option Sql) :
    Sql.conjunction (a.time.conditions ++ a.filter.main ++
      (a.filter.resource.map fun l => Condition.atom l.sql).toList ++ extra.toList.map .atom) =
      a.time.sql ++ a.filter.sql ++ (extra.map (Sql.raw " AND " ++ ·)).getD [] := by
  rw [← conjunction_rows, RowFilter.conditions, List.append_assoc a.time.conditions]

theorem ending_eq (a : Aggregation) :
    ∃ next ∈ clauseEnds, ∃ back, a.ending = Sql.raw next ++ back := by
  rw [Aggregation.ending, havingClause]
  split
  · exact ⟨" order by ", by simp [clauseEnds], orderSql a.order, rfl⟩
  · exact ⟨" having ", by simp [clauseEnds], _, by simp; rfl⟩

theorem tail_eq (a : Aggregation) (bucket : Aggregation.Bucket) :
    ∃ next ∈ clauseEnds, ∃ back, a.tail bucket = Sql.raw next ++ back := by
  unfold Aggregation.tail Aggregation.groupClause
  split
  · exact ending_eq a
  · exact ⟨" group by ", by simp [clauseEnds], _, by simp; rfl⟩
  · exact ⟨" group by ts", by simp [clauseEnds], _, rfl⟩
  · exact ⟨" group by ", by simp [clauseEnds], _, by simp; rfl⟩

theorem hasClause_ranking (a : Aggregation) :
    HasClause a.ranking (a.time.sql ++ a.filter.sql) :=
  ⟨Sql.raw "SELECT" ++ Label.selectSql a.labels ++ Sql.raw " " ++ a.value,
    " as value from " ++ a.schema.table, " group by ", Label.keysSql a.labels ++ a.ending,
    by simp [clauseEnds], by simp [Aggregation.ranking, Aggregation.body]⟩

theorem hasClause_body (a : Aggregation) (bucket : Aggregation.Bucket) (rest : Sql) :
    HasClause (a.head bucket ++ rest ++ a.tail bucket) (a.time.sql ++ a.filter.sql ++ rest) := by
  obtain ⟨next, hn, back, ht⟩ := tail_eq a bucket
  exact ⟨bucket.sql a.schema ++ Label.selectSql a.labels ++ Sql.raw " " ++ a.value,
    " as value from " ++ a.schema.table, next, back, hn,
    by simp [Aggregation.head, Aggregation.body, ht]⟩

theorem hasClause_list (s : Schema) (time : TimeBounds) (f : RowFilter) (order : List OrderItem)
    (page : Page) : HasClause (TableStatement.list s time f order page).sql
      (marksSql RowAtom.sql (TableStatement.list s time f order page).clause) := by
  have hc : (TableStatement.list s time f order page).written =
      time.conditions ++ f.conditions ++ (none : Option Sql).toList.map .atom := by
    simp [written, columnConditions, lookup, restriction, RowFilter.conditions]
  rw [marksSql_clause, hc, conjunction_rows]
  exact ⟨[], "SELECT " ++ s.listColumns ++ " from " ++ s.table, " order by ",
    orderSql order ++ page.sql, by simp [clauseEnds], by simp [sql, selectRows]⟩

theorem endsOpen_tail (s : Schema) (f : RowFilter) : EndsOpen (TableStatement.tail s f).sql
    (marksSql RowAtom.sql (TableStatement.tail s f).clause) := by
  have hc : (TableStatement.tail s f).written = f.conditions := by
    simp [written, columnConditions, lookup, restriction, RowFilter.conditions]
  rw [marksSql_clause, hc, sql]
  refine ⟨"SELECT " ++ s.listColumns ++ " from " ++ s.table, ?_⟩
  split
  · next he =>
    rw [List.isEmpty_iff.mp he]
    exact .inr ⟨by simp [Sql.conjunction, Condition.partsSql], by simp [selectRows]⟩
  · exact .inl (by simp [selectRows])

theorem hasClause_groups (a : Aggregation) (limit : Nat) :
    HasClause (TableStatement.groups a limit).sql
      (marksSql RowAtom.sql (TableStatement.groups a limit).clause) := by
  have hc : (TableStatement.groups a limit).written = a.time.conditions ++ a.filter.main ++
      (a.filter.resource.map fun l => .atom l.sql).toList ++
      (none : Option Sql).toList.map .atom := rfl
  rw [marksSql_clause, hc, written_aggregation]
  simpa [sql, topGroupsSql] using
    (((hasClause_ranking a).after
      (Sql.raw "SELECT " ++ Label.keysSql a.labels ++ Sql.raw " from (")).before
      (Sql.raw ") LIMIT ")).before [.int limit]

theorem restriction_series (a : Aggregation) (bucket : Aggregation.Bucket) (restricted : Bool)
    (limit : Option Nat) (reduced : Option ReduceTo) :
    (((TableStatement.series a bucket restricted limit reduced).restriction).map
      (Sql.raw " AND " ++ ·)).getD [] =
      if restricted then Sql.raw " AND " ++ a.restriction else [] := by
  cases restricted <;> rfl

theorem hasClause_series (a : Aggregation) (bucket : Aggregation.Bucket) (restricted : Bool)
    (limit : Option Nat) (reduced : Option ReduceTo) :
    HasClause (TableStatement.series a bucket restricted limit reduced).sql
      (marksSql RowAtom.sql (TableStatement.series a bucket restricted limit reduced).clause) := by
  have hseries := hasClause_body a bucket
    (if restricted then Sql.raw " AND " ++ a.restriction else [])
  rw [marksSql_clause, written, columnConditions, lookup, written_aggregation, restriction_series]
  cases limit with
  | none =>
    cases reduced with
    | none => exact hseries
    | some kind => exact (hseries.after _).before _
  | some n =>
    cases reduced with
    | none => exact (hseries.before _).before _
    | some kind => exact (((hseries.before _).before _).after _).before _

/-- Every statement has its clause. The live tail ends with it. -/
theorem hasClause (t : TableStatement) :
    HasClause t.sql (marksSql RowAtom.sql t.clause) ∨
      EndsOpen t.sql (marksSql RowAtom.sql t.clause) := by
  cases t with
  | list s time f order page => exact .inl (hasClause_list s time f order page)
  | tail s f => exact .inr (endsOpen_tail s f)
  | groups a limit => exact .inl (hasClause_groups a limit)
  | series a bucket restricted limit reduced =>
    exact .inl (hasClause_series a bucket restricted limit reduced)

end TableStatement

end PanelQuery
