import PanelQuery.Proofs.Filter.Formula
import PanelQuery.Proofs.Statement.Compile

/-! # Which rows a logs statement reads

A filter set of a logs query is split: items about resources go to the lookup of fingerprints, the
others are conditions on columns. Only the part about columns knows the connective of the set, and
the two parts are joined by AND. -/

namespace PanelQuery

open Sql (Condition)
open Sql.Precedence

/-! ## Compiling -/

/-- The time bounds of a logs statement; the live tail has none. -/
def logBounds (start stop : Int) (options : QueryOptions) : Option TimeBounds :=
  if options.liveTail then none else some ((NanoRange.ofInstants start stop).bounds .logs)

/-- The buckets that the lookup of a logs statement looks at. -/
def logBuckets (start stop : Int) (options : QueryOptions) : Option BucketRange :=
  if options.liveTail then none else some (NanoRange.ofInstants start stop).buckets

section

variable {q : Query} {start stop : Int} {panel : Panel} {options : QueryOptions}
  {t : TableStatement}

theorem rowFilter_ok {buckets : Option BucketRange} {f : RowFilter}
    (h : q.rowFilter .logs buckets = .ok f) :
    Schema.logs.conditions q.filters (q.scope .logs) = .ok f.main ∧
      ResourceLookup.ofQuery q buckets = .ok f.resource := Query.rowFilter_iff.mp h

theorem logs_ok (h : q.tableStatement .logs start stop panel options = .ok t) :
    ∃ f : RowFilter, q.rowFilter .logs (logBuckets start stop options) = .ok f ∧
      t.columnConditions =
        ((logBounds start stop options).map TimeBounds.conditions).getD [] ++ f.main ∧
      t.lookup = f.resource ∧ (options.pass ≠ .second → t.restriction = none) := by
  unfold Query.tableStatement at h
  unfold logBuckets logBounds
  split at h
  · next hl =>
    obtain ⟨f, hf, h⟩ := ok_of_bind h
    cases h
    rw [if_pos hl, if_pos hl]
    exact ⟨f, hf, rfl, rfl, fun _ => rfl⟩
  · next hl =>
    obtain ⟨f, hf, h⟩ := ok_of_bind h
    rw [if_neg hl, if_neg hl]
    exact ⟨f, hf, Query.rangeStatement_ok h⟩

end

/-! ## The rows of a query -/

/-- An item holds in a row. A resource item is judged by the labels of the row's fingerprint. -/
def FilterItem.HoldsIn (row : LogRecord) (item : FilterItem) : Prop :=
  if item.key.kind = .resource then item.HoldsFor row.labels
  else Schema.logs.ItemHolds row.columns item

namespace Query

/-- The row lies between the time bounds, unless the statement is open-ended. If the query reads
resources, the row's fingerprint was seen, and that in a bucket of the range. -/
structure InTime (q : Query) (start stop : Int) (options : QueryOptions) (row : LogRecord) :
    Prop where
  columns : ∀ time, logBounds start stop options = some time →
    ∀ c ∈ time.conditions, c.holds row.columns = true
  buckets : q.ReadsResources → ∃ bucket ∈ row.seen, ∀ b, logBuckets start stop options = some b →
    b.first ≤ bucket ∧ bucket ≤ b.last

/-- Grouped keys are there, resource keys as labels, and so is the aggregated attribute where it has
to be. -/
structure Guarded (q : Query) (row : LogRecord) : Prop where
  columns : ∀ key ∈ q.groupBy, key.kind ≠ .resource → Schema.logs.Present row.columns key
  labels : ∀ key ∈ q.groupBy, key.kind = .resource → key.IsLabel row.labels
  aggregated : q.aggregateAttribute.isEmpty = false → q.aggregateAttribute.kind ≠ .resource →
    q.aggregateOperator ≠ .noop → (∀ p, q.aggregateOperator ≠ .percentile p) →
    Schema.logs.Present row.columns q.aggregateAttribute

/-- The filter set holds in a row. -/
def Selects (q : Query) (row : LogRecord) : Prop :=
  AllOrAny q.filterOp (FilterItem.HoldsIn row) q.filterItems

/-- Both parts of a filter set hold by themselves: all resource items, and one of the others if
there are any. -/
structure BothParts (q : Query) (row : LogRecord) : Prop where
  labels : ∀ item ∈ q.filterItems, item.key.kind = .resource → item.HoldsIn row
  columns : (∃ item ∈ q.filterItems, item.key.kind ≠ .resource) →
    ∃ item ∈ q.filterItems, item.key.kind ≠ .resource ∧ item.HoldsIn row

variable {q : Query} {row : LogRecord}

theorem skips_iff {key : AttributeKey} : (q.scope .logs).skips key = false ↔ key.kind ≠ .resource := by
  simp [scope, Schema.Scope.skips]

theorem kept_eq {s : Schema} : (q.scope s).kept q.filters =
    q.filterItems.filter fun item => !(q.scope s).skips item.key := by
  unfold Schema.Scope.kept filterItems
  cases q.filters <;> rfl

theorem filterOp_eq : (q.filters.map FilterSet.op).getD .and = q.filterOp := by
  unfold filterOp
  cases q.filters <;> rfl

theorem mem_kept {item : FilterItem} : item ∈ (q.scope .logs).kept q.filters ↔
    item ∈ q.filterItems ∧ item.key.kind ≠ .resource := by
  rw [kept_eq, List.mem_filter, Bool.not_eq_true', skips_iff]

theorem holdsIn_label {item : FilterItem} (h : item.key.kind = .resource) :
    item.HoldsIn row ↔ item.HoldsFor row.labels := by
  rw [FilterItem.HoldsIn, if_pos h]

theorem holdsIn_columns {item : FilterItem} (h : item.key.kind ≠ .resource) :
    item.HoldsIn row ↔ Schema.logs.ItemHolds row.columns item := by
  rw [FilterItem.HoldsIn, if_neg h]

/-- Under OR the compiled parts of a set, one on columns and one on labels, are those of the set. -/
theorem bothParts_iff : (AllOrAny .or (Schema.logs.ItemHolds row.columns)
      ((q.scope .logs).kept q.filters) ∧
      ∀ item ∈ q.filterItems, item.key.kind = .resource → item.HoldsFor row.labels) ↔
    q.BothParts row := by
  constructor
  · rintro ⟨hkept, hlabels⟩
    refine ⟨fun item hi hk => (holdsIn_label hk).mpr (hlabels item hi hk), ?_⟩
    rintro ⟨item, hi, hk⟩
    have hm := mem_kept.mpr ⟨hi, hk⟩
    rcases hkept with he | ⟨other, ho, hh⟩
    · rw [he] at hm
      cases hm
    · obtain ⟨hi', hk'⟩ := mem_kept.mp ho
      exact ⟨other, hi', hk', (holdsIn_columns hk').mpr hh⟩
  · intro h
    refine ⟨?_, fun item hi hk => (holdsIn_label hk).mp (h.labels item hi hk)⟩
    by_cases hne : (q.scope .logs).kept q.filters = []
    · exact .inl hne
    · obtain ⟨item, hm⟩ := List.exists_mem_of_ne_nil _ hne
      obtain ⟨other, ho, hk, hh⟩ := h.columns ⟨item, mem_kept.mp hm⟩
      exact .inr ⟨other, mem_kept.mpr ⟨ho, hk⟩, (holdsIn_columns hk).mp hh⟩

theorem selects_of_bothParts (hop : q.filterOp = .or) (h : q.BothParts row) : q.Selects row := by
  rw [Selects, hop]
  by_cases hne : q.filterItems = []
  · exact .inl hne
  · obtain ⟨item, hi⟩ := List.exists_mem_of_ne_nil _ hne
    by_cases hk : item.key.kind = .resource
    · exact .inr ⟨item, hi, h.labels item hi hk⟩
    · obtain ⟨other, ho, -, hh⟩ := h.columns ⟨item, hi, hk⟩
      exact .inr ⟨other, ho, hh⟩

/-- The compiled parts of a set hold together if and only if the set holds and, under OR, both of
its parts do. -/
theorem split_iff : (AllOrAny q.filterOp (Schema.logs.ItemHolds row.columns)
      ((q.scope .logs).kept q.filters) ∧
      ∀ item ∈ q.filterItems, item.key.kind = .resource → item.HoldsFor row.labels) ↔
    q.Selects row ∧ (q.filterOp = .or → q.BothParts row) := by
  cases hop : q.filterOp with
  | and =>
    rw [Selects, hop]
    constructor
    · rintro ⟨hkept, hlabels⟩
      refine ⟨fun item hi => ?_, nofun⟩
      by_cases hk : item.key.kind = .resource
      · exact (holdsIn_label hk).mpr (hlabels item hi hk)
      · exact (holdsIn_columns hk).mpr (hkept item (mem_kept.mpr ⟨hi, hk⟩))
    · rintro ⟨hall, -⟩
      refine ⟨fun item hm => ?_, fun item hi hk => (holdsIn_label hk).mp (hall item hi)⟩
      obtain ⟨hi, hk⟩ := mem_kept.mp hm
      exact (holdsIn_columns hk).mp (hall item hi)
  | or =>
    rw [bothParts_iff]
    exact ⟨fun h => ⟨selects_of_bothParts hop h, fun _ => h⟩, fun h => h.2 rfl⟩

/-- The parts agree with the set if there is only one of them, or only one item. -/
theorem bothParts_of_selects (h : (∀ item ∈ q.filterItems, item.key.kind ≠ .resource) ∨
      q.filterItems.length ≤ 1) (hop : q.filterOp = .or) (hs : q.Selects row) :
    q.BothParts row := by
  rw [Selects, hop] at hs
  rcases hs with he | ⟨item, hi, hh⟩
  · constructor <;> simp [he]
  · rcases h with hcolumns | hone
    · exact ⟨fun other ho hk => absurd hk (hcolumns other ho),
        fun _ => ⟨item, hi, hcolumns item hi, hh⟩⟩
    · have hpos := List.length_pos_of_mem hi
      obtain ⟨only, he⟩ := List.length_eq_one_iff.mp (show q.filterItems.length = 1 by omega)
      rw [he, List.mem_singleton] at hi
      subst hi
      constructor <;> simp [he, hh]

/-- A set under OR that mixes resource items with others holds in rows for which its parts do not
both hold. -/
theorem exists_selects_of_mixed (hop : q.filterOp = .or) {label column : FilterItem}
    (hl : label ∈ q.filterItems) (hlk : label.key.kind = .resource)
    (hc : column ∈ q.filterItems) (hck : column.key.kind ≠ .resource)
    (hsql : ∃ sql, Schema.logs.itemCondition column = .ok sql) :
    ∃ row, q.Selects row ∧ ¬ q.BothParts row := by
  obtain ⟨sql, hsql⟩ := hsql
  refine ⟨⟨fun _ => true, fun _ => false, []⟩, ?_, fun hb => ?_⟩
  · rw [Selects, hop]
    exact .inr ⟨column, hc, (holdsIn_columns hck).mpr ⟨⟨sql, hsql, rfl⟩, fun _ _ _ _ => rfl⟩⟩
  · exact label.not_holdsFor_false ((holdsIn_label hlk).mp (hb.labels label hl hlk))

end Query

section

variable {q : Query} {start stop : Int} {panel : Panel} {options : QueryOptions}
  {t : TableStatement}

theorem proper_timeConditions (time : TimeBounds) : ∀ c ∈ time.conditions, Proper c := by
  have hbetween : ∀ column first last, Proper (TimeBounds.between column first last) := by
    intro column first last
    exact .group .and (by simp) (by simp [Proper.atom])
  cases time <;> simp [TimeBounds.conditions, hbetween]

theorem admits_iff (row : LogRecord) :
    Schema.logs.Admits q.filters (q.scope .logs) row.columns ↔
      AllOrAny q.filterOp (Schema.logs.ItemHolds row.columns) ((q.scope .logs).kept q.filters) ∧
      (∀ key ∈ q.groupBy, key.kind ≠ .resource → Schema.logs.Present row.columns key) ∧
      (q.aggregateAttribute.isEmpty = false → q.aggregateAttribute.kind ≠ .resource →
        q.aggregateOperator ≠ .noop → (∀ p, q.aggregateOperator ≠ .percentile p) →
        Schema.logs.Present row.columns q.aggregateAttribute) := by
  rw [← Query.filterOp_eq]
  constructor
  · intro h
    refine ⟨h.items, fun key hg hk => h.grouped key hg (Query.skips_iff.mpr hk), ?_⟩
    exact fun he hk => h.aggregated he (Query.skips_iff.mpr hk)
  · rintro ⟨hi, hg, ha⟩
    refine ⟨hi, fun key hm hs => hg key hm (Query.skips_iff.mp hs), ?_⟩
    exact fun he hs => ha he (Query.skips_iff.mp hs)

theorem lookup_iff {buckets : Option BucketRange} {found : Option ResourceLookup}
    (h : ResourceLookup.ofQuery q buckets = .ok found) (row : LogRecord) :
    (∀ l, found = some l → (∃ bucket ∈ row.seen, l.Covers bucket) ∧ l.Accepts row.labels) ↔
      (q.ReadsResources → ∃ bucket ∈ row.seen, ∀ b, buckets = some b →
        b.first ≤ bucket ∧ bucket ≤ b.last) ∧
      (∀ item ∈ q.filterItems, item.key.kind = .resource → item.HoldsFor row.labels) ∧
      ∀ key ∈ q.groupBy, key.kind = .resource → key.IsLabel row.labels := by
  rcases lookup_ok h with ⟨rfl, hnone⟩ | ⟨l, rfl, hreads, rfl, haccepts⟩
  · have hitem : ∀ item ∈ q.filterItems, item.key.kind ≠ .resource := fun item hi hk =>
      hnone (.inl ⟨item, hi, hk⟩)
    have hkey : ∀ key ∈ q.groupBy, key.kind ≠ .resource := fun key hg hk =>
      hnone (.inr ⟨key, hg, hk⟩)
    refine ⟨fun _ => ⟨fun hr => absurd hr hnone, ?_, ?_⟩, fun _ l hl => nomatch hl⟩
    · exact fun item hi hk => absurd hk (hitem item hi)
    · exact fun key hg hk => absurd hk (hkey key hg)
  · rw [← haccepts]
    constructor
    · intro hl
      obtain ⟨hseen, ha⟩ := hl l rfl
      exact ⟨fun _ => hseen, ha⟩
    · rintro ⟨hseen, ha⟩ _ ⟨⟩
      exact ⟨hseen hreads, ha⟩

/-- **The rows of a logs query.** The statement has its WHERE clause, and in it the lookup has its
own. The clause, read by precedence, is true of a row if and only if the time is right, what the
query groups by and aggregates is there, a second pass restricts to the row's group, the filter set
holds, and under OR both of its parts hold by themselves. The set asks for no more than that if no
item is about a resource or if there is only one item; it asks for less whenever resource items and
others mix. -/
theorem logs_rows (h : q.tableStatement .logs start stop panel options = .ok t) :
    (HasClause t.sql (marksSql RowAtom.sql t.clause) ∨
      EndsOpen t.sql (marksSql RowAtom.sql t.clause)) ∧
    (∀ l, t.lookup = some l → l.sql = ResourceLookup.around (marksSql EntryAtom.sql l.clause)) ∧
    (options.pass ≠ .second → t.restriction = none) ∧
    (∀ row, Reads row.truth t.clause (q.InTime start stop options row ∧ q.Guarded row ∧
      (∀ s, t.restriction = some s → row.columns s = true) ∧
      q.Selects row ∧ (q.filterOp = .or → q.BothParts row))) ∧
    ((∀ item ∈ q.filterItems, item.key.kind ≠ .resource) ∨ q.filterItems.length ≤ 1 →
      ∀ row, q.Selects row → q.filterOp = .or → q.BothParts row) ∧
    (q.filterOp = .or → (∃ item ∈ q.filterItems, item.key.kind = .resource) →
      (∃ item ∈ q.filterItems, item.key.kind ≠ .resource) →
      ∃ row, q.Selects row ∧ ¬ q.BothParts row) := by
  obtain ⟨f, hf, hcolumns, hlookup, hrestriction⟩ := logs_ok h
  obtain ⟨hmain, hfound⟩ := rowFilter_ok hf
  have hproper : ∀ c ∈ t.columnConditions, Proper c := by
    rw [hcolumns, List.forall_mem_append]
    refine ⟨?_, Schema.proper_conditions hmain⟩
    cases logBounds start stop options with
    | none => simp
    | some time => exact proper_timeConditions time
  refine ⟨t.hasClause, fun l _ => l.sql_eq_around, hrestriction, fun row => (TableStatement.read_clause hproper row).imp ?_,
    fun hp row hs hop => Query.bothParts_of_selects hp hop hs, ?_⟩
  · have htime : (∀ c ∈ ((logBounds start stop options).map TimeBounds.conditions).getD [],
        c.holds row.columns = true) ↔ ∀ time, logBounds start stop options = some time →
        ∀ c ∈ time.conditions, c.holds row.columns = true := by
      cases logBounds start stop options <;> simp
    rw [hcolumns, List.forall_mem_append, Schema.holds_conditions hmain, htime, admits_iff, hlookup,
      lookup_iff hfound]
    constructor
    · rintro ⟨⟨ht, hi, hg, ha⟩, ⟨hb, hl, hk⟩, hr⟩
      exact ⟨⟨ht, hb⟩, ⟨hg, hk, ha⟩, hr, Query.split_iff.mp ⟨hi, hl⟩⟩
    · rintro ⟨⟨ht, hb⟩, ⟨hg, hk, ha⟩, hr, hs⟩
      obtain ⟨hi, hl⟩ := Query.split_iff.mpr hs
      exact ⟨⟨ht, hi, hg, ha⟩, ⟨hb, hl, hk⟩, hr⟩
  · rintro hop ⟨label, hl, hlk⟩ ⟨column, hc, hck⟩
    obtain ⟨units, hu, -⟩ := Schema.conditions_ok hmain
    obtain ⟨u, -, hui⟩ := forall₂_exists_left hu.flip (Query.mem_kept.mpr ⟨hc, hck⟩)
    exact Query.exists_selects_of_mixed hop hl hlk hc hck ⟨_, (Schema.unit_ok hui).1⟩

end

/-- Records of one service, or those from one host. -/
def ownOrHost : Query :=
  { signal := .logs
    filters := some ⟨.or,
      [⟨{ name := "app", dataType := .scalar .string, kind := .tag }, .compare .eq, .text "api"⟩,
       ⟨{ name := "host", dataType := .scalar .string, kind := .resource }, .compare .eq,
        .text "h1"⟩]⟩ }

/-- A record of the service on another host is not read, although the filter set holds. -/
theorem logs_rows_ownOrHost : ∃ t, ownOrHost.tableStatement .logs 0 60000 .list {} = .ok t ∧
    ∃ row, ownOrHost.InTime 0 60000 {} row ∧ ownOrHost.Guarded row ∧ ownOrHost.Selects row ∧
      Reads row.truth t.clause False := by
  have hc : ∃ t, ownOrHost.tableStatement .logs 0 60000 .list {} = .ok t := ⟨_, rfl⟩
  obtain ⟨t, h⟩ := hc
  obtain ⟨-, -, -, hread, -, -⟩ := logs_rows h
  refine ⟨t, h, ⟨fun _ => true, fun _ => false, [0]⟩, ⟨?_, fun _ => ⟨0, by simp, ?_⟩⟩,
    ⟨nofun, nofun, nofun⟩, .inr ⟨_, List.mem_cons_self, ?_⟩, (hread _).imp ?_⟩
  · rintro time ⟨⟩
    simp [NanoRange.bounds, TimeBounds.conditions, TimeBounds.between, Condition.holds,
      Condition.allHold]
  · rintro b ⟨⟩
    decide
  · exact (Query.holdsIn_columns (by decide)).mpr ⟨⟨_, rfl, rfl⟩, fun _ _ _ _ => rfl⟩
  · refine ⟨fun hall => ?_, False.elim⟩
    obtain ⟨-, -, -, -, hboth⟩ := hall
    have hhost := (hboth rfl).labels _ (List.mem_cons_of_mem _ List.mem_cons_self) rfl
    exact FilterItem.not_holdsFor_false _ ((Query.holdsIn_label rfl).mp hhost)

end PanelQuery
