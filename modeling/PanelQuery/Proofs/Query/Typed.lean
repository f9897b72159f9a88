import PanelQuery.Engine
import PanelQuery.Proofs.Filter.Typed
import PanelQuery.Proofs.Metrics.Pipeline
import PanelQuery.Proofs.Statement.Rows

/-! # No statement from an ill-typed filter

Every statement has compiled all items of its query: items on columns and fields as conditions on
the main table, resource items of logs as tests of the lookup, items of metrics as conditions on
labels. So none of them is ill-typed, whatever the connective, the panel and the pass are. -/

namespace PanelQuery

variable {q : Query} {start stop : Int} {panel : Panel} {options : QueryOptions}

/-- Every item fits its key. -/
def Query.Typed (q : Query) : Prop := ∀ item ∈ q.filterItems, ¬ item.IllTyped

/-! ## Logs and traces -/

/-- The main conditions have compiled the items that are not left to the lookup. -/
theorem Schema.typed_of_conditions {s : Schema} {filters : Option FilterSet} {scope : Scope}
    {conds : List Sql.Condition} (h : s.conditions filters scope = .ok conds) :
    ∀ item ∈ scope.kept filters, ¬ item.IllTyped := by
  obtain ⟨units, hu, -⟩ := conditions_ok h
  intro item hi
  obtain ⟨u, -, hui⟩ := forall₂_exists_left hu.flip hi
  exact typed_of_itemCondition (unit_ok hui).1

/-- The lookup has compiled all resource items. -/
theorem ResourceLookup.typed_of_ofQuery {buckets : Option BucketRange}
    {found : Option ResourceLookup} (h : ofQuery q buckets = .ok found) :
    ∀ item ∈ q.filterItems, item.key.kind = .resource → ¬ item.IllTyped := by
  intro item hi hk
  have hmem : item ∈ q.filterItems.filter (·.key.kind == .resource) :=
    List.mem_filter.mpr ⟨hi, beq_iff_eq.mpr hk⟩
  unfold ofQuery at h
  dsimp only at h
  split at h
  · next hempty =>
    rw [Bool.and_eq_true, List.isEmpty_iff] at hempty
    rw [hempty.1] at hmem
    cases hmem
  · obtain ⟨tests, ht, -⟩ := ok_of_bind h
    obtain ⟨test, -, htest⟩ := forall₂_exists_left (mapM_ok_iff.mp ht).flip hmem
    obtain ⟨t, ht, -⟩ := ok_of_bind htest
    exact FilterItem.typed_of_labelTest ht

namespace Query

/-- Between them, the main conditions and the lookup leave out no item. -/
theorem typed_of_rowFilter {s : Schema} {buckets : Option BucketRange} {f : RowFilter}
    (h : q.rowFilter s buckets = .ok f) : q.Typed := by
  intro item hi
  obtain ⟨hmain, hlookup⟩ := rowFilter_iff.mp h
  cases s with
  | logs =>
    by_cases hk : item.key.kind = .resource
    · exact ResourceLookup.typed_of_ofQuery hlookup item hi hk
    · exact Schema.typed_of_conditions hmain item (mem_kept.mpr ⟨hi, hk⟩)
  | traces =>
    refine Schema.typed_of_conditions hmain item ?_
    rw [kept_eq]
    exact List.mem_filter.mpr ⟨hi, rfl⟩

/-- The row filter comes before anything that depends on the panel; the live tail has one too. -/
theorem typed_of_tableStatement {s : Schema} {t : TableStatement}
    (h : q.tableStatement s start stop panel options = .ok t) : q.Typed := by
  unfold tableStatement at h
  split at h
  · cases s with
    | logs =>
      obtain ⟨f, hf, -⟩ := ok_of_bind h
      exact typed_of_rowFilter hf
    | traces => cases h
  · obtain ⟨f, hf, -⟩ := ok_of_bind h
    exact typed_of_rowFilter hf

end Query

/-! ## Metrics -/

theorem Metrics.typed_of_labelConditions {conditions : List Sql.Condition}
    (h : labelConditions q.filterItems = .ok conditions) : q.Typed := by
  obtain ⟨ps, hp, -⟩ := labelConditions_ok h
  intro item hi
  obtain ⟨p, -, hip⟩ := forall₂_exists_left hp.flip hi
  exact typed_of_labelCondition hip

/-- Whatever a stage reads, its lookup has compiled all items as conditions on labels. -/
theorem Query.typed_of_metricsStatement {perMinute : Bool} {s : Metrics.MetricsStatement}
    (h : q.metricsStatement start stop panel perMinute = .ok s) : q.Typed := by
  obtain ⟨source, hreads, -⟩ := Metrics.Context.stage_spec (metricsStatement_ok h).1
  unfold Metrics.Context.ReadsFrom at hreads
  split at hreads
  · obtain ⟨conditions, hc, -⟩ := hreads
    exact Metrics.typed_of_labelConditions hc
  · obtain ⟨lookup, hl, -⟩ := hreads
    obtain ⟨conditions, hc, -⟩ := ok_of_bind hl
    exact Metrics.typed_of_labelConditions hc

/-! ## Requests -/

namespace Engine

variable {features : List String} {sql : Sql}

theorem typed_of_statementSql (h : statementSql features start stop panel q options = .ok sql) :
    q.Typed := by
  unfold statementSql at h
  split at h
  · obtain ⟨t, ht, -⟩ := ok_of_bind h
    exact Query.typed_of_tableStatement ht
  · obtain ⟨t, ht, -⟩ := ok_of_bind h
    exact Query.typed_of_tableStatement ht
  · obtain ⟨s, hs, -⟩ := ok_of_bind h
    exact Query.typed_of_metricsStatement hs

/-- A cursor adds an item and takes none away. -/
theorem mem_filterItems_of_pagedQuery {request : CompileRequest} {paged : Query}
    (h : pagedQuery request = .ok paged) {item : FilterItem}
    (hi : item ∈ request.query.filterItems) : item ∈ paged.filterItems := by
  unfold pagedQuery at h
  split at h
  · cases h
    exact hi
  dsimp only at h
  split at h
  · cases h
  obtain ⟨cursor, -, h⟩ := ok_of_bind h
  obtain ⟨filters, hadd, h⟩ := ok_of_bind h
  cases h
  unfold Query.filterItems at hi
  cases hf : request.query.filters with
  | none =>
    rw [hf] at hi
    cases hi
  | some set =>
    rw [hf] at hi hadd
    unfold ListCursor.addTo at hadd
    dsimp only at hadd
    split at hadd
    · cases hadd
    · cases hadd
      exact List.mem_append_left _ hi

theorem filterItems_limited (e : Engine) : (e.limited panel q).filterItems = q.filterItems := by
  unfold limited
  split <;> rfl

theorem typed_of_compile {e : Engine} {request : CompileRequest}
    (h : e.compile request = .ok sql) : request.query.Typed := by
  obtain ⟨-, paged, hpaged, h⟩ := compile_ok h
  have htyped := typed_of_statementSql h
  intro item hi
  refine htyped item ?_
  rw [filterItems_limited]
  exact mem_filterItems_of_pagedQuery hpaged hi

end Engine

/-- **Ill-typed filters are refused.** If the value of an item does not fit the type of its key, or
is no array where membership is asked for, no statement is compiled from the query: not for any
range, panel, pass or live tail, and not for any request with a cursor or without. Where the item
would be compiled, what the other items are and how they are connected does not matter. -/
theorem Query.refused_of_illTyped {item : FilterItem} (hi : item ∈ q.filterItems)
    (hill : item.IllTyped) :
    (∀ features start stop panel options, ∃ fault,
      Engine.statementSql features start stop panel q options = .error fault) ∧
    ∀ (e : Engine) (request : CompileRequest), request.query = q → ∃ fault,
      e.compile request = .error fault := by
  constructor
  · intro features start stop panel options
    cases h : Engine.statementSql features start stop panel q options with
    | error fault => exact ⟨fault, rfl⟩
    | ok sql => exact absurd hill (Engine.typed_of_statementSql h item hi)
  · rintro e request rfl
    cases h : e.compile request with
    | error fault => exact ⟨fault, rfl⟩
    | ok sql => exact absurd hill (Engine.typed_of_compile h item hi)

/-- Membership in a number. -/
def statusInNumber : FilterItem :=
  ⟨{ name := "status", dataType := .scalar .int64, kind := .tag }, .member false, .int 200⟩

/-- Logs of one service, or of that status. -/
def serviceOrStatus : Query where
  name := "A"
  signal := .logs
  filters := some ⟨.or, [
    ⟨{ name := "service.name", dataType := .scalar .string, kind := .resource }, .compare .eq,
      .text "api"⟩,
    statusInNumber]⟩

/-- The live tail of them is refused too. -/
theorem Query.refused_of_illTyped_liveTail :
    statusInNumber ∈ serviceOrStatus.filterItems ∧ statusInNumber.IllTyped ∧ ∃ fault,
      Engine.statementSql [] 0 60000 .list serviceOrStatus { liveTail := true } = .error fault := by
  have hmem : statusInNumber ∈ serviceOrStatus.filterItems :=
    List.mem_cons_of_mem _ List.mem_cons_self
  have hill : statusInNumber.IllTyped := .member rfl rfl
  exact ⟨hmem, hill, (Query.refused_of_illTyped hmem hill).1 _ _ _ _ _⟩

end PanelQuery
