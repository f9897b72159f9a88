import PanelQuery.Metrics.Compile
import PanelQuery.Proofs.Filter.Conditions
import PanelQuery.Statement.Compile

/-! # Logs and traces statements of queries with alike filters

Beside its filters a query brings names, orders and conditions on the aggregate into its statement.
If these may stand there and only the filters are exchanged for alike ones, the compilers give
statements that are alike, or fail for the same reason. -/

namespace PanelQuery

open Sql (Origin Own Condition)

/-- What the query brings into a statement beside its filters may stand there. -/
structure Query.Covered (q : Query) (o : Origin) : Prop where
  groupBy : ∀ key ∈ q.groupBy, o.Covers key
  aggregated : o.Covers q.aggregateAttribute
  orderColumn : ∀ r ∈ q.orderBy, o.name r.column
  orderTarget : ∀ r ∈ q.orderBy, o.Covers r.target
  having : ∀ h ∈ q.having, h.value.Alike o h.value
  instant : ∀ n : Int, o.text (toString n) (toString n)
  timestamp : o.name "timestamp"
  bound : o.name Metrics.leTag
  boundText : o.text Metrics.leTag Metrics.leTag

variable {o : Origin}

/-! ## Conditions on the aggregate and order -/

theorem own_havingConditions {having : List Having} (h : ∀ c ∈ having, c.value.Alike o c.value) :
    Own o (havingConditions having) :=
  Sql.own_join_map .conjunction fun c hc => (Sql.own_raw (.having c.op)).append (h c hc).literal

theorem own_havingClause {having : List Having} (h : ∀ c ∈ having, c.value.Alike o c.value) :
    Own o (havingClause having) := by
  unfold havingClause
  exact .ite .nil ((Sql.own_raw .havingClause).append (own_havingConditions h))

theorem own_orderColumn {r : OrderBy} (h : o.Covers r.target) (s : Schema) :
    Own o (s.orderColumn r).sql := by
  unfold Schema.orderColumn
  split
  · cases s with
    | logs =>
      rw [Schema.column, Schema.logColumn]
      split
      · exact Sql.own_backticked h.name
      split
      · exact Sql.own_backticked h.materialized
      · exact own_entry (logMap_mem _) h.text
    | traces =>
      rw [Schema.column, Schema.spanColumn]
      split
      · exact Sql.own_backticked h.name
      · exact own_entry (spanMap_mem _) h.text
  · exact own_column h s

theorem own_orderItem {r : OrderBy} (hc : o.name r.column) (ht : o.Covers r.target) {s : Schema}
    {panel : Panel} {groupBy : List AttributeKey} {item : OrderItem}
    (h : s.orderItem? panel groupBy r = .ok (some item)) : Own o item.sql := by
  unfold Schema.orderItem? at h
  cases hd : r.direction with
  | error e => rw [hd] at h; cases h
  | ok d =>
    rw [hd] at h
    have hdir : Own o [.direction d] := Sql.own_direction d
    have hi := Except.ok.inj h
    split at hi
    · cases hi
      exact (Sql.own_raw .orderValue).append hdir
    split at hi
    · cases hi
      exact .cons (.backticked hc) (.cons (.fixed .blank) hdir)
    split at hi
    · cases hi
      exact ((own_orderColumn ht s).append (Sql.own_raw .blank)).append hdir
    · cases hi

theorem own_orderItems {q : Query} (hq : q.Covered o) {s : Schema} {panel : Panel}
    {items : List OrderItem} (h : s.orderItems panel q.orderBy q.groupBy = .ok items) :
    ∀ item ∈ items, Own o item.sql := by
  unfold Schema.orderItems at h
  cases hm : q.orderBy.mapM (s.orderItem? panel q.groupBy) with
  | error e => rw [hm] at h; cases h
  | ok found =>
    rw [hm] at h
    have hfound : ∀ item ∈ found.filterMap id, Own o item.sql := by
      intro item hi
      obtain ⟨_, hi, rfl⟩ := List.mem_filterMap.mp hi
      obtain ⟨r, hr, hitem⟩ := forall₂_exists_left (mapM_ok_iff.mp hm) hi
      exact own_orderItem (hq.orderColumn r hr) (hq.orderTarget r hr) hitem
    have hi := Except.ok.inj h
    split at hi <;> subst hi
    · intro item hi
      rw [List.mem_singleton.mp hi, OrderItem.default]
      split
      · exact ((Sql.own_name hq.timestamp).append (Sql.own_raw .blank)).append
          (Sql.own_direction _)
      · exact (Sql.own_raw .orderValue).append (Sql.own_direction _)
    · exact hfound

theorem own_orderSql {items : List OrderItem} (h : ∀ item ∈ items, Own o item.sql) :
    Own o (orderSql items) := Sql.own_join_map .comma h

theorem own_page (p : Page) : Own o p.sql := by
  unfold Page.sql
  refine ((Sql.own_raw .limit).append (Sql.own_int _)).append ?_
  split
  · exact (Sql.own_raw .offset).append (Sql.own_int _)
  · exact .nil

/-! ## Rows -/

theorem own_between {column : String} (hf : Sql.Wording (column ++ " >= "))
    (hl : Sql.Wording (column ++ " <= ")) {first last : Sql} (h : Own o first) (h' : Own o last) :
    (TimeBounds.between column first last).Alike o (TimeBounds.between column first last) :=
  Sql.alike_group .and (.cons (Sql.alike_atom ((Sql.own_raw hf).append h))
    (.cons (Sql.alike_atom ((Sql.own_raw hl).append h')) .nil))

theorem own_timeBounds {q : Query} (hq : q.Covered o) (b : TimeBounds) : Own o b.sql := by
  refine Sql.alike_conjunction ?_
  cases b with
  | logs first last buckets =>
    exact .cons (own_between .rowTimeFirst .rowTimeLast (Sql.own_int _) (Sql.own_int _))
      (.cons (own_between .bucketStartFirst .bucketStartLast (Sql.own_int _) (Sql.own_int _)) .nil)
  | traces first last =>
    exact .cons (own_between .rowTimeFirst .rowTimeLast (Sql.alike_literal (hq.instant first))
      (Sql.alike_literal (hq.instant last))) .nil

/-- Filters with alike conditions and alike lookups. -/
structure RowFilter.Alike (o : Origin) (f f' : RowFilter) : Prop where
  main : List.Forall₂ (Condition.Alike o) f.main f'.main
  resource : Option.Rel (ResourceLookup.Alike o) f.resource f'.resource

namespace RowFilter

theorem Alike.conditions {f f' : RowFilter} (h : f.Alike o f') :
    List.Forall₂ (Condition.Alike o) f.conditions f'.conditions :=
  List.rel_append h.main
    (forall₂_toList (optionRel_map h.resource fun _ _ hl => Sql.alike_atom hl.sql))

theorem Alike.sql {f f' : RowFilter} (h : f.Alike o f') : Sql.Alike o f.sql f'.sql := by
  unfold RowFilter.sql
  rw [forall₂_isEmpty h.conditions]
  exact .ite .nil ((Sql.own_raw .conjunction).append (Sql.alike_conjunction h.conditions))

end RowFilter

/-- Keys whose items go to the lookup of fingerprints. -/
def Schema.looksUp (s : Schema) (key : AttributeKey) : Bool :=
  s == .logs && key.kind == .resource

/-- The items are alike in the place where the schema uses them. -/
structure FilterItem.AlikeOn (o : Origin) (s : Schema) (item item' : FilterItem) : Prop where
  key : item'.key = item.key
  onRows : s.looksUp item.key = false → item.Alike o item'
  inLookup : s.looksUp item.key = true → item.AlikeInLookup o item'

theorem forall₂_filterItems {R : FilterItem → FilterItem → Prop} {q : Query}
    {filters : Option FilterSet} (h : Option.Rel (FilterSet.Related R) q.filters filters) :
    List.Forall₂ R q.filterItems { q with filters := filters : Query }.filterItems := by
  unfold Query.filterItems
  cases hf : q.filters <;> rw [hf] at h <;> cases h
  · exact .nil
  · next hset => exact hset.items

section

variable {q : Query} {filters : Option FilterSet}

theorem agree_ofQuery (hq : q.Covered o)
    (h : Option.Rel (FilterSet.Related (FilterItem.AlikeOn o .logs)) q.filters filters)
    (buckets : Option BucketRange) :
    Agree (Option.Rel (ResourceLookup.Alike o)) (ResourceLookup.ofQuery q buckets)
      (ResourceLookup.ofQuery { q with filters := filters } buckets) := by
  have hitems := forall₂_filter (p := fun item => item.key.kind == .resource)
    (forall₂_filterItems h) (fun _ _ hab => by rw [hab.key]) fun _ _ hab hk => hab.inLookup hk
  unfold ResourceLookup.ofQuery
  simp only [forall₂_isEmpty hitems]
  refine Agree.ite (fun _ => .ok .none) fun _ => ?_
  refine Agree.bind (S := Option.Rel (ResourceLookup.Alike o)) (Agree.mapM (S := fun a b =>
    a.1 = b.1 ∧ o.text a.1 a.1 ∧ a.2.Alike o b.2) (hitems.imp fun item item' hi => ?_)) ?_
  · rw [hi.key]
    exact hi.labelTest.bind fun t t' ht => .ok ⟨rfl, hi.covered.lowered, ht⟩
  · intro tests tests' ht
    refine .ok (.some ⟨rfl, ht, rfl, ?_⟩)
    intro key hk
    obtain ⟨k, hm, rfl⟩ := List.mem_map.mp hk
    exact (hq.groupBy k (List.mem_filter.mp hm).1).lowered

theorem FilterSet.Related.mono {R S : FilterItem → FilterItem → Prop} {set set' : FilterSet}
    (h : set.Related R set') (hRS : ∀ item item', R item item' → S item item') :
    set.Related S set' := ⟨h.op, h.items.imp hRS⟩

theorem agree_rowFilter (hq : q.Covered o) (s : Schema)
    (h : Option.Rel (FilterSet.Related (FilterItem.AlikeOn o s)) q.filters filters)
    (buckets : Option BucketRange) :
    Agree (RowFilter.Alike o) (q.rowFilter s buckets)
      ({ q with filters := filters : Query }.rowFilter s buckets) := by
  have hs : (q.scope s).Covered o := ⟨hq.groupBy, hq.aggregated⟩
  have hrows : Option.Rel (FilterSet.Related fun item item' => item'.key = item.key ∧
      ((q.scope s).skips item.key = false → item.Alike o item')) q.filters filters :=
    optionRel_imp h fun _ _ hset => hset.mono fun _ _ hi => ⟨hi.key, hi.onRows⟩
  unfold Query.rowFilter
  refine (s.agree_conditions hrows hs).bind fun main main' hm => ?_
  cases s with
  | logs => exact (agree_ofQuery hq h buckets).bind fun l l' hl => .ok ⟨hm, hl⟩
  | traces => exact .ok ⟨hm, .none⟩

end

/-! ## Aggregations -/

/-- The parts of the aggregation that do not depend on the filters. -/
structure Aggregation.Covered (a : Aggregation) (o : Origin) : Prop where
  time : Own o a.time.sql
  labels : ∀ l ∈ a.labels, Own o l.column.sql ∧ o.name l.name
  value : Own o a.value
  having : ∀ h ∈ a.having, h.value.Alike o h.value
  order : ∀ item ∈ a.order, Own o item.sql

namespace Aggregation

variable {a : Aggregation}

theorem Covered.keysSql (h : a.Covered o) : Own o (Label.keysSql a.labels) :=
  Sql.own_join_map .comma fun l hl => Sql.own_backticked (h.labels l hl).2

theorem Covered.selectSql (h : a.Covered o) : Own o (Label.selectSql a.labels) :=
  Sql.own_flatMap fun l hl => ((Sql.own_raw .blank).append (h.labels l hl).1).append
    (.cons (.fixed .asName) (.cons (.backticked (h.labels l hl).2) (.cons (.fixed .comma) .nil)))

theorem Covered.ending (h : a.Covered o) : Own o a.ending :=
  ((own_havingClause h.having).append (Sql.own_raw .orderBy)).append (own_orderSql h.order)

theorem Covered.groupClause (h : a.Covered o) (bucket : Bucket) : Own o (a.groupClause bucket) := by
  have hkeys : Own o (Sql.raw " group by " ++ Label.keysSql a.labels) :=
    (Sql.own_raw .groupBy).append h.keysSql
  unfold Aggregation.groupClause
  split
  · exact .nil
  · exact hkeys
  · exact Sql.own_raw .groupByTime
  · exact hkeys.append (Sql.own_raw .commaTime)

theorem Covered.restriction (h : a.Covered o) : Own o a.restriction :=
  ((Sql.own_raw .leftParen).append h.keysSql).append
    (.cons (.fixed .restrictionIn) (.cons .topNGroups (.cons (.fixed .rightParen) .nil)))

theorem own_bucket (s : Schema) (bucket : Bucket) : Own o (bucket.sql s) := by
  cases bucket with
  | whole => exact Sql.own_raw .selectNow
  | interval seconds =>
    exact ((Sql.own_raw (.selectInterval s)).append (Sql.own_int seconds)).append
      (Sql.own_raw .seconds)

variable {f : RowFilter}

theorem Covered.body (h : a.Covered o) (hf : a.filter.Alike o f) :
    Sql.Alike o a.body { a with filter := f }.body :=
  (((((h.selectSql.append (Sql.own_raw .blank)).append h.value).append
    (Sql.own_raw (.valueFrom a.schema))).append h.time).append hf.sql)

theorem Covered.ranking (h : a.Covered o) (hf : a.filter.Alike o f) :
    Sql.Alike o a.ranking { a with filter := f }.ranking :=
  ((((Sql.own_raw .select).append (h.body hf)).append (Sql.own_raw .groupBy)).append
    h.keysSql).append h.ending

end Aggregation

inductive TableStatement.Alike (o : Origin) : TableStatement → TableStatement → Prop
  | list (s : Schema) {time : TimeBounds} {f f' : RowFilter} {order : List OrderItem} (page : Page)
      (ht : Own o time.sql) (h : f.Alike o f') (ho : ∀ item ∈ order, Own o item.sql) :
      Alike o (.list s time f order page) (.list s time f' order page)
  | tail (s : Schema) {f f' : RowFilter} (h : f.Alike o f') : Alike o (.tail s f) (.tail s f')
  | groups {a : Aggregation} {f : RowFilter} (ha : a.Covered o) (h : a.filter.Alike o f)
      (limit : Nat) : Alike o (.groups a limit) (.groups { a with filter := f } limit)
  | series {a : Aggregation} {f : RowFilter} (ha : a.Covered o) (h : a.filter.Alike o f)
      (bucket : Aggregation.Bucket) (restricted : Bool) (limit : Option Nat)
      (reduced : Option ReduceTo) :
      Alike o (.series a bucket restricted limit reduced)
        (.series { a with filter := f } bucket restricted limit reduced)

theorem alike_reduceSql (kind : ReduceTo) {a b : Sql} (h : Sql.Alike o a b) :
    Sql.Alike o (reduceSql kind a) (reduceSql kind b) :=
  ((Sql.own_raw (.reduce kind)).append h).append (Sql.own_raw .rightParen)

theorem TableStatement.Alike.sql {t t' : TableStatement} (h : t.Alike o t') :
    Sql.Alike o t.sql t'.sql := by
  cases h with
  | list s page ht hf ho =>
    exact (((((Sql.own_raw (.selectRows s)).append ht).append hf.sql).append
      (Sql.own_raw .orderBy)).append (own_orderSql ho)).append (own_page page)
  | tail s hf =>
    rw [TableStatement.sql, TableStatement.sql, forall₂_isEmpty hf.conditions]
    exact (Sql.own_raw (.selectRows s)).append
      (.ite .nil ((Sql.alike_conjunction hf.conditions).append (Sql.own_raw .conjunction)))
  | groups ha hf limit =>
    exact (((((Sql.own_raw .selectBlank).append ha.keysSql).append (Sql.own_raw .fromOpen)).append
      (ha.ranking hf)).append (Sql.own_raw .closeLimit)).append (Sql.own_int limit)
  | @series a f ha hf bucket restricted limit reduced =>
    have hseries : Sql.Alike o
        (a.head bucket ++ (if restricted then Sql.raw " AND " ++ a.restriction else []) ++ a.tail bucket)
        ({ a with filter := f }.head bucket
          ++ (if restricted then Sql.raw " AND " ++ { a with filter := f }.restriction else [])
          ++ { a with filter := f }.tail bucket) :=
      (((Aggregation.own_bucket a.schema bucket).append (ha.body hf)).append
        (.ite ((Sql.own_raw .conjunction).append ha.restriction) .nil)).append ((ha.groupClause bucket).append ha.ending)
    cases limit with
    | none =>
      cases reduced with
      | none => exact hseries
      | some kind => exact alike_reduceSql kind hseries
    | some n =>
      have hlimited := (hseries.append (Sql.own_raw .limit)).append (Sql.own_int (n : Int))
      cases reduced with
      | none => exact hlimited
      | some kind => exact alike_reduceSql kind hlimited

theorem own_valueSql {op : AggregateOperator} {operand : Option Sql} {divisor : Float} {v : Sql}
    (ho : ∀ a ∈ operand, Own o a) (h : op.valueSql operand divisor = .ok v) : Own o v := by
  have hrequired : ∀ {f : Sql → Sql}, (∀ a, Own o a → Own o (f a)) →
      (op.required operand >>= fun a => pure (f a)) = .ok v → Own o v := by
    intro f hf hv
    unfold AggregateOperator.required at hv
    cases operand with
    | none => cases hv
    | some a => exact Except.ok.inj hv ▸ hf a (ho a rfl)
  have hdivided : ∀ {a : Sql}, Own o a → Own o (a ++ Sql.raw ")/" ++ [.float divisor]) := fun ha =>
    (ha.append (Sql.own_raw .rightParenSlash)).append (Sql.own_float divisor)
  unfold AggregateOperator.valueSql at h
  cases op with
  | percentile p =>
    exact hrequired (fun a ha => ((Sql.own_raw (.quantile p)).append ha).append
      (Sql.own_raw .rightParen)) h
  | count => exact Except.ok.inj h ▸ Sql.own_raw .countAll
  | countDistinct =>
    exact hrequired (fun a ha => ((Sql.own_raw .countDistinct).append ha).append
      (Sql.own_raw .threeRightParens)) h
  | plain f =>
    exact hrequired (fun a ha => ((Sql.own_raw (.reduction f)).append ha).append
      (Sql.own_raw .rightParen)) h
  | rate =>
    have hoperand : Own o (operand.getD []) := by
      cases operand with
      | none => exact .nil
      | some a => exact ho a rfl
    exact Except.ok.inj h ▸ hdivided ((Sql.own_raw .count).append hoperand)
  | rateOf f =>
    exact hrequired (fun a ha => hdivided ((Sql.own_raw (.reduction f)).append ha)) h
  | noop | ofRate f | histogramQuantile q => cases h

/-! ## Statements -/

section

variable {q : Query} {filters : Option FilterSet}

theorem own_attributeSql (hq : q.Covered o) (s : Schema) : ∀ a ∈ q.attributeSql s, Own o a := by
  intro a ha
  unfold Query.attributeSql at ha
  split at ha
  · cases ha
  · cases ha
    exact own_column hq.aggregated s

/-- The aggregations are one, apart from alike filters. -/
inductive Aggregation.Alike (o : Origin) : Aggregation → Aggregation → Prop
  | mk {a : Aggregation} {f : RowFilter} (ha : a.Covered o) (h : a.filter.Alike o f) :
      Alike o a { a with filter := f }

theorem agree_aggregation (hq : q.Covered o) {f f' : RowFilter} (h : f.Alike o f') (s : Schema)
    (range : NanoRange) (panel : Panel) (options : QueryOptions) :
    Agree (Aggregation.Alike o) (q.aggregation s range f panel options)
      ({ q with filters := filters : Query }.aggregation s range f' panel options) := by
  have hmk : ∀ {value : Sql} {order : List OrderItem}, Own o value →
      (∀ item ∈ order, Own o item.sql) →
      Aggregation.Alike o ⟨s, range.bounds s, f, s.labels q.groupBy, value, q.having, order⟩
        ⟨s, range.bounds s, f', s.labels q.groupBy, value, q.having, order⟩ := by
    intro value order hv ho
    refine .mk ⟨own_timeBounds hq _, ?_, hv, hq.having, ho⟩ h
    intro l hl
    obtain ⟨key, hk, rfl⟩ := List.mem_map.mp hl
    exact ⟨own_column (hq.groupBy key hk) s, (hq.groupBy key hk).name⟩
  unfold Query.aggregation
  cases s with
  | logs =>
    exact Agree.bind_same fun value hv => Agree.bind_same fun order ho => Agree.bind_same fun _ _ =>
      .ok (hmk (own_valueSql (own_attributeSql hq _) hv) (own_orderItems hq ho))
  | traces =>
    exact Agree.bind_same fun _ _ => Agree.bind_same fun value hv => Agree.bind_same fun order ho =>
      .ok (hmk (own_valueSql (own_attributeSql hq _) hv) (own_orderItems hq ho))

theorem Aggregation.Alike.statement {a a' : Aggregation} (h : a.Alike o a') (q : Query)
    (panel : Panel) (pass : TopNPass) :
    (q.aggregationStatement a panel pass).Alike o
      ({ q with filters := filters : Query }.aggregationStatement a' panel pass) := by
  cases h with
  | mk ha hf =>
    cases pass with
    | first => exact .groups ha hf _
    | none => exact .series ha hf _ _ _ _
    | second => exact .series ha hf _ _ _ _

theorem agree_listStatement (hq : q.Covered o) {f f' : RowFilter} (h : f.Alike o f') (s : Schema)
    (time : TimeBounds) (panel : Panel) :
    Agree (TableStatement.Alike o) (q.listStatement s time f panel)
      ({ q with filters := filters : Query }.listStatement s time f' panel) := by
  unfold Query.listStatement
  refine Agree.ite (fun _ => .error _) fun _ => ?_
  exact Agree.bind_same fun order ho => Agree.bind_same fun page _ =>
    .ok (.list s page (own_timeBounds hq time) h (own_orderItems hq ho))

/-- Statements of a query and of the query with alike filters in place of its own are alike, or
there are none for the same reason. -/
theorem agree_tableStatement (hq : q.Covered o) (s : Schema)
    (h : Option.Rel (FilterSet.Related (FilterItem.AlikeOn o s)) q.filters filters)
    (start stop : Int) (panel : Panel) (options : QueryOptions) :
    Agree (TableStatement.Alike o) (q.tableStatement s start stop panel options)
      ({ q with filters := filters : Query }.tableStatement s start stop panel options) := by
  unfold Query.tableStatement
  refine Agree.ite (fun _ => ?_) fun _ => ?_
  · cases s with
    | logs => exact (agree_rowFilter hq .logs h none).bind fun f f' hf => .ok (.tail .logs hf)
    | traces => exact .error _
  · refine (agree_rowFilter hq s h _).bind fun f f' hf => ?_
    unfold Query.rangeStatement
    refine Agree.ite (fun _ => agree_listStatement hq hf s _ panel) fun _ => ?_
    refine Agree.ite (fun _ => .error _) fun _ => ?_
    refine Agree.ite (fun _ => .error _) fun _ => ?_
    exact (agree_aggregation hq hf s _ panel options).bind fun a a' ha =>
      .ok (ha.statement q panel options.pass)

end

end PanelQuery
