import PanelQuery.Proofs.Statement.Trees

/-! # Scopes of aggregation statements

Select list, groups, conditions, order, restriction and the statements around them are written apart
from each other. Here they are read together, for every panel and pass: each name that a clause
reads has a column in the statement that it refers to, and the order is the one that the query asks
for as far as the statement has columns for it. -/

namespace PanelQuery

open Sql
open Sql.Tree (isPlain isTerm namesIn)

/-! ## The aggregation itself -/

/-- How an aggregation is read, by the names of its time columns, of its keys and of the columns
that it is grouped by besides them. -/
structure Aggregates (times keys groups : List String) (isRestricted : Bool) (having : List Having)
    (terms : List (Tree × List Char)) (ts : List Tree) : Prop where
  source : derived? ts = none
  columns : columns ts = times ++ keys ++ ["value"]
  grouping : namesIn (clause .group ts) = keys ++ groups
  restricted : restricted (clause .where ts) = if isRestricted then keys else []
  having : subjects (clause .having ts) = having.map (fun _ => some (.word "value".toList)) ∧
    ∀ n ∈ namesIn (clause .having ts), n = "value"
  order : orderItems (clause .order ts) = terms.map some

/-- The clauses of an aggregation. Some of them may be left out. -/
def clauseList (list source conditions groups having order limit : List Tree) :
    List (Keyword × List Tree) :=
  [(.select, list), (.from, source), (.where, conditions)] ++ (optional .group groups ++
    (optional .having having ++ ([(.order, order)] ++ optional .limit limit)))

theorem lookup_clauseList (list source conditions groups having order limit : List Tree)
    (k : Keyword) :
    ((clauseList list source conditions groups having order limit).lookup k).getD [] = match k with
      | .select => list
      | .from => source
      | .where => conditions
      | .group => groups
      | .having => having
      | .order => order
      | .limit => limit := by
  cases k <;> cases groups <;> cases having <;> cases limit <;> rfl

namespace Aggregation

/-- An aggregation whose parts can be read. -/
structure Readable (a : Aggregation) : Prop where
  labels : ∀ l ∈ a.labels, Still isTerm l.column.sql
  value : Parsed isTerm a.value
  conditions : Parsed isPlain (a.time.sql ++ a.filter.sql)

variable {a : Aggregation}

/-- The statement of the aggregation behind its time column. -/
def behind (a : Aggregation) (front : Sql) (isRestricted : Bool) (bucket : Bucket)
    (limit : Option Nat) : Sql :=
  front ++ a.body ++ (if isRestricted then raw " AND " ++ a.restriction else []) ++
    (a.groupClause bucket ++ (havingClause a.having ++ ((raw " order by " ++ orderSql a.order) ++
      match limit with
      | some n => raw " LIMIT " ++ [.int n]
      | none => [])))

theorem ranking_eq (hne : a.labels ≠ []) :
    a.ranking = a.behind (raw "SELECT") false .whole none := by
  have hgroup : a.groupClause .whole = raw " group by " ++ Label.keysSql a.labels := by
    unfold groupClause
    cases hl : a.labels with
    | nil => exact absurd hl hne
    | cons l labels => rfl
  simp [ranking, behind, ending, hgroup]

theorem series_eq (bucket : Bucket) (isRestricted : Bool) (limit : Option Nat)
    (reduced : Option ReduceTo) :
    (TableStatement.series a bucket isRestricted limit reduced).sql =
      let inner := a.behind (bucket.sql a.schema) isRestricted bucket limit
      match reduced with
      | some kind => reduceSql kind inner
      | none => inner := by
  cases limit <;> cases reduced <;>
    simp [TableStatement.sql, behind, head, tail, ending, List.append_assoc]

theorem Readable.exists_aggregates (h : a.Readable) {terms : List (Tree × List Char)}
    (hne : terms ≠ []) (horder : List.Forall₂ OrderItem.Writes a.order terms) {front : Sql}
    {time : List Tree} {times : List String} (hfront : Reads front (selectTree :: time))
    (htime : Leads time times) (isRestricted : Bool) (bucket : Bucket) (limit : Option Nat) :
    ∃ ts, Reads (a.behind front isRestricted bucket limit) ts ∧
      Aggregates times (a.labels.map Label.name) bucket.groups isRestricted a.having terms ts := by
  obtain ⟨list, conditions, hselection, hcolumns, hrestricted⟩ :=
    exists_selection h.labels h.value h.conditions hfront htime isRestricted
  obtain ⟨groups, hgroups, hnames⟩ := a.exists_grouping bucket
  obtain ⟨having, hhaving, hsubjects⟩ := exists_having a.having
  obtain ⟨order, horder, hitems⟩ := exists_order hne horder
  obtain ⟨limits, hlimit⟩ := exists_limit limit
  -- The text is laid out part after part, so each clause is looked up in the list of them.
  obtain ⟨ts, hts, hlaid⟩ := hselection.append
    (hgroups.append (hhaving.append (horder.append hlimit)))
  have hclause := fun k => (hlaid.clause_eq k).trans
    (lookup_clauseList list _ conditions groups having order limits k)
  refine ⟨ts, hts, ?_, ?_, ?_, ?_, ?_, ?_⟩
  · rw [derived?, hclause]
  · rw [columns, hclause, hcolumns]
  · rw [hclause, hnames]
  · rw [hclause, hrestricted]
  · rw [hclause]
    exact hsubjects
  · rw [hclause, hitems]

end Aggregation

/-- The names of an aggregation are all its own. -/
theorem Aggregates.wellScoped {times keys groups : List String} {isRestricted : Bool}
    {having : List Having} {terms : List (Tree × List Char)} {ts : List Tree}
    (h : Aggregates times keys groups isRestricted having terms ts) (hgroups : groups ⊆ times)
    (hterms : ∀ term ∈ terms, ∀ n ∈ term.1.names, n = "value" ∨ n ∈ keys) : WellScoped ts := by
  refine .table h.source fun n hn => ?_
  have hcolumn : n = "value" ∨ n ∈ keys ∨ n ∈ times → n ∈ Sql.columns ts := by
    rw [h.columns]
    rintro (rfl | hkey | htime)
    · simp
    · simp [hkey]
    · simp [htime]
  apply hcolumn
  simp only [clauseReads, List.mem_append] at hn
  rcases hn with ((hg | hh) | ho) | hr
  · rw [h.grouping, List.mem_append] at hg
    exact .inr (hg.imp_right (@hgroups n))
  · exact .inl (h.having.2 n hh)
  · rw [names_of_orderItems h.order, List.mem_flatMap] at ho
    obtain ⟨term, hterm, hn⟩ := ho
    exact (hterms term hterm n hn).imp_right .inl
  · rw [h.restricted] at hr
    split at hr
    · exact .inr (.inl hr)
    · cases hr

/-! ## The order -/

/-- What an item orders by, with the requested direction. -/
def OrderBy.term (o : OrderBy) : Tree × List Char :=
  (if o.isValue then .word "value".toList else .ticked o.column, (Text.trim o.order).toList)

namespace Query

/-- The item names the value or a grouped key. -/
def keeps (q : Query) (o : OrderBy) : Bool := o.isValue || q.groupBy.any (·.name == o.column)

/-- The items of the requested order that the statement has columns for. -/
def keptOrder (q : Query) : List OrderBy := q.orderBy.filter q.keeps

/-- The order that is asked for, or by value if nothing is left of it. -/
def orderTerms (q : Query) : List (Tree × List Char) :=
  if q.keptOrder.isEmpty then [(.word "value".toList, "DESC".toList)]
  else q.keptOrder.map OrderBy.term

theorem orderTerms_ne_nil (q : Query) : q.orderTerms ≠ [] := by
  unfold orderTerms
  split
  · exact List.cons_ne_nil _ _
  · next h => simpa using h

/-- Every term is the value or a grouped key. -/
theorem term_of_orderTerms {q : Query} : ∀ term ∈ q.orderTerms,
    term.1 = .word "value".toList ∨ ∃ key ∈ q.groupBy, term.1 = .ticked key.name := by
  unfold orderTerms
  split
  · exact List.forall_mem_singleton.mpr (.inl rfl)
  · rw [List.forall_mem_map]
    intro o ho
    obtain ⟨-, hkept⟩ := List.mem_filter.mp ho
    unfold OrderBy.term
    split
    · exact .inl rfl
    · next hvalue =>
      obtain ⟨key, hkey, hname⟩ := List.any_eq_true.mp
        ((Bool.or_eq_true_iff.mp hkept).resolve_left hvalue)
      exact .inr ⟨key, hkey, congrArg Tree.ticked (eq_of_beq hname).symm⟩

end Query

theorem OrderItem.Writes.direction {item : OrderItem} {term : Tree × List Char}
    (h : item.Writes term) :
    term.2.map Char.toLower ∈ [['a', 's', 'c'], ['d', 'e', 's', 'c']] := by
  cases h with
  | value d | key name d => exact d.lower

/-- An item is kept as its term, or left out. -/
theorem Query.orderItem?_writes {q : Query} {s : Schema} {panel : Panel} {o : OrderBy}
    {found : Option OrderItem} (h : s.orderItem? panel q.groupBy o = .ok found)
    (hpanel : panel ≠ .list) :
    if q.keeps o then ∃ item, found = some item ∧ item.Writes o.term else found = none := by
  obtain ⟨d, hd, h⟩ := ok_of_bind h
  have htext : (Text.trim o.order).toList = d.text.toList := by
    unfold OrderBy.direction Direction.ofText? at hd
    split at hd
    · next hsome =>
      split at hsome
      · cases hsome
        cases hd
        rfl
      · cases hsome
    · cases hd
  cases h
  unfold OrderBy.term Query.keeps
  rw [htext]
  by_cases hvalue : o.isValue = true
  · simp only [hvalue, Bool.true_or, if_true]
    exact ⟨_, rfl, .value d⟩
  · rw [if_neg hvalue, if_neg hvalue, Bool.eq_false_iff.mpr hvalue, Bool.false_or]
    split
    · exact ⟨_, rfl, .key o.column d⟩
    · rfl

/-- The order of a statement is the one that is asked for. -/
theorem Query.orderItems_writes {q : Query} {s : Schema} {panel : Panel} {items : List OrderItem}
    (h : s.orderItems panel q.orderBy q.groupBy = .ok items) (hpanel : panel ≠ .list) :
    List.Forall₂ OrderItem.Writes items q.orderTerms := by
  have hkept : ∀ {requests : List OrderBy} {found : List (Option OrderItem)},
      List.Forall₂ (fun o item => s.orderItem? panel q.groupBy o = .ok item) requests found →
        List.Forall₂ OrderItem.Writes (found.filterMap id)
          ((requests.filter q.keeps).map OrderBy.term) := by
    intro requests found hfound
    induction hfound with
    | nil => exact .nil
    | @cons o item requests found ho _ ih =>
      have hwrites := q.orderItem?_writes ho hpanel
      split at hwrites
      · next hk =>
        obtain ⟨item, rfl, hitem⟩ := hwrites
        rw [List.filter_cons_of_pos hk]
        exact .cons hitem ih
      · next hk =>
        rw [hwrites, List.filter_cons_of_neg hk]
        exact ih
  obtain ⟨found, hfound, h⟩ := ok_of_bind h
  cases h
  have hall : List.Forall₂ OrderItem.Writes (found.filterMap id) (q.keptOrder.map OrderBy.term) :=
    hkept (mapM_ok_iff.mp hfound)
  -- As many items are found as are kept, so the default stands in for the same orders.
  have hempty : (found.filterMap id).isEmpty = q.keptOrder.isEmpty := by
    rw [Bool.eq_iff_iff, List.isEmpty_iff, List.isEmpty_iff, ← List.length_eq_zero_iff,
      ← List.length_eq_zero_iff, hall.length_eq, List.length_map]
  unfold orderTerms
  rw [hempty]
  split
  · rw [OrderItem.default, if_neg hpanel]
    exact .cons (.value .descending) .nil
  · exact hall

/-! ## The statements around it -/

/-- What a reduction is read as, up to the parentheses. -/
def reductionTrees (kind : ReduceTo) : List Tree :=
  [selectTree, .function kind.function.toList, .group [.word "value".toList], .word "as".toList,
    .word "value".toList, .comma, .function "any".toList, .group [.word "ts".toList],
    .word "as".toList, .word "ts".toList, .word "FROM".toList]

theorem opens_reduction (kind : ReduceTo) :
    Opens (raw ("SELECT " ++ kind.function ++ "(value) as value, any(ts) as ts FROM ("))
      (reductionTrees kind) [] := by
  cases kind
  · exact opens_raw (w := "SELECT anyLast(value) as value, any(ts) as ts FROM (") rfl rfl
  · exact opens_raw (w := "SELECT sum(value) as value, any(ts) as ts FROM (") rfl rfl
  · exact opens_raw (w := "SELECT avg(value) as value, any(ts) as ts FROM (") rfl rfl
  · exact opens_raw (w := "SELECT max(value) as value, any(ts) as ts FROM (") rfl rfl
  · exact opens_raw (w := "SELECT min(value) as value, any(ts) as ts FROM (") rfl rfl

/-- A statement that only selects from another one. -/
structure SelectsFrom (inner : List Tree) (names : List String) (ts : List Tree) : Prop where
  source : derived? ts = some inner
  select : selectReads ts = names
  clauses : clauseReads ts = []

theorem selectsFrom_reduction (kind : ReduceTo) (inner : List Tree) :
    SelectsFrom inner ["value", "ts"] (reductionTrees kind ++ [.group inner]) := by
  cases kind <;> exact ⟨rfl, rfl, rfl⟩

/-- What the select of the ranked groups is read as. -/
def topGroupsTrees (labels : List Label) (inner : List Tree) : List Tree :=
  selectTree :: (Label.keyTrees labels ++
    [.word "from".toList, .group inner, .word "LIMIT".toList, .value])

theorem reads_topGroups {labels : List Label} {ranking : Sql} {inner : List Tree}
    (h : Reads ranking inner) (limit : Nat) :
    Reads (topGroupsSql ranking (Label.keysSql labels) limit) (topGroupsTrees labels inner) := by
  have hselect : Loose (raw "SELECT ") [selectTree] := loose_raw rfl rfl
  have hfrom : Opens (raw " from (") [.word "from".toList] [] := opens_raw rfl rfl
  have hlimit : Loose (raw " LIMIT ") [.word "LIMIT".toList] := loose_raw rfl rfl
  have hnumber : Loose [.int limit] [.value] := fun _ _ => rfl
  have hinner := ((hfrom.close h).append hlimit).append hnumber
  have hwhole := hselect.before ((Label.reads_keys labels).before
    (((((apart_raw (w := " from (") rfl rfl (by decide)).append _).append _).append _).append _)
    hinner.reads)
  have hclose : ") LIMIT " = ")" ++ " LIMIT " := rfl
  refine hwhole.of_signs ?_
  simp only [topGroupsSql, hclose, signs_append, signs_raw_append, List.append_assoc]

theorem selectsFrom_topGroups {labels : List Label} (hne : labels ≠ []) (inner : List Tree) :
    SelectsFrom inner (labels.map Label.name) (topGroupsTrees labels inner) := by
  have hlaid : Laid (topGroupsTrees labels inner)
      [(.select, Label.keyTrees labels), (.from, [.group inner]), (.limit, [.value])] :=
    have hlimit : Laid [.word "LIMIT".toList, .value] [(.limit, [.value])] :=
      .one rfl (List.forall_mem_singleton.mpr rfl)
    have hfrom : Laid [.word "from".toList, .group inner] [(.from, [.group inner])] :=
      .one rfl (List.forall_mem_singleton.mpr rfl)
    .cons rfl (fun t ht => keyword?_of_isPlain (Label.plain_keys labels t ht)) (hfrom.append hlimit)
  have hitems : items (Label.keyTrees labels) = labels.map fun l => [.ticked l.name] :=
    splitOnP_intercalate rfl (by simpa using hne)
      (List.forall_mem_map.mpr fun _ _ => List.forall_mem_singleton.mpr rfl)
  refine ⟨?_, ?_, ?_⟩
  · rw [derived?, hlaid.clause_eq]
    rfl
  · rw [selectReads, hlaid.clause_eq]
    exact (congrArg _ hitems).trans (by rw [List.flatMap_map, ← List.flatMap_pure_eq_map]; rfl)
  · rw [clauseReads, hlaid.clause_eq, hlaid.clause_eq, hlaid.clause_eq, hlaid.clause_eq]
    rfl

/-! ## The statements of a query -/

/-- The statement that aggregates: the one in parentheses, if the statement selects from one. -/
def aggregating (ts : List Tree) : List Tree := (derived? ts).getD ts

namespace Query

/-- The names of the grouped keys. -/
def keyNames (q : Query) : List String := q.groupBy.map AttributeKey.name

/-- How the aggregation of a query is read. There are columns for time, keys and value, except that
a ranking has none for the time. It is grouped by the keys, and by the intervals of time if it has
any; the second pass restricts the keys; every condition is on the value; the order is what is
asked for. -/
abbrev AggregatesFor (q : Query) (panel : Panel) (pass : TopNPass) (ts : List Tree) : Prop :=
  Aggregates (if pass = .first then [] else ["ts"]) q.keyNames
    (if pass = .first ∨ panel = .table then [] else ["ts"]) (pass == .second) q.having
    q.orderTerms ts

/-- What is read in the statement of a query for a panel and a pass. -/
structure Scoped (q : Query) (panel : Panel) (pass : TopNPass) (ts : List Tree) : Prop where
  /-- Every name that is read has a column in the statement it refers to. -/
  wellScoped : WellScoped ts
  aggregates : q.AggregatesFor panel pass (aggregating ts)
  /-- The order is by the value or by grouped keys, each with a direction. -/
  order : ∀ term ∈ q.orderTerms,
    (term.1 = .word "value".toList ∨ ∃ key ∈ q.groupBy, term.1 = .ticked key.name) ∧
      term.2.map Char.toLower ∈ ["asc".toList, "desc".toList]
  /-- The first pass and the panel of a single value select from the aggregation. -/
  derived : (derived? ts).isSome = (pass == .first || panel == .value)
  /-- They read the keys, or the value and the time. -/
  selects : (derived? ts).isSome → selectReads ts =
    if pass = .first then q.keyNames else ["value", "ts"]

variable {q : Query} {panel : Panel}

section

variable {pass : TopNPass} {inner ts : List Tree}

theorem wellScoped_of_aggregates (h : q.AggregatesFor panel pass ts) : WellScoped ts := by
  refine h.wellScoped ?_ fun term hterm n hn => ?_
  · by_cases hpass : pass = .first
    · simp [hpass]
    · by_cases hpanel : panel = .table <;> simp [hpass, hpanel]
  · rcases term_of_orderTerms term hterm with hvalue | ⟨key, hkey, hticked⟩
    · rw [hvalue] at hn
      exact .inl (List.mem_singleton.mp hn)
    · rw [hticked] at hn
      obtain rfl := List.mem_singleton.mp hn
      exact .inr (List.mem_map_of_mem hkey)

/-- The aggregation is the whole statement. -/
theorem Scoped.of_aggregates
    (h : q.AggregatesFor panel pass ts)
    (horder : ∀ term ∈ q.orderTerms, term.2.map Char.toLower ∈ ["asc".toList, "desc".toList])
    (hwhole : pass ≠ .first ∧ panel ≠ .value) : q.Scoped panel pass ts where
  wellScoped := wellScoped_of_aggregates h
  aggregates := by rwa [aggregating, h.source]
  order term hterm := ⟨term_of_orderTerms term hterm, horder term hterm⟩
  derived := by simp [h.source, hwhole.1, hwhole.2]
  selects := by simp [h.source]

/-- The statement selects from the aggregation. -/
theorem Scoped.of_selects
    (h : q.AggregatesFor panel pass inner)
    (horder : ∀ term ∈ q.orderTerms, term.2.map Char.toLower ∈ ["asc".toList, "desc".toList])
    (hselects : SelectsFrom inner (if pass = .first then q.keyNames else ["value", "ts"]) ts)
    (hpart : pass = .first ∨ panel = .value) : q.Scoped panel pass ts where
  wellScoped := by
    refine .derived hselects.source ?_ (fun n hn => ?_) (wellScoped_of_aggregates h)
    · rw [hselects.clauses]
      exact nofun
    · rw [hselects.select] at hn
      rw [h.columns]
      by_cases hpass : pass = .first
      · simp_all
      · rw [if_neg hpass] at hn ⊢
        simp only [List.mem_cons, List.not_mem_nil, or_false] at hn
        rcases hn with rfl | rfl <;> simp
  aggregates := by rwa [aggregating, hselects.source]
  order term hterm := ⟨term_of_orderTerms term hterm, horder term hterm⟩
  derived := by rcases hpart with rfl | rfl <;> simp [hselects.source]
  selects _ := hselects.select

theorem aggregationStatement_series (q : Query) (a : Aggregation) (panel : Panel)
    (hpass : pass ≠ .first) : q.aggregationStatement a panel pass =
      .series a (q.bucket panel) (pass == .second) (q.seriesLimit panel) (q.reduction panel) := by
  cases pass with
  | first => exact absurd rfl hpass
  | none | second => rfl

theorem groups_bucket (q : Query) (panel : Panel) :
    (q.bucket panel).groups = if panel = .table then [] else ["ts"] := by
  unfold bucket
  split <;> rfl

/-- The statements of a readable aggregation, for every panel and pass. -/
theorem exists_scoped {a : Aggregation} (h : a.Readable)
    (hlabels : a.labels.map Label.name = q.keyNames) (hhaving : a.having = q.having)
    (horder : List.Forall₂ OrderItem.Writes a.order q.orderTerms)
    (hpass : q.checkPass pass = .ok ()) :
    ∃ ts, Reads (q.aggregationStatement a panel pass).sql ts ∧ q.Scoped panel pass ts := by
  have hdirections : ∀ term ∈ q.orderTerms,
      term.2.map Char.toLower ∈ ["asc".toList, "desc".toList] := fun term hterm =>
    (forall₂_exists_left horder hterm).elim fun _ hwrites => hwrites.2.direction
  have hread := @h.exists_aggregates a _ q.orderTerms_ne_nil horder
  rw [hlabels, hhaving] at hread
  by_cases hfirst : pass = .first
  -- The ranking is grouped, so there are keys that the select around it can name.
  · subst hfirst
    have hne : a.labels ≠ [] := by
      intro hempty
      have hgroups : q.groupBy = [] := by simpa [hempty, keyNames] using hlabels.symm
      simp [checkPass, hgroups] at hpass
    obtain ⟨inner, hinner, haggregates⟩ :=
      hread (reads_raw (w := "SELECT") rfl rfl) leads_nil false .whole none
    rw [← Aggregation.ranking_eq hne] at hinner
    have hfor : q.AggregatesFor panel .first inner := by
      rw [AggregatesFor, if_pos rfl, if_pos (.inl rfl)]
      exact haggregates
    have hselects := selectsFrom_topGroups hne inner
    rw [hlabels] at hselects
    exact ⟨_, reads_topGroups hinner q.limit.toNat,
      .of_selects hfor hdirections hselects (.inl rfl)⟩
  -- Any other pass is the series, and a single value is selected from it.
  · obtain ⟨time, htime, hts⟩ := (q.bucket panel).exists_column a.schema
    obtain ⟨inner, hinner, haggregates⟩ :=
      hread htime hts (pass == .second) (q.bucket panel) (q.seriesLimit panel)
    have hfor : q.AggregatesFor panel pass inner := by
      simpa [AggregatesFor, hfirst, groups_bucket] using haggregates
    rw [q.aggregationStatement_series a panel hfirst, Aggregation.series_eq]
    by_cases hvalue : panel = .value
    · rw [reduction, if_pos hvalue]
      refine ⟨_, ((opens_reduction q.reduceTo).close hinner).reads, .of_selects hfor hdirections ?_
        (.inr hvalue)⟩
      rw [if_neg hfirst]
      exact selectsFrom_reduction q.reduceTo inner
    · rw [reduction, if_neg hvalue]
      exact ⟨inner, hinner, .of_aggregates hfor hdirections ⟨hfirst, hvalue⟩⟩

end

/-- **Aggregation statements are well scoped.** Whenever a logs or traces query with an aggregate
compiles, for any panel and pass, the statement can be read, every name in it has a column where it
refers to, and its clauses are those that the query asks for: an order of the value and grouped
keys, without the items that name anything else and by descending value if none is left, and
conditions on the value. -/
theorem statement_scoped {s : Schema} {start stop : Int} {options : QueryOptions}
    {t : TableStatement} (h : q.tableStatement s start stop panel options = .ok t)
    (hop : q.aggregateOperator ≠ .noop) (htail : options.liveTail = false) :
    ∃ ts, t.sql.trees? = some ts ∧ q.Scoped panel options.pass ts := by
  obtain ⟨hpanel, f, a, hf, ha, rfl⟩ := tableStatement_aggregation h hop htail
  obtain ⟨hschema, htime, hfilter, hlabels, hhaving, divisor, hvalue⟩ := aggregation_ok ha
  obtain ⟨horder, hpass⟩ := aggregation_order ha
  have hreadable : a.Readable := by
    refine ⟨?_, ?_, ?_⟩
    · rw [hlabels, Schema.labels, List.forall_mem_map]
      exact fun key _ => s.still_column key
    · refine AggregateOperator.parsed_valueSql (fun operand hoperand => ?_) hvalue
      unfold attributeSql at hoperand
      split at hoperand
      · cases hoperand
      · cases hoperand
        exact (s.still_column _).parsed
    · rw [hfilter]
      exact parsed_where _ (every_rowFilter hf)
  have hnames : a.labels.map Label.name = q.keyNames := by
    rw [hlabels, Schema.labels, List.map_map]
    rfl
  obtain ⟨ts, hts, hscoped⟩ :=
    exists_scoped hreadable hnames hhaving (orderItems_writes horder hpanel) hpass
  exact ⟨ts, hts.trees, hscoped⟩

end Query

/-- Counts by host, to be ordered by a column that is not grouped and then by host. -/
def countByHost : Query :=
  { signal := .logs
    aggregateOperator := .count
    groupBy := [{ name := "host.name", dataType := .scalar .string, kind := .tag }]
    orderBy := [{ column := "timestamp", order := "desc" },
      { column := "host.name", order := " Asc" }]
    having := [⟨"count", .compare .gt, .int 10⟩]
    stepInterval := 60
    limit := 10 }

/-- The order by time is left out. -/
example : countByHost.orderTerms = [(.ticked "host.name", "Asc".toList)] := by rfl

/-- The single value of the ranked hosts: a reduction of a restricted series. -/
theorem statement_scoped_countByHost :
    ∃ t, countByHost.tableStatement .logs 0 60000 .value { pass := .second } = .ok t ∧
      countByHost.aggregateOperator ≠ .noop ∧
      ({ pass := .second } : QueryOptions).liveTail = false ∧
      ∃ ts, t.sql.trees? = some ts ∧ countByHost.Scoped .value .second ts := by
  have ht : ∃ t, countByHost.tableStatement .logs 0 60000 .value { pass := .second } = .ok t :=
    ⟨_, rfl⟩
  obtain ⟨t, h⟩ := ht
  exact ⟨t, h, nofun, rfl, Query.statement_scoped h nofun rfl⟩

end PanelQuery
