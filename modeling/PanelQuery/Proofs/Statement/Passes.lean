import PanelQuery.Proofs.Statement.Compile
import PanelQuery.Proofs.Statement.Hole

/-! # The passes of a Top-N panel

A query that ranks groups has three statements: the unbound one, the ranking of the first pass, and
that of the second pass, which is the unbound one with a restriction to the groups of the first in
front of its GROUP BY. All three are written from one aggregation. The pass is looked at only where
a query without groups or limit is refused, so a query that has both compiles for all passes or,
for one and the same reason, for none. -/

namespace PanelQuery

open Sql (holes text)

variable {q : Query} {s : Schema} {start stop : Int} {panel : Panel} {options : QueryOptions}

/-! ## One aggregation for all passes -/

namespace Query

/-- The statement of a query for a pass, in place of the one that the options name. -/
def passSql (q : Query) (s : Schema) (start stop : Int) (panel : Panel) (options : QueryOptions)
    (pass : TopNPass) : Except Fault Sql := do
  return (← q.tableStatement s start stop panel { options with pass }).sql

/-- The aggregation that the statements of all passes are written from. -/
def rankedAggregation (q : Query) (s : Schema) (start stop : Int) (panel : Panel)
    (options : QueryOptions) : Except Fault Aggregation := do
  let range := NanoRange.ofInstants start stop
  let filter ← q.rowFilter s (some range.buckets)
  if panel = .list then .error (.aggregateOnList q.aggregateOperator)
  else if panel ≠ .table ∧ q.stepInterval.toInt ≤ 0 then
    .error (.stepNotPositive q.stepInterval.toInt)
  else q.aggregation s range filter panel options

theorem checkPass_ok (hgroups : q.groupBy ≠ []) (hlimit : q.limit ≠ 0) (pass : TopNPass) :
    q.checkPass pass = .ok () := by
  have hnone : ¬ (pass ≠ .none ∧ (q.groupBy.isEmpty = true ∨ q.limit = 0)) := by
    rintro ⟨-, he | hz⟩
    · exact hgroups (List.isEmpty_iff.mp he)
    · exact hlimit hz
  rw [checkPass, if_neg hnone]

/-- The aggregation does not depend on the pass. -/
theorem aggregation_pass (hgroups : q.groupBy ≠ []) (hlimit : q.limit ≠ 0) (range : NanoRange)
    (filter : RowFilter) (pass : TopNPass) :
    q.aggregation s range filter panel { options with pass } =
      q.aggregation s range filter panel options := by
  unfold aggregation
  simp only [checkPass_ok hgroups hlimit]

theorem passSql_eq (hgroups : q.groupBy ≠ []) (hlimit : q.limit ≠ 0)
    (htail : options.liveTail = false) (hop : q.aggregateOperator ≠ .noop) (pass : TopNPass) :
    q.passSql s start stop panel options pass = do
      return (q.aggregationStatement (← q.rankedAggregation s start stop panel options)
        panel pass).sql := by
  have hif : ¬ options.liveTail = true := by simp [htail]
  unfold passSql tableStatement rankedAggregation rangeStatement
  dsimp only
  rw [if_neg hif]
  cases q.rowFilter s (some (NanoRange.ofInstants start stop).buckets) with
  | error fault => rfl
  | ok filter =>
    simp only [bind, Except.bind, hop, if_false, aggregation_pass hgroups hlimit]
    by_cases hlist : panel = .list
    · rw [if_pos hlist, if_pos hlist]
    rw [if_neg hlist, if_neg hlist]
    by_cases hstep : panel ≠ .table ∧ q.stepInterval.toInt ≤ 0
    · rw [if_pos hstep, if_pos hstep]
    · rw [if_neg hstep, if_neg hstep]
      cases q.aggregation s (NanoRange.ofInstants start stop) filter panel options <;> rfl

theorem rankedAggregation_ok {a : Aggregation}
    (h : q.rankedAggregation s start stop panel options = .ok a) :
    a.schema = s ∧ a.labels = s.labels q.groupBy ∧ a.having = q.having ∧ a.Filled := by
  obtain ⟨filter, hf, h⟩ := ok_of_bind h
  split at h
  · cases h
  split at h
  · cases h
  obtain ⟨hschema, -, hfilter, hlabels, hhaving, _, hv⟩ := aggregation_ok h
  have hvalue : holes a.value = 0 :=
    AggregateOperator.holes_valueSql (fun _ ha => holes_attributeSql ha) hv
  exact ⟨hschema, hlabels, hhaving, hfilter ▸ holes_rowFilter hf, hvalue⟩

end Query

/-! ## The statements around it -/

namespace TableStatement

/-- What a reduction writes in front of a series. -/
def opening : Option ReduceTo → Sql
  | some kind => Sql.raw ("SELECT " ++ kind.function ++ "(value) as value, any(ts) as ts FROM (")
  | none => []

/-- What a limit and a reduction write after a series. -/
def closing (limit : Option Nat) (reduced : Option ReduceTo) : Sql :=
  (match limit with
    | some n => Sql.raw " LIMIT " ++ [.int n]
    | none => []) ++
  match reduced with
    | some _ => Sql.raw ")"
    | none => []

theorem sql_series (a : Aggregation) (bucket : Aggregation.Bucket) (restricted : Bool)
    (limit : Option Nat) (reduced : Option ReduceTo) :
    (TableStatement.series a bucket restricted limit reduced).sql =
      opening reduced ++ a.head bucket ++
        (if restricted then Sql.raw " AND " ++ a.restriction else []) ++
        (a.tail bucket ++ closing limit reduced) := by
  cases limit <;> cases reduced <;> simp [sql, opening, closing, reduceSql]

@[simp] theorem holes_opening (reduced : Option ReduceTo) : holes (opening reduced) = 0 := by
  cases reduced <;> simp [opening]

@[simp] theorem holes_closing (limit : Option Nat) (reduced : Option ReduceTo) :
    holes (closing limit reduced) = 0 := by
  cases limit <;> cases reduced <;> simp [closing]

end TableStatement

/-! ## Texts -/

/-- The names of the grouped keys between back-ticks, separated by commas. -/
def Query.groupKeys (q : Query) : String :=
  ",".intercalate (q.groupBy.map fun key => Sql.quoteAlias key.name)

namespace Aggregation

/-- Labels, value and WHERE clause. -/
def selectText (a : Aggregation) : String :=
  text (Label.selectSql a.labels) ++ " " ++ text a.value ++ " as value from " ++ a.schema.table
    ++ " where " ++ text a.time.sql ++ text a.filter.sql

/-- HAVING and ORDER BY. -/
def endingText (a : Aggregation) : String :=
  text (havingClause a.having) ++ " order by " ++ text (orderSql a.order)

theorem text_body (a : Aggregation) : text a.body = a.selectText := by
  simp only [body, selectText, Sql.text_append, Sql.text_raw, String.append_assoc]

theorem text_ending (a : Aggregation) : text a.ending = a.endingText := by
  simp only [ending, endingText, Sql.text_append, Sql.text_raw]

end Aggregation

namespace Query

theorem text_keysSql (q : Query) (s : Schema) :
    text (Label.keysSql (s.labels q.groupBy)) = q.groupKeys := by
  rw [Label.keysSql, Sql.text_join, Schema.labels, List.map_map, List.map_map, groupKeys]
  exact congrArg _ (List.map_congr_left fun key _ => Sql.text_backticked key.name)

/-- The text in front of the labels of a series: a reduction, then the time column. -/
def openingText (q : Query) (s : Schema) (panel : Panel) : String :=
  (if panel = .value then
    "SELECT " ++ q.reduceTo.function ++ "(value) as value, any(ts) as ts FROM (" else "") ++
  if panel = .table then "SELECT now() as ts,"
  else "SELECT toStartOfInterval(" ++ s.timeExpression ++ ", INTERVAL "
    ++ toString q.stepInterval.toInt ++ " SECOND) AS ts,"

/-- The text after a series: a limit for tables, or the end of a reduction. -/
def closingText (q : Query) (panel : Panel) : String :=
  (if panel = .table then " LIMIT " ++ toString (q.limit.toNat : Int) else "") ++
    if panel = .value then ")" else ""

/-- The text of a series up to its GROUP BY. -/
def headText (q : Query) (a : Aggregation) (panel : Panel) : String :=
  q.openingText a.schema panel ++ a.selectText

/-- The text of a series from its GROUP BY on. -/
def tailText (q : Query) (a : Aggregation) (panel : Panel) : String :=
  " group by " ++ q.groupKeys ++ (if panel = .table then "" else ",ts") ++ a.endingText
    ++ q.closingText panel

/-- What the statements of the three passes have in common. -/
structure PassesAgree (q : Query) (s : Schema) (panel : Panel) (unbound first second : Sql) :
    Prop where
  /-- One aggregation gives the texts of all three. -/
  texts : ∃ a : Aggregation, a.schema = s ∧ a.labels = s.labels q.groupBy ∧ a.having = q.having ∧
    unbound.text = q.headText a panel ++ q.tailText a panel ∧
    (∀ groups, second.bind groups = q.headText a panel ++ " AND (" ++ q.groupKeys
      ++ ") GLOBAL IN (" ++ groups ++ ")" ++ q.tailText a panel) ∧
    first.text = "SELECT " ++ q.groupKeys ++ " from (SELECT" ++ a.selectText ++ " group by "
      ++ q.groupKeys ++ a.endingText ++ ") LIMIT " ++ toString (q.limit.toNat : Int)
  /-- Only the second has a hole, and only one. -/
  holes : holes unbound = 0 ∧ holes first = 0 ∧ holes second = 1
  /-- Exactly the statement with the hole cannot be run. -/
  final : unbound.final = .ok unbound.text ∧ first.final = .ok first.text ∧
    second.final = .error (.internal "top-n group list was not bound before execution")
  /-- Groups are written into the hole and nowhere else, whatever texts stand around it. -/
  bound : (∀ groups, unbound.bind groups = unbound.text ∧ first.bind groups = first.text) ∧
    ∃ front back, second = front ++ [.topNGroups] ++ back ∧
      ∀ groups, second.bind groups = text front ++ groups ++ text back

end Query

/-! ## Statements of the passes -/

namespace Query

/-- The time column of the series on a panel. -/
def bucket (q : Query) (panel : Panel) : Aggregation.Bucket :=
  if panel = .table then .whole else .interval q.stepInterval.toInt

/-- The limit of the series on a panel. -/
def seriesLimit (q : Query) (panel : Panel) : Option Nat :=
  if panel = .table ∧ q.limit ≠ 0 then some q.limit.toNat else none

/-- How the series is reduced on a panel. -/
def reduction (q : Query) (panel : Panel) : Option ReduceTo :=
  if panel = .value then some q.reduceTo else none

theorem sql_unbound (q : Query) (a : Aggregation) (panel : Panel) :
    (q.aggregationStatement a panel .none).sql =
      TableStatement.opening (q.reduction panel) ++ a.head (q.bucket panel) ++
        (a.tail (q.bucket panel) ++
          TableStatement.closing (q.seriesLimit panel) (q.reduction panel)) := by
  have hsql := TableStatement.sql_series a (q.bucket panel) false (q.seriesLimit panel)
    (q.reduction panel)
  rwa [if_neg Bool.false_ne_true, List.append_nil] at hsql

theorem sql_first (q : Query) (a : Aggregation) (panel : Panel) :
    (q.aggregationStatement a panel .first).sql =
      topGroupsSql a.ranking (Label.keysSql a.labels) q.limit.toNat := rfl

theorem sql_second (q : Query) (a : Aggregation) (panel : Panel) :
    (q.aggregationStatement a panel .second).sql =
      (TableStatement.opening (q.reduction panel) ++ a.head (q.bucket panel) ++
          (Sql.raw " AND " ++ Sql.raw "(" ++ Label.keysSql a.labels ++ Sql.raw ") GLOBAL IN ("))
        ++ [.topNGroups] ++
        (Sql.raw ")" ++ (a.tail (q.bucket panel) ++
          TableStatement.closing (q.seriesLimit panel) (q.reduction panel))) := by
  have hsql := TableStatement.sql_series a (q.bucket panel) true (q.seriesLimit panel)
    (q.reduction panel)
  rw [if_pos rfl] at hsql
  refine hsql.trans ?_
  simp [Aggregation.restriction, Sql.raw]

theorem text_opening (q : Query) (s : Schema) (panel : Panel) :
    text (TableStatement.opening (q.reduction panel) ++ (q.bucket panel).sql s) =
      q.openingText s panel := by
  cases panel <;>
    simp [TableStatement.opening, reduction, bucket, Aggregation.Bucket.sql, openingText,
      Sql.text_append, Sql.text_raw, Sql.text_int_cons, String.append_assoc]

theorem text_closing (hlimit : q.limit ≠ 0) (panel : Panel) :
    text (TableStatement.closing (q.seriesLimit panel) (q.reduction panel)) =
      q.closingText panel := by
  cases panel <;>
    simp [TableStatement.closing, seriesLimit, reduction, closingText, hlimit, Sql.text_append,
      Sql.text_raw, Sql.text_int_cons, Sql.text_nil]

theorem text_head (q : Query) (a : Aggregation) (panel : Panel) :
    text (TableStatement.opening (q.reduction panel) ++ a.head (q.bucket panel)) =
      q.headText a panel := by
  rw [Aggregation.head, ← List.append_assoc, Sql.text_append, text_opening, a.text_body, headText]

theorem text_tail {a : Aggregation} (hgroups : q.groupBy ≠ []) (hlimit : q.limit ≠ 0)
    (hlabels : a.labels = s.labels q.groupBy) (panel : Panel) :
    text (a.tail (q.bucket panel) ++
      TableStatement.closing (q.seriesLimit panel) (q.reduction panel)) = q.tailText a panel := by
  have hkeys : text (Label.keysSql a.labels) = q.groupKeys := hlabels ▸ q.text_keysSql s
  obtain ⟨l, labels, hl⟩ : ∃ l labels, a.labels = l :: labels := by
    refine List.exists_cons_of_ne_nil ?_
    rw [hlabels, Schema.labels]
    simpa using hgroups
  have hclause : text (a.groupClause (q.bucket panel)) =
      " group by " ++ q.groupKeys ++ if panel = .table then "" else ",ts" := by
    rw [hl] at hkeys
    by_cases hp : panel = .table <;>
      simp [bucket, hp, Aggregation.groupClause, hl, Sql.text_append, Sql.text_raw, hkeys,
        String.append_assoc]
  rw [Sql.text_append, text_closing hlimit, Aggregation.tail, Sql.text_append, hclause,
    a.text_ending, tailText]

section

variable {a : Aggregation} (hgroups : q.groupBy ≠ []) (hlimit : q.limit ≠ 0)
  (hlabels : a.labels = s.labels q.groupBy)

include hgroups hlimit hlabels

theorem text_unbound (panel : Panel) :
    text (q.aggregationStatement a panel .none).sql = q.headText a panel ++ q.tailText a panel := by
  rw [sql_unbound, Sql.text_append, text_head, text_tail hgroups hlimit hlabels]

theorem bind_second (hfilled : a.Filled) (panel : Panel) (groups : String) :
    (q.aggregationStatement a panel .second).sql.bind groups =
      q.headText a panel ++ " AND (" ++ q.groupKeys ++ ") GLOBAL IN (" ++ groups ++ ")"
        ++ q.tailText a panel := by
  have hkeys : text (Label.keysSql a.labels) = q.groupKeys := hlabels ▸ q.text_keysSql s
  have hand : " AND " ++ "(" = " AND (" := rfl
  rw [sql_second, Sql.bind_hole (by simp [hfilled.head]) (by simp), Sql.text_append, text_head]
  simp only [Sql.text_append, Sql.text_raw, hkeys, hand]
  rw [← Sql.text_append, text_tail hgroups hlimit hlabels]
  simp only [String.append_assoc]

end

theorem text_first {a : Aggregation} (hlabels : a.labels = s.labels q.groupBy) (panel : Panel) :
    text (q.aggregationStatement a panel .first).sql =
      "SELECT " ++ q.groupKeys ++ " from (SELECT" ++ a.selectText ++ " group by "
        ++ q.groupKeys ++ a.endingText ++ ") LIMIT " ++ toString (q.limit.toNat : Int) := by
  have hkeys : text (Label.keysSql a.labels) = q.groupKeys := hlabels ▸ q.text_keysSql s
  have hfrom : " from (" ++ "SELECT" = " from (SELECT" := rfl
  rw [sql_first, topGroupsSql, Aggregation.ranking]
  simp only [Sql.text_append, Sql.text_raw, Sql.text_int_cons, Sql.text_nil, a.text_body,
    a.text_ending, hkeys, String.append_assoc, String.append_empty, ← hfrom]

theorem holes_statements {a : Aggregation} (h : a.Filled) (panel : Panel) :
    holes (q.aggregationStatement a panel .none).sql = 0 ∧
      holes (q.aggregationStatement a panel .first).sql = 0 ∧
      holes (q.aggregationStatement a panel .second).sql = 1 := by
  refine ⟨?_, ?_, ?_⟩
  · rw [sql_unbound]
    simp [h.head]
  · rw [sql_first, topGroupsSql]
    simp [h.ranking]
  · rw [sql_second]
    simp [h.head]

/-- **The three passes agree.** A query with groups and a limit compiles for all passes or, for one
reason, for none. The statements are written from one aggregation: the second is the unbound one
with a restriction of its keys to the groups in front of GROUP BY, the first ranks the keys by the
same select list, WHERE clause, HAVING and ORDER BY without the time column. Only the second waits
for groups, in one place, and binding them changes no other text. -/
theorem passes_agree (hgroups : q.groupBy ≠ []) (hlimit : q.limit ≠ 0)
    (htail : options.liveTail = false) (hop : q.aggregateOperator ≠ .noop) (s : Schema)
    (start stop : Int) (panel : Panel) :
    (∃ fault, ∀ pass, q.passSql s start stop panel options pass = .error fault) ∨
      ∃ unbound first second, q.passSql s start stop panel options .none = .ok unbound ∧
        q.passSql s start stop panel options .first = .ok first ∧
        q.passSql s start stop panel options .second = .ok second ∧
        q.PassesAgree s panel unbound first second := by
  have hsql := @passSql_eq q s start stop panel options hgroups hlimit htail hop
  cases ha : q.rankedAggregation s start stop panel options with
  | error fault =>
    refine .inl ⟨fault, fun pass => ?_⟩
    rw [hsql pass, ha]
    rfl
  | ok a =>
    have hpass : ∀ pass, q.passSql s start stop panel options pass =
        .ok (q.aggregationStatement a panel pass).sql := by
      intro pass
      rw [hsql pass, ha]
      rfl
    obtain ⟨hschema, hlabels, hhaving, hfilled⟩ := rankedAggregation_ok ha
    obtain ⟨hunbound, hfirst, hsecond⟩ := holes_statements (q := q) hfilled panel
    refine .inr ⟨_, _, _, hpass .none, hpass .first, hpass .second, ?_⟩
    constructor
    case texts =>
      exact ⟨a, hschema, hlabels, hhaving, text_unbound hgroups hlimit hlabels panel,
        bind_second hgroups hlimit hlabels hfilled panel, text_first hlabels panel⟩
    case holes => exact ⟨hunbound, hfirst, hsecond⟩
    case final => simp [Sql.final_eq, hunbound, hfirst, hsecond]
    case bound =>
      refine ⟨fun groups => ⟨Sql.bind_eq_text hunbound groups, Sql.bind_eq_text hfirst groups⟩, ?_⟩
      refine ⟨_, _, sql_second q a panel, fun groups => ?_⟩
      rw [sql_second, Sql.bind_hole (by simp [hfilled.head]) (by simp)]

end Query

/-- Counts by an attribute whose name is spelled like the text that is shown for a hole. -/
def countByPlaceholder : Query :=
  { signal := .logs
    aggregateOperator := .count
    groupBy := [{ name := Sql.placeholder, dataType := .scalar .string, kind := .tag }]
    stepInterval := 60
    limit := 10 }

/-- The passes of a table compile, and agree. -/
theorem passes_agree_placeholder :
    countByPlaceholder.groupBy ≠ [] ∧ countByPlaceholder.limit ≠ 0 ∧
      ({} : QueryOptions).liveTail = false ∧ countByPlaceholder.aggregateOperator ≠ .noop ∧
      ∃ unbound first second,
        countByPlaceholder.passSql .logs 0 60000 .table {} .none = .ok unbound ∧
        countByPlaceholder.passSql .logs 0 60000 .table {} .first = .ok first ∧
        countByPlaceholder.passSql .logs 0 60000 .table {} .second = .ok second ∧
        countByPlaceholder.PassesAgree .logs .table unbound first second := by
  have hgroups : countByPlaceholder.groupBy ≠ [] := nofun
  have hlimit : countByPlaceholder.limit ≠ 0 := by decide
  have hop : countByPlaceholder.aggregateOperator ≠ .noop := nofun
  have htail : ({} : QueryOptions).liveTail = false := rfl
  refine ⟨hgroups, hlimit, htail, hop, ?_⟩
  rcases Query.passes_agree hgroups hlimit htail hop .logs 0 60000 .table with
    ⟨fault, hnone⟩ | hagree
  · cases hnone .none
  · exact hagree

end PanelQuery
