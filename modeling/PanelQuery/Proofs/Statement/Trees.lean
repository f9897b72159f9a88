import PanelQuery.Proofs.Filter.Trees
import PanelQuery.Proofs.Sql.Scope
import PanelQuery.Proofs.Statement.Passes

/-! # The clauses of an aggregation

Every part of an aggregation is read as trees, and the statement as its clauses: the select list
with a column for the time, for each label and for the value, the WHERE clause with the restriction
at its end, and the clauses after it. -/

namespace PanelQuery

open Sql
open Sql.Tree (isPlain isTerm isComma isGlobal namesIn)

/-! ## The value -/

theorem Reduction.calls_word (f : Reduction) : Calls isTerm (raw (f.word ++ "(")) := by
  cases f
  · exact calls_raw (w := "sum(") rfl rfl
  · exact calls_raw (w := "avg(") rfl rfl
  · exact calls_raw (w := "min(") rfl rfl
  · exact calls_raw (w := "max(") rfl rfl

theorem Percentile.calls_fraction (p : Percentile) :
    Calls isTerm (raw ("quantile(" ++ p.fraction ++ ")(")) := by
  have hfraction : Balanced (raw p.fraction) := by cases p <;> exact parsed_raw rfl rfl
  have hlevel : Still isTerm (raw "quantile(" ++ raw p.fraction ++ raw ")") :=
    (calls_raw rfl rfl).close hfraction fun _ => rfl
  have hclose : ")(" = ")" ++ "(" := rfl
  refine (hlevel.calls (b := raw "(") (calls_raw rfl rfl)).of_signs ?_
  simp only [hclose, signs_append, signs_raw_append, List.append_assoc]

namespace AggregateOperator

variable {op : AggregateOperator} {operand : Option Sql} {divisor : Float} {value : Sql}

theorem parsed_required (hoperand : ∀ a, operand = some a → Parsed isTerm a)
    (h : op.required operand = .ok value) : Balanced value := by
  cases operand with
  | none => cases h
  | some a =>
    cases h
    exact (hoperand _ rfl).balanced

/-- A quotient of a call and a number. -/
theorem parsed_rate {w : String} (hw : Calls isTerm (raw w)) {a : Sql} (ha : Balanced a) :
    Parsed isTerm (raw w ++ a ++ raw ")/" ++ [.float divisor]) := by
  have hclose : ")/" = ")" ++ "/" := rfl
  have hquotient := ((hw.close ha fun _ => rfl).append (b := raw "/") (still_raw rfl rfl)).append
    (b := [.float divisor]) (still_value rfl rfl)
  refine hquotient.parsed.of_signs ?_
  simp only [hclose, signs_append, signs_raw_append, List.append_assoc]

/-- The value is one expression, whatever is aggregated. -/
theorem parsed_valueSql (hoperand : ∀ a, operand = some a → Parsed isTerm a)
    (h : op.valueSql operand divisor = .ok value) : Parsed isTerm value := by
  cases op with
  | percentile p =>
    obtain ⟨a, ha, h⟩ := ok_of_bind h
    cases h
    exact (p.calls_fraction.close (parsed_required hoperand ha) fun _ => rfl).parsed
  | count =>
    cases h
    exact parsed_raw rfl rfl
  | countDistinct =>
    obtain ⟨a, ha, h⟩ := ok_of_bind h
    cases h
    have hinner : Still (fun _ => true) (raw ("count(" ++ "distinct(") ++ a ++ raw "))") :=
      (calls_raw rfl rfl).nested (calls_raw rfl rfl) (parsed_required hoperand ha) fun _ => rfl
    have houter : Still isTerm
        (raw "toFloat64(" ++ (raw ("count(" ++ "distinct(") ++ a ++ raw "))") ++ raw ")") :=
      (calls_raw rfl rfl).close hinner.parsed fun _ => rfl
    refine houter.parsed.of_signs ?_
    have hopen : "toFloat64(count(distinct(" = "toFloat64(" ++ ("count(" ++ "distinct(") := rfl
    have hclose : ")))" = "))" ++ ")" := rfl
    simp only [hopen, hclose, signs_append, signs_raw_append, List.append_assoc]
  | plain f =>
    obtain ⟨a, ha, h⟩ := ok_of_bind h
    cases h
    exact (f.calls_word.close (parsed_required hoperand ha) fun _ => rfl).parsed
  | rate =>
    cases h
    refine parsed_rate (calls_raw rfl rfl) ?_
    cases operand with
    | none => exact still_nil.parsed
    | some a => exact (hoperand a rfl).balanced
  | rateOf f =>
    obtain ⟨a, ha, h⟩ := ok_of_bind h
    cases h
    exact parsed_rate f.calls_word (parsed_required hoperand ha)
  | noop | ofRate f | histogramQuantile p => cases h

end AggregateOperator

/-! ## The select list -/

/-- Columns of these names stand in front of others. -/
structure Leads (ts : List Tree) (names : List String) : Prop where
  plain : ∀ t ∈ ts, t.isPlain = true
  columns : ∀ rest, columnsOf (ts ++ rest) = names ++ columnsOf rest

theorem leads_nil : Leads [] [] := ⟨nofun, fun _ => rfl⟩

theorem Leads.append {ts us : List Tree} {ns ms : List String} (ha : Leads ts ns)
    (hb : Leads us ms) : Leads (ts ++ us) (ns ++ ms) :=
  ⟨List.forall_mem_append.mpr ⟨ha.plain, hb.plain⟩, fun rest => by
    rw [List.append_assoc, ha.columns, hb.columns, List.append_assoc]⟩

theorem isComma_of_isTerm {t : Tree} (h : t.isTerm = true) : isComma t = false :=
  Bool.not_eq_true' _ |>.mp (Bool.and_eq_true_iff.mp h).2

section

variable {item : List Tree} {word t : Tree} {n : String}

/-- A column with a name after AS. -/
theorem leads_as (h : ∀ t ∈ item, t.isTerm = true)
    (hword : word.isWord ['a', 's'] = true ∧ word.isTerm = true) (ht : t.isTerm = true)
    (hn : t.name? = some n) : Leads (item ++ [word, t, .comma]) [n] := by
  have hterm : ∀ u ∈ item ++ [word, t], u.isTerm = true := by
    rw [List.forall_mem_append]
    exact ⟨h, List.forall_mem_cons.mpr ⟨hword.2, List.forall_mem_singleton.mpr ht⟩⟩
  have hlist : ∀ rest, item ++ [word, t, .comma] ++ rest = item ++ [word, t] ++ .comma :: rest := by
    simp
  constructor
  · rw [← List.append_nil (item ++ _), hlist, List.forall_mem_append]
    exact ⟨fun u hu => isPlain_of_isTerm (hterm u hu), List.forall_mem_singleton.mpr rfl⟩
  · intro rest
    rw [hlist, columnsOf_item (fun u hu => isComma_of_isTerm (hterm u hu))
      ((columnName?_as item hword.1).trans hn)]
    rfl

end

theorem Label.exists_column (l : Label) (h : Still isTerm l.column.sql) :
    ∃ ts, Follows l.sql ts ∧ Leads ts [l.name] := by
  obtain ⟨expr, hexpr, hterm⟩ := h
  refine ⟨expr ++ [.word ['a', 's'], .ticked l.name, .comma], ?_,
    leads_as hterm ⟨rfl, rfl⟩ rfl rfl⟩
  have hname : Loose [.backticked l.name] [.ticked l.name] := fun _ _ => rfl
  have has : Loose (raw " as ") [.word ['a', 's']] := loose_raw rfl rfl
  have hcomma : Loose (raw ",") [.comma] := loose_raw rfl rfl
  have hend := (has.append hname).append hcomma
  have hblank : Loose (raw " ") [] := loose_raw rfl rfl
  have hwhole := (hblank.append hexpr).append hend
  exact hwhole.reads.follows
    (((apart_raw (w := " ") rfl rfl (by decide)).append l.column.sql).append _)

theorem Label.exists_columns {labels : List Label}
    (h : ∀ l ∈ labels, Still isTerm l.column.sql) :
    ∃ ts, Follows (selectSql labels) ts ∧ Leads ts (labels.map Label.name) := by
  induction labels with
  | nil => exact ⟨[], follows_nil, leads_nil⟩
  | cons l labels ih =>
    rw [List.forall_mem_cons] at h
    obtain ⟨ts, hts, htsnames⟩ := l.exists_column h.1
    obtain ⟨us, hus, husnames⟩ := ih h.2
    exact ⟨ts ++ us, hts.append hus, htsnames.append husnames⟩

/-- The word that a statement begins with. -/
def selectTree : Tree := .word "SELECT".toList

/-- A statement begins with its time column, if it has one. -/
theorem Aggregation.Bucket.exists_column (s : Schema) (bucket : Aggregation.Bucket) :
    ∃ ts, Reads (bucket.sql s) (selectTree :: ts) ∧ Leads ts ["ts"] := by
  have hts : Tree.name? (.word ['t', 's']) = some "ts" := rfl
  have hcall : ∀ (f : List Char) (inside : List Tree),
      ∀ t ∈ [Tree.function f, .group inside], t.isTerm = true := fun _ _ =>
    List.forall_mem_cons.mpr ⟨rfl, List.forall_mem_singleton.mpr rfl⟩
  cases bucket with
  | whole =>
    exact ⟨_, (loose_raw rfl rfl).reads, leads_as (hcall ['n', 'o', 'w'] []) ⟨rfl, rfl⟩ rfl hts⟩
  | interval seconds =>
    obtain ⟨inside, hopen⟩ : ∃ inside, Opens
        (raw ("SELECT toStartOfInterval(" ++ s.timeExpression ++ ", INTERVAL "))
        [selectTree, .function "toStartOfInterval".toList] inside := by
      cases s
      · exact ⟨_, opens_raw
          (w := "SELECT toStartOfInterval(fromUnixTimestamp64Nano(timestamp), INTERVAL ") rfl rfl⟩
      · exact ⟨_, opens_raw (w := "SELECT toStartOfInterval(timestamp, INTERVAL ") rfl rfl⟩
    have hseconds : Loose [.int seconds] [.value] := fun _ _ => rfl
    have hunit : Reads (raw " SECOND") [.word "SECOND".toList] := reads_raw rfl rfl
    have has : Loose (raw " AS ts,") [.word ['A', 'S'], .word ['t', 's'], .comma] :=
      loose_raw rfl rfl
    have hclose : " SECOND) AS ts," = " SECOND" ++ (")" ++ " AS ts,") := rfl
    refine ⟨_, (((hopen.close (hseconds.before hunit)).append has).of_signs ?_).reads,
      leads_as (hcall _ _) ⟨rfl, rfl⟩ rfl hts⟩
    simp only [sql, hclose, signs_append, signs_raw_append, List.append_assoc]

/-! ## Keys and groups -/

/-- The names of labels with commas between them. -/
def Label.keyTrees (labels : List Label) : List Tree :=
  [.comma].intercalate (labels.map fun l => [.ticked l.name])

namespace Label

variable (labels : List Label)

theorem reads_keys : Reads (keysSql labels) (keyTrees labels) := by
  refine reads_join (loose_raw rfl rfl) (apart_raw rfl rfl (by decide)) ?_
  rw [List.forall₂_map_left_iff, List.forall₂_map_right_iff, List.forall₂_same]
  exact fun l _ => Loose.reads fun _ _ => rfl

theorem names_keys : namesIn (keyTrees labels) = labels.map Label.name := by
  rw [keyTrees, namesIn_intercalate rfl, List.flatMap_map, ← List.flatMap_pure_eq_map]
  rfl

theorem plain_keys : ∀ t ∈ keyTrees labels, t.isPlain = true :=
  forall_mem_intercalate (P := (isPlain · = true)) rfl
    (List.forall_mem_map.mpr fun _ _ => List.forall_mem_singleton.mpr rfl)

end Label

/-- The conditions that restrict the keys of a statement to groups. -/
def restrictionTrees (labels : List Label) : List Tree :=
  [.word "AND".toList, .group (Label.keyTrees labels), .word "GLOBAL".toList, .word "IN".toList,
    .group [.value]]

theorem keyword?_restriction (labels : List Label) :
    ∀ t ∈ restrictionTrees labels, t.keyword? = none := by
  simp only [restrictionTrees, List.forall_mem_cons]
  exact ⟨rfl, rfl, rfl, rfl, rfl, nofun⟩

theorem restricted_restriction (labels : List Label) :
    restricted (restrictionTrees labels) = labels.map Label.name := by
  rw [← Label.names_keys]
  exact List.append_nil _

theorem follows_restriction (a : Aggregation) :
    Follows (raw " AND " ++ a.restriction) (restrictionTrees a.labels) := by
  have hkeys : Opens (raw " AND (") [.word "AND".toList] [] := opens_raw rfl rfl
  have hgroups : Opens (raw " GLOBAL IN (") [.word "GLOBAL".toList, .word "IN".toList] [] :=
    opens_raw rfl rfl
  have hhole : Reads [.topNGroups] [.value] := Loose.reads fun _ _ => rfl
  have hopen : " AND (" = " AND " ++ "(" := rfl
  have hclose : ") GLOBAL IN (" = ")" ++ " GLOBAL IN (" := rfl
  refine (((hkeys.close (Label.reads_keys a.labels)).append (hgroups.close hhole)).of_signs
    ?_).reads.follows ((apart_raw rfl rfl (by decide)).append _)
  have hrestriction : a.restriction = raw "(" ++ Label.keysSql a.labels ++
      (raw ") GLOBAL IN (" ++ [.topNGroups] ++ raw ")") := rfl
  simp only [hrestriction, hopen, hclose, signs_append, signs_raw_append, List.append_assoc]

/-! ## The clauses -/

theorem Sql.keyword?_of_isPlain {t : Tree} (h : t.isPlain = true) : t.keyword? = none :=
  Option.isNone_iff_eq_none.mp (Bool.and_eq_true_iff.mp h).1

theorem Sql.isGlobal_of_isPlain {t : Tree} (h : t.isPlain = true) : isGlobal t = false :=
  (Bool.not_eq_true' _).mp (Bool.and_eq_true_iff.mp h).2

/-- A clause that is left out if nothing stands in it. -/
def optional (k : Keyword) (content : List Tree) : List (Keyword × List Tree) :=
  if content.isEmpty then [] else [(k, content)]

/-- The wording between the value and the conditions. -/
def Schema.fromTrees (s : Schema) : List Tree :=
  [.word "as".toList, .word "value".toList, .word "from".toList, .word s.table.toList,
    .word "where".toList]

theorem Schema.follows_from (s : Schema) {conditions : Sql} {ts : List Tree}
    (h : Reads conditions ts) :
    Follows (raw (" as value from " ++ s.table ++ " where ") ++ conditions)
      (s.fromTrees ++ ts) := by
  have hfrom : Loose (raw (" as value from " ++ s.table ++ " where ")) s.fromTrees := by
    cases s
    · exact loose_raw (w := " as value from signoz_logs.distributed_logs_v2 where ") rfl rfl
    · exact loose_raw
        (w := " as value from signoz_traces.distributed_signoz_index_v2 where ") rfl rfl
  refine (hfrom.before h).follows (Apart.append (Apart.raw_append (Apart.raw_append ?_ _) _) _)
  exact apart_raw rfl rfl (by decide)

theorem Schema.keyword?_table (s : Schema) : (Tree.word s.table.toList).keyword? = none := by
  cases s <;> rfl

namespace Aggregation

variable {a : Aggregation}

/-- Select list and conditions, whatever stands in front of the labels. -/
theorem exists_selection (hlabels : ∀ l ∈ a.labels, Still isTerm l.column.sql)
    (hvalue : Parsed isTerm a.value) (hwhere : Parsed isPlain (a.time.sql ++ a.filter.sql))
    {front : Sql} {time : List Tree} {names : List String}
    (hfront : Reads front (selectTree :: time)) (htime : Leads time names) (isRestricted : Bool) :
    ∃ list conditions,
      Lays (front ++ a.body ++ if isRestricted then raw " AND " ++ a.restriction else [])
        [(.select, list), (.from, [.word a.schema.table.toList]), (.where, conditions)] ∧
      columnsOf list = names ++ a.labels.map Label.name ++ ["value"] ∧
      restricted conditions = if isRestricted then a.labels.map Label.name else [] := by
  obtain ⟨L, hL, hLnames⟩ := Label.exists_columns hlabels
  obtain ⟨V, hV, hVterm⟩ := hvalue
  obtain ⟨W, hW, hWplain⟩ := hwhere
  have hcolumns := htime.append hLnames
  have hvalue : Follows (raw " " ++ a.value) V :=
    have hblank : Loose (raw " ") [] := loose_raw rfl rfl
    (hblank.before hV).follows ((apart_raw rfl rfl (by decide)).append _)
  obtain ⟨R, hR, hRwords, hRnames⟩ : ∃ R,
      Follows (if isRestricted then raw " AND " ++ a.restriction else []) R ∧
      (∀ t ∈ R, t.keyword? = none) ∧
      restricted (W ++ R) = if isRestricted then a.labels.map Label.name else [] := by
    have hglobal := fun t ht => isGlobal_of_isPlain (hWplain t ht)
    cases isRestricted
    · exact ⟨[], follows_nil, nofun, restricted_append hglobal rfl⟩
    · refine ⟨_, follows_restriction a, keyword?_restriction a.labels, ?_⟩
      rw [restricted_append hglobal rfl, restricted_restriction]
      rfl
  -- The parts in the order of the text: time column, labels, value, conditions, restriction.
  have hwhole := hR _ _ (a.schema.follows_from hW _ _ (hvalue _ _ (hL _ _ hfront)))
  have has : ∀ t ∈ [Tree.word "as".toList, .word "value".toList], t.isTerm = true :=
    List.forall_mem_cons.mpr ⟨rfl, List.forall_mem_singleton.mpr rfl⟩
  have hterms := List.forall_mem_append.mpr ⟨hVterm, has⟩
  have hplain := List.forall_mem_append.mpr
    ⟨hcolumns.plain, fun t ht => isPlain_of_isTerm (hterms t ht)⟩
  have hlaid := Laid.cons (t := selectTree) rfl (fun t ht => keyword?_of_isPlain (hplain t ht))
    (.cons (t := .word "from".toList) rfl
      (List.forall_mem_singleton.mpr a.schema.keyword?_table)
      (.one (t := .word "where".toList) rfl (List.forall_mem_append.mpr
        ⟨fun t ht => keyword?_of_isPlain (hWplain t ht), hRwords⟩)))
  refine ⟨_, _, ⟨_, ?_, hlaid⟩, ?_, hRnames⟩
  · simpa only [body, Schema.fromTrees, List.append_assoc, List.cons_append, List.nil_append]
      using hwhole
  · rw [hcolumns.columns, columnsOf_last (fun t ht => isComma_of_isTerm (hterms t ht))
      (columnName?_as V rfl)]
    rfl

/-- The time column that a statement has besides the grouped ones. -/
def Bucket.groups : Bucket → List String
  | .whole => []
  | .interval _ => ["ts"]

theorem goesOn_group {s : Sql} {ts : List Tree} (h : Reads s ts)
    (hts : ∀ t ∈ ts, t.isPlain = true) :
    GoesOn (raw " group by " ++ s) (optional .group (.word "by".toList :: ts)) := by
  have hwords : Loose (raw " group by ") [.word "group".toList, .word "by".toList] :=
    loose_raw rfl rfl
  refine ⟨_, (hwords.before h).follows ((apart_raw rfl rfl (by decide)).append _), ?_⟩
  exact .one (t := .word "group".toList) rfl
    (List.forall_mem_cons.mpr ⟨rfl, fun t ht => keyword?_of_isPlain (hts t ht)⟩)

/-- The groups are the labels, and the intervals if there are any. -/
theorem exists_grouping (a : Aggregation) (bucket : Bucket) :
    ∃ ts, GoesOn (a.groupClause bucket) (optional .group ts) ∧
      namesIn ts = a.labels.map Label.name ++ bucket.groups := by
  unfold groupClause
  cases bucket with
  | whole =>
    cases a.labels with
    | nil => exact ⟨[], goesOn_nil, rfl⟩
    | cons l labels =>
      exact ⟨_, goesOn_group (Label.reads_keys _) (Label.plain_keys _),
        (Label.names_keys (l :: labels)).trans (List.append_nil _).symm⟩
  | interval seconds =>
    cases a.labels with
    | nil =>
      have hts : Reads (raw "ts") [.word "ts".toList] := reads_raw rfl rfl
      exact ⟨_, (goesOn_group hts (List.forall_mem_singleton.mpr rfl)).of_signs
        ((signs_raw_append " group by " "ts").trans (signs_append _ _).symm), rfl⟩
    | cons l labels =>
      have hts : Reads (raw ",ts") [.comma, .word "ts".toList] := reads_raw rfl rfl
      have hplain : ∀ t ∈ [Tree.comma, .word "ts".toList], t.isPlain = true :=
        List.forall_mem_cons.mpr ⟨rfl, List.forall_mem_singleton.mpr rfl⟩
      have hgroup := goesOn_group
        ((Label.reads_keys (l :: labels)).before (apart_raw rfl rfl (by decide)) hts)
        (List.forall_mem_append.mpr ⟨Label.plain_keys _, hplain⟩)
      rw [← List.append_assoc] at hgroup
      exact ⟨_, hgroup, (namesIn_append _ _).trans (congrArg (· ++ ["ts"]) (Label.names_keys _))⟩

end Aggregation

/-! ### HAVING -/

/-- A tree behind the value in a condition on it. -/
def Sql.Tree.isOperand (t : Tree) : Bool :=
  t.names.isEmpty && t.keyword?.isNone && !t.isWord ['a', 'n', 'd']

theorem isOperand_of_isLiteral {t : Tree} (h : t.isLiteral = true) : t.isOperand = true := by
  cases t with
  | word cs =>
    simp only [Sql.Tree.isLiteral, decide_eq_true_eq] at h
    rcases h with rfl | rfl | rfl <;> rfl
  | value | comma | mark => rfl
  | function | name | ticked | group => cases h

/-- A condition is on the value, and no name stands behind it. -/
theorem Having.exists_condition (h : Having) : ∃ ts,
    Reads h.sql (.word "value".toList :: ts) ∧ ∀ t ∈ ts, t.isOperand = true := by
  have hop : Parsed Sql.Tree.isOperand (raw h.op.word) := by
    cases h.op with
    | compare c => cases c <;> exact parsed_raw rfl rfl
    | member negated => cases negated <;> exact parsed_raw rfl rfl
  have hword : Still Sql.Tree.isOperand (raw (h.op.word ++ " ")) :=
    hop.raw_still (apart_raw rfl rfl (by decide)) (still_raw rfl rfl)
  have hliteral : Parsed Sql.Tree.isOperand h.value.literal :=
    (h.value.parsed_literal).mono fun _ => isOperand_of_isLiteral
  obtain ⟨ts, hts, hoperand⟩ := hword.before hliteral
  have hvalue : Loose (raw "value ") [.word "value".toList] := loose_raw rfl rfl
  refine ⟨ts, (hvalue.before hts).of_signs ?_, hoperand⟩
  simp only [Having.sql, signs_append, signs_raw_append, List.append_assoc]

theorem namesIn_operands {ts : List Tree} (h : ∀ t ∈ ts, t.isOperand = true) : namesIn ts = [] := by
  induction ts with
  | nil => rfl
  | cons t ts ih =>
    rw [List.forall_mem_cons] at h
    have hnames : t.names.isEmpty = true :=
      (Bool.and_eq_true_iff.mp (Bool.and_eq_true_iff.mp h.1).1).1
    rw [namesIn, List.isEmpty_iff.mp hnames, ih h.2]
    rfl

/-- The shape of a condition on the value. -/
def IsCondition (part : List Tree) : Prop :=
  ∃ ts, part = .word "value".toList :: ts ∧ ∀ t ∈ ts, t.isOperand = true

namespace IsCondition

variable {part : List Tree} (h : IsCondition part)

include h

theorem head : part.head? = some (.word "value".toList) := by
  obtain ⟨ts, rfl, -⟩ := h
  rfl

theorem names : namesIn part = ["value"] := by
  obtain ⟨ts, rfl, hts⟩ := h
  rw [namesIn, namesIn_operands hts]
  rfl

theorem silent : ∀ t ∈ part, t.keyword? = none ∧ t.isWord ['a', 'n', 'd'] = false := by
  obtain ⟨ts, rfl, hts⟩ := h
  refine List.forall_mem_cons.mpr ⟨⟨rfl, rfl⟩, fun t ht => ?_⟩
  obtain ⟨hboth, hand⟩ := Bool.and_eq_true_iff.mp (hts t ht)
  exact ⟨Option.isNone_iff_eq_none.mp (Bool.and_eq_true_iff.mp hboth).2,
    (Bool.not_eq_true' _).mp hand⟩

end IsCondition

theorem heads_of_conditions {having : List Having} {parts : List (List Tree)}
    (h : List.Forall₂ (fun _ part => IsCondition part) having parts) :
    parts.map List.head? = having.map fun _ => some (.word "value".toList) := by
  induction h with
  | nil => rfl
  | cons hpart _ ih => rw [List.map_cons, List.map_cons, hpart.head, ih]

/-- All conditions are on the value. -/
theorem exists_having (having : List Having) : ∃ ts,
    GoesOn (havingClause having) (optional .having ts) ∧
      subjects ts = having.map (fun _ => some (.word "value".toList)) ∧
      ∀ n ∈ namesIn ts, n = "value" := by
  cases having with
  | nil => exact ⟨[], goesOn_nil, rfl, nofun⟩
  | cons first having =>
    obtain ⟨parts, hreads, hparts⟩ : ∃ parts,
        List.Forall₂ Reads ((first :: having).map Having.sql) parts ∧
        List.Forall₂ (fun _ part => IsCondition part) (first :: having) parts := by
      refine exists_forall₂ ?_
      rw [List.forall₂_map_right_iff, List.forall₂_same]
      intro h _
      obtain ⟨ts, hts, hoperand⟩ := h.exists_condition
      exact ⟨_, hts, ts, rfl, hoperand⟩
    have hcondition : ∀ part ∈ parts, IsCondition part := fun part hp =>
      (forall₂_exists_left hparts hp).elim fun _ h => h.2
    have hsilent := fun part hp => (hcondition part hp).silent
    have hand : Loose (raw " AND ") [.word "AND".toList] := loose_raw rfl rfl
    have hhaving : Loose (raw " having ") [.word "having".toList] := loose_raw rfl rfl
    have hjoin := reads_join hand (apart_raw rfl rfl (by decide)) hreads
    have hnames := namesIn_intercalate (t := .word "AND".toList) rfl parts
    -- A clause with nothing in it has no names, but every condition is on the value.
    have hne : ([Tree.word "AND".toList].intercalate parts).isEmpty = false := by
      rw [List.isEmpty_eq_false_iff]
      intro hempty
      cases hparts with
      | cons hpart _ =>
        rw [hempty, List.flatMap_cons, hpart.names] at hnames
        cases hnames
    refine ⟨[.word "AND".toList].intercalate parts, ?_, ?_, ?_⟩
    · rw [optional, hne]
      refine ⟨_, (hhaving.before hjoin).follows ((apart_raw rfl rfl (by decide)).append _), ?_⟩
      exact .one (t := .word "having".toList) rfl (forall_mem_intercalate
        (P := (Tree.keyword? · = none)) rfl fun part hp u hu => (hsilent part hp u hu).1)
    · have hparts' : parts ≠ [] := by rintro rfl; cases hparts
      rw [subjects, hne, if_neg Bool.false_ne_true,
        splitOnP_intercalate rfl hparts' fun part hp u hu => (hsilent part hp u hu).2]
      exact heads_of_conditions hparts
    · intro n hn
      rw [hnames] at hn
      obtain ⟨part, hp, hn⟩ := List.mem_flatMap.mp hn
      rw [(hcondition part hp).names] at hn
      exact List.mem_singleton.mp hn

/-! ### ORDER BY -/

theorem Sql.Direction.letters (d : Direction) : ∀ c ∈ d.text.toList, Tree.isLetter c = true :=
  fun c hc => by simp [Tree.isLetter, Text.isWordChar, Char.isAlphanum, d.isAlpha c hc]

/-- An item as a reader finds it. -/
inductive OrderItem.Writes : OrderItem → Tree × List Char → Prop
  | value (d : Direction) : Writes (.value d) (.word "value".toList, d.text.toList)
  | key (name : String) (d : Direction) : Writes (.key name d) (.ticked name, d.text.toList)

theorem reads_direction (d : Direction) : Reads [.direction d] [.word d.text.toList] := by
  refine reads_word (List.append_nil _) ?_ d.letters
  intro hempty
  have hd := d.lower
  rw [hempty] at hd
  exact absurd hd (by decide)

/-- The parts of an order. -/
def orderPart (term : Tree × List Char) : List Tree := [term.1, .word term.2]

theorem keyword?_direction (d : Direction) : (Tree.word d.text.toList).keyword? = none := by
  have hd := d.lower
  simp only [List.mem_cons, List.not_mem_nil, or_false] at hd
  have hfind : (Tree.word d.text.toList).keyword? =
      Keyword.all.find? fun k => d.text.toList.map Char.toLower == k.chars := rfl
  rw [hfind]
  rcases hd with h | h <;> rw [h] <;> rfl

namespace OrderItem.Writes

variable {item : OrderItem} {term : Tree × List Char} (h : Writes item term)

include h

theorem reads : Reads item.sql (orderPart term) := by
  cases h with
  | value d =>
    have hvalue : Loose (raw "value ") [.word "value".toList] := loose_raw rfl rfl
    exact hvalue.before (reads_direction d)
  | key name d =>
    have hname : Loose [.backticked name] [.ticked name] := fun _ _ => rfl
    have hblank : Loose (raw " ") [] := loose_raw rfl rfl
    exact (hname.append hblank).before (reads_direction d)

theorem silent : ∀ t ∈ orderPart term, t.keyword? = none ∧ isComma t = false := by
  rw [orderPart, List.forall_mem_cons, List.forall_mem_singleton]
  cases h with
  | value d => exact ⟨⟨rfl, rfl⟩, keyword?_direction d, rfl⟩
  | key name d => exact ⟨⟨rfl, rfl⟩, keyword?_direction d, rfl⟩

theorem item_eq : orderItem? (orderPart term) = some term := by
  cases h with
  | value d | key name d => exact if_pos d.lower

end OrderItem.Writes

/-- The order of a statement, item by item. -/
theorem exists_order {items : List OrderItem} {terms : List (Tree × List Char)} (hne : terms ≠ [])
    (h : List.Forall₂ OrderItem.Writes items terms) : ∃ ts,
    GoesOn (raw " order by " ++ orderSql items) [(.order, ts)] ∧
      orderItems ts = terms.map some := by
  have hparts : ∀ part ∈ terms.map orderPart, ∀ t ∈ part,
      t.keyword? = none ∧ isComma t = false := by
    rw [List.forall_mem_map]
    intro term hterm
    obtain ⟨item, -, hwrites⟩ := forall₂_exists_left h hterm
    exact hwrites.silent
  have hcomma : Loose (raw ",") [.comma] := loose_raw rfl rfl
  have hwords : Loose (raw " order by ") [.word "order".toList, .word "by".toList] :=
    loose_raw rfl rfl
  have hreads : List.Forall₂ Reads (items.map OrderItem.sql) (terms.map orderPart) := by
    rw [List.forall₂_map_left_iff, List.forall₂_map_right_iff]
    exact h.imp fun _ _ hwrites => hwrites.reads
  have hjoin := reads_join hcomma (apart_raw rfl rfl (by decide)) hreads
  refine ⟨.word "by".toList :: [.comma].intercalate (terms.map orderPart), ⟨_, (hwords.before
    hjoin).follows ((apart_raw rfl rfl (by decide)).append _), ?_⟩, ?_⟩
  · exact .one (t := .word "order".toList) rfl (List.forall_mem_cons.mpr ⟨rfl,
      forall_mem_intercalate (P := (Tree.keyword? · = none)) rfl fun part hp t ht =>
        (hparts part hp t ht).1⟩)
  · have hne' : terms.map orderPart ≠ [] := by simpa using hne
    have hitems := splitOnP_intercalate (p := isComma) (t := .comma) rfl hne' fun part hp t ht =>
      (hparts part hp t ht).2
    rw [orderItems, if_pos (by rfl), Sql.items, hitems, List.map_map]
    refine List.map_congr_left fun term hterm => ?_
    obtain ⟨item, -, hwrites⟩ := forall₂_exists_left h hterm
    exact hwrites.item_eq

/-! ### LIMIT -/

theorem exists_limit (limit : Option Nat) : ∃ ts, GoesOn (match limit with
    | some n => raw " LIMIT " ++ [.int n]
    | none => []) (optional .limit ts) := by
  cases limit with
  | none => exact ⟨[], goesOn_nil⟩
  | some n =>
    have hlimit : Loose (raw " LIMIT ") [.word "LIMIT".toList] := loose_raw rfl rfl
    have hnumber : Loose [.int n] [.value] := fun _ _ => rfl
    exact ⟨[.value], _, (hlimit.append hnumber).reads.follows
      ((apart_raw rfl rfl (by decide)).append _), .one rfl (List.forall_mem_singleton.mpr rfl)⟩

end PanelQuery
