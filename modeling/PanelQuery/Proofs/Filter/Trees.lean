import PanelQuery.Proofs.Filter.Conditions
import PanelQuery.Proofs.Filter.Formula
import PanelQuery.Proofs.Filter.Literal
import PanelQuery.Proofs.Sql.Tree
import PanelQuery.Proofs.Statement.Compile

/-! # Conditions as trees

The parentheses of every condition match, and no word of it outside of parentheses begins a clause
or restricts keys to groups: whatever a filter asks for, a reader gets over the WHERE clause to the
clause that follows it. -/

namespace PanelQuery

open Sql (Parsed Still Calls Balanced Apart Condition Tree)
open Sql.Tree (isPlain isTerm isLiteral)

namespace Sql

theorem isPlain_of_isTerm {t : Tree} (h : t.isTerm = true) : t.isPlain = true :=
  (Bool.and_eq_true_iff.mp h).1

theorem isPlain_of_isLiteral {t : Tree} (h : t.isLiteral = true) : t.isPlain = true := by
  cases t with
  | word cs =>
    simp only [isLiteral, decide_eq_true_eq] at h
    rcases h with rfl | rfl | rfl <;> rfl
  | value | comma | mark => rfl
  | function | name | ticked | group => cases h

/-! ## Marks between parts -/

section

variable {p : Tree → Bool} {a b c : Sql}

theorem apart_comma : Apart (raw ", ") := apart_raw rfl rfl (by decide)

/-- A call with two arguments. -/
theorem Calls.pair (ha : Calls p a) (hb : Balanced b) (hc : Balanced c)
    (hp : ∀ us, p (.group us) = true) : Still p (a ++ b ++ raw ", " ++ c ++ raw ")") := by
  have hinner : Balanced (b ++ (raw ", " ++ c)) :=
    hb.before (apart_comma.append c) ((still_raw rfl rfl).before hc)
  simpa only [List.append_assoc] using ha.close hinner hp

/-- A part between two pairs of parentheses. -/
theorem Calls.nested {v w : String} (hv : Calls p (raw v)) (hw : Calls (fun _ => true) (raw w))
    (hb : Balanced b) (hp : ∀ us, p (.group us) = true) :
    Still p (raw (v ++ w) ++ b ++ raw "))") := by
  have hclose : "))" = ")" ++ ")" := rfl
  refine (hv.close (hw.close hb fun _ => rfl).parsed hp).of_signs ?_
  simp only [hclose, signs_append, signs_raw_append, List.append_assoc]

/-- A call with two arguments of which the first is a call. -/
theorem Calls.nestedPair {v w : String} (hv : Calls p (raw v)) (hw : Calls (fun _ => true) (raw w))
    (hb : Balanced b) (hc : Balanced c) (hp : ∀ us, p (.group us) = true) :
    Still p (raw (v ++ w) ++ b ++ raw "), " ++ c ++ raw ")") := by
  have hclose : "), " = ")" ++ ", " := rfl
  refine (hv.pair (hw.close hb fun _ => rfl).parsed hc hp).of_signs ?_
  simp only [hclose, signs_append, signs_raw_append, List.append_assoc]

end

end Sql

/-! ## Values -/

namespace FilterValue

open Sql

mutual

theorem parsed_literal : ∀ v : FilterValue, Parsed isLiteral v.literal
  | .null => parsed_raw rfl rfl
  | .bool b => by cases b <;> exact parsed_raw rfl rfl
  | .int n => (still_value rfl rfl).parsed
  | .float x => (still_value rfl rfl).parsed
  | .text s => (still_value rfl rfl).parsed
  | .array items => by
    rw [literal, itemLiterals_eq_join]
    have hitems : Parsed isLiteral (join "," (items.map literal)) := Parsed.join (still_raw rfl rfl)
      (apart_raw rfl rfl (by decide)) (List.forall_mem_map.mpr (parsed_literals items))
    exact ((still_raw rfl rfl).before hitems).before (apart_raw rfl rfl (by decide))
      (still_raw rfl rfl).parsed

theorem parsed_literals : ∀ items : List FilterValue, ∀ item ∈ items, Parsed isLiteral item.literal
  | [] => nofun
  | item :: items => List.forall_mem_cons.mpr ⟨parsed_literal item, parsed_literals items⟩

end

theorem still_pattern (v : FilterValue) (anywhere : Bool) : Still isPlain (v.pattern anywhere) := by
  cases anywhere <;> exact still_value rfl rfl

theorem plain_literal (v : FilterValue) : Parsed isPlain v.literal :=
  (parsed_literal v).mono fun _ => isPlain_of_isLiteral

end FilterValue

/-! ## Columns -/

open Sql

theorem parsed_map {map : String} (h : map ∈ mapColumns) : Parsed isTerm (raw map) := by
  simp only [mapColumns, List.mem_cons, List.not_mem_nil, or_false] at h
  rcases h with rfl | rfl | rfl | rfl | rfl | rfl | rfl | rfl | rfl | rfl <;>
    exact parsed_raw rfl rfl

theorem still_entry {map : String} (h : map ∈ mapColumns) (key : String) :
    Still isTerm (Column.entry map key).sql :=
  have hopen := (parsed_map h).raw_still (w := "[") (apart_raw rfl rfl (by decide))
    (still_raw rfl rfl)
  (hopen.append (still_value rfl rfl)).append (still_raw rfl rfl)

theorem still_name {n : String} : Still isTerm [.name n] :=
  ⟨[.name n], fun _ _ => rfl, List.forall_mem_singleton.mpr rfl⟩

theorem still_backticked {n : String} : Still isTerm [.backticked n] :=
  ⟨[.ticked n], fun _ _ => rfl, List.forall_mem_singleton.mpr rfl⟩

theorem Schema.still_column (s : Schema) (key : AttributeKey) :
    Still isTerm (s.column key).sql := by
  cases s with
  | logs =>
    rw [Schema.column, Schema.logColumn]
    split
    · exact still_name
    split
    · exact still_backticked
    · exact still_entry (logMap_mem key) _
  | traces =>
    rw [Schema.column, Schema.spanColumn]
    split
    · exact still_name
    · exact still_entry (spanMap_mem key) _

theorem Sql.Still.plain {s : Sql} (h : Still isTerm s) : Still isPlain s :=
  h.imp fun _ h => ⟨h.1, fun t ht => isPlain_of_isTerm (h.2 t ht)⟩

theorem Schema.still_plainColumn (s : Schema) (key : AttributeKey) :
    Still isPlain (s.column key).sql := (s.still_column key).plain

theorem parsed_presence {notWord : String} (hn : notWord = "not" ∨ notWord = "NOT") (negated : Bool)
    {presence : Presence} (hmap : ∀ map key, presence = .mapKey map key → map ∈ mapColumns) :
    Parsed isPlain (presence.sql notWord negated) := by
  cases presence with
  | nonZero column zero =>
    have hcompare : Still isPlain (raw (if negated then " = " else " != ")) := by
      cases negated <;> exact still_raw rfl rfl
    have hzero : Parsed isPlain (raw zero.word) := by cases zero <;> exact parsed_raw rfl rfl
    exact still_name.plain.before (hcompare.raw_before hzero)
  | flag column =>
    refine still_backticked.plain.before ?_
    cases negated <;> exact parsed_raw rfl rfl
  | mapKey map key =>
    have hnot : Still isPlain (raw (if negated then notWord ++ " " else "")) := by
      cases negated with
      | false => exact still_raw rfl rfl
      | true =>
        rcases hn with rfl | rfl
        · exact still_raw (w := "not ") rfl rfl
        · exact still_raw (w := "NOT ") rfl rfl
    have hopen : Calls isPlain (raw ((if negated then notWord ++ " " else "") ++ "mapContains(")) :=
      hnot.raw_calls (calls_raw rfl rfl)
    refine (hopen.pair (parsed_map (hmap map key rfl)).balanced (c := literal key)
      (still_value rfl rfl).parsed fun _ => rfl).parsed.of_signs ?_
    simp only [Presence.sql, signs_append, signs_raw_append, List.append_assoc]

theorem Schema.parsed_guard (s : Schema) (key : AttributeKey) (negated : Bool) :
    Parsed isPlain (s.guard key negated) := by
  cases s with
  | logs =>
    refine parsed_presence (.inl rfl) negated fun map k h => ?_
    rw [Schema.presence, Schema.logPresence] at h
    split at h
    · cases h
    split at h
    · cases h
    · cases h
      exact logMap_mem key
  | traces =>
    refine parsed_presence (.inr rfl) negated fun map k h => ?_
    rw [Schema.presence, Schema.spanPresence] at h
    split at h
    · cases h
    · cases h
      exact spanMap_mem key

/-! ## Tests -/

section

variable {field : Sql} (hfield : Still isPlain field)

include hfield

/-- A field, a word or a comparison, and a value. -/
theorem parsed_infix {w : String} (hw : Still isPlain (raw w)) {v : Sql} (hv : Parsed isPlain v) :
    Parsed isPlain (field ++ raw w ++ v) := (hfield.append hw).before hv

theorem parsed_compare (c : Comparison) (v : FilterValue) :
    Parsed isPlain (field ++ raw (" " ++ c.word ++ " ") ++ v.literal) :=
  have hword : Still isPlain (raw c.word) := by cases c <;> exact still_raw rfl rfl
  parsed_infix hfield (((still_raw rfl rfl).raw_append hword).raw_append (still_raw rfl rfl))
    v.plain_literal

theorem parsed_member (negated : Bool) (v : FilterValue) :
    Parsed isPlain (field ++ raw (if negated then " NOT IN " else " IN ") ++ v.literal) :=
  parsed_infix hfield (by cases negated <;> exact still_raw rfl rfl) v.plain_literal

theorem still_match (pattern : Sql) (hp : Still isPlain pattern) :
    Still isPlain (raw "match(" ++ field ++ raw ", " ++ pattern ++ raw ")") :=
  Calls.pair (calls_raw rfl rfl) hfield.parsed.balanced hp.parsed.balanced fun _ => rfl

end

namespace Body

theorem still_notIf (negated : Bool) {s : Sql} (h : Still isPlain s) :
    Still isPlain (notIf negated s) := by
  cases negated with
  | false => exact h
  | true => exact (still_raw rfl rfl).append h

section

variable {field : Sql} (hfield : Still isPlain field)

include hfield

theorem still_hasSql (negated : Bool) (v : FilterValue) :
    Still isPlain (hasSql field negated v) :=
  still_notIf negated (Calls.pair (calls_raw rfl rfl) hfield.parsed.balanced
    v.plain_literal.balanced fun _ => rfl)

theorem parsed_ilikeSql (negated : Bool) {pattern : Sql} (hp : Still isPlain pattern) :
    Parsed isPlain (ilikeSql field negated pattern) :=
  parsed_infix hfield (by cases negated <;> exact still_raw rfl rfl) hp.parsed

theorem parsed_scalarCondition {item : FilterItem} {t : Test} {sql : Sql}
    (h : scalarCondition item field t = .ok sql) : Parsed isPlain sql := by
  cases t with
  | compare c v =>
    cases h
    exact parsed_compare hfield c v
  | like negated v =>
    cases h
    exact parsed_ilikeSql hfield negated (v.still_pattern false)
  | contains negated v =>
    cases h
    exact parsed_ilikeSql hfield negated (v.still_pattern true)
  | regex negated v =>
    cases h
    exact (still_notIf negated (still_match hfield _ (v.still_pattern false))).parsed
  | member negated items =>
    cases h
    exact parsed_member hfield negated _
  | has negated v => cases h
  | presence negated =>
    obtain ⟨path, -, h⟩ := ok_of_bind h
    cases h
    exact (still_notIf negated ((calls_raw rfl rfl).close (still_value rfl rfl).parsed
      fun _ => rfl)).parsed

end

/-- A field is read by one call, or by one around another. -/
theorem still_accessor {key : String} {t : DataType} {field : Sql}
    (h : accessor key t = .ok field) : Still isPlain field := by
  obtain ⟨path, -, h⟩ := ok_of_bind h
  cases h
  split
  · exact (calls_raw rfl rfl).close (still_value rfl rfl).parsed fun _ => rfl
  · next target _ =>
    exact Calls.nestedPair (v := "JSONExtract(") (w := "JSON_QUERY(body, ") (calls_raw rfl rfl)
      (calls_raw rfl rfl) (still_value rfl rfl).parsed (still_value rfl rfl).parsed fun _ => rfl

theorem parsed_condition {item : FilterItem} {sql : Sql} (h : condition item = .ok sql) :
    Parsed isPlain sql := by
  obtain ⟨field, hf, h⟩ := ok_of_bind h
  have hfield := still_accessor hf
  split at h
  · exact parsed_scalarCondition hfield h
  split at h
  · split at h
    · obtain ⟨v, -, h⟩ := ok_of_bind h
      cases h
      exact (still_hasSql hfield _ v).parsed
    · cases h
  · obtain ⟨t, -, h⟩ := ok_of_bind h
    exact parsed_scalarCondition hfield h

end Body

namespace Schema

theorem parsed_likeSql (s : Schema) (key : AttributeKey) (negated : Bool) {pattern : Sql}
    (hp : Still isPlain pattern) : Parsed isPlain (s.likeSql key negated pattern) := by
  unfold likeSql
  split
  · have hopen : Calls isPlain (raw ("lower(body) " ++ (if negated then "NOT LIKE" else "LIKE")
        ++ " lower(")) := by
      have hword : Calls isPlain (raw ((if negated then "NOT LIKE" else "LIKE") ++ " lower(")) := by
        cases negated
        · exact calls_raw (w := "LIKE lower(") rfl rfl
        · exact calls_raw (w := "NOT LIKE lower(") rfl rfl
      rw [String.append_assoc]
      exact (still_raw rfl rfl).raw_calls hword
    exact (hopen.close hp.parsed.balanced fun _ => rfl).parsed
  · have hword : Still isPlain (raw (" " ++ s.likeWord negated ++ " ")) := by
      cases s <;> cases negated
      · exact still_raw (w := " LIKE ") rfl rfl
      · exact still_raw (w := " NOT LIKE ") rfl rfl
      · exact still_raw (w := " ILIKE ") rfl rfl
      · exact still_raw (w := " NOT ILIKE ") rfl rfl
    exact parsed_infix (s.still_plainColumn key) hword hp.parsed

theorem parsed_testSql (s : Schema) (key : AttributeKey) (t : Test) :
    Parsed isPlain (s.testSql key t) := by
  have hcolumn := s.still_plainColumn key
  cases t with
  | compare c v => exact parsed_compare hcolumn c v
  | like negated v => exact s.parsed_likeSql key negated (v.still_pattern false)
  | contains negated v => exact s.parsed_likeSql key negated (v.still_pattern true)
  | regex negated v =>
    exact (Body.still_notIf negated (still_match hcolumn _ (v.still_pattern false))).parsed
  | member negated items => exact parsed_member hcolumn negated _
  | has negated v => exact (Body.still_hasSql hcolumn negated v).parsed
  | presence negated => exact s.parsed_guard key negated

theorem parsed_itemCondition (s : Schema) {item : FilterItem} {sql : Sql}
    (h : s.itemCondition item = .ok sql) : Parsed isPlain sql := by
  unfold itemCondition at h
  split at h
  · exact Body.parsed_condition h
  · obtain ⟨t, -, h⟩ := ok_of_bind h
    cases h
    exact s.parsed_testSql item.key t

end Schema

/-! ## Conditions -/

namespace Sql.Condition

/-- All texts of the condition are of a kind. -/
inductive Every (p : Sql → Prop) : Condition → Prop
  | atom {s : Sql} (h : p s) : Every p (.atom s)
  | group {op : Connective} {parts : List Condition} (h : ∀ part ∈ parts, Every p part) :
      Every p (.group op parts)
  | padded {parts : List Condition} (h : ∀ part ∈ parts, Every p part) : Every p (.padded parts)

theorem parsed_partsSql (op : Connective) {parts : List Condition}
    (h : ∀ part ∈ parts, Parsed isPlain part.sql) : Parsed isPlain (partsSql op parts) := by
  rw [Precedence.partsSql_eq_join]
  refine Parsed.join ?_ ?_ (List.forall_mem_map.mpr h)
  · cases op
    · exact still_raw (w := " AND ") rfl rfl
    · exact still_raw (w := " OR ") rfl rfl
  · cases op
    · exact apart_raw (w := " AND ") rfl rfl (by decide)
    · exact apart_raw (w := " OR ") rfl rfl (by decide)

theorem Every.parsed {c : Condition} (h : c.Every (Parsed isPlain)) : Parsed isPlain c.sql := by
  induction h with
  | atom h =>
    rw [Condition.sql]
    exact h
  | group _ ih =>
    rw [Condition.sql]
    exact ((calls_raw rfl rfl).close (parsed_partsSql _ ih).balanced fun _ => rfl).parsed
  | padded _ ih =>
    rw [Condition.sql]
    have hinner := (parsed_partsSql .and ih).still (b := raw " ") (apart_raw rfl rfl (by decide))
      (still_raw rfl rfl)
    have hgroup := (calls_raw (p := isPlain) (w := "( ") rfl rfl).close hinner.parsed.balanced
      fun _ => rfl
    have hclose : " )" = " " ++ ")" := rfl
    refine hgroup.parsed.of_signs ?_
    simp only [hclose, signs_append, signs_raw_append, List.append_assoc]

theorem parsed_conjunction {conditions : List Condition}
    (h : ∀ c ∈ conditions, c.Every (Parsed isPlain)) : Parsed isPlain (conjunction conditions) :=
  parsed_partsSql .and fun c hc => (h c hc).parsed

end Sql.Condition

open Sql.Condition (Every parsed_conjunction)

/-! ### Items and references -/

namespace FilterUnit

variable {p : Sql → Prop} {u : FilterUnit}

theorem every_conjuncts (h : ∀ sql ∈ u.atoms, p sql) : ∀ c ∈ u.conjuncts, c.Every p := by
  rw [conjuncts_eq_map, List.forall_mem_map]
  exact fun sql hsql => .atom (h sql hsql)

theorem every_whole (h : ∀ sql ∈ u.atoms, p sql) : u.whole.Every p := by
  rw [whole]
  split
  · exact .atom (h _ (by simp [atoms]))
  · exact .group (every_conjuncts h)

theorem every_combine (op : Connective) {units : List FilterUnit}
    (h : ∀ u ∈ units, ∀ sql ∈ u.atoms, p sql) : ∀ c ∈ combine op units, c.Every p := by
  have hwhole : ∀ c ∈ units.map whole, c.Every p :=
    List.forall_mem_map.mpr fun u hu => every_whole (h u hu)
  cases op with
  | and => exact List.forall_mem_flatMap.mpr fun u hu => every_conjuncts (h u hu)
  | or =>
    rcases units with _ | ⟨u, _ | ⟨v, units⟩⟩
    · exact nofun
    · exact hwhole
    · exact List.forall_mem_singleton.mpr (.group hwhole)

end FilterUnit

namespace Schema

variable {s : Schema}

theorem parsed_unit {item : FilterItem} {u : FilterUnit} (h : s.unit item = .ok u) :
    ∀ sql ∈ u.atoms, Parsed isPlain sql := by
  obtain ⟨hcondition, hguard⟩ := unit_ok h
  rw [FilterUnit.atoms, List.forall_mem_cons, hguard]
  refine ⟨s.parsed_itemCondition hcondition, fun sql hsql => ?_⟩
  split at hsql
  · obtain rfl := List.mem_singleton.mp hsql
    exact s.parsed_guard item.key false
  · cases hsql

theorem every_conditions {filters : Option FilterSet} {scope : Scope} {conds : List Condition}
    (h : s.conditions filters scope = .ok conds) : ∀ c ∈ conds, c.Every (Parsed isPlain) := by
  obtain ⟨units, hunits, rfl⟩ := conditions_ok h
  rw [List.forall_mem_append, List.forall_mem_map]
  constructor
  · refine FilterUnit.every_combine _ fun u hu => ?_
    obtain ⟨item, -, hitem⟩ := forall₂_exists_left hunits hu
    exact parsed_unit hitem
  · intro sql hsql
    obtain ⟨key, -, hkey⟩ := List.mem_filterMap.mp hsql
    obtain ⟨-, -, rfl⟩ := referenceGuard_eq.mp hkey
    exact .atom (s.parsed_guard key false)

end Schema

/-! ### The lookup of fingerprints -/

namespace LabelTest

theorem still_loweredLabel (key : String) : Still isPlain (loweredLabel key) :=
  (calls_raw rfl rfl).close (still_value rfl rfl).parsed fun _ => rfl

theorem parsed_predicate (key : String) (t : LabelTest) : Parsed isPlain (t.predicate key) := by
  have hlabel := still_loweredLabel key
  cases t with
  | compare c v => exact parsed_compare hlabel c v
  | like negated anywhere v =>
    exact parsed_infix hlabel (by cases negated <;> exact still_raw rfl rfl)
      (v.still_pattern anywhere).parsed
  | regex negated pattern =>
    have hnot : Still isPlain (raw (if negated then "NOT " else "")) := by
      cases negated <;> exact still_raw rfl rfl
    have hmatch : Still isPlain (raw ("match(" ++ "simpleJSONExtractString(labels, ") ++
        literal key ++ raw "), " ++ literal pattern ++ raw ")") :=
      Calls.nestedPair (calls_raw rfl rfl) (calls_raw rfl rfl) (still_value rfl rfl).parsed
        (still_value rfl rfl).parsed fun _ => rfl
    refine (hnot.append hmatch).parsed.of_signs ?_
    have hopen : "match(simpleJSONExtractString(labels, " =
      "match(" ++ "simpleJSONExtractString(labels, " := rfl
    simp only [predicate, hopen, signs_append, signs_raw_append, List.append_assoc]
  | member negated items => exact parsed_member hlabel negated _
  | presence negated =>
    have hnot : Still isPlain (raw (if negated then "not " else "")) := by
      cases negated <;> exact still_raw rfl rfl
    exact ((hnot.raw_calls (calls_raw rfl rfl)).close (still_value rfl rfl).parsed
      fun _ => rfl).parsed

theorem parsed_hintSql (negated : Bool) (stretches : List String) :
    Parsed isPlain (hintSql negated stretches) := by
  have hlike : Still isPlain
      (raw (if negated then "lower(labels) not like " else "lower(labels) like ")) := by
    cases negated <;> exact still_raw rfl rfl
  exact hlike.before (still_value rfl rfl).parsed

theorem every_hint {key : String} {t : LabelTest} {c : Condition} (h : t.hint key = some c) :
    c.Every (Parsed isPlain) := by
  cases t with
  | compare op v => cases op <;> cases h <;> exact .atom (parsed_hintSql _ _)
  | like negated anywhere v =>
    cases h
    exact .atom (parsed_hintSql _ _)
  | regex negated pattern => cases h
  | member negated items =>
    rcases negated with _ | _
    · rcases items with _ | ⟨v, items⟩
      · cases h
      · cases h
        exact .group (List.forall_mem_map.mpr fun v _ => .atom (parsed_hintSql _ _))
    · cases h
  | presence negated =>
    rcases negated with _ | _ <;> cases h
    exact .atom (parsed_hintSql _ _)

theorem every_conditions (key : String) (t : LabelTest) :
    ∀ c ∈ t.conditions key, c.Every (Parsed isPlain) := by
  intro c hc
  rcases List.mem_cons.mp hc with rfl | hh
  · exact .atom (t.parsed_predicate key)
  · exact every_hint (Option.mem_toList.mp hh)

end LabelTest

namespace ResourceLookup

theorem every_bucketConditions (b : BucketRange) :
    ∀ c ∈ bucketConditions b, c.Every (Parsed isPlain) := by
  have hbound : ∀ (w : String) (n : Int), Calls isPlain (raw w) →
      Parsed isPlain (raw w ++ [.int n] ++ raw ")") := fun w n hw =>
    (hw.close (still_value rfl rfl).parsed fun _ => rfl).parsed
  rw [bucketConditions, List.forall_mem_cons, List.forall_mem_singleton]
  exact ⟨.atom (hbound _ _ (calls_raw rfl rfl)), .atom (hbound _ _ (calls_raw rfl rfl))⟩

theorem every_conditions (l : ResourceLookup) : ∀ c ∈ l.conditions, c.Every (Parsed isPlain) := by
  rw [conditions, List.forall_mem_append, List.forall_mem_append, List.forall_mem_flatMap]
  refine ⟨⟨?_, fun test _ => LabelTest.every_conditions _ _⟩, ?_⟩
  · cases l.buckets with
    | none => exact List.forall_mem_nil _
    | some b => exact every_bucketConditions b
  · split
    · exact List.forall_mem_nil _
    · rw [List.forall_mem_singleton]
      exact .padded (List.forall_mem_map.mpr fun key _ =>
        .group (LabelTest.every_conditions key (.presence false)))

/-- The lookup restricts the rows inside of its own parentheses. -/
theorem still_sql (l : ResourceLookup) : Still isPlain l.sql := by
  have hselect : Calls (fun _ => true)
      (raw ("resource_fingerprint GLOBAL IN (SELECT fingerprint FROM " ++
        "signoz_logs.distributed_logs_v2_resource WHERE ")) :=
    (calls_raw rfl rfl).raw_within (still_raw rfl rfl)
  have hopen : "(resource_fingerprint GLOBAL IN (SELECT fingerprint FROM " ++ table ++ " WHERE " =
    "(" ++ ("resource_fingerprint GLOBAL IN (SELECT fingerprint FROM " ++
      "signoz_logs.distributed_logs_v2_resource WHERE ") := rfl
  rw [sql, hopen]
  exact (calls_raw rfl rfl).nested hselect (parsed_conjunction l.every_conditions).balanced
    fun _ => rfl

end ResourceLookup

/-! ### The WHERE clause -/

namespace TimeBounds

theorem every_between {column : String} (hcolumn : Parsed isPlain (raw column)) {first last : Sql}
    (hfirst : Parsed isPlain first) (hlast : Parsed isPlain last) :
    (between column first last).Every (Parsed isPlain) := by
  have hatleast : Still isPlain (raw (column ++ " >= ")) :=
    hcolumn.raw_still (apart_raw rfl rfl (by decide)) (still_raw rfl rfl)
  have hatmost : Still isPlain (raw (column ++ " <= ")) :=
    hcolumn.raw_still (apart_raw rfl rfl (by decide)) (still_raw rfl rfl)
  rw [between]
  refine .group (List.forall_mem_cons.mpr ⟨.atom (hatleast.before hfirst), ?_⟩)
  exact List.forall_mem_singleton.mpr (.atom (hatmost.before hlast))

theorem every_conditions (b : TimeBounds) : ∀ c ∈ b.conditions, c.Every (Parsed isPlain) := by
  have hvalue : ∀ {s : Sql}, s.signs = [.value] → Parsed isPlain s := fun h =>
    (still_value h rfl).parsed
  cases b with
  | logs first last buckets =>
    rw [conditions, List.forall_mem_cons, List.forall_mem_singleton]
    exact ⟨every_between (parsed_raw rfl rfl) (hvalue rfl) (hvalue rfl),
      every_between (parsed_raw rfl rfl) (hvalue rfl) (hvalue rfl)⟩
  | traces first last =>
    rw [conditions, List.forall_mem_singleton]
    exact every_between (parsed_raw rfl rfl) (hvalue rfl) (hvalue rfl)

end TimeBounds

theorem Query.every_rowFilter {q : Query} {s : Schema} {buckets : Option BucketRange}
    {f : RowFilter} (h : q.rowFilter s buckets = .ok f) :
    ∀ c ∈ f.conditions, c.Every (Parsed isPlain) := by
  have hmain : ∀ c ∈ f.main, c.Every (Parsed isPlain) :=
    Schema.every_conditions (rowFilter_iff.mp h).1
  rw [RowFilter.conditions, List.forall_mem_append]
  refine ⟨hmain, fun c hc => ?_⟩
  obtain ⟨l, -, rfl⟩ := Option.map_eq_some_iff.mp (Option.mem_toList.mp hc)
  exact .atom l.still_sql.parsed

/-- The whole WHERE clause of a statement. -/
theorem parsed_where (time : TimeBounds) {f : RowFilter}
    (h : ∀ c ∈ f.conditions, c.Every (Parsed isPlain)) : Parsed isPlain (time.sql ++ f.sql) := by
  have htime := parsed_conjunction time.every_conditions
  rw [TimeBounds.sql, RowFilter.sql]
  split
  · rwa [List.append_nil]
  · exact htime.before ((apart_raw rfl rfl (by decide)).append _)
      ((still_raw rfl rfl).before (parsed_conjunction h))

end PanelQuery
