import PanelQuery.Filter.Where
import PanelQuery.Proofs.Filter.Value
import PanelQuery.Proofs.Text.Split

/-! # Conditions of alike items

Each compiler of filter items takes alike items to alike conditions, or refuses both for the same
reason: the main table, the JSON body and the lookup of resource fingerprints. No operator and no
branch looks at the text of a value. -/

namespace PanelQuery

open Sql (Origin Own Condition)

variable {o : Origin}

/-! ## Columns -/

theorem logMap_mem (key : AttributeKey) : Schema.logMap key ∈ Sql.mapColumns := by
  unfold Schema.logMap Schema.storageType
  split <;> split <;> (try split) <;> simp [Sql.mapColumns]

theorem spanMap_mem (key : AttributeKey) : Schema.spanMap key ∈ Sql.mapColumns := by
  unfold Schema.spanMap
  split
  · simp [Sql.mapColumns]
  split
  · simp [Sql.mapColumns]
  split <;> simp [Sql.mapColumns]

theorem own_entry {map key : String} (hm : map ∈ Sql.mapColumns) (hk : o.text key key) :
    Own o (Column.entry map key).sql :=
  ((Sql.own_raw (.mapEntry hm)).append (Sql.alike_literal hk)).append (Sql.own_raw .rightBracket)

theorem own_column {key : AttributeKey} (h : o.Covers key) (s : Schema) :
    Own o (s.column key).sql := by
  cases s with
  | logs =>
    rw [Schema.column, Schema.logColumn]
    split
    · exact Sql.own_name h.name
    split
    · exact Sql.own_backticked h.materialized
    · exact own_entry (logMap_mem key) h.text
  | traces =>
    rw [Schema.column, Schema.spanColumn]
    split
    · exact Sql.own_name h.name
    · exact own_entry (spanMap_mem key) h.text

theorem own_presence {key : AttributeKey} (h : o.Covers key) (s : Schema) {notWord : String}
    (hn : notWord = "not" ∨ notWord = "NOT") (negated : Bool) :
    Own o ((s.presence key).sql notWord negated) := by
  have hzero : ∀ zero, Own o ((Presence.nonZero key.name zero).sql notWord negated) := fun zero =>
    (Sql.own_name h.name).append (Sql.own_raw (.nonZero negated zero))
  have hmap : ∀ map ∈ Sql.mapColumns,
      Own o ((Presence.mapKey map key.name).sql notWord negated) := fun map hm =>
    ((Sql.own_raw (.mapContains negated hm hn)).append (Sql.alike_literal h.text)).append
      (Sql.own_raw .rightParen)
  cases s with
  | logs =>
    rw [Schema.presence, Schema.logPresence]
    split
    · exact hzero _
    split
    · exact (Sql.own_backticked h.flag).append (Sql.own_raw (.flag negated))
    · exact hmap _ (logMap_mem key)
  | traces =>
    rw [Schema.presence, Schema.spanPresence]
    split
    · exact hzero _
    · exact hmap _ (spanMap_mem key)

theorem own_guard {key : AttributeKey} (h : o.Covers key) (s : Schema) (negated : Bool) :
    Own o (s.guard key negated) := by
  cases s with
  | logs => exact own_presence h .logs (.inl rfl) negated
  | traces => exact own_presence h .traces (.inr rfl) negated

/-! ## The JSON body -/

namespace Body

/-- A path is the key with a dollar sign for the name of the body. -/
theorem path_eq {key p : String} (h : path key = .ok p) :
    ∃ rest, key.toList = "body".toList ++ rest ∧ p.toList = '$' :: rest := by
  unfold path at h
  split at h
  · cases h
  · next root segments hs =>
    split at h
    · cases h
    · next hr =>
      split at h
      · cases h
      split at h
      · cases h
      · cases h
        refine ⟨segments.flatMap ('.' :: ·), ?_, String.toList_ofList⟩
        rw [Text.splitOnChar_eq hs, not_not.mp hr]

theorem own_path {key : AttributeKey} (h : o.Covers key) {p : String}
    (hp : path key.name = .ok p) : Own o (Sql.literal p) := Sql.alike_literal (h.path p hp)

theorem own_accessor {key : AttributeKey} (h : o.Covers key) {t : DataType} {field : Sql}
    (hf : accessor key.name t = .ok field) : Own o field := by
  unfold accessor at hf
  cases hp : path key.name with
  | error e => rw [hp] at hf; cases hf
  | ok p =>
    rw [hp] at hf
    cases hf
    have hliteral := own_path h hp
    split
    · exact ((Sql.own_raw .jsonValue).append hliteral).append (Sql.own_raw .rightParen)
    · next ht =>
      have htype := Sql.alike_quoted (o := o) (.cons (.fixed (.extractType ht)) .nil)
      exact ((((Sql.own_raw .jsonExtract).append hliteral).append
        (Sql.own_raw .rightParenComma)).append htype).append (Sql.own_raw .rightParen)

theorem alike_notIf (negated : Bool) {a b : Sql} (h : Sql.Alike o a b) :
    Sql.Alike o (notIf negated a) (notIf negated b) := by
  unfold notIf
  exact .ite ((Sql.own_raw .negation).append h) h

theorem alike_hasSql (negated : Bool) {field : Sql} (hf : Own o field) {v v' : FilterValue}
    (h : v.Alike o v') : Sql.Alike o (hasSql field negated v) (hasSql field negated v') :=
  alike_notIf negated (((((Sql.own_raw .has).append hf).append (Sql.own_raw .spacedComma)).append
    h.literal).append (Sql.own_raw .rightParen))

theorem alike_ilikeSql (negated : Bool) {field : Sql} (hf : Own o field) {a b : Sql}
    (h : Sql.Alike o a b) : Sql.Alike o (ilikeSql field negated a) (ilikeSql field negated b) :=
  (hf.append (Sql.own_raw (.ilike negated))).append h

/-- A field in front of a list of values. -/
theorem alike_member (negated : Bool) {field : Sql} (hf : Own o field)
    {items items' : List FilterValue} (h : (FilterValue.array items).Alike o (.array items')) :
    Sql.Alike o
      (field ++ Sql.raw (if negated then " NOT IN " else " IN ")
        ++ (FilterValue.array items).literal)
      (field ++ Sql.raw (if negated then " NOT IN " else " IN ")
        ++ (FilterValue.array items').literal) :=
  (hf.append (Sql.own_raw (.membership negated))).append h.literal

/-- A field compared with a value. -/
theorem alike_compare (c : Comparison) {field : Sql} (hf : Own o field) {v v' : FilterValue}
    (h : v.Alike o v') :
    Sql.Alike o (field ++ Sql.raw (" " ++ c.word ++ " ") ++ v.literal)
      (field ++ Sql.raw (" " ++ c.word ++ " ") ++ v'.literal) :=
  (hf.append (Sql.own_raw (.comparison c))).append h.literal

/-- A field matched against the expression of a value. -/
theorem alike_regex (negated : Bool) {field : Sql} (hf : Own o field) {v v' : FilterValue}
    (h : v.Alike o v') :
    Sql.Alike o
      (notIf negated (Sql.raw "match(" ++ field ++ Sql.raw ", " ++ v.pattern false ++ Sql.raw ")"))
      (notIf negated
        (Sql.raw "match(" ++ field ++ Sql.raw ", " ++ v'.pattern false ++ Sql.raw ")")) :=
  alike_notIf negated (((((Sql.own_raw .regexMatch).append hf).append
    (Sql.own_raw .spacedComma)).append (h.pattern false)).append (Sql.own_raw .rightParen))

theorem agree_scalarCondition {item item' : FilterItem} (h : item.Alike o item') {field : Sql} (hf : Own o field) {t t' : Test} (ht : t.Alike o t') :
    Agree (Sql.Alike o) (scalarCondition item field t) (scalarCondition item' field t') := by
  cases ht with
  | compare c hv => exact .ok (alike_compare c hf hv)
  | like negated hv => exact .ok (alike_ilikeSql negated hf (hv.pattern false))
  | contains negated hv => exact .ok (alike_ilikeSql negated hf (hv.pattern true))
  | regex negated hv => exact .ok (alike_regex negated hf hv)
  | member negated hv => exact .ok (alike_member negated hf hv)
  | presence negated =>
    rw [scalarCondition, scalarCondition, h.key]
    exact Agree.bind_same fun p hp => .ok (alike_notIf negated
      (((Sql.own_raw .jsonExists).append (own_path h.covered hp)).append (Sql.own_raw .rightParen)))
  | has negated hv =>
    rw [scalarCondition, scalarCondition, h.key, h.op]
    exact Agree.error _

theorem agree_condition {item item' : FilterItem} (h : item.Alike o item') :
    Agree (Sql.Alike o) (condition item) (condition item') := by
  have hscalar : ∀ {field}, Own o field → Agree (Sql.Alike o)
      (item.test >>= scalarCondition item field) (item'.test >>= scalarCondition item' field) :=
    fun hf => h.alikeTest.bind fun t t' ht => agree_scalarCondition h hf ht
  unfold condition
  rw [h.key, h.op]
  refine Agree.bind_same fun field hf => ?_
  have hfield : Own o field := own_accessor h.covered hf
  cases hop : item.op with
  | presence negated => exact agree_scalarCondition h hfield (.presence negated)
  | has negated =>
    refine Agree.ite (fun _ => ?_) fun _ => hscalar hfield
    exact (h.valueAs (by cases item.key.dataType <;> rfl)).bind fun v v' hv =>
      .ok (alike_hasSql negated hfield hv)
  | _ => exact Agree.ite (fun _ => .error _) fun _ => hscalar hfield

end Body

/-! ## The main table -/

namespace Schema

theorem alike_likeSql (s : Schema) {key : AttributeKey} (hk : o.Covers key) (negated : Bool)
    {a b : Sql} (h : Sql.Alike o a b) :
    Sql.Alike o (s.likeSql key negated a) (s.likeSql key negated b) := by
  unfold likeSql
  exact .ite (((Sql.own_raw (.bodyLike negated)).append h).append (Sql.own_raw .rightParen))
    (((own_column hk s).append (Sql.own_raw (.like s negated))).append h)

theorem alike_testSql (s : Schema) {key : AttributeKey} (hk : o.Covers key) {t t' : Test}
    (h : t.Alike o t') : Sql.Alike o (s.testSql key t) (s.testSql key t') := by
  have hcolumn : Own o (s.column key).sql := own_column hk s
  cases h with
  | compare c hv => exact Body.alike_compare c hcolumn hv
  | like negated hv => exact s.alike_likeSql hk negated (hv.pattern false)
  | contains negated hv => exact s.alike_likeSql hk negated (hv.pattern true)
  | regex negated hv => exact Body.alike_regex negated hcolumn hv
  | member negated hv => exact Body.alike_member negated hcolumn hv
  | presence negated => exact own_guard hk s negated
  | has negated hv => exact Body.alike_hasSql negated hcolumn hv

theorem agree_itemCondition (s : Schema) {item item' : FilterItem} (h : item.Alike o item') :
    Agree (Sql.Alike o) (s.itemCondition item) (s.itemCondition item') := by
  unfold itemCondition
  rw [h.key]
  exact Agree.ite (fun _ => Body.agree_condition h) fun _ =>
    h.alikeTest.bind fun t t' ht => .ok (s.alike_testSql h.covered ht)

end Schema

/-- The units have alike conditions and the same guard. -/
structure FilterUnit.Alike (o : Origin) (u u' : FilterUnit) : Prop where
  condition : Sql.Alike o u.condition u'.condition
  guard : u'.guard = u.guard
  own : ∀ g, u.guard = some g → Own o g

namespace FilterUnit

theorem Alike.conjuncts {u u' : FilterUnit} (h : u.Alike o u') :
    List.Forall₂ (Condition.Alike o) u.conjuncts u'.conjuncts := by
  unfold FilterUnit.conjuncts
  rw [h.guard]
  refine .cons (Sql.alike_atom h.condition) ?_
  cases hg : u.guard with
  | none => exact .nil
  | some g => exact .cons (Sql.alike_atom (h.own g hg)) .nil

theorem Alike.whole {u u' : FilterUnit} (h : u.Alike o u') : u.whole.Alike o u'.whole := by
  unfold FilterUnit.whole
  rw [h.guard]
  split
  · exact Sql.alike_atom h.condition
  · exact Sql.alike_group .and h.conjuncts

theorem alike_combine (op : Connective) {us us' : List FilterUnit}
    (h : List.Forall₂ (Alike o) us us') :
    List.Forall₂ (Condition.Alike o) (combine op us) (combine op us') := by
  cases op with
  | and => exact List.rel_flatMap h fun _ _ hu => hu.conjuncts
  | or =>
    cases h with
    | nil => exact .nil
    | cons hu ht =>
      cases ht with
      | nil => exact .cons hu.whole .nil
      | cons hu' ht =>
        refine .cons (Sql.alike_group .or ?_) .nil
        exact List.rel_map (fun _ _ hu => hu.whole) (.cons hu (.cons hu' ht))

end FilterUnit

/-- The sets have one connective, and items related by `R`. -/
structure FilterSet.Related (R : FilterItem → FilterItem → Prop) (set set' : FilterSet) :
    Prop where
  op : set'.op = set.op
  items : List.Forall₂ R set.items set'.items

namespace Schema

theorem agree_unit (s : Schema) {item item' : FilterItem} (h : item.Alike o item') :
    Agree (FilterUnit.Alike o) (s.unit item) (s.unit item') := by
  have hneeds : s.needsGuard item' = s.needsGuard item := by
    unfold needsGuard
    rw [h.key, h.op]
  unfold unit
  refine (s.agree_itemCondition h).bind fun a b hab => .ok ⟨hab, ?_, ?_⟩
  · rw [hneeds, h.key]
  · intro g hg
    split at hg
    · cases hg
      exact own_guard h.covered s false
    · cases hg

/-- The keys of a scope that may be written. -/
structure Scope.Covered (scope : Scope) (o : Origin) : Prop where
  groupBy : ∀ key ∈ scope.groupBy, o.Covers key
  aggregated : o.Covers scope.aggregated

theorem Scope.Covered.references {scope : Scope} (h : scope.Covered o) :
    ∀ key ∈ scope.references, o.Covers key := by
  intro key hm
  rcases List.mem_append.mp hm with hm | hm
  · exact h.groupBy key (List.mem_filter.mp hm).1
  · split at hm
    · rw [List.mem_singleton.mp hm]
      exact h.aggregated
    · cases hm

theorem own_referenceGuards (s : Schema) {scope : Scope} (h : scope.Covered o) :
    List.Forall₂ (Condition.Alike o)
      ((scope.references.filterMap s.referenceGuard).map .atom)
      ((scope.references.filterMap s.referenceGuard).map .atom) := by
  refine List.forall₂_same.mpr fun c hc => ?_
  obtain ⟨g, hg, rfl⟩ := List.mem_map.mp hc
  obtain ⟨key, hk, hguard⟩ := List.mem_filterMap.mp hg
  unfold referenceGuard at hguard
  split at hguard
  · cases hguard
  · cases hguard
    exact Sql.alike_atom (own_guard (h.references key hk) s false)

theorem agree_conditions (s : Schema) {filters filters' : Option FilterSet} {scope : Scope}
    (h : Option.Rel (FilterSet.Related fun item item' => item'.key = item.key ∧
      (scope.skips item.key = false → item.Alike o item')) filters filters')
    (hs : scope.Covered o) :
    Agree (List.Forall₂ (Condition.Alike o)) (s.conditions filters scope)
      (s.conditions filters' scope) := by
  have hcombine : ∀ op {items items'}, List.Forall₂ (fun item item' => item'.key = item.key ∧
      (scope.skips item.key = false → item.Alike o item')) items items' →
      Agree (List.Forall₂ (Condition.Alike o))
        (do
          let units ← (items.filter fun item => !scope.skips item.key).mapM s.unit
          return FilterUnit.combine op units ++
            (scope.references.filterMap s.referenceGuard).map .atom)
        (do
          let units ← (items'.filter fun item => !scope.skips item.key).mapM s.unit
          return FilterUnit.combine op units ++
            (scope.references.filterMap s.referenceGuard).map .atom) := by
    intro op items items' hi
    have hasked : List.Forall₂ (FilterItem.Alike o)
        (items.filter fun item => !scope.skips item.key)
        (items'.filter fun item => !scope.skips item.key) :=
      forall₂_filter hi (fun _ _ hab => by rw [hab.1]) fun _ _ hab hs =>
        hab.2 (Bool.not_eq_true' _ |>.mp hs)
    refine Agree.bind (.mapM (hasked.imp fun _ _ => s.agree_unit)) ?_
    exact fun us us' hu =>
      .ok (List.rel_append (FilterUnit.alike_combine op hu) (own_referenceGuards s hs))
  cases h with
  | none => exact hcombine .and .nil
  | @some set set' hset =>
    obtain ⟨op', items'⟩ := set'
    obtain rfl : op' = set.op := hset.op
    exact hcombine set.op hset.items

end Schema

/-! ## The lookup of fingerprints -/

inductive LabelTest.Alike (o : Origin) : LabelTest → LabelTest → Prop
  | compare (c : Comparison) {v v' : FilterValue} (h : v.Alike o v') :
      Alike o (.compare c v) (.compare c v')
  | like (negated anywhere : Bool) {v v' : FilterValue} (h : v.Alike o v') :
      Alike o (.like negated anywhere v) (.like negated anywhere v')
  | regex (negated : Bool) {a b : String} (h : o.text a b) :
      Alike o (.regex negated a) (.regex negated b)
  | member (negated : Bool) {items items' : List FilterValue}
      (h : (FilterValue.array items).Alike o (.array items')) :
      Alike o (.member negated items) (.member negated items')
  | presence (negated : Bool) : Alike o (.presence negated) (.presence negated)

/-- The operator of a test. -/
def Test.op : Test → FilterOperator
  | .compare c _ => .compare c
  | .like negated _ => .like negated
  | .contains negated _ => .contains negated
  | .regex negated _ => .regex negated
  | .member negated _ => .member negated
  | .presence negated => .presence negated
  | .has negated _ => .has negated

theorem op_of_test {item : FilterItem} {t : Test} (h : item.test = .ok t) : t.op = item.op := by
  have hvalue : ∀ f : FilterValue → Test, (∀ v, (f v).op = item.op) →
      (item.checkedValue >>= fun v => pure (f v)) = .ok t → t.op = item.op := by
    intro f hf hv
    cases hc : item.checkedValue with
    | error e => rw [hc] at hv; cases hv
    | ok v => rw [hc] at hv; exact Except.ok.inj hv ▸ hf v
  unfold FilterItem.test at h
  cases hop : item.op with
  | presence negated => rw [hop] at h; exact Except.ok.inj h ▸ rfl
  | member negated =>
    rw [hop] at h
    cases hc : item.checkedValue with
    | error e => rw [hc] at h; cases h
    | ok v =>
      rw [hc] at h
      cases v with
      | array items => exact Except.ok.inj h ▸ rfl
      | _ => cases h
  | compare c => rw [hop] at h; rw [← hop]; exact hvalue (.compare c) (fun _ => hop.symm) h
  | like negated => rw [hop] at h; rw [← hop]; exact hvalue (.like negated) (fun _ => hop.symm) h
  | contains negated =>
    rw [hop] at h; rw [← hop]; exact hvalue (.contains negated) (fun _ => hop.symm) h
  | regex negated => rw [hop] at h; rw [← hop]; exact hvalue (.regex negated) (fun _ => hop.symm) h
  | has negated => rw [hop] at h; rw [← hop]; exact hvalue (.has negated) (fun _ => hop.symm) h

def FilterOperator.isRegex : FilterOperator → Bool
  | .regex _ => true
  | _ => false

/-- Items of the lookup: their texts are compared in lower case, unless they are patterns. -/
structure FilterItem.AlikeInLookup (o : Origin) (item item' : FilterItem) : Prop extends
    item.Related o (fun v v' => v.masked = v'.masked ∧
      (item.op.isRegex = false → v.lowered.Alike o v'.lowered)) item' where
  pattern : item.op.isRegex = true → o.text item.value.plain item'.value.plain

theorem FilterItem.AlikeInLookup.labelTest {item item' : FilterItem}
    (h : item.AlikeInLookup o item') : Agree (LabelTest.Alike o) item.labelTest item'.labelTest := by
  unfold FilterItem.labelTest
  rw [h.key, h.op]
  have htest : Agree (fun t t' => t.Related (fun v v' => v.masked = v'.masked ∧
      (item.op.isRegex = false → v.lowered.Alike o v'.lowered)) t' ∧ t.op = item.op)
      item.test item'.test :=
    (h.test fun _ _ hv => hv.1).mono fun t t' ht _ hr => ⟨hr, op_of_test ht⟩
  refine htest.bind fun t t' ⟨ht, hop⟩ => ?_
  cases ht with
  | compare c hv => exact .ok (.compare c (hv.2 (hop ▸ rfl)))
  | like negated hv => exact .ok (.like negated false (hv.2 (hop ▸ rfl)))
  | contains negated hv => exact .ok (.like negated true (hv.2 (hop ▸ rfl)))
  | regex negated hv => exact .ok (.regex negated (h.pattern (hop ▸ rfl)))
  | member negated hv => exact .ok (.member negated (hv.2 (hop ▸ rfl)))
  | presence negated => exact .ok (.presence negated)
  | has negated hv => exact Agree.error _

namespace LabelTest

variable {key : String}

theorem own_loweredLabel (hk : o.text key key) : Own o (loweredLabel key) :=
  ((Sql.own_raw .loweredLabel).append (Sql.alike_literal hk)).append (Sql.own_raw .rightParen)

theorem alike_predicate (hk : o.text key key) {t t' : LabelTest} (h : t.Alike o t') :
    Sql.Alike o (t.predicate key) (t'.predicate key) := by
  have hlabel : Own o (loweredLabel key) := own_loweredLabel hk
  cases h with
  | compare c hv => exact Body.alike_compare c hlabel hv
  | like negated anywhere hv =>
    exact (hlabel.append (Sql.own_raw (.labelLike negated))).append (hv.pattern anywhere)
  | regex negated hp =>
    exact ((((Sql.own_raw (.labelMatch negated)).append (Sql.alike_literal hk)).append
      (Sql.own_raw .rightParenComma)).append (Sql.alike_literal hp)).append
        (Sql.own_raw .rightParen)
  | member negated hv => exact Body.alike_member negated hlabel hv
  | presence negated =>
    exact ((Sql.own_raw (.labelPresence negated)).append (Sql.alike_literal hk)).append
      (Sql.own_raw .rightParen)

theorem alike_hintSql (negated : Bool) {as bs : List String} (h : List.Forall₂ o.text as bs) :
    Sql.Alike o (hintSql negated as) (hintSql negated bs) := by
  refine (Sql.own_raw (.labelHint negated)).append (Sql.alike_quoted (.cons (.fixed .wildcard) ?_))
  exact List.rel_flatMap h fun _ _ hab => .cons (.given hab) (.cons (.fixed .wildcard) .nil)

theorem alike_hint (hk : o.text key key) {t t' : LabelTest} (h : t.Alike o t') :
    Option.Rel (Condition.Alike o) (t.hint key) (t'.hint key) := by
  have hvalue : ∀ negated {v v' : FilterValue}, v.Alike o v' →
      (Condition.atom (hintSql negated [key, v.plain])).Alike o
        (.atom (hintSql negated [key, v'.plain])) := fun negated _ _ hv =>
    Sql.alike_atom (alike_hintSql negated (.cons hk (.cons hv.plain .nil)))
  cases h with
  | compare c hv => cases c <;> first | exact .some (hvalue _ hv) | exact .none
  | like negated anywhere hv => exact .some (hvalue negated hv)
  | regex => exact .none
  | member negated hv =>
    obtain ⟨_, he, hs⟩ := hv.array
    cases FilterValue.array.inj he
    cases negated with
    | true => cases hs <;> exact .none
    | false =>
      cases hs with
      | nil => exact .none
      | cons hi ht =>
        refine .some (Sql.alike_group .or ?_)
        exact List.rel_map (fun _ _ hv => hvalue false hv) (.cons hi ht)
  | presence negated =>
    cases negated with
    | false => exact .some (Sql.alike_atom (alike_hintSql false (.cons hk .nil)))
    | true => exact .none

theorem alike_conditions (hk : o.text key key) {t t' : LabelTest} (h : t.Alike o t') :
    List.Forall₂ (Condition.Alike o) (t.conditions key) (t'.conditions key) :=
  .cons (Sql.alike_atom (alike_predicate hk h)) (forall₂_toList (alike_hint hk h))

end LabelTest

/-- The lookups have the same buckets and grouped keys, and tests that are alike. -/
structure ResourceLookup.Alike (o : Origin) (l l' : ResourceLookup) : Prop where
  buckets : l'.buckets = l.buckets
  tests : List.Forall₂ (fun a b => a.1 = b.1 ∧ o.text a.1 a.1 ∧ a.2.Alike o b.2) l.tests l'.tests
  presentKeys : l'.presentKeys = l.presentKeys
  covered : ∀ key ∈ l.presentKeys, o.text key key

namespace ResourceLookup

theorem own_keyCondition {key : String} (hk : o.text key key) :
    (keyCondition key).Alike o (keyCondition key) :=
  Sql.alike_group .and (LabelTest.alike_conditions hk (.presence false))

theorem Alike.conditions {l l' : ResourceLookup} (h : l.Alike o l') :
    List.Forall₂ (Condition.Alike o) l.conditions l'.conditions := by
  unfold ResourceLookup.conditions
  rw [h.buckets, h.presentKeys]
  refine List.rel_append (List.rel_append ?_ ?_) ?_
  · cases l.buckets with
    | none => exact .nil
    | some b =>
      have hbucket : ∀ {w : String}, Sql.Wording w → ∀ n : Int,
          (Condition.atom (Sql.raw w ++ [.int n] ++ Sql.raw ")")).Alike o
            (.atom (Sql.raw w ++ [.int n] ++ Sql.raw ")")) := fun hw n =>
        Sql.alike_atom (((Sql.own_raw hw).append (Sql.own_int n)).append (Sql.own_raw .rightParen))
      exact .cons (hbucket .bucketFirst b.first) (.cons (hbucket .bucketLast b.last) .nil)
  · refine List.rel_flatMap h.tests ?_
    rintro ⟨key, t⟩ ⟨key', t'⟩ ⟨rfl, hk, ht⟩
    exact LabelTest.alike_conditions hk ht
  · split
    · exact .nil
    · refine .cons (Sql.alike_padded (List.forall₂_same.mpr ?_)) .nil
      exact List.forall_mem_map.mpr fun key hm => own_keyCondition (h.covered key hm)

theorem Alike.sql {l l' : ResourceLookup} (h : l.Alike o l') : Sql.Alike o l.sql l'.sql :=
  ((Sql.own_raw .fingerprints).append (Sql.alike_conjunction h.conditions)).append
    (Sql.own_raw .twoRightParens)

end ResourceLookup

end PanelQuery
