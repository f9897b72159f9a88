import PanelQuery.Metrics.Compile
import PanelQuery.Proofs.Agree
import PanelQuery.Proofs.Sql.Measure
import PanelQuery.Proofs.Sql.Precedence

/-! # Parts of metrics statements without widths and divisors

The numbers in filters, time bounds and conditions on the value are compared with something, so none
of them is the width of an interval or a divisor, and neither is any number that a request brings
along. -/

namespace PanelQuery

open Sql (Quiet Measured Condition)
open Sql.Precedence (partsSql_eq_join)

/-! ## Values -/

mutual

theorem FilterValue.quiet_literal : ∀ v : FilterValue, Quiet v.literal
  | .null => .raw rfl (by decide)
  | .bool b => by cases b <;> exact .raw rfl (by decide)
  | .int n => .int _
  | .float x => .float x
  | .text s => .literal s
  | .array items =>
    ((FilterValue.quiet_itemLiterals items).after (.raw rfl (by decide))).before
      (.raw rfl (by decide))

theorem FilterValue.quiet_itemLiterals : ∀ items : List FilterValue,
    Quiet (FilterValue.itemLiterals items)
  | [] => .nil
  | [item] => FilterValue.quiet_literal item
  | item :: next :: items =>
    ((FilterValue.quiet_literal item).append (.raw rfl (by decide))).append
      (FilterValue.quiet_itemLiterals (next :: items))

end

theorem FilterValue.quiet_pattern (v : FilterValue) (anywhere : Bool) :
    Quiet (v.pattern anywhere) := .ite (fun _ => .quoted _) fun _ => .quoted _

theorem Having.quiet_sql (h : Having) : Quiet h.sql := by
  refine Measured.append (.piece ?_) h.value.quiet_literal
  cases h.op with
  | compare c => cases c <;> decide +kernel
  | member negated => cases negated <;> decide +kernel

theorem quiet_havingConditions (having : List Having) : Quiet (havingConditions having) :=
  .join (.raw rfl (by decide)) (List.forall_mem_map.mpr fun h _ => h.quiet_sql)

theorem quiet_conjunction {conditions : List Condition} (h : ∀ c ∈ conditions, Quiet c.sql) :
    Quiet (Sql.conjunction conditions) := by
  rw [Sql.conjunction, partsSql_eq_join]
  exact .join (.piece (by decide +kernel)) (List.forall_mem_map.mpr h)

namespace Metrics

/-! ## Conditions on labels -/

theorem quiet_labelSql (key : String) : Quiet (labelSql key) :=
  ((Measured.literal key).after (.raw rfl (by decide))).before (.raw rfl (by decide))

theorem quiet_labelCall (function key : String) {literal : Sql} (h : Quiet literal) :
    Quiet (labelCall function key literal) :=
  ((((Measured.closing function rfl rfl (by decide) (by decide)).append
    (quiet_labelSql key)).append (.raw rfl (by decide))).append h).append (.raw rfl (by decide))

theorem quiet_labelPredicate? {key : String} {t : Test} {p : Sql}
    (h : labelPredicate? key t = some p) : Quiet p := by
  have hlabel := quiet_labelSql key
  have hpattern : ∀ {function : String} {v : FilterValue},
      ((patternValue? v).map fun v => labelCall function key v.literal) = some p → Quiet p := by
    intro function v hp
    obtain ⟨u, -, rfl⟩ := Option.map_eq_some_iff.mp hp
    exact quiet_labelCall function key u.quiet_literal
  cases t with
  | compare c v =>
    cases h
    refine (hlabel.append (.piece ?_)).append v.quiet_literal
    cases c <;> decide +kernel
  | member negated items =>
    cases h
    have hword : Quiet (Sql.raw (if negated then " NOT IN " else " IN ")) := by
      cases negated <;> exact .raw rfl (by decide)
    exact (hlabel.append hword).append (FilterValue.quiet_literal _)
  | like negated v | regex negated v => exact hpattern h
  | contains negated v =>
    cases h
    exact quiet_labelCall _ key (v.quiet_pattern true)
  | presence negated =>
    cases h
    exact ((Measured.raw_append _ rfl (by decide) (by decide)).append (.literal key)).append
      (.raw rfl (by decide))
  | has negated v => cases h

/-- A condition comes from a predicate of one of the items. -/
theorem labelConditions_ok {items : List FilterItem} {conditions : List Condition}
    (h : labelConditions items = .ok conditions) :
    ∃ ps, List.Forall₂ (fun item p => labelCondition item = .ok p) items ps ∧
      conditions = (ps.filterMap id).map .atom := by
  obtain ⟨ps, hp, h⟩ := ok_of_bind h
  cases h
  exact ⟨ps, mapM_ok_iff.mp hp, rfl⟩

/-- Arrays are no labels. -/
theorem labelCondition_ok {item : FilterItem} {p : Option Sql}
    (h : labelCondition item = .ok p) :
    ∃ t, item.test = .ok t ∧ labelPredicate? item.key.name t = p ∧ ∀ negated v, t ≠ .has negated v := by
  obtain ⟨t, ht, h⟩ := ok_of_bind h
  refine ⟨t, ht, ?_⟩
  cases t <;> cases h <;> exact ⟨rfl, nofun⟩

theorem quiet_labelConditions {items : List FilterItem} {conditions : List Condition}
    (h : labelConditions items = .ok conditions) : ∀ c ∈ conditions, Quiet c.sql := by
  obtain ⟨ps, hp, rfl⟩ := labelConditions_ok h
  rw [List.forall_mem_map]
  intro p hm
  obtain ⟨item, -, hi⟩ := forall₂_exists_left hp (by simpa using hm : some p ∈ ps)
  obtain ⟨t, -, ht, -⟩ := labelCondition_ok hi
  rw [Condition.sql]
  exact quiet_labelPredicate? ht

/-! ## Lookups -/

namespace SeriesLookup

/-- The conditions on labels. -/
def labelConditions : SeriesLookup → List Condition
  | .single _ _ _ conditions | .tiered _ _ _ conditions => conditions

theorem quiet_sql {l : SeriesLookup} (h : ∀ c ∈ l.labelConditions, Quiet c.sql) : Quiet l.sql := by
  have hcolumn : ∀ (name : String) {w : String} {cs : List Char}, w = String.ofList cs →
      Sql.Role.after? cs = none → Quiet (labelSql name ++ [.fixed " as ", .name name, .fixed w]) :=
    fun name _ _ hw hr => (quiet_labelSql name).append
      (Measured.append (a := Sql.raw " as ") (.raw rfl (by decide))
        (Measured.append (a := [.name name]) (.name name) (.raw hw hr)))
  have hmetric : ∀ metric, Quiet (metricCondition metric).sql := fun metric =>
    (Measured.literal metric).after (.raw rfl (by decide))
  have hconditions : ∀ c ∈ l.conditions, Quiet c.sql := by
    cases l with
    | single metric delta labels conditions =>
      have htemporality : Quiet (Sql.raw (if delta then "temporality = 'Delta' "
          else "temporality IN ['Cumulative', 'Unspecified']")) := by
        cases delta <;> exact .raw rfl (by decide)
      exact List.forall_mem_cons.mpr ⟨hmetric metric, List.forall_mem_cons.mpr ⟨htemporality, h⟩⟩
    | tiered metric tier keys conditions =>
      exact List.forall_mem_cons.mpr ⟨hmetric metric,
        List.forall_mem_cons.mpr ⟨.closing _ rfl rfl (by decide) (by decide),
        List.forall_mem_cons.mpr ⟨(Measured.int _).after (.raw rfl (by decide)),
        List.forall_mem_cons.mpr ⟨(Measured.int _).after (.raw rfl (by decide)), h⟩⟩⟩⟩
  have hselect : Quiet l.selectSql := by
    cases l with
    | single metric delta labels conditions =>
      cases labels with
      | all => exact .raw rfl (by decide)
      | keys names =>
        refine (Measured.flatMap fun name _ => ?_).after (.raw rfl (by decide))
        rw [List.append_assoc]
        exact (hcolumn name rfl (by decide)).after (.raw rfl (by decide))
    | tiered metric tier names conditions =>
      exact (Measured.flatMap fun name _ => hcolumn name rfl (by decide)).after
        (.raw rfl (by decide))
  have hfrom : Quiet l.fromSql := by
    cases l with
    | single => exact .closing _ rfl rfl (by decide) (by decide)
    | tiered metric tier =>
      rw [fromSql]
      cases tier.series <;> rw [SeriesTable.name] <;>
        exact .closing _ rfl rfl (by decide) (by decide)
  exact ((hselect.append hfrom).append (.raw rfl (by decide))).append
    (quiet_conjunction hconditions)

end SeriesLookup

/-! ## Columns, groups and orders -/

theorem quiet_tagSql (tag : String) : Quiet (tagSql tag) := .name tag

theorem quiet_tagList (sep : String) (hs : Quiet (Sql.raw sep)) (tags : List String) :
    Quiet (tagList sep tags) :=
  .join hs (List.forall_mem_map.mpr fun tag _ => quiet_tagSql tag)

theorem Lead.quiet_sql (lead : Lead) : Quiet lead.sql := by
  have hselect : ∀ keys, Quiet (groupSelect keys) := fun keys =>
    .ite (fun _ => .nil) fun _ =>
      (quiet_tagList "," (.raw rfl (by decide)) keys).before (.raw rfl (by decide))
  cases lead with
  | tags keys => exact (hselect keys).before (.raw rfl (by decide))
  | seriesTags keys =>
    exact ((hselect keys).after (.raw rfl (by decide))).before (.raw rfl (by decide))
  | spacedTags keys =>
    exact .flatMap fun tag _ => (quiet_tagSql tag).before (.raw rfl (by decide))
  | anyTags keys =>
    refine ((Measured.join (.raw rfl (by decide)) (List.forall_mem_map.mpr fun tag _ => ?_)).after
      (.raw rfl (by decide))).before (.raw rfl (by decide))
    exact ((((quiet_tagSql tag).after (.raw rfl (by decide))).append
      (.raw rfl (by decide))).append (quiet_tagSql tag)).append (.raw rfl (by decide))
  | anyLabels => exact .raw rfl (by decide)
  | anyFullLabels => exact .raw rfl (by decide)
  | fullLabels => exact .raw rfl (by decide)
  | renamedLabels => exact .raw rfl (by decide)

theorem Grouping.quiet_sql (grouping : Grouping) : Quiet grouping.sql := by
  have htime : ∀ (sep : String) (_ : Quiet (Sql.raw sep)) (keys : List String),
      Quiet (tagsAndTime sep keys) := by
    intro sep hs keys
    refine .join hs ?_
    rw [List.forall_mem_append, List.forall_mem_map]
    exact ⟨fun tag _ => quiet_tagSql tag, List.forall_mem_singleton.mpr (.raw rfl (by decide))⟩
  cases grouping with
  | time => exact .raw rfl (by decide)
  | tags keys => exact htime "," (.raw rfl (by decide)) keys
  | sets keys =>
    exact ((((htime ", " (.raw rfl (by decide)) keys).after (.raw rfl (by decide))).append
      (.raw rfl (by decide))).append (quiet_tagList ", " (.raw rfl (by decide)) keys)).append
      (.raw rfl (by decide))
  | series => exact .raw rfl (by decide)
  | seriesTags keys => exact (htime "," (.raw rfl (by decide)) keys).after (.raw rfl (by decide))
  | labels => exact .raw rfl (by decide)

theorem Ordering.quiet_sql (order : Ordering) : Quiet order.sql := by
  have htag : ∀ t : OrderedTag, Quiet t.sql := fun t =>
    Measured.append (a := [.name t.tag]) (.name _)
      (Measured.append (a := Sql.raw " ") (.raw rfl (by decide)) (.direction _))
  have hlist : ∀ tags, Quiet (OrderedTag.listSql tags) := fun tags =>
    .ite (fun _ => .nil) fun _ =>
      (Measured.join (.raw rfl (by decide)) (List.forall_mem_map.mpr fun t _ => htag t)).before
        (.raw rfl (by decide))
  cases order with
  | tags keys => exact (hlist keys).before (.raw rfl (by decide))
  | series => exact .raw rfl (by decide)
  | seriesTags keys => exact ((hlist keys).after (.raw rfl (by decide))).before (.raw rfl (by decide))
  | labels => exact .raw rfl (by decide)
  | spacedTags keys =>
    refine .join (.raw rfl (by decide)) ?_
    rw [List.forall_mem_append, List.forall_mem_map]
    exact ⟨fun t _ => htag t, List.forall_mem_singleton.mpr (.raw rfl (by decide))⟩

end Metrics

end PanelQuery
