import PanelQuery.Proofs.Statement.Alike

/-! # Metrics statements of queries with alike filters

The conditions on labels sit at the bottom of a metrics statement, in the lookup of series. Every
stage above it passes them on as they are, so the statements of a query and of the query with alike
filters are alike. -/

namespace PanelQuery.Metrics

open Sql (Origin Own Condition)

variable {o : Origin}

/-! ## Conditions on labels -/

theorem own_labelSql {key : String} (hk : o.text key key) : Own o (labelSql key) :=
  ((Sql.own_raw .label).append (Sql.alike_literal hk)).append (Sql.own_raw .rightParen)

theorem alike_labelCall {f key : String} (hf : f ∈ ["like", "notLike", "match", "not match"])
    (hk : o.text key key) {a b : Sql} (h : Sql.Alike o a b) :
    Sql.Alike o (labelCall f key a) (labelCall f key b) :=
  ((((Sql.own_raw (.labelFunction hf)).append (own_labelSql hk)).append
    (Sql.own_raw .spacedComma)).append h).append (Sql.own_raw .rightParen)

theorem alike_patternValue? {v v' : FilterValue} (h : v.Alike o v') :
    Option.Rel (FilterValue.Alike o) (patternValue? v) (patternValue? v') := by
  have hsingle : patternValue? v = some v → patternValue? v' = some v' →
      Option.Rel (FilterValue.Alike o) (patternValue? v) (patternValue? v') := fun hv hv' => by
    rw [hv, hv']
    exact .some h
  cases v with
  | array items =>
    obtain ⟨items', rfl, hs⟩ := h.array
    cases hs with
    | nil => exact .none
    | cons hi _ => exact .some hi
  | _ =>
    have hshape := h.shape
    cases v' <;> first | exact hsingle rfl rfl | cases hshape

theorem alike_labelPredicate? {key : String} (hk : o.text key key) {t t' : Test}
    (h : t.Alike o t') :
    Option.Rel (Sql.Alike o) (labelPredicate? key t) (labelPredicate? key t') := by
  have hlabel : Own o (labelSql key) := own_labelSql hk
  have hpattern : ∀ {f : String}, f ∈ ["like", "notLike", "match", "not match"] →
      ∀ {v v' : FilterValue}, v.Alike o v' →
      Option.Rel (Sql.Alike o) ((patternValue? v).map fun v => labelCall f key v.literal)
        ((patternValue? v').map fun v => labelCall f key v.literal) := fun hf _ _ hv =>
    optionRel_map (alike_patternValue? hv) fun _ _ hu => alike_labelCall hf hk hu.literal
  cases h with
  | compare c hv => exact .some (Body.alike_compare c hlabel hv)
  | member negated hv => exact .some (Body.alike_member negated hlabel hv)
  | like negated hv => exact hpattern (by cases negated <;> simp) hv
  | contains negated hv =>
    exact .some (alike_labelCall (by cases negated <;> simp) hk (hv.pattern true))
  | regex negated hv => exact hpattern (by cases negated <;> simp) hv
  | presence negated =>
    exact .some (((Sql.own_raw (.labelKeys negated)).append (Sql.alike_literal hk)).append
      (Sql.own_raw .rightParen))
  | has negated hv => exact .none

theorem agree_labelCondition {item item' : FilterItem} (h : item.Alike o item') :
    Agree (Option.Rel (Sql.Alike o)) (labelCondition item) (labelCondition item') := by
  unfold labelCondition
  rw [h.key, h.op]
  refine h.alikeTest.bind fun t t' ht => ?_
  have hpredicate := alike_labelPredicate? h.covered.text ht
  cases ht with
  | has negated hv => exact Agree.error _
  | _ => exact .ok hpredicate

theorem agree_labelConditions {items items' : List FilterItem}
    (h : List.Forall₂ (FilterItem.Alike o) items items') :
    Agree (List.Forall₂ (Condition.Alike o)) (labelConditions items) (labelConditions items') := by
  refine (Agree.mapM (h.imp fun _ _ => agree_labelCondition)).bind fun cs cs' hc => .ok ?_
  have hsome : List.Forall₂ (Sql.Alike o) (cs.filterMap id) (cs'.filterMap id) :=
    List.rel_filterMap (R := Option.Rel (Sql.Alike o)) (fun _ _ hab => hab) hc
  rw [List.forall₂_map_left_iff, List.forall₂_map_right_iff]
  exact hsome.imp fun _ _ => Sql.alike_atom

/-! ## Lookups -/

/-- The lookups are over the same series, apart from alike conditions. -/
inductive SeriesLookup.Alike (o : Origin) : SeriesLookup → SeriesLookup → Prop
  | single {metric : String} (delta : Bool) {labels : LookupLabels} {cs cs' : List Condition}
      (hm : o.text metric metric)
      (hl : ∀ names, labels = .keys names → ∀ n ∈ names, o.name n ∧ o.text n n)
      (h : List.Forall₂ (Condition.Alike o) cs cs') :
      Alike o (.single metric delta labels cs) (.single metric delta labels cs')
  | tiered {metric : String} (tier : Tier) {names : List String} {cs cs' : List Condition}
      (hm : o.text metric metric) (hn : ∀ n ∈ names, o.name n ∧ o.text n n)
      (h : List.Forall₂ (Condition.Alike o) cs cs') :
      Alike o (.tiered metric tier names cs) (.tiered metric tier names cs')

namespace SeriesLookup

theorem own_metricCondition {metric : String} (hm : o.text metric metric) :
    (metricCondition metric).Alike o (metricCondition metric) :=
  Sql.alike_atom ((Sql.own_raw .metricName).append (Sql.alike_literal hm))

/-- A label under its own name. -/
theorem own_labelColumn {n w : String} (hw : Sql.Wording w) (hn : o.name n ∧ o.text n n) :
    Own o (labelSql n ++ [.fixed " as ", .name n, .fixed w]) :=
  (own_labelSql hn.2).append (.cons (.fixed .asName) (.cons (.name hn.1) (.cons (.fixed hw) .nil)))

theorem Alike.sql {l l' : SeriesLookup} (h : l.Alike o l') : Sql.Alike o l.sql l'.sql := by
  cases h with
  | @single metric delta labels cs cs' hm hl hc =>
    have hselect : Sql.Alike o (SeriesLookup.single metric delta labels cs).selectSql
        (SeriesLookup.single metric delta labels cs').selectSql := by
      cases labels with
      | all => exact Sql.own_raw .selectLabels
      | keys names =>
        refine (Sql.own_raw .selectBlank).append (Sql.own_flatMap fun n hn => ?_)
        rw [List.append_assoc]
        exact (Sql.own_raw .blank).append (own_labelColumn .comma (hl names rfl n hn))
    have hconditions : List.Forall₂ (Condition.Alike o)
        (SeriesLookup.single metric delta labels cs).conditions
        (SeriesLookup.single metric delta labels cs').conditions :=
      .cons (own_metricCondition hm)
        (.cons (Sql.alike_atom (Sql.own_raw (.singleTemporality delta))) hc)
    exact ((hselect.append (Sql.own_raw .fromSingle)).append (Sql.own_raw .whereClause)).append
      (Sql.alike_conjunction hconditions)
  | @tiered metric tier names cs cs' hm hn hc =>
    have hselect : Own o (SeriesLookup.tiered metric tier names cs).selectSql :=
      (Sql.own_raw .selectDistinct).append
        (Sql.own_flatMap fun n h => own_labelColumn .spacedComma (hn n h))
    have hconditions : List.Forall₂ (Condition.Alike o)
        (SeriesLookup.tiered metric tier names cs).conditions
        (SeriesLookup.tiered metric tier names cs').conditions :=
      .cons (own_metricCondition hm)
        (.cons (Sql.alike_atom (Sql.own_raw (.tierTemporality tier.temporality)))
          (.cons (Sql.alike_atom ((Sql.own_raw .seriesFirst).append (Sql.own_int _)))
            (.cons (Sql.alike_atom ((Sql.own_raw .seriesLast).append (Sql.own_int _))) hc)))
    exact ((hselect.append (Sql.own_raw (.fromTiered tier.series))).append
      (Sql.own_raw .whereClause)).append (Sql.alike_conjunction hconditions)

end SeriesLookup

/-! ## Columns of a stage -/

theorem own_tagList {sep : String} (hs : Sql.Wording sep) {tags : List String}
    (h : ∀ t ∈ tags, o.name t) : Own o (tagList sep tags) :=
  Sql.own_join_map hs fun t ht => Sql.own_name (h t ht)

/-- The group keys that a lead writes. -/
def Lead.keys : Lead → List String
  | .tags keys | .seriesTags keys | .spacedTags keys | .anyTags keys => keys
  | .anyLabels | .anyFullLabels | .fullLabels | .renamedLabels => []

theorem own_lead (lead : Lead) (h : ∀ t ∈ lead.keys, o.name t) : Own o lead.sql := by
  have hselect : Own o (Lead.groupSelect lead.keys) := by
    unfold Lead.groupSelect
    exact .ite .nil ((own_tagList .comma h).append (Sql.own_raw .spacedComma))
  cases lead with
  | tags keys => exact hselect.append (Sql.own_raw .blank)
  | seriesTags keys =>
    exact ((Sql.own_raw .fingerprint).append hselect).append (Sql.own_raw .blank)
  | spacedTags keys =>
    exact Sql.own_flatMap fun t ht => (Sql.own_name (h t ht)).append (Sql.own_raw .spacedComma)
  | anyTags keys =>
    refine ((Sql.own_raw .fingerprint).append (Sql.own_join_map .blank fun t ht => ?_)).append
      (Sql.own_raw .blank)
    have htag : Own o (tagSql t) := Sql.own_name (h t ht)
    exact (((Sql.own_raw .anyOpen).append htag).append (Sql.own_raw .anyAs)).append htag |>.append
      (Sql.own_raw .comma)
  | anyLabels => exact Sql.own_raw .anyLabels
  | anyFullLabels => exact Sql.own_raw .anyFullLabels
  | fullLabels => exact Sql.own_raw .fullLabels
  | renamedLabels => exact Sql.own_raw .renamedLabels

theorem own_time (time : TimeColumn) : Own o time.sql := by
  have hinterval : ∀ {column : String}, column = "timestamp_ms" ∨ column = "unix_milli" →
      ∀ seconds, Own o (intervalSql column seconds) := fun hc seconds =>
    ((Sql.own_raw (.interval hc)).append (Sql.own_int seconds)).append
      (Sql.own_raw .intervalSeconds)
  cases time with
  | carried => exact Sql.own_raw .time
  | interval seconds => exact (hinterval (.inl rfl) seconds).append (Sql.own_raw .asTime)
  | tierInterval seconds => exact (hinterval (.inr rfl) seconds).append (Sql.own_raw .asTime)
  | hour => exact Sql.own_raw .hour

/-- The group keys that a grouping writes. -/
def Grouping.keys : Grouping → List String
  | .tags keys | .sets keys | .seriesTags keys => keys
  | .time | .series | .labels => []

theorem own_grouping (grouping : Grouping) (h : ∀ t ∈ grouping.keys, o.name t) :
    Own o grouping.sql := by
  have htime : ∀ {sep : String}, Sql.Wording sep →
      Own o (Grouping.tagsAndTime sep grouping.keys) := by
    intro sep hs
    refine Sql.own_join hs ?_
    rw [List.forall_mem_append, List.forall_mem_map]
    exact ⟨fun t ht => Sql.own_name (h t ht),
      List.forall_mem_singleton.mpr (Sql.own_raw .time)⟩
  cases grouping with
  | time => exact Sql.own_raw .time
  | tags keys => exact htime .comma
  | sets keys =>
    exact ((((Sql.own_raw .groupingSets).append (htime .spacedComma)).append
      (Sql.own_raw .groupingNext)).append (own_tagList .spacedComma h)).append
        (Sql.own_raw .groupingClose)
  | series => exact Sql.own_raw .seriesTime
  | seriesTags keys => exact (Sql.own_raw .fingerprint).append (htime .comma)
  | labels => exact Sql.own_raw .labelsTime

/-- The group keys that an order writes. -/
def Ordering.keys : Ordering → List OrderedTag
  | .tags keys | .seriesTags keys | .spacedTags keys => keys
  | .series | .labels => []

theorem own_ordering {order : Ordering} (h : ∀ t ∈ order.keys, o.name t.tag) :
    Own o order.sql := by
  have htag : ∀ t ∈ order.keys, Own o t.sql := fun t ht =>
    .cons (.name (h t ht)) (.cons (.fixed .blank) (Sql.own_direction t.direction))
  have hlist : Own o (OrderedTag.listSql order.keys) := by
    unfold OrderedTag.listSql
    exact .ite .nil ((Sql.own_join_map .comma htag).append (Sql.own_raw .comma))
  cases order with
  | tags keys => exact hlist.append (Sql.own_raw .blankTime)
  | series => exact Sql.own_raw .seriesSpacedTime
  | seriesTags keys =>
    exact ((Sql.own_raw .fingerprint).append hlist).append (Sql.own_raw .blankTime)
  | labels => exact Sql.own_raw .labelsTime
  | spacedTags keys =>
    refine Sql.own_join .spacedComma ?_
    rw [List.forall_mem_append, List.forall_mem_map]
    exact ⟨htag, List.forall_mem_singleton.mpr (Sql.own_raw .timeAscending)⟩

/-! ## Stages -/

/-- The stages are built in the same way over alike lookups. -/
inductive Stage.Alike (o : Origin) : Stage → Stage → Prop
  | samples {range : SampleRange} {lead : Lead} (time : TimeColumn) {value : Sql}
      {l l' : SeriesLookup} {grouping : Grouping} {order : Ordering}
      (hm : o.text range.metric range.metric) (hl : ∀ t ∈ lead.keys, o.name t) (hv : Own o value)
      (h : l.Alike o l') (hg : ∀ t ∈ grouping.keys, o.name t)
      (ho : ∀ t ∈ order.keys, o.name t.tag) :
      Alike o (.samples range lead time value l grouping order)
        (.samples range lead time value l' grouping order)
  | rates {lead : Lead} (time : TimeColumn) (perMinute wide : Bool) {s s' : Stage}
      (hl : ∀ t ∈ lead.keys, o.name t) (h : Alike o s s') :
      Alike o (.rates lead time perMinute wide s) (.rates lead time perMinute wide s')
  | across {tags : List String} (time : TimeColumn) {value : Sql} {s s' : Stage}
      {grouping : Grouping} (dropNaN : Bool) {order : Ordering} (ht : ∀ t ∈ tags, o.name t)
      (hv : Own o value) (h : Alike o s s') (hg : ∀ t ∈ grouping.keys, o.name t)
      (ho : ∀ t ∈ order.keys, o.name t.tag) :
      Alike o (.across tags time value s grouping dropNaN order)
        (.across tags time value s' grouping dropNaN order)
  | series (tier : Tier) {metric : String} {tags : List String} (step : Int) {value : Sql}
      {l l' : SeriesLookup} (hm : o.text metric metric) (ht : ∀ t ∈ tags, o.name t)
      (hv : Own o value) (h : l.Alike o l') :
      Alike o (.series tier metric tags step value l) (.series tier metric tags step value l')
  | counter {tags : List String} (increase perMinute : Bool) {s s' : Stage}
      (ht : ∀ t ∈ tags, o.name t) (h : Alike o s s') :
      Alike o (.counter tags increase perMinute s) (.counter tags increase perMinute s')
  | space {tags : List String} {f : String} {s s' : Stage} {grouping : Grouping}
      {order : Ordering} (ht : ∀ t ∈ tags, o.name t)
      (hf : Sql.Wording ("ts, " ++ f ++ "(per_series_value) as value FROM (")) (h : Alike o s s')
      (hg : ∀ t ∈ grouping.keys, o.name t) (ho : ∀ t ∈ order.keys, o.name t.tag) :
      Alike o (.space tags f s grouping order) (.space tags f s' grouping order)
  | quantile {tags : List String} (q : Quantile) {s s' : Stage} {order : Ordering}
      (ht : ∀ t ∈ tags, o.name t) (h : Alike o s s') (ho : ∀ t ∈ order.keys, o.name t.tag) :
      Alike o (.quantile tags q s order) (.quantile tags q s' order)

theorem Stage.Alike.ite {p : Prop} [Decidable p] {s s' t t' : Stage} (h : s.Alike o s')
    (h' : t.Alike o t') : (if p then s else t).Alike o (if p then s' else t') := by
  split
  · exact h
  · exact h'

theorem alike_joinSql {table : String} (ht : Sql.Wording (" FROM " ++ table ++ " INNER JOIN ("))
    {l l' : SeriesLookup} (h : l.Alike o l') :
    Sql.Alike o (Stage.joinSql table l) (Stage.joinSql table l') :=
  ((Sql.own_raw ht).append h.sql).append (Sql.own_raw .using)

theorem own_rangeSql {range : SampleRange} (hm : o.text range.metric range.metric) :
    Own o (Stage.rangeSql range) :=
  (((((Sql.own_raw .metricName).append (Sql.alike_literal hm)).append
    (Sql.own_raw .timestampFirst)).append (Sql.own_int _)).append
      (Sql.own_raw .timestampLast)).append (Sql.own_int _)

theorem own_rateSql (perMinute : Bool) : Own o (rateSql perMinute) :=
  Sql.own_raw (.rate perMinute rfl)

theorem own_counterSql (increase perMinute : Bool) : Own o (counterSql increase perMinute) :=
  Sql.own_raw (.counter increase perMinute rfl)

theorem own_quantileSql (q : Quantile) : Own o (quantileSql q) := Sql.own_raw (.histogram q)

theorem Stage.Alike.sql {s s' : Stage} (h : s.Alike o s') : Sql.Alike o s.sql s'.sql := by
  induction h with
  | samples time hm hl hv h hg ho =>
    exact ((((((((((Sql.own_raw .selectBlank).append (own_lead _ hl)).append (own_time time)).append
      (Sql.own_raw .spacedComma)).append hv).append (Sql.own_raw .asValue)).append
      (alike_joinSql .joinSingle h)).append (own_rangeSql hm)).append
      (Sql.own_raw .stageGroup)).append (own_grouping _ hg)).append (Sql.own_raw .stageOrder)
        |>.append (own_ordering ho)
  | rates time perMinute wide hl _ ih =>
    exact (((((((Sql.own_raw .selectBlank).append (own_lead _ hl)).append (own_time time)).append
      (Sql.own_raw .spacedComma)).append (own_rateSql perMinute)).append
      (Sql.own_raw (.asValueFrom wide))).append ih).append (Sql.own_raw .notNaN)
  | @across tags time value s s' grouping dropNaN order ht hv _ hg ho ih =>
    exact ((((((((((Sql.own_raw .selectBlank).append (own_lead (.tags tags) ht)).append
      (own_time time)).append (Sql.own_raw .spacedComma)).append hv).append
      (Sql.own_raw .valueFromOpen)).append ih).append (Sql.own_raw .closeGroup)).append
      (own_grouping _ hg)).append (Sql.own_raw (.dropOrder dropNaN))).append (own_ordering ho)
  | @series tier metric tags step value l l' hm ht hv h =>
    exact (((((((((((Sql.own_raw .selectBlank).append (own_lead (.anyTags tags) ht)).append
      (own_time (.tierInterval step))).append (Sql.own_raw .spacedComma)).append hv).append
      (Sql.own_raw .perSeries)).append (alike_joinSql (.joinTier tier.samples) h)).append
      (Sql.own_raw .metricName)).append (Sql.alike_literal hm)).append
      (Sql.own_raw .tierFirst)).append (Sql.own_int _)).append (Sql.own_raw .tierLast) |>.append
        (Sql.own_int _) |>.append (Sql.own_raw .seriesEnding)
  | @counter tags increase perMinute s s' ht _ ih =>
    exact ((((((Sql.own_raw .selectBlank).append (own_lead (.spacedTags tags) ht)).append
      (Sql.own_raw .timeComma)).append (own_counterSql increase perMinute)).append
      (Sql.own_raw .perSeriesFrom)).append ih).append (Sql.own_raw .window)
  | @space tags f s s' grouping order ht hf _ hg ho ih =>
    exact ((((((Sql.own_raw .selectBlank).append (own_lead (.spacedTags tags) ht)).append
      (Sql.own_raw hf)).append ih).append (Sql.own_raw .spaceGroup)).append
      (own_grouping _ hg)).append (Sql.own_raw .stageOrder) |>.append (own_ordering ho)
  | @quantile tags q s s' order ht _ ho ih =>
    exact ((((((((Sql.own_raw .selectBlank).append (own_lead (.spacedTags tags) ht)).append
      (Sql.own_raw .timeComma)).append (own_quantileSql q)).append
      (Sql.own_raw .valueFromOpen)).append ih).append (Sql.own_raw .closeGroup)).append
      (own_grouping (.tags tags) ht)).append (Sql.own_raw .stageOrder) |>.append
        (own_ordering ho)

end PanelQuery.Metrics
