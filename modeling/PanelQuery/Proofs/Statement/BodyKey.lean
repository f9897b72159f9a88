import PanelQuery.Proofs.Query.Window
import PanelQuery.Proofs.Sql.Lexical
import PanelQuery.Proofs.Statement.Rows
import PanelQuery.Proofs.Text.Split

/-! # Keys of the JSON body in a statement

A filter item on a key of the JSON body reads the field from the body. Labels and aggregates do not
look at the flag of such a key: they read the column that an attribute of that name would have, and
no guard asks whether the attribute is there. -/

namespace PanelQuery

/-! ## Where a part stands -/

section

variable {q : Query} {start stop : Int} {panel : Panel} {options : QueryOptions}
  {t : TableStatement}

/-- The condition of an item on a column or on the body stands in the statement. -/
theorem within_item (h : q.tableStatement .logs start stop panel options = .ok t)
    {item : FilterItem} (hitem : item ∈ q.filterItems) (hkind : item.key.kind ≠ .resource) :
    ∃ sql, Schema.logs.itemCondition item = .ok sql ∧ sql.Within t.sql := by
  obtain ⟨f, hf, hcolumns, -⟩ := logs_ok h
  obtain ⟨units, hunits, hmain⟩ := Schema.conditions_ok (rowFilter_ok hf).1
  obtain ⟨u, hu, hunit⟩ :=
    forall₂_exists_left hunits.flip (Query.mem_kept.mpr ⟨hitem, hkind⟩)
  obtain ⟨c, hc, hatom⟩ := FilterUnit.atom_mem_combine hu (List.mem_cons_self)
  have hcondition : c ∈ t.columnConditions := by
    rw [hcolumns, hmain]
    exact List.mem_append_right _ (List.mem_append_left _ hc)
  exact ⟨u.condition, (Schema.unit_ok hunit).1,
    (Sql.Within.atom hatom).trans (TableStatement.within_condition hcondition)⟩

/-- Labels, value and rows of an aggregation stand in its statement. -/
theorem within_aggregationStatement (q : Query) (a : Aggregation) (panel : Panel)
    (pass : TopNPass) : a.body.Within (q.aggregationStatement a panel pass).sql := by
  have hbody := Sql.Within.refl a.body
  have hseries : ∀ bucket restricted limit reduced,
      a.body.Within (TableStatement.series a bucket restricted limit reduced).sql := by
    intro bucket restricted limit reduced
    have hwhole := ((hbody.after (bucket.sql a.schema)).before
      (if restricted then Sql.raw " AND " ++ a.restriction else [])).before (a.tail bucket)
    cases limit with
    | none =>
      cases reduced with
      | none => exact hwhole
      | some kind => exact (hwhole.after _).before _
    | some n =>
      cases reduced with
      | none => exact (hwhole.before _).before _
      | some kind => exact (((hwhole.before _).before _).after _).before _
  cases pass with
  | first =>
    have hranking : a.body.Within a.ranking := (((hbody.after _).before _).before _).before _
    exact ((hranking.after _).before _).before _
  | none => exact hseries _ _ _ _
  | second => exact hseries _ _ _ _

theorem Aggregation.within_label {a : Aggregation} {l : Label} (h : l ∈ a.labels) :
    l.sql.Within a.body := by
  have hlabels : l.sql.Within (Label.selectSql a.labels) := by
    obtain ⟨front, back, hlist⟩ := List.append_of_mem h
    rw [hlist, Label.selectSql, List.flatMap_append, List.flatMap_cons]
    exact (Sql.Within.before (Sql.Within.refl _) _).after _
  exact ((((hlabels.before _).before _).before _).before _).before _

theorem Aggregation.within_value (a : Aggregation) :
    (a.value ++ Sql.raw (" as value from " ++ a.schema.table ++ " where ")).Within a.body := by
  rw [body, List.append_assoc (Label.selectSql a.labels ++ Sql.raw " ")]
  exact (((Sql.Within.refl _).after _).before _).before _

/-- Every operator but the count of rows reads its operand. -/
theorem AggregateOperator.within_valueSql {op : AggregateOperator} {operand value : Sql}
    {divisor : Float} (h : op.valueSql (some operand) divisor = .ok value) (hop : op ≠ .count) :
    operand.Within value := by
  have hoperand := Sql.Within.refl operand
  cases op with
  | count => exact absurd rfl hop
  | percentile p => exact Except.ok.inj h ▸ (hoperand.after _).before _
  | countDistinct => exact Except.ok.inj h ▸ (hoperand.after _).before _
  | plain f => exact Except.ok.inj h ▸ (hoperand.after _).before _
  | rate => exact Except.ok.inj h ▸ ((hoperand.after _).before _).before _
  | rateOf f => exact Except.ok.inj h ▸ ((hoperand.after _).before _).before _
  | noop => cases h
  | ofRate f => cases h
  | histogramQuantile p => cases h

end

/-! ## What an item reads -/

namespace Body

variable {key : AttributeKey} {path : String} {field sql : Sql}

theorem exists_accessor (h : Body.path key.name = .ok path) (t : DataType) :
    ∃ field, accessor key.name t = .ok field := by
  rw [accessor, h]
  exact ⟨_, rfl⟩

theorem within_notIf (h : field.Within sql) (negated : Bool) :
    field.Within (notIf negated sql) := by
  cases negated
  · exact h
  · exact h.after _

theorem within_hasSql (field : Sql) (negated : Bool) (v : FilterValue) :
    field.Within (hasSql field negated v) :=
  within_notIf (((((Sql.Within.refl field).after _).before _).before _).before _) negated

theorem within_scalarCondition {item : FilterItem} {t : Test}
    (ht : ∀ negated, t ≠ .presence negated) (h : scalarCondition item field t = .ok sql) :
    field.Within sql := by
  have hfront : ∀ a b : Sql, field.Within (field ++ a ++ b) := fun a b =>
    ((Sql.Within.refl field).before a).before b
  cases t with
  | compare c v => exact Except.ok.inj h ▸ hfront _ _
  | like negated v => exact Except.ok.inj h ▸ hfront _ _
  | contains negated v => exact Except.ok.inj h ▸ hfront _ _
  | member negated items => exact Except.ok.inj h ▸ hfront _ _
  | regex negated v =>
    exact Except.ok.inj h ▸
      within_notIf (((((Sql.Within.refl field).after _).before _).before _).before _) negated
  | has negated v => cases h
  | presence negated => exact absurd rfl (ht negated)

/-- An item on a body key reads the field, unless it asks for the presence of it. -/
theorem within_condition {item : FilterItem} (hop : ∀ negated, item.op ≠ .presence negated)
    (hf : accessor item.key.name item.key.dataType = .ok field) (h : condition item = .ok sql) :
    field.Within sql := by
  unfold condition at h
  rw [hf] at h
  dsimp only [bind, Except.bind] at h
  split at h
  · next negated hp => exact absurd hp (hop negated)
  split at h
  · split at h
    · obtain ⟨v, -, h⟩ := ok_of_bind h
      exact Except.ok.inj h ▸ within_hasSql field _ v
    · cases h
  · obtain ⟨t, ht, h⟩ := ok_of_bind h
    exact within_scalarCondition (item.test_ne_presence ht hop) h

theorem condition_presence {item : FilterItem} {negated : Bool} (hop : item.op = .presence negated)
    (hp : Body.path item.key.name = .ok path) : condition item =
      .ok (notIf negated (Sql.raw "JSON_EXISTS(body, " ++ Sql.literal path ++ Sql.raw ")")) := by
  obtain ⟨field, hf⟩ := exists_accessor hp item.key.dataType
  rw [condition, hf, hop]
  simp only [scalarCondition, hp]
  rfl

/-- The name of a body key has more than one part. -/
theorem dot_mem_of_path (h : Body.path key.name = .ok path) : '.' ∈ key.name.toList := by
  by_contra hdot
  unfold Body.path at h
  rw [Text.splitOnChar_of_not_mem hdot] at h
  dsimp only at h
  split at h <;> cases h

/-- So it is not empty. -/
theorem isEmpty_ne_true (h : Body.path key.name = .ok path) : ¬ key.isEmpty = true := by
  intro hempty
  have hdot := dot_mem_of_path h
  rw [beq_iff_eq.mp hempty] at hdot
  cases hdot

end Body

/-! ## What labels and aggregates read -/

namespace Schema

variable {key : AttributeKey} {path : String}

/-- The column of a key ignores whether it is one of the body. -/
theorem logColumn_of_path (h : Body.path key.name = .ok path) : logColumn key =
    if key.isColumn then
      if key.kind = .unspecified then .named key.name else .materialized (materializedName key)
    else .entry (logMap key) key.name := by
  have hdot := Body.dot_mem_of_path h
  have hne : ∀ name : String, '.' ∉ name.toList → key.name ≠ name := by
    rintro name hname rfl
    exact hname hdot
  -- no fixed column has a dot in its name, so only the flag makes the key a column of the table
  have htop : isTopLevelLog key = (key.kind == .unspecified && key.isColumn) := by
    have hfixed : key.name ∉ logColumns := by
      intro hmem
      have hplain : ∀ name ∈ logColumns, '.' ∉ name.toList := by decide
      exact hne key.name (hplain key.name hmem) rfl
    simp [isTopLevelLog, hne "timestamp" (by decide), hne "id" (by decide), hfixed]
  rw [logColumn, htop]
  by_cases hcol : key.isColumn = true <;> by_cases hkind : key.kind = .unspecified <;>
    simp [hcol, hkind]

end Schema

/-! ## The two texts -/

theorem head?_text {p : Sql.Piece} {rest : Sql} {c : Char}
    (h : (p.chars Sql.placeholder.toList).head? = some c) :
    (Sql.text (p :: rest)).toList.head? = some c := by
  rw [Sql.text, Sql.bind, String.toList_ofList, List.flatMap_cons, List.head?_append, h]
  rfl

/-- A body field is read by a function of JSON. -/
theorem Body.head?_accessor {name : String} {t : DataType} {field : Sql}
    (h : accessor name t = .ok field) : field.text.toList.head? = some 'J' := by
  obtain ⟨path, -, h⟩ := ok_of_bind h
  cases he : extractType t with
  | none =>
    rw [he] at h
    exact Except.ok.inj h ▸ head?_text rfl
  | some target =>
    rw [he] at h
    exact Except.ok.inj h ▸ head?_text rfl

/-- A column is a quoted name or an entry of a map. -/
theorem Schema.head?_logColumn {key : AttributeKey} {path : String}
    (h : Body.path key.name = .ok path) :
    ∃ c ∈ ['\x60', 'a', 'r'], (logColumn key).sql.text.toList.head? = some c := by
  rw [logColumn_of_path h]
  split
  · refine ⟨'\x60', by simp, ?_⟩
    split
    · have hplain : Sql.isPlainName key.name.toList = false :=
        Bool.eq_false_iff.mpr fun hplain =>
          Bool.noConfusion (Sql.Lexical.isPlainName_wordChars hplain '.' (Body.dot_mem_of_path h))
      refine head?_text ?_
      rw [Sql.Piece.chars, Sql.identifierChars, hplain]
      rfl
    · exact head?_text rfl
  · by_cases hkind : key.kind = .tag
    · refine ⟨'a', by simp, head?_text ?_⟩
      simp [Sql.Piece.chars, logMap, hkind]
    · refine ⟨'r', by simp, head?_text ?_⟩
      simp [Sql.Piece.chars, logMap, hkind]

/-- The two ways of reading a key are never written alike. -/
theorem Schema.text_logColumn_ne {key : AttributeKey} {path : String}
    (h : Body.path key.name = .ok path) {t : DataType} {field : Sql}
    (hf : Body.accessor key.name t = .ok field) : (logColumn key).sql.text ≠ field.text := by
  intro htext
  obtain ⟨c, hc, hhead⟩ := head?_logColumn h
  rw [htext, Body.head?_accessor hf] at hhead
  cases hhead
  exact absurd hc (by decide)

/-- **A body key is read in two ways.** Take a logs query that compiles, and a key of the JSON body
with a path. An item on it reads the field of the body, or asks for the presence of its path, unless
it is a resource item. Its label, and the aggregate if it is the aggregated attribute, read the
column of the logs table that its name, kind and type stand for, and no guard asks whether there is
one. The two expressions have different texts, whatever the key. -/
theorem body_key_read_apart {q : Query} {start stop : Int} {panel : Panel} {options : QueryOptions}
    {t : TableStatement} (h : q.tableStatement .logs start stop panel options = .ok t)
    {key : AttributeKey} (hjson : key.isJson = true) {path : String}
    (hpath : Body.path key.name = .ok path) :
    ∃ field, Body.accessor key.name key.dataType = .ok field ∧
      (∀ item ∈ q.filterItems, item.key = key → key.kind ≠ .resource →
        ∃ sql, Schema.logs.itemCondition item = .ok sql ∧ sql.Within t.sql ∧
          (∀ negated, item.op = .presence negated → sql = Body.notIf negated
            (Sql.raw "JSON_EXISTS(body, " ++ Sql.literal path ++ Sql.raw ")")) ∧
          ((∀ negated, item.op ≠ .presence negated) → field.Within sql)) ∧
      (q.aggregateOperator ≠ .noop → options.liveTail = false →
        (key ∈ q.groupBy →
          (Label.mk (Schema.logs.column key) key.name).sql.Within t.sql) ∧
        (q.aggregateAttribute = key → q.aggregateOperator ≠ .count →
          ∃ value, (Schema.logs.column key).sql.Within value ∧
            (value ++ Sql.raw (" as value from " ++ Schema.logs.table ++ " where ")).Within
              t.sql)) ∧
      Schema.logs.column key = (if key.isColumn then
          if key.kind = .unspecified then .named key.name
          else .materialized (Schema.materializedName key)
        else .entry (Schema.logMap key) key.name) ∧
      Schema.logs.referenceGuard key = none ∧
      (Schema.logs.column key).sql.text ≠ field.text := by
  obtain ⟨field, hf⟩ := Body.exists_accessor hpath key.dataType
  refine ⟨field, hf, ?_, fun hop htail => ?_, Schema.logColumn_of_path hpath, ?_,
    Schema.text_logColumn_ne hpath hf⟩
  · rintro item hitem rfl hkind
    obtain ⟨sql, hsql, hwithin⟩ := within_item h hitem hkind
    refine ⟨sql, hsql, hwithin, ?_⟩
    rw [Schema.itemCondition, if_pos hjson] at hsql
    refine ⟨fun negated hop => ?_, fun hop => Body.within_condition hop hf hsql⟩
    rw [Body.condition_presence hop hpath] at hsql
    exact (Except.ok.inj hsql).symm
  · obtain ⟨-, f, a, -, ha, rfl⟩ := Query.tableStatement_aggregation h hop htail
    obtain ⟨hschema, -, -, hlabels, -, divisor, hvalue⟩ := Query.aggregation_ok ha
    have hbody := within_aggregationStatement q a panel options.pass
    refine ⟨fun hkey => ?_, fun hattribute hcount => ⟨a.value, ?_, ?_⟩⟩
    · have hlabel : Label.mk (Schema.logs.column key) key.name ∈ a.labels := by
        rw [hlabels]
        exact List.mem_map_of_mem hkey
      exact (Aggregation.within_label hlabel).trans hbody
    · rw [Query.attributeSql, hattribute, if_neg (Body.isEmpty_ne_true hpath)] at hvalue
      exact AggregateOperator.within_valueSql hvalue hcount
    · rw [← hschema]
      exact a.within_value.trans hbody
  · rw [Schema.referenceGuard, hjson]
    rfl

/-- The message of a log. -/
def bodyMessage : AttributeKey :=
  { name := "body.message", dataType := .scalar .string, isJson := true }

/-- Logs with a message, counted by message. -/
def countByMessage : Query :=
  { name := "A", signal := .logs, aggregateOperator := .count, stepInterval := 60,
    groupBy := [bodyMessage], filters := some ⟨.and, [⟨bodyMessage, .compare .ne, .text ""⟩]⟩ }

/-- Their messages are asked for in the body and counted by a resource attribute. -/
theorem body_key_read_apart_message : ∃ t field,
    countByMessage.tableStatement .logs 1700000000000 1700000060000 .graph {} = .ok t ∧
    bodyMessage.isJson = true ∧ Body.path bodyMessage.name = .ok "$.message" ∧
    Body.accessor bodyMessage.name bodyMessage.dataType = .ok field ∧
    (∃ sql, sql.Within t.sql ∧ field.Within sql) ∧
    (Label.mk (Schema.logs.column bodyMessage) bodyMessage.name).sql.Within t.sql ∧
    field.text = "JSON_VALUE(body, '$.message')" ∧
    (Schema.logs.column bodyMessage).sql.text = "resources_string['body.message']" := by
  have hcompiles : ∃ t,
      countByMessage.tableStatement .logs 1700000000000 1700000060000 .graph {} = .ok t :=
    ⟨_, rfl⟩
  obtain ⟨t, h⟩ := hcompiles
  have hpath : Body.path bodyMessage.name = .ok "$.message" := by decide +kernel
  obtain ⟨field, hf, hitem, hlabel, -⟩ := body_key_read_apart h rfl hpath
  obtain ⟨sql, -, hwithin, -, hread⟩ := hitem _ (List.mem_singleton_self _) rfl (by decide)
  refine ⟨t, field, h, rfl, hpath, hf, ⟨sql, hwithin, hread nofun⟩,
    (hlabel nofun rfl).1 (List.mem_singleton_self _), ?_, by decide +kernel⟩
  rw [Body.accessor, hpath] at hf
  rw [← Except.ok.inj hf]
  decide +kernel

end PanelQuery
