import PanelQuery.Proofs.Sql.Hole
import PanelQuery.Proofs.Sql.Lexical
import PanelQuery.Proofs.Statement.Compile
import PanelQuery.Proofs.Statement.Page
import PanelQuery.Proofs.Text.Split

/-! # Lists without an offset

Whether a page has an offset is decided by the two names of a requested order, and it has none as
soon as one of them is that of the timestamp. What rows are sorted by is only one of the two: the
column if it is that of the value or of a grouped key, and otherwise the key, if there is one. So
every list that is sorted by time goes without an offset, and some that are not do too. -/

namespace PanelQuery

open Sql (Direction)

/-! ## Names of an order -/

namespace OrderBy

/-- The name that the rows of a list are sorted by: that of the value, of a grouped key, or of the
target. -/
def sortName (o : OrderBy) (groupBy : List AttributeKey) : String :=
  if o.isValue || groupBy.any (·.name == o.column) then o.column else o.target.name

/-- One of the names is that of the timestamp. -/
def NamesTime (o : OrderBy) : Prop := o.column = "timestamp" ∨ o.key = "timestamp"

theorem namesTime_of_sortName {o : OrderBy} {groupBy : List AttributeKey}
    (h : o.sortName groupBy = "timestamp") : o.NamesTime := by
  unfold sortName at h
  split at h
  · exact .inl h
  · unfold target at h
    dsimp only at h
    split at h
    · exact .inl h
    · exact .inr h

end OrderBy

theorem Page.isByTime_iff {orderBy : List OrderBy} : Page.isByTime orderBy = true ↔
    orderBy = [] ∨ ∃ o, orderBy = [o] ∧ o.NamesTime := by
  rcases orderBy with _ | ⟨o, _ | ⟨next, rest⟩⟩ <;> simp [Page.isByTime, OrderBy.NamesTime]

/-- A page of a given size has its offset unless the order names the timestamp, and no other. -/
theorem Page.offset_eq_none_iff {q : Query} {page : Page} (hsize : q.pageSize ≠ 0)
    (h : Page.ofQuery q = .ok page) :
    page.offset = none ↔ q.orderBy = [] ∨ ∃ o, q.orderBy = [o] ∧ o.NamesTime := by
  rw [Query.ofQuery_eq hsize] at h
  split at h
  · cases h
  · cases h
    rw [← Page.isByTime_iff]
    dsimp only
    split
    · next hb => exact iff_of_true rfl hb
    · next hb => exact iff_of_false nofun hb

theorem Page.text_sql (p : Page) : p.sql.text = " LIMIT " ++ toString (p.limit : Int) ++
    match p.offset with
    | none => ""
    | some n => " OFFSET " ++ toString (n : Int) := by
  obtain ⟨limit, offset⟩ := p
  cases offset <;>
    simp [Page.sql, Sql.text_append, Sql.text_raw, Sql.text_int_cons, Sql.text_nil,
      String.append_assoc]

/-! ## Sorting by time -/

/-- One item, on the column of the row time, by its bare name or between back-ticks. -/
def IsTimeOrder (order : Sql) : Prop :=
  ∃ d : Direction, order = [.name "timestamp", .fixed " ", .direction d] ∨
    order = [.backticked "timestamp", .fixed " ", .direction d]

namespace OrderItem

/-- The text of an item in front of its direction. -/
def subject : OrderItem → String
  | .value _ => "value"
  | .key name _ => Sql.quoteAlias name
  | .column c _ => c.sql.text

def direction : OrderItem → Direction
  | .value d | .key _ d | .column _ d => d

theorem text_sql (i : OrderItem) : i.sql.text = i.subject ++ " " ++ i.direction.text := by
  cases i with
  | value d =>
    rw [sql, Sql.text_append, Sql.text_raw, Sql.text_direction]
    rfl
  | key name d =>
    have hpieces : sql (.key name d) = [.backticked name] ++ Sql.raw " " ++ [.direction d] := rfl
    rw [hpieces, Sql.text_append, Sql.text_append, Sql.text_raw, Sql.text_backticked,
      Sql.text_direction]
    rfl
  | column c d =>
    rw [sql, Sql.text_append, Sql.text_append, Sql.text_raw, Sql.text_direction]
    rfl

/-- The last blank of an item is the one in front of its direction. -/
theorem subject_eq {i : OrderItem} {name : String} {d : Direction}
    (h : i.sql.text = name ++ " " ++ d.text) : i.subject = name := by
  have hcut : ∀ (s : String) (d : Direction),
      Text.splitLast ' ' (s ++ " " ++ d.text).toList = some (s.toList, d.text.toList) := by
    intro s d
    have hblank : ' ' ∉ d.text.toList := fun hm => absurd (d.isAlpha _ hm) (by decide)
    rw [String.toList_append, String.toList_append, List.append_assoc]
    exact Text.splitLast_append hblank _
  have hsubject := hcut i.subject i.direction
  rw [← i.text_sql, h, hcut] at hsubject
  exact (String.toList_inj.mp (Prod.mk.inj (Option.some.inj hsubject)).1).symm

end OrderItem

theorem quoteAlias_ne_timestamp (name : String) : Sql.quoteAlias name ≠ "timestamp" := by
  intro h
  exact absurd (List.cons.inj (String.ofList_inj.mp h)).1 (by decide)

/-- The names of the row time are the texts of its own columns only. -/
theorem Column.eq_timestamp_of_text {c : Column}
    (h : c.sql.text = "timestamp" ∨ c.sql.text = Sql.quoteAlias "timestamp") :
    c = .named "timestamp" ∨ c = .materialized "timestamp" := by
  cases c with
  | named name =>
    rw [sql, Sql.text_name, Sql.quoteIdentifier, Sql.identifierChars] at h
    split at h
    · next hplain =>
      rw [String.ofList_toList] at h
      rcases h with rfl | rfl
      · exact .inl rfl
      · exact absurd hplain (by decide)
    · next hplain =>
      rcases h with h | h
      · exact absurd h (quoteAlias_ne_timestamp name)
      · rw [← Sql.quoteAlias, Sql.Lexical.quoteAlias_inj] at h
        rw [h] at hplain
        exact absurd (by decide) hplain
  | materialized name =>
    rw [sql, Sql.text_backticked] at h
    rcases h with h | h
    · exact absurd h (quoteAlias_ne_timestamp name)
    · rw [Sql.Lexical.quoteAlias_inj.mp h]
      exact .inr rfl
  | entry map key =>
    have hmem : '[' ∈ (entry map key).sql.text.toList := by
      rw [sql, Sql.text_append, Sql.text_append, Sql.text_raw]
      simp
    rcases h with h | h <;> rw [h] at hmem <;> exact absurd hmem (by decide)

/-- An item that writes one of the names sorts by time. -/
theorem OrderItem.isTimeOrder_of_subject {i : OrderItem}
    (h : i.subject = "timestamp" ∨ i.subject = Sql.quoteAlias "timestamp") :
    IsTimeOrder i.sql := by
  cases i with
  | value d =>
    have hvalue : ¬ ("value" = "timestamp" ∨ "value" = Sql.quoteAlias "timestamp") := by decide
    exact absurd h hvalue
  | key name d =>
    rcases h with h | h
    · exact absurd h (quoteAlias_ne_timestamp name)
    · rw [Sql.Lexical.quoteAlias_inj.mp h]
      exact ⟨d, .inr rfl⟩
  | column c d =>
    rcases Column.eq_timestamp_of_text h with rfl | rfl
    · exact ⟨d, .inl rfl⟩
    · exact ⟨d, .inr rfl⟩

/-- What the text of an order by time is. -/
def IsTimeText (text : String) : Prop :=
  ∃ d : Direction, text = "timestamp " ++ d.text ∨
    text = Sql.quoteAlias "timestamp" ++ " " ++ d.text

theorem IsTimeOrder.text {order : Sql} (h : IsTimeOrder order) : IsTimeText order.text := by
  have hpieces : ∀ (p : Sql.Piece) (d : Direction),
      Sql.text [p, .fixed " ", .direction d] = Sql.text [p] ++ " " ++ d.text := by
    intro p d
    rw [← Sql.text_direction d, ← Sql.text_raw " ", ← Sql.text_append, ← Sql.text_append]
    rfl
  obtain ⟨d, rfl | rfl⟩ := h
  · exact ⟨d, .inl (hpieces (.name "timestamp") d)⟩
  · exact ⟨d, .inr (hpieces (.backticked "timestamp") d)⟩

theorem IsTimeText.comma_not_mem {text : String} (h : IsTimeText text) : ',' ∉ text.toList := by
  obtain ⟨d, rfl | rfl⟩ := h <;> intro hm <;> rw [String.toList_append, List.mem_append] at hm <;>
    exact hm.elim (absurd · (by decide)) fun hd => absurd (d.isAlpha _ hd) (by decide)

/-- Two items have a comma between them. -/
theorem not_isTimeText_of_two (first second : OrderItem) (rest : List OrderItem) :
    ¬ IsTimeText (orderSql (first :: second :: rest)).text := by
  have hsql : orderSql (first :: second :: rest) =
      first.sql ++ Sql.raw "," ++ orderSql (second :: rest) := rfl
  intro h
  refine h.comma_not_mem ?_
  rw [hsql, Sql.text_append, Sql.text_append, Sql.text_raw]
  simp

/-- An order of a statement is by time exactly if its text says so. -/
theorem isTimeOrder_iff_text (items : List OrderItem) :
    IsTimeOrder (orderSql items) ↔ IsTimeText (orderSql items).text := by
  refine ⟨IsTimeOrder.text, fun h => ?_⟩
  rcases items with _ | ⟨item, _ | ⟨second, rest⟩⟩
  · obtain ⟨d, h | h⟩ := h <;> simp [orderSql, Sql.join, Sql.text_nil] at h
  · obtain ⟨d, htext⟩ := h
    exact OrderItem.isTimeOrder_of_subject (htext.imp OrderItem.subject_eq OrderItem.subject_eq)
  · exact absurd h (not_isTimeText_of_two item second rest)

namespace Schema

variable {s : Schema} {groupBy : List AttributeKey} {orderBy : List OrderBy}

theorem materializedName_ne_timestamp (key : AttributeKey) :
    materializedName key ≠ "timestamp" := by
  intro h
  have hlist := congrArg String.toList h
  unfold materializedName at hlist
  split at hlist <;> simp at hlist

/-- The column of an order is that of the row time exactly if its target is called so. -/
theorem orderColumn_time (s : Schema) (o : OrderBy) :
    (s.orderColumn o = .named "timestamp" ∨ s.orderColumn o = .materialized "timestamp") ↔
      o.target.name = "timestamp" := by
  have hnamed : ∀ name, ((if o.isColumn then Column.materialized name else Column.named name) =
      .named "timestamp" ∨ (if o.isColumn then Column.materialized name else Column.named name) =
        .materialized "timestamp") ↔ name = "timestamp" := by
    intro name
    cases o.isColumn <;> simp
  cases s with
  | logs =>
    by_cases htop : isTopLevelLog o.target = true
    · simpa [orderColumn, column, logColumn, htop, Column.alwaysQuoted] using hnamed o.target.name
    · have hname : o.target.name ≠ "timestamp" := fun h => htop (by simp [isTopLevelLog, h])
      have hmaterialized := materializedName_ne_timestamp o.target
      cases hc : o.target.isColumn <;> cases ho : o.isColumn <;>
        simp [orderColumn, column, logColumn, htop, hc, ho, Column.alwaysQuoted, hname,
          hmaterialized]
  | traces =>
    by_cases htop : isTopLevelSpan o.target = true
    · simpa [orderColumn, column, spanColumn, htop, Column.alwaysQuoted] using hnamed o.target.name
    · have hname : o.target.name ≠ "timestamp" := fun h => htop (by simp [isTopLevelSpan, h])
      simp [orderColumn, column, spanColumn, htop, Column.alwaysQuoted, hname]

/-- The item of an order on a list. -/
def listItem (s : Schema) (groupBy : List AttributeKey) (o : OrderBy) (d : Direction) : OrderItem :=
  if o.isValue then .value d
  else if groupBy.any (·.name == o.column) then .key o.column d
  else .column (s.orderColumn o) d

/-- On a list every requested order has an item. -/
theorem orderItem?_list {o : OrderBy} {found : Option OrderItem}
    (h : s.orderItem? .list groupBy o = .ok found) :
    ∃ d, found = some (s.listItem groupBy o d) := by
  obtain ⟨d, -, h⟩ := ok_of_bind h
  cases h
  refine ⟨d, ?_⟩
  unfold listItem
  split
  · rfl
  · split <;> rfl

/-- A list is sorted by every requested order, or by time without any. -/
theorem orderItems_list {items : List OrderItem}
    (h : s.orderItems .list orderBy groupBy = .ok items) :
    orderBy = [] ∧ items = [.default .list] ∨
      orderBy ≠ [] ∧
        List.Forall₂ (fun o item => ∃ d, item = s.listItem groupBy o d) orderBy items := by
  have hall : ∀ {requests : List OrderBy} {found : List (Option OrderItem)},
      List.Forall₂ (fun o item => s.orderItem? .list groupBy o = .ok item) requests found →
        List.Forall₂ (fun o item => ∃ d, item = s.listItem groupBy o d) requests
          (found.filterMap id) := by
    intro requests found hfound
    induction hfound with
    | nil => exact .nil
    | cons ho _ ih =>
      obtain ⟨d, rfl⟩ := orderItem?_list ho
      exact .cons ⟨d, rfl⟩ ih
  obtain ⟨found, hfound, h⟩ := ok_of_bind h
  have hitems := hall (mapM_ok_iff.mp hfound)
  cases h
  split
  · next hempty =>
    rw [List.isEmpty_iff.mp hempty, List.forall₂_nil_right_iff] at hitems
    exact .inl ⟨hitems, rfl⟩
  · next hne =>
    refine .inr ⟨?_, hitems⟩
    rintro rfl
    rw [List.forall₂_nil_left_iff.mp hitems] at hne
    exact hne rfl

/-- An item sorts by time exactly if the name that it sorts by is that of the timestamp. -/
theorem isTimeOrder_listItem (o : OrderBy) (d : Direction) :
    IsTimeOrder (orderSql [s.listItem groupBy o d]) ↔ o.sortName groupBy = "timestamp" := by
  have hsingle : ∀ item : OrderItem, orderSql [item] = item.sql := fun _ => rfl
  rw [hsingle, listItem, OrderBy.sortName]
  by_cases hvalue : o.isValue = true
  · have hname : o.column ≠ "timestamp" := by
      intro h
      rw [OrderBy.isValue, h] at hvalue
      exact absurd hvalue (by decide)
    simp [hvalue, hname, IsTimeOrder, OrderItem.sql, Sql.raw]
  · rw [if_neg hvalue, Bool.eq_false_iff.mpr hvalue, Bool.false_or]
    split
    · simp [IsTimeOrder, OrderItem.sql]
    · rw [← orderColumn_time s o]
      cases s.orderColumn o <;>
        simp [IsTimeOrder, OrderItem.sql, Column.sql, Sql.raw, Sql.literal]

/-- The order of a list is by time exactly if none is requested or the only one sorts by time. -/
theorem isTimeOrder_iff {items : List OrderItem}
    (h : s.orderItems .list orderBy groupBy = .ok items) :
    IsTimeOrder (orderSql items) ↔
      orderBy = [] ∨ ∃ o, orderBy = [o] ∧ o.sortName groupBy = "timestamp" := by
  rcases orderItems_list h with ⟨rfl, rfl⟩ | ⟨hne, hall⟩
  · exact iff_of_true ⟨.descending, .inl rfl⟩ (.inl rfl)
  · rcases hall with _ | ⟨⟨d, rfl⟩, _ | ⟨_, _⟩⟩
    · exact absurd rfl hne
    · simp [isTimeOrder_listItem]
    · simp [isTimeOrder_iff_text, not_isTimeText_of_two]

theorem length_orderItems_list {items : List OrderItem}
    (h : s.orderItems .list orderBy groupBy = .ok items) :
    items.length = max orderBy.length 1 := by
  rcases orderItems_list h with ⟨rfl, rfl⟩ | ⟨hne, hall⟩
  · rfl
  · rw [← hall.length_eq, Nat.max_eq_left (List.length_pos_of_ne_nil hne)]

end Schema

/-! ## Lists -/

/-- **Lists without an offset.** A list with a page size writes its order, then its limit, and an
offset unless the order names the timestamp. An order by time is told by its text: the column of the
timestamp, by its bare name or between back-ticks, and a direction. Every list that is sorted by time
alone goes without an offset. A list without an offset is sorted by one item, and not by time exactly if one of the two
names of the requested order is that of the timestamp and rows are sorted by the other. -/
theorem offset_left_out {q : Query} {s : Schema} {start stop : Int} {options : QueryOptions}
    {t : TableStatement} (h : q.tableStatement s start stop .list options = .ok t)
    (htail : options.liveTail = false) (hsize : q.pageSize ≠ 0) :
    ∃ time filter order page, t = .list s time filter order page ∧
      page.sql.text = " LIMIT " ++ toString (page.limit : Int) ++
        (match page.offset with
        | none => ""
        | some n => " OFFSET " ++ toString (n : Int)) ∧
      (IsTimeOrder (orderSql order) ↔ ∃ d : Direction,
        (orderSql order).text = "timestamp " ++ d.text ∨
          (orderSql order).text = Sql.quoteAlias "timestamp" ++ " " ++ d.text) ∧
      (IsTimeOrder (orderSql order) → page.offset = none) ∧
      (page.offset = none → order.length = 1) ∧
      (page.offset = none ∧ ¬ IsTimeOrder (orderSql order) ↔
        ∃ o, q.orderBy = [o] ∧ (o.column = "timestamp" ∨ o.key = "timestamp") ∧
          o.sortName q.groupBy ≠ "timestamp") := by
  obtain ⟨-, f, order, page, -, horder, hpage, rfl⟩ :=
    (Query.tableStatement_list_iff htail).mp h
  have htime := Schema.isTimeOrder_iff horder
  have hoffset := Page.offset_eq_none_iff hsize hpage
  refine ⟨_, f, order, page, rfl, page.text_sql, isTimeOrder_iff_text order, fun hby => ?_,
    fun hnone => ?_, ?_⟩
  · exact hoffset.mpr ((htime.mp hby).imp_right fun ⟨o, ho, hname⟩ =>
      ⟨o, ho, OrderBy.namesTime_of_sortName hname⟩)
  · rw [Schema.length_orderItems_list horder]
    rcases hoffset.mp hnone with he | ⟨o, he, -⟩ <;> rw [he] <;> rfl
  · rw [hoffset, htime]
    constructor
    · rintro ⟨hnil | ⟨o, ho, hnames⟩, hnot⟩
      · exact absurd (.inl hnil) hnot
      · exact ⟨o, ho, hnames, fun hname => hnot (.inr ⟨o, ho, hname⟩)⟩
    · rintro ⟨o, ho, hnames, hname⟩
      refine ⟨.inr ⟨o, ho, hnames⟩, ?_⟩
      simp [ho, hname]

/-- The second page of a list by response time, under the column of the timestamp. -/
def byResponseTime : Query where
  signal := .logs
  orderBy :=
    [{ column := "timestamp", order := "ASC", key := "response_time",
       dataType := .scalar .float64, kind := .tag }]
  limit := 100
  offset := 50
  pageSize := 50

/-- The page has no offset, so it is the first one again. -/
theorem offset_left_out_byResponseTime : ∃ t,
    byResponseTime.tableStatement .logs 1700000000000 1700000060000 .list {} = .ok t ∧
    ({} : QueryOptions).liveTail = false ∧ byResponseTime.pageSize ≠ 0 ∧
    ∃ time filter order page, t = .list .logs time filter order page ∧
      page.sql.text = " LIMIT 50" ∧ ¬ IsTimeOrder (orderSql order) := by
  have hstatement : ∃ t, byResponseTime.tableStatement .logs 1700000000000 1700000060000 .list {} =
      .ok t := ⟨_, rfl⟩
  obtain ⟨t, h⟩ := hstatement
  have hsize : byResponseTime.pageSize ≠ 0 := by decide
  obtain ⟨time, filter, order, page, ht, htext, -, -, -, hiff⟩ := offset_left_out h rfl hsize
  obtain ⟨hoffset, hnot⟩ := hiff.mpr ⟨_, rfl, .inl rfl, by decide⟩
  refine ⟨t, h, rfl, hsize, time, filter, order, page, ht, ?_, hnot⟩
  rw [htext, hoffset]
  cases h
  cases ht
  rfl

end PanelQuery
