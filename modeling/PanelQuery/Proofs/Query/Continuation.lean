import PanelQuery.Engine
import PanelQuery.Proofs.Cursor
import PanelQuery.Proofs.Sql.Hole
import PanelQuery.Proofs.Statement.Rows

/-! # Lists continued by a cursor

A cursor puts one more item behind the items of a query and leaves the rest of the query alone. The
item is about a column, so it comes without a guard, and about no resource, so the lookup does not
see it. In the statement it is one more conjunct behind those of the query's own items. Items under
OR take no cursor. -/

namespace PanelQuery

open Sql (Condition)

/-! ## Conjuncts -/

namespace Sql

/-- Conditions behind others, each with its AND. -/
def conjuncts (conditions : List Condition) : Sql :=
  conditions.flatMap fun c => raw " AND " ++ c.sql

theorem conjuncts_append (as bs : List Condition) :
    conjuncts (as ++ bs) = conjuncts as ++ conjuncts bs := List.flatMap_append

theorem conjuncts_cons (a : Condition) (as : List Condition) :
    conjuncts (a :: as) = raw " AND " ++ conjunction (a :: as) := by
  induction as generalizing a with
  | nil => simp [conjuncts, conjunction, Condition.partsSql]
  | cons b as ih =>
    have hhead : conjuncts (a :: b :: as) = raw " AND " ++ a.sql ++ conjuncts (b :: as) := rfl
    have hrest : conjunction (a :: b :: as) = a.sql ++ raw " AND " ++ conjunction (b :: as) := rfl
    rw [hhead, hrest, ih b, List.append_assoc, List.append_assoc]

end Sql

theorem RowFilter.sql_eq (f : RowFilter) : f.sql = Sql.conjuncts f.conditions := by
  unfold RowFilter.sql
  cases f.conditions with
  | nil => rfl
  | cons c cs => exact (Sql.conjuncts_cons c cs).symm

/-- Units without guards are conjuncts of their own behind the others. Under OR there must be no
others. -/
theorem FilterUnit.combine_append {op : Connective} {units : List FilterUnit} {bare : List Sql}
    (h : op = .and ∨ units = [] ∧ bare.length ≤ 1) :
    combine op (units ++ bare.map fun sql => ⟨sql, none⟩) =
      combine op units ++ bare.map Condition.atom := by
  cases op with
  | and =>
    have hbare : (bare.map fun sql => (⟨sql, none⟩ : FilterUnit)).flatMap conjuncts =
        bare.map Condition.atom := by
      rw [List.flatMap_map, List.map_eq_flatMap]
      rfl
    rw [combine, List.flatMap_append, hbare, combine]
  | or =>
    rcases h with hand | ⟨rfl, hone⟩
    · cases hand
    rcases bare with _ | ⟨sql, _ | ⟨next, rest⟩⟩
    · rfl
    · rfl
    · simp at hone

/-! ## Cursors and queries -/

namespace Query

/-- The query with one more item. -/
def withItem (q : Query) (item : FilterItem) : Query :=
  { q with filters := some ⟨q.filterOp, q.filterItems ++ [item]⟩ }

/-- The query with a set of filters, an empty one if it had none. -/
def filled (q : Query) : Query := { q with filters := some (q.filters.getD ⟨.and, []⟩) }

theorem filterOp_filled (q : Query) : q.filled.filterOp = q.filterOp := by
  rw [filled, filterOp, filterOp]
  cases q.filters <;> rfl

theorem filterItems_filled (q : Query) : q.filled.filterItems = q.filterItems := by
  rw [filled, filterItems, filterItems]
  cases q.filters <;> rfl

theorem withItem_filled (q : Query) (item : FilterItem) :
    q.filled.withItem item = q.withItem item := by
  rw [withItem, withItem, filterOp_filled, filterItems_filled]
  rfl

theorem filled_of_items {q : Query} (h : q.filterItems ≠ []) : q.filled = q := by
  obtain ⟨set, hset⟩ : ∃ set, q.filters = some set := by
    rw [filterItems] at h
    cases hf : q.filters with
    | none => simp [hf] at h
    | some set => exact ⟨set, rfl⟩
  rw [filled, hset, Option.getD_some, ← hset]

/-- The query with the items of cursors behind its own, and otherwise the same. -/
structure Continues (q : Query) (cs : List ListCursor) (next : Query) : Prop where
  same : ∃ filters, next = { q with filters := filters }
  op : next.filterOp = q.filterOp
  items : next.filterItems = q.filterItems ++ cs.map ListCursor.item

namespace Continues

variable {q next last : Query} {cs ds : List ListCursor}

theorem refl (q : Query) : q.Continues [] q := ⟨⟨_, rfl⟩, rfl, (List.append_nil _).symm⟩

theorem trans (h : q.Continues cs next) (h' : next.Continues ds last) :
    q.Continues (cs ++ ds) last where
  same := by
    obtain ⟨filters, rfl⟩ := h.same
    exact h'.same
  op := h'.op.trans h.op
  items := by rw [h'.items, h.items, List.map_append, List.append_assoc]

theorem limited (h : q.Continues cs next) (e : Engine) (panel : Panel) :
    (e.limited panel q).Continues cs (e.limited panel next) := by
  obtain ⟨⟨filters, rfl⟩, hop, hitems⟩ := h
  unfold Engine.limited
  dsimp only
  split
  · exact ⟨⟨_, rfl⟩, hop, hitems⟩
  · exact ⟨⟨_, rfl⟩, hop, hitems⟩

end Continues

end Query

namespace ListCursor

/-- What a cursor asks of a row. -/
def condition (c : ListCursor) : Sql := [.name "id"] ++ Sql.raw " < " ++ Sql.literal c.id

/-- The text that a cursor adds to a statement. -/
def conjunctText (c : ListCursor) : String := " AND id < " ++ Sql.quoteString c.id

theorem unit_item (s : Schema) (c : ListCursor) : s.unit c.item = .ok ⟨c.condition, none⟩ := by
  cases s <;> rfl

theorem text_conjuncts (cs : List ListCursor) :
    (Sql.conjuncts (cs.map fun c => .atom c.condition)).text =
      String.join (cs.map conjunctText) := by
  induction cs with
  | nil => rfl
  | cons c cs ih =>
    have hcons : Sql.conjuncts ((c :: cs).map fun c => .atom c.condition) =
        Sql.raw " AND " ++ c.condition ++ Sql.conjuncts (cs.map fun c => .atom c.condition) := rfl
    have hname : Sql.text [.name "id"] = "id" := by decide
    rw [hcons, Sql.text_append, Sql.text_append, Sql.text_raw, condition, Sql.text_append,
      Sql.text_append, hname, Sql.text_raw, Sql.text_literal, ih, List.map_cons, String.join_cons,
      conjunctText, ← String.append_assoc]
    rfl

theorem decode_encode {c : ListCursor} (h : c.id ≠ "") : decode c.encode = .ok c := by
  rw [decode_eq, content?_encode]
  exact if_neg h

/-- The item of a cursor is put behind those of a query, unless these stand under OR. -/
theorem apply_eq (c : ListCursor) (q : Query) : c.apply q =
    if q.filterOp = .or ∧ q.filterItems ≠ [] then .error .cursorWithOr
    else .ok (q.withItem c.item) := by
  unfold apply addTo Query.withItem Query.filterOp Query.filterItems
  cases q.filters with
  | none => rfl
  | some set =>
    dsimp only
    by_cases h : set.op = .or ∧ set.items ≠ []
    · have hne : set.op = .or ∧ (!set.items.isEmpty) = true := by simpa using h
      rw [if_pos h, if_pos hne]
      rfl
    · have hne : ¬ (set.op = .or ∧ (!set.items.isEmpty) = true) := by simpa using h
      rw [if_neg h, if_neg hne]
      rfl

theorem apply_ok (c : ListCursor) {q : Query} (h : q.filterOp = .or → q.filterItems = []) :
    c.apply q = .ok (q.withItem c.item) := by
  rw [apply_eq]
  exact if_neg fun hitems => hitems.2 (h hitems.1)

theorem apply_error (c : ListCursor) {q : Query} (hor : q.filterOp = .or)
    (hne : q.filterItems ≠ []) : c.apply q = .error .cursorWithOr := by
  rw [apply_eq, if_pos ⟨hor, hne⟩]

/-- The cursor put into a query in place. -/
def narrow (c : ListCursor) : StateM Query (Except Fault Unit) := do
  modify Query.filled
  let q ← get
  if q.filterOp = .or ∧ q.filterItems ≠ [] then
    return .error .cursorWithOr
  set (q.withItem c.item)
  return .ok ()

/-- The result is the same in place; a query that takes no cursor is left as it was, although it is
given a set of filters before these are looked at. -/
theorem run_narrow (c : ListCursor) (q : Query) : c.narrow.run q =
    match c.apply q with
    | .ok next => (.ok (), next)
    | .error fault => (.error fault, q) := by
  have hrun : c.narrow.run q =
      if q.filled.filterOp = .or ∧ q.filled.filterItems ≠ [] then (.error .cursorWithOr, q.filled)
      else (.ok (), q.filled.withItem c.item) := by
    -- What follows the first step runs on the filled query.
    change (ite _ _ _ : StateM Query (Except Fault Unit)).run q.filled = _
    split <;> rfl
  rw [hrun, c.apply_eq, Query.filterOp_filled, Query.filterItems_filled, Query.withItem_filled]
  split
  · next h => rw [Query.filled_of_items h.2]
  · rfl

theorem continues_withItem (q : Query) (c : ListCursor) : q.Continues [c] (q.withItem c.item) :=
  ⟨⟨_, rfl⟩, rfl, rfl⟩

/-- Cursors applied one after the other. -/
def applyAll (cs : List ListCursor) (q : Query) : Except Fault Query :=
  cs.foldlM (fun q c => c.apply q) q

/-- Under AND a query takes any number of cursors. -/
theorem applyAll_ok (cs : List ListCursor) {q : Query} (h : q.filterOp = .and) :
    ∃ next, applyAll cs q = .ok next ∧ q.Continues cs next := by
  induction cs generalizing q with
  | nil => exact ⟨q, rfl, .refl q⟩
  | cons c cs ih =>
    have hfirst : c.apply q = .ok (q.withItem c.item) :=
      c.apply_ok fun hor => nomatch h.symm.trans hor
    obtain ⟨next, hrest, hcontinues⟩ := ih (q := q.withItem c.item) h
    refine ⟨next, ?_, (continues_withItem q c).trans hcontinues⟩
    rw [applyAll, List.foldlM_cons, hfirst]
    exact hrest

end ListCursor

/-! ## Parts of a list -/

/-- What a list is written from, besides its table and its time: conditions of the items on the main
table, guards of the references, the lookup of fingerprints, the order and the page. -/
structure ListParts where
  own : List Condition
  guards : List Sql
  lookup : Option ResourceLookup
  order : List OrderItem
  page : Page

namespace ListParts

/-- The statement as far as the conditions of the items. -/
def front (p : ListParts) (s : Schema) (time : TimeBounds) : Sql :=
  TableStatement.selectRows s ++ time.sql ++ Sql.conjuncts p.own

/-- The same list with the conditions of cursors behind those of its items. -/
def continued (p : ListParts) (cs : List ListCursor) : ListParts :=
  { p with own := p.own ++ cs.map fun c => .atom c.condition }

theorem text_front_continued (p : ListParts) (cs : List ListCursor) (s : Schema)
    (time : TimeBounds) : ((p.continued cs).front s time).text =
      (p.front s time).text ++ String.join (cs.map ListCursor.conjunctText) := by
  rw [front, continued, Sql.conjuncts_append, ← List.append_assoc, ← front, Sql.text_append,
    ListCursor.text_conjuncts]

/-- The statement from the guards of the references on. -/
def back (p : ListParts) : Sql :=
  Sql.conjuncts (p.guards.map .atom) ++ Sql.conjuncts (p.lookup.map fun l => .atom l.sql).toList ++
    Sql.raw " order by " ++ orderSql p.order ++ p.page.sql

end ListParts

/-- The signal that a schema keeps. -/
def Schema.signal : Schema → Signal
  | .logs => .logs
  | .traces => .traces

namespace Query

/-- The parts of the list of a query. -/
structure HasParts (q : Query) (s : Schema) (buckets : BucketRange) (p : ListParts) : Prop where
  own : ∃ units, List.Forall₂ (fun item u => s.unit item = .ok u)
    (q.filterItems.filter fun item => !(q.scope s).skips item.key) units ∧
    p.own = FilterUnit.combine q.filterOp units
  guards : p.guards = (q.scope s).references.filterMap s.referenceGuard
  lookup : q.lookupOn s (some buckets) = .ok p.lookup
  order : s.orderItems .list q.orderBy q.groupBy = .ok p.order
  page : Page.ofQuery q = .ok p.page

variable {q next : Query} {s : Schema} {buckets : BucketRange} {p : ListParts}
  {cs : List ListCursor}

/-- A list is written from its parts, the conditions of the items in front. -/
theorem list_iff_parts {start stop : Int} {options : QueryOptions} {sql : Sql}
    (htail : options.liveTail = false) :
    (q.tableStatement s start stop .list options).map TableStatement.sql = .ok sql ↔
      q.aggregateOperator = .noop ∧ ∃ p,
        q.HasParts s (NanoRange.ofInstants start stop).buckets p ∧
        sql = p.front s ((NanoRange.ofInstants start stop).bounds s) ++ p.back := by
  -- The main conditions fall into those of the items and the guards behind them.
  have hsplit : ∀ (f : RowFilter) (own guards : List Condition) (order : List OrderItem)
      (page : Page), f.main = own ++ guards →
      TableStatement.sql (.list s ((NanoRange.ofInstants start stop).bounds s) f order page) =
        TableStatement.selectRows s ++ ((NanoRange.ofInstants start stop).bounds s).sql ++
          Sql.conjuncts own ++ (Sql.conjuncts guards ++
            Sql.conjuncts (f.resource.map fun l => .atom l.sql).toList ++
            Sql.raw " order by " ++ orderSql order ++ page.sql) := by
    intro f own guards order page hmain
    rw [TableStatement.sql, f.sql_eq, RowFilter.conditions, hmain, Sql.conjuncts_append,
      Sql.conjuncts_append]
    simp only [List.append_assoc]
  constructor
  · intro h
    obtain ⟨t, ht, rfl⟩ := ok_of_map h
    obtain ⟨hop, f, order, page, hf, horder, hpage, rfl⟩ := (tableStatement_list_iff htail).mp ht
    obtain ⟨hmain, hfound⟩ := rowFilter_iff.mp hf
    obtain ⟨units, hunits, hconds⟩ := Schema.conditions_iff.mp hmain
    rw [filterOp_eq] at hconds
    rw [kept_eq] at hunits
    exact ⟨hop, ⟨_, _, f.resource, order, page⟩,
      ⟨⟨units, hunits, rfl⟩, rfl, hfound, horder, hpage⟩, hsplit f _ _ order page hconds⟩
  · rintro ⟨hop, p, hp, rfl⟩
    obtain ⟨units, hunits, hown⟩ := hp.own
    have hmain : s.conditions q.filters (q.scope s) = .ok (p.own ++ p.guards.map .atom) := by
      rw [Schema.conditions_iff, filterOp_eq, kept_eq]
      exact ⟨units, hunits, by rw [hown, hp.guards]⟩
    have hf : q.rowFilter s (some (NanoRange.ofInstants start stop).buckets) =
        .ok ⟨p.own ++ p.guards.map .atom, p.lookup⟩ := rowFilter_iff.mpr ⟨hmain, hp.lookup⟩
    rw [(tableStatement_list_iff htail).mpr ⟨hop, _, _, _, hf, hp.order, hp.page, rfl⟩]
    exact congrArg Except.ok (hsplit _ _ _ _ _ rfl)

/-- The lookup does not see the items of cursors. -/
theorem Continues.lookupOn (h : q.Continues cs next) :
    next.lookupOn s (some buckets) = q.lookupOn s (some buckets) := by
  obtain ⟨⟨filters, rfl⟩, -, hitems⟩ := h
  have hlabels : (cs.map ListCursor.item).filter (·.key.kind == .resource) = [] :=
    List.filter_eq_nil_iff.mpr (List.forall_mem_map.mpr fun _ _ => nofun)
  cases s with
  | traces => rfl
  | logs =>
    unfold Query.lookupOn ResourceLookup.ofQuery
    rw [hitems, List.filter_append, hlabels, List.append_nil]

/-- The conditions of cursors stand behind those of the other items, and no other part changes. -/
theorem HasParts.of_continues (h : q.HasParts s buckets p) (hc : q.Continues cs next)
    (hcs : q.filterOp = .and ∨ q.filterItems = [] ∧ cs.length ≤ 1) :
    next.HasParts s buckets (p.continued cs) := by
  obtain ⟨units, hunits, hown⟩ := h.own
  have hlookup : next.lookupOn s (some buckets) = .ok p.lookup := hc.lookupOn.trans h.lookup
  obtain ⟨⟨filters, rfl⟩, hop, hitems⟩ := hc
  -- The key of a cursor is no resource, so logs skip none of the new items either.
  have hkept : (cs.map ListCursor.item).filter (fun item => !(q.scope s).skips item.key) =
      cs.map ListCursor.item := by
    refine List.filter_eq_self.mpr (List.forall_mem_map.mpr fun c _ => ?_)
    simp [Schema.Scope.skips, ListCursor.item]
  have hbare : List.Forall₂ (fun item u => s.unit item = .ok u)
      ((cs.map ListCursor.item).filter fun item => !(q.scope s).skips item.key)
      ((cs.map ListCursor.condition).map fun sql => ⟨sql, none⟩) := by
    rw [hkept, List.map_map, List.forall₂_map_left_iff, List.forall₂_map_right_iff,
      List.forall₂_same]
    exact fun c _ => c.unit_item s
  have hunder : q.filterOp = .and ∨ units = [] ∧ (cs.map ListCursor.condition).length ≤ 1 := by
    rw [List.length_map]
    refine hcs.imp_right (And.imp_left fun hnone => ?_)
    rw [hnone] at hunits
    exact List.forall₂_nil_left_iff.mp hunits
  refine ⟨⟨units ++ (cs.map ListCursor.condition).map fun sql => ⟨sql, none⟩, ?_, ?_⟩, h.guards,
    hlookup, h.order, h.page⟩
  · rw [hitems, List.filter_append]
    exact List.rel_append hunits hbare
  · rw [hop, FilterUnit.combine_append hunder, ← hown, List.map_map]
    rfl

end Query

/-! ## Requests -/

/-- The range of a request in nanoseconds. -/
def CompileRequest.range (request : CompileRequest) : NanoRange :=
  .ofInstants request.start.toInt request.stop.toInt

namespace Engine

/-- The request compiles, and `text` is its statement. -/
def CompilesTo (e : Engine) (request : CompileRequest) (text : String) : Prop :=
  ∃ sql, e.compile request = .ok sql ∧ sql.text = text

variable {e : Engine} {request : CompileRequest} {s : Schema} {q next : Query} {p : ListParts}
  {cs : List ListCursor}

theorem aggregateOperator_limited (e : Engine) (panel : Panel) (q : Query) :
    (e.limited panel q).aggregateOperator = q.aggregateOperator := by
  unfold limited
  split <;> rfl

/-- The statement of a list whose query is known. -/
theorem compile_list (hpaged : pagedQuery request = .ok q) (hsignal : q.signal = s.signal)
    (hpanel : request.panel = .list) (hrange : request.start.toInt ≤ request.stop.toInt) :
    e.compile request = ((e.limited .list q).tableStatement s request.start.toInt
      request.stop.toInt .list (e.options request)).map TableStatement.sql := by
  have hlimited : (e.limited .list q).signal = s.signal := by
    unfold limited
    split <;> exact hsignal
  unfold compile
  rw [if_neg (by omega), hpaged, hpanel]
  change statementSql e.features request.start.toInt request.stop.toInt .list (e.limited .list q)
    (e.options request) = _
  unfold statementSql
  rw [hlimited]
  cases s <;> rfl

theorem pagedQuery_encode {c : ListCursor} (hpanel : request.panel = .list) (hid : c.id ≠ "")
    (query : Query) :
    pagedQuery { request with query := query, cursor := some c.encode } = c.apply query := by
  unfold pagedQuery
  dsimp only
  rw [hpanel, ListCursor.decode_encode hid]
  rfl

/-- A request for a list that has the parts `p`. -/
structure IsList (e : Engine) (request : CompileRequest) (s : Schema) (p : ListParts) : Prop where
  signal : request.query.signal = s.signal
  panel : request.panel = .list
  bounded : request.options.liveTail = false
  range : request.start.toInt ≤ request.stop.toInt
  operator : request.query.aggregateOperator = .noop
  parts : (e.limited .list request.query).HasParts s request.range.buckets p

/-- A list without a cursor is written from the parts of its query. -/
theorem isList_of_compilesTo {text : String} (hsignal : request.query.signal = s.signal)
    (hpanel : request.panel = .list) (htail : request.options.liveTail = false)
    (hcursor : request.cursor = none) (h : e.CompilesTo request text) :
    ∃ p, e.IsList request s p ∧
      text = (p.front s (request.range.bounds s)).text ++ p.back.text := by
  obtain ⟨sql, h, rfl⟩ := h
  have hrange := (compile_ok h).1
  have hpaged : pagedQuery request = .ok request.query := by
    unfold pagedQuery
    rw [hcursor]
  rw [compile_list hpaged hsignal hpanel hrange] at h
  obtain ⟨hop, p, hp, rfl⟩ := (Query.list_iff_parts htail).mp h
  refine ⟨p, ⟨hsignal, hpanel, htail, hrange, ?_, hp⟩, Sql.text_append _ _⟩
  rwa [aggregateOperator_limited] at hop

/-- A list continued by cursors has their conjuncts between the two halves of its statement. -/
theorem IsList.of_continues (h : e.IsList request s p) {query : Query} {cursor : Option String}
    (hpaged : pagedQuery { request with query := query, cursor := cursor } = .ok next)
    (hc : request.query.Continues cs next)
    (hcs : request.query.filterOp = .and ∨ request.query.filterItems = [] ∧ cs.length ≤ 1) :
    e.CompilesTo { request with query := query, cursor := cursor }
      ((p.front s (request.range.bounds s)).text ++
        String.join (cs.map ListCursor.conjunctText) ++ p.back.text) := by
  obtain ⟨filters, hsame⟩ := hc.same
  have hsignal : next.signal = s.signal := by
    rw [hsame]
    exact h.signal
  have hop : (e.limited .list next).aggregateOperator = .noop := by
    rw [aggregateOperator_limited, hsame]
    exact h.operator
  have hunder : (e.limited .list request.query).filterOp = .and ∨
      (e.limited .list request.query).filterItems = [] ∧ cs.length ≤ 1 := by
    unfold limited
    split <;> exact hcs
  refine ⟨(p.continued cs).front s (request.range.bounds s) ++ (p.continued cs).back, ?_, ?_⟩
  · rw [compile_list hpaged hsignal h.panel h.range]
    exact (Query.list_iff_parts h.bounded).mpr
      ⟨hop, _, h.parts.of_continues (hc.limited e .list) hunder, rfl⟩
  · rw [Sql.text_append, p.text_front_continued]
    rfl

/-- The request with one cursor. -/
theorem IsList.add_cursor (h : e.IsList request s p) {c : ListCursor} (hid : c.id ≠ "")
    (hnone : request.query.filterOp = .or → request.query.filterItems = []) :
    e.CompilesTo { request with cursor := some c.encode }
      ((p.front s (request.range.bounds s)).text ++ c.conjunctText ++ p.back.text) := by
  have hpaged : pagedQuery { request with cursor := some c.encode } =
      .ok (request.query.withItem c.item) :=
    (pagedQuery_encode h.panel hid request.query).trans (c.apply_ok hnone)
  have hunder : request.query.filterOp = .and ∨
      request.query.filterItems = [] ∧ [c].length ≤ 1 := by
    cases hop : request.query.filterOp with
    | and => exact .inl rfl
    | or => exact .inr ⟨hnone hop, le_rfl⟩
  have hone : String.join ([c].map ListCursor.conjunctText) = c.conjunctText := by
    rw [List.map_singleton, String.join_cons, String.join_nil, String.append_empty]
  rw [← hone]
  exact h.of_continues hpaged (c.continues_withItem request.query) hunder

/-- Under AND, the request whose query has taken cursors before, and one more with the request. -/
theorem IsList.add_cursors (h : e.IsList request s p) (hcursor : request.cursor = none)
    (hand : request.query.filterOp = .and) (cs : List ListCursor) :
    ∃ next, ListCursor.applyAll cs request.query = .ok next ∧
      e.CompilesTo { request with query := next } ((p.front s (request.range.bounds s)).text ++
        String.join (cs.map ListCursor.conjunctText) ++ p.back.text) ∧
      ∀ c : ListCursor, c.id ≠ "" →
        e.CompilesTo { request with query := next, cursor := some c.encode }
          ((p.front s (request.range.bounds s)).text ++
            String.join ((cs ++ [c]).map ListCursor.conjunctText) ++ p.back.text) := by
  obtain ⟨next, happly, hc⟩ := ListCursor.applyAll_ok cs hand
  have hnext : next.filterOp = .and := hc.op.trans hand
  refine ⟨next, happly, h.of_continues ?_ hc (.inl hand), fun c hid => ?_⟩
  · unfold pagedQuery
    dsimp only
    rw [hcursor]
  · have hunder : next.filterOp = .or → next.filterItems = [] := by simp [hnext]
    have hpaged : pagedQuery { request with query := next, cursor := some c.encode } =
        .ok (next.withItem c.item) :=
      (pagedQuery_encode h.panel hid next).trans (c.apply_ok hunder)
    exact h.of_continues hpaged (hc.trans (c.continues_withItem next)) (.inl hand)

/-- The request with a cursor fails if its items stand under OR. -/
theorem compile_cursorWithOr (hpanel : request.panel = .list)
    (hor : request.query.filterOp = .or) (hne : request.query.filterItems ≠ [])
    {c : ListCursor} (hid : c.id ≠ "") :
    e.compile { request with cursor := some c.encode } = .error
      (if request.start.toInt ≤ request.stop.toInt then .cursorWithOr
      else .startAfterEnd request.start.toInt request.stop.toInt) := by
  have hpaged : pagedQuery { request with cursor := some c.encode } = .error .cursorWithOr :=
    (pagedQuery_encode hpanel hid request.query).trans (c.apply_error hor hne)
  unfold compile
  rw [hpaged]
  by_cases hrange : request.start.toInt ≤ request.stop.toInt
  · rw [if_pos hrange, if_neg (Int.not_lt.mpr hrange)]
    rfl
  · rw [if_neg hrange, if_pos (Int.not_le.mp hrange)]
    rfl

/-- **A cursor adds one conjunct.** A list of logs or traces that is no live tail and compiles
without a cursor has a front, up to the conditions of its own items on the main table, and a back,
from the guards of the grouped keys and the lookup of resources on. Unless its items stand under OR,
every cursor with an id makes a request that compiles as well, and the cursor's conjunct between the
two is all the difference. Under AND, and so without a set of filters, further cursors add one
conjunct each. Items under OR take no cursor: the request fails, and a query changed in place stays
as it was. A set under OR without items takes one cursor and no second one. -/
theorem cursor_adds_conjunct (hsignal : request.query.signal = s.signal)
    (hpanel : request.panel = .list) (htail : request.options.liveTail = false)
    (hcursor : request.cursor = none) :
    (∀ text, e.CompilesTo request text →
      (request.query.filterOp = .or → request.query.filterItems = []) →
      ∃ (p : ListParts) (front back : String),
        (e.limited .list request.query).HasParts s request.range.buckets p ∧
        front = (p.front s (request.range.bounds s)).text ∧ back = p.back.text ∧
        text = front ++ back ∧
        (∀ c : ListCursor, c.id ≠ "" → e.CompilesTo { request with cursor := some c.encode }
          (front ++ (" AND id < " ++ Sql.quoteString c.id) ++ back)) ∧
        (request.query.filterOp = .and → ∀ cs : List ListCursor, ∃ next,
          ListCursor.applyAll cs request.query = .ok next ∧
          e.CompilesTo { request with query := next }
            (front ++ String.join (cs.map ListCursor.conjunctText) ++ back) ∧
          ∀ c : ListCursor, c.id ≠ "" →
            e.CompilesTo { request with query := next, cursor := some c.encode }
              (front ++ String.join ((cs ++ [c]).map ListCursor.conjunctText) ++ back))) ∧
    (request.query.filterOp = .or → request.query.filterItems ≠ [] → ∀ c : ListCursor,
      c.narrow.run request.query = (.error .cursorWithOr, request.query) ∧
      (c.id ≠ "" → e.compile { request with cursor := some c.encode } = .error
        (if request.start.toInt ≤ request.stop.toInt then .cursorWithOr
        else .startAfterEnd request.start.toInt request.stop.toInt))) ∧
    (request.query.filterOp = .or → request.query.filterItems = [] → ∀ (c d : ListCursor) (next),
      c.apply request.query = .ok next → d.narrow.run next = (.error .cursorWithOr, next)) := by
  refine ⟨fun text h hnone => ?_, fun hor hne c => ⟨?_, fun hid => ?_⟩,
    fun hor hnil c d next h => ?_⟩
  · obtain ⟨p, hlist, htext⟩ := isList_of_compilesTo hsignal hpanel htail hcursor h
    exact ⟨p, _, _, hlist.parts, rfl, rfl, htext, fun c hid => hlist.add_cursor hid hnone,
      hlist.add_cursors hcursor⟩
  · rw [c.run_narrow, c.apply_error hor hne]
  · exact compile_cursorWithOr hpanel hor hne hid
  · have hnext : next = request.query.withItem c.item :=
      Except.ok.inj (h.symm.trans (c.apply_ok fun _ => hnil))
    have hitems : next.filterItems ≠ [] := by
      rw [hnext]
      simp [Query.filterItems, Query.withItem]
    have hop : next.filterOp = .or := by
      rw [hnext]
      exact hor
    rw [d.run_narrow, d.apply_error hop hitems]

/-- The requests of one method on one host, with the status of each. -/
def methodOnHost (op : Connective) : CompileRequest where
  start := 1700000000000
  stop := 1700000060000
  panel := .list
  query :=
    { signal := .logs
      filters := some ⟨op,
        [⟨{ name := "method", dataType := .scalar .string, kind := .tag }, .compare .eq,
          .text "GET"⟩,
         ⟨{ name := "host", dataType := .scalar .string, kind := .resource }, .compare .eq,
          .text "h1"⟩]⟩
      groupBy := [{ name := "status", dataType := .scalar .int64, kind := .tag }] }

theorem cursor_adds_conjunct_methodOnHost :
    (∃ front back : String, ({} : Engine).CompilesTo (methodOnHost .and) (front ++ back) ∧
      ({} : Engine).CompilesTo
        { methodOnHost .and with cursor := some (ListCursor.encode ⟨5, "r1"⟩) }
        (front ++ " AND id < 'r1'" ++ back)) ∧
    ({} : Engine).compile { methodOnHost .or with cursor := some (ListCursor.encode ⟨5, "r1"⟩) } =
      .error .cursorWithOr := by
  refine ⟨?_, ?_⟩
  · obtain ⟨text, htext⟩ : ∃ text, ({} : Engine).CompilesTo (methodOnHost .and) text :=
      ⟨_, _, rfl, rfl⟩
    obtain ⟨hall, -⟩ := @cursor_adds_conjunct {} (methodOnHost .and) .logs rfl rfl rfl rfl
    obtain ⟨_, front, back, -, -, -, rfl, hone, -⟩ := hall text htext nofun
    exact ⟨front, back, htext, hone ⟨5, "r1"⟩ (by decide)⟩
  · obtain ⟨-, hrefused, -⟩ := @cursor_adds_conjunct {} (methodOnHost .or) .logs rfl rfl rfl rfl
    exact (hrefused rfl nofun ⟨5, "r1"⟩).2 (by decide)

end Engine

end PanelQuery
