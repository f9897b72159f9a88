import PanelQuery.Decimal.Numeral
import PanelQuery.Error
import PanelQuery.Sql.Piece

/-!
The rows of a list statement. Without a page size the statement has the limit; with one, the page
is cut at the limit. OFFSET is left out when rows are ordered by time alone, since such lists are
continued by a cursor.
-/

namespace PanelQuery

/-- Rows of a list when the request has no limit. -/
def defaultListLimit : Nat := 100

/-- The rows to return. -/
structure Page where
  limit : Nat
  offset : Option Nat
  deriving DecidableEq, Repr

namespace Page

def sql (p : Page) : Sql :=
  Sql.raw " LIMIT " ++ [.int p.limit] ++
    match p.offset with
    | some n => Sql.raw " OFFSET " ++ [.int n]
    | none => []

/-- The only order is the one by timestamp, or there is none. -/
def isByTime (orderBy : List OrderBy) : Bool :=
  match orderBy with
  | [] => true
  | [o] => o.column == "timestamp" || o.key == "timestamp"
  | _ => false

/-- Rows of the page at `offset`: the page size, cut at a given limit. -/
def rows (limit offset pageSize : Nat) : Nat :=
  if 0 < limit ∧ limit < min (offset + pageSize) Decimal.uint64Max then limit - offset
  else pageSize

def ofQuery (q : Query) : Except Fault Page :=
  let limit := q.limit.toNat
  let overall := if limit = 0 then defaultListLimit else limit
  if q.pageSize.toNat = 0 then .ok ⟨overall, none⟩
  else if overall < q.offset.toNat then .error .pageBeyondLimit
  else .ok ⟨rows limit q.offset.toNat q.pageSize.toNat,
    if isByTime q.orderBy then none else some q.offset.toNat⟩

end Page

end PanelQuery
