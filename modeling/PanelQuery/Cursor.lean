import PanelQuery.Query.Codec
import PanelQuery.Error
import PanelQuery.Json.Bytes
import PanelQuery.Text.Base64Url

/-!
Cursors of list pages. A cursor remembers the last row of a page; its text form is opaque to
callers. Applied to a query it asks for rows with a smaller id.
-/

namespace PanelQuery

structure ListCursor where
  timestamp : Int64
  id : String
  deriving DecidableEq

namespace ListCursor

open Json.Document

def read : Json.Reader ListCursor := asRecord ⟨0, ""⟩
  [.need "timestamp" asInt64 fun c v => { c with timestamp := v },
   .need "id" asText fun c v => { c with id := v }]

def toJson (c : ListCursor) : Json :=
  .obj [("timestamp", .int c.timestamp.toInt), ("id", .str c.id)]

/-- The text of a cursor. -/
def encode (c : ListCursor) : String :=
  String.ofList (Text.Base64Url.encode c.toJson.render.toUTF8.toList)

/-- The cursor of a text. The id must not be empty. -/
def decode? (s : String) : Option ListCursor := do
  let bytes ← Text.Base64Url.decode? s.toList
  match read (readBytes bytes) with
  | .ok cursor => if cursor.id = "" then none else some cursor
  | .error _ => none

def decode (s : String) : Except Fault ListCursor :=
  match decode? s with
  | some cursor => .ok cursor
  | none => .error .invalidCursor

/-- The filter for rows before the cursor. -/
def item (c : ListCursor) : FilterItem :=
  ⟨{ name := "id", isColumn := true }, .compare .lt, .text c.id⟩

/-- Adds the cursor to the filters. Any other filters have to be combined by AND. -/
def addTo (c : ListCursor) : Option FilterSet → Except Fault FilterSet
  | none => .ok ⟨.and, [c.item]⟩
  | some set =>
    if set.op = .or ∧ !set.items.isEmpty then .error .cursorWithOr
    else .ok { set with items := set.items ++ [c.item] }

/-- The query for the page after the cursor. -/
def apply (c : ListCursor) (q : Query) : Except Fault Query := do
  return { q with filters := some (← c.addTo q.filters) }

end ListCursor

end PanelQuery
