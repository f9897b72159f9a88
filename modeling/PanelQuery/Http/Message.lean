import PanelQuery.Error
import PanelQuery.Json.Value
import PanelQuery.Text.Blank

/-!
Requests and answers. A body is a sequence of bytes; one that is given as a text is the bytes of the
text.
-/

namespace PanelQuery.Http

structure Body where
  bytes : ByteArray := .empty

instance : Coe String Body := ⟨fun s => ⟨s.toUTF8⟩⟩

structure Request where
  method : String
  target : String
  /-- Names and values. A character of a value is one of its bytes. -/
  headers : List (String × String) := []
  body : Body := {}

/-- The first header of a name; the case of names does not matter. -/
def Request.header? (q : Request) (name : String) : Option String :=
  (q.headers.find? fun h => Text.asciiLower h.1 == name).map (·.2)

/-- A status and, if the body is JSON, its value. -/
structure Response where
  status : Nat
  json : Option Json := none

namespace Response

def ofError (e : ServiceError) : Response := ⟨e.status, some (.obj [("error", .str e.message)])⟩

def ofResult (r : Except ServiceError Json) : Response :=
  match r with
  | .ok j => ⟨200, some j⟩
  | .error e => .ofError e

end Response

end PanelQuery.Http
