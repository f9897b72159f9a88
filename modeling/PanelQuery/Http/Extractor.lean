import PanelQuery.Http.MediaType
import PanelQuery.Http.Message
import PanelQuery.Http.Path
import PanelQuery.Json.Bytes
import PanelQuery.Query.Codec

/-!
What takes the arguments of a handler out of a request. This comes before the handler: a request
without the argument is answered on the spot, and the handler does not see it. The web framework
brings its own extractors, so they are a parameter of the service; `Extractors.standard` are those
that the service runs with.
-/

namespace PanelQuery.Http

structure Extractors where
  /-- The compile request in a body, or the answer to a request without one. -/
  compileRequest : Request → Except Response CompileRequest
  /-- The text that a segment of the path stands for, or the answer if it stands for none. -/
  segment : List Char → Except Response String

/-- A longer body is not read. -/
def maxBodyBytes : Nat := 2097152

namespace Extractors

/-- The compile request in a body that is announced as JSON. Only the first value counts. -/
def readBody (q : Request) : Except Response CompileRequest :=
  match q.header? "content-type" with
  | none => .error ⟨415, none⟩
  | some type =>
    if !isJsonType type then .error ⟨415, none⟩
    else if maxBodyBytes < q.body.bytes.size then .error ⟨413, none⟩
    else match CompileRequest.read (.read (Json.textOfBytes q.body.bytes.toList)) with
      | .ok request => .ok request
      | .error .malformed => .error ⟨400, none⟩
      | .error .mismatch => .error ⟨422, none⟩

def readSegment (segment : List Char) : Except Response String :=
  match decodeSegment? segment with
  | some s => .ok s
  | none => .error ⟨400, none⟩

def standard : Extractors := ⟨readBody, readSegment⟩

end Extractors

end PanelQuery.Http
