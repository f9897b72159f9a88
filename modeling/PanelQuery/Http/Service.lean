import PanelQuery.Engine
import PanelQuery.Http.Extractor
import PanelQuery.Progress.Registry

/-!
The requests that the service answers: whether it is well, the statement of a query, and the
progress of a running one. Apart from the first they are open only to callers who show the key, if
one is set. The handlers look for the key, so a request whose argument cannot be taken is answered
before, whoever sent it.
-/

namespace PanelQuery.Http

/-- What the service runs with. -/
structure Service where
  engine : Engine := {}
  apiKey : Option String := none

/-! ## Routes -/

inductive Route where
  | health
  | compile
  | progress (segment : List Char)
  deriving DecidableEq

/-- The route of a path. The last segment of a progress path is the query id and not empty. -/
def Route.ofPath? (path : List Char) : Option Route :=
  if path = "/healthz".toList then some .health
  else if path = "/api/v1/query/compile".toList then some .compile
  else match Text.dropStart? "/api/v1/query/progress/".toList path with
    | some (c :: rest) => if (c :: rest).contains '/' then none else some (.progress (c :: rest))
    | _ => none

/-- The methods of a route; reading includes asking for the head alone. -/
def Route.allows : Route → String → Bool
  | .compile, method => method == "POST"
  | _, method => method == "GET" || method == "HEAD"

namespace Service

/-! ## The key -/

/-- The caller shows the key. A header that is not plain text shows nothing. -/
def isAdmitted (s : Service) (q : Request) : Bool :=
  match s.apiKey with
  | none => true
  | some key => match q.header? "x-api-key" with
    | some shown => shown == key && shown.toList.all fun c => isPrintable c || c == '\t'
    | none => false

/-- Refuses a caller without the key. -/
def checkKey (s : Service) (q : Request) : Except ServiceError Unit :=
  if s.isAdmitted q then .ok () else .error .auth

/-! ## Handlers -/

def health : Response := ⟨200, some (.obj [("status", .str "ok")])⟩

/-- The statement of a compile request. -/
def compile (s : Service) (q : Request) (request : CompileRequest) : Response :=
  .ofResult do
    s.checkKey q
    return (← (s.engine.respond request).mapError Fault.toError).toJson

/-- The progress of a query. -/
def progress (s : Service) (r : Registry) (q : Request) (queryId : String) : Response :=
  .ofResult do
    s.checkKey q
    return (← r.snapshot queryId).toJson

/-! ## Answers -/

/-- The answer of a route: that of its handler, or that of the extractor of its argument. -/
def answer (s : Service) (x : Extractors) (r : Registry) (q : Request) : Route → Response
  | .health => health
  | .compile => match x.compileRequest q with
    | .ok request => s.compile q request
    | .error answer => answer
  | .progress segment => match x.segment segment with
    | .ok queryId => s.progress r q queryId
    | .error answer => answer

/-- The answer to a request; the head of an answer has no body. -/
def respondWith (s : Service) (x : Extractors) (r : Registry) (q : Request) : Response :=
  match Route.ofPath? (pathOf q.target) with
  | none => ⟨404, none⟩
  | some route =>
    if !route.allows q.method then ⟨405, none⟩
    else if q.method = "HEAD" then { s.answer x r q route with json := none }
    else s.answer x r q route

def respond (s : Service) (r : Registry) (q : Request) : Response := s.respondWith .standard r q

end Service

end PanelQuery.Http
