import PanelQuery.Http.Service

/-! # Callers without the key

What a caller without the key is told depends on the request alone: not on the queries that run, not
on what the service compiles with, not even on the key. It is the same refusal for all requests
whose argument can be taken. Arguments are taken before the key is looked at, so a request without
one is answered by the extractor. -/

namespace PanelQuery.Http

/-! ## Requests -/

/-- A header of the request holds the key. -/
def Request.Shows (q : Request) (key : String) : Prop :=
  ∃ h ∈ q.headers, Text.asciiLower h.1 = "x-api-key" ∧ h.2 = key

/-- The method that a route is meant for. -/
def Route.method : Route → String
  | .compile => "POST"
  | .health | .progress _ => "GET"

/-- The request is one to the route. -/
def Request.Asks (q : Request) (route : Route) : Prop :=
  Route.ofPath? (pathOf q.target) = some route ∧ q.method = route.method

/-! ## Arguments -/

namespace Extractors

/-- The extractors answer for themselves: what they say of a request without an argument is not what
the handlers say of one without the key. -/
structure Lawful (x : Extractors) : Prop where
  compileRequest : ∀ q answer, x.compileRequest q = .error answer → answer.status ≠ 401
  segment : ∀ segment answer, x.segment segment = .error answer → answer.status ≠ 401

/-- The answer to a request without the argument of a route, or none if it has one. -/
def rejection? (x : Extractors) (q : Request) : Route → Option Response
  | .health => none
  | .compile => match x.compileRequest q with
    | .ok _ => none
    | .error answer => some answer
  | .progress segment => match x.segment segment with
    | .ok _ => none
    | .error answer => some answer

/-- The argument of a route can be taken out of the request. -/
def Takes (x : Extractors) (q : Request) : Route → Prop
  | .health => True
  | .compile => ∃ request, x.compileRequest q = .ok request
  | .progress segment => ∃ queryId, x.segment segment = .ok queryId

variable {x : Extractors} {q : Request} {route : Route} {answer : Response}

theorem rejection?_eq_none_iff : x.rejection? q route = none ↔ x.Takes q route := by
  cases route with
  | health => simp [rejection?, Takes]
  | compile => cases h : x.compileRequest q <;> simp [rejection?, Takes, h]
  | progress segment => cases h : x.segment segment <;> simp [rejection?, Takes, h]

theorem Lawful.status (hx : x.Lawful) (h : x.rejection? q route = some answer) :
    answer.status ≠ 401 := by
  unfold rejection? at h
  split at h
  · cases h
  · split at h
    · cases h
    · next he =>
      cases h
      exact hx.compileRequest _ _ he
  · split at h
    · cases h
    · next he =>
      cases h
      exact hx.segment _ _ he

/-- The service runs with such extractors. -/
theorem lawful_standard : standard.Lawful := by
  constructor
  case compileRequest =>
    intro q answer h
    simp only [standard, readBody] at h
    repeat' split at h
    all_goals
      cases h
      try decide
  case segment =>
    intro segment answer h
    simp only [standard, readSegment] at h
    split at h
    all_goals
      cases h
      try decide

end Extractors

/-! ## Answers -/

/-- The answer to a caller who is not admitted. -/
def Response.unauthorized : Response := ⟨401, some (.obj [("error", .str "authentication failed")])⟩

/-- What a caller without the key is told. Neither the service nor the registry is asked. -/
def Request.refusal (q : Request) (x : Extractors) : Route → Response
  | .health => Service.health
  | route => (x.rejection? q route).getD .unauthorized

section Refused

variable {s : Service} {x : Extractors} {q : Request} {key : String} {route : Route}

theorem not_isAdmitted (hkey : s.apiKey = some key) (hq : ¬ q.Shows key) :
    s.isAdmitted q = false := by
  unfold Service.isAdmitted Request.header?
  rw [hkey]
  cases hfind : q.headers.find? fun h => Text.asciiLower h.1 == "x-api-key" with
  | none => rfl
  | some h =>
    have hname : Text.asciiLower h.1 = "x-api-key" := by simpa using List.find?_some hfind
    have hother : h.2 ≠ key := fun he => hq ⟨h, List.mem_of_find?_eq_some hfind, hname, he⟩
    simp [hother]

theorem checkKey_of_refused (h : s.isAdmitted q = false) : s.checkKey q = .error .auth := by
  simp [Service.checkKey, h]

theorem answer_of_refused (h : s.isAdmitted q = false) (x : Extractors) (r : Registry)
    (route : Route) : s.answer x r q route = q.refusal x route := by
  have hcheck := checkKey_of_refused h
  cases route with
  | health => rfl
  | compile =>
    cases ht : x.compileRequest q with
    | error answer => simp only [Service.answer, Request.refusal, Extractors.rejection?, ht,
        Option.getD_some]
    | ok request =>
      simp only [Service.answer, Request.refusal, Extractors.rejection?, ht, Option.getD_none,
        Service.compile, hcheck]
      rfl
  | progress segment =>
    cases ht : x.segment segment with
    | error answer => simp only [Service.answer, Request.refusal, Extractors.rejection?, ht,
        Option.getD_some]
    | ok queryId =>
      simp only [Service.answer, Request.refusal, Extractors.rejection?, ht, Option.getD_none,
        Service.progress, hcheck]
      rfl

theorem respondWith_of_asks (hq : q.Asks route) (x : Extractors) (r : Registry) :
    s.respondWith x r q = s.answer x r q route := by
  obtain ⟨hpath, hmethod⟩ := hq
  have hallowed : route.allows q.method = true := by
    rw [hmethod]
    cases route <;> rfl
  have hbody : q.method ≠ "HEAD" := by
    rw [hmethod]
    cases route <;> simp [Route.method]
  simp [Service.respondWith, hpath, hallowed, hbody]

theorem refusal_eq (hroute : route ≠ .health) :
    q.refusal x route = (x.rejection? q route).getD .unauthorized := by
  cases route with
  | health => exact absurd rfl hroute
  | compile | progress => rfl

theorem refusal_eq_unauthorized_iff (hx : x.Lawful) (hroute : route ≠ .health) :
    q.refusal x route = .unauthorized ↔ x.Takes q route := by
  rw [refusal_eq hroute, ← Extractors.rejection?_eq_none_iff]
  cases h : x.rejection? q route with
  | none => exact iff_of_true rfl rfl
  | some answer =>
    refine iff_of_false (fun he => hx.status h ?_) nofun
    exact congrArg Response.status he

end Refused

/-- **Without the key nothing shows.** A request without the key to a route that asks for it gets
the one refusal if and only if the argument of the route can be taken out of it, and otherwise the
answer of the extractor. The answer is that of every service that the request does not show the key
of, whatever queries it runs, and all requests with an argument get the same. -/
theorem unauthorized_iff_taken {x : Extractors} (hx : x.Lawful) {s : Service} {key : String}
    (hkey : s.apiKey = some key) {q : Request} {route : Route} (hasks : q.Asks route)
    (hroute : route ≠ .health) (hq : ¬ q.Shows key) (r : Registry) :
    (s.respondWith x r q = .unauthorized ↔ x.Takes q route) ∧
    (∀ answer, x.rejection? q route = some answer → s.respondWith x r q = answer) ∧
    (∀ (s' : Service) (key' : String) (r' : Registry), s'.apiKey = some key' → ¬ q.Shows key' →
      s'.respondWith x r' q = s.respondWith x r q) ∧
    (∀ (q' : Request) (route' : Route) (r' : Registry), q'.Asks route' → route' ≠ .health →
      ¬ q'.Shows key → x.Takes q route → x.Takes q' route' →
      s.respondWith x r' q' = s.respondWith x r q) := by
  have hanswer := answer_of_refused (not_isAdmitted hkey hq) x r route
  rw [respondWith_of_asks hasks, hanswer]
  refine ⟨refusal_eq_unauthorized_iff hx hroute, fun answer h => ?_, ?_, ?_⟩
  · rw [refusal_eq hroute, h, Option.getD_some]
  · intro s' key' r' hkey' hq'
    rw [respondWith_of_asks hasks, answer_of_refused (not_isAdmitted hkey' hq')]
  · intro q' route' r' hasks' hroute' hq' htakes htakes'
    rw [respondWith_of_asks hasks', answer_of_refused (not_isAdmitted hkey hq'),
      (refusal_eq_unauthorized_iff hx hroute').mpr htakes',
      (refusal_eq_unauthorized_iff hx hroute).mpr htakes]

/-- A compile request that does not say what its body is. -/
def untyped : Request where
  method := "POST"
  target := "/api/v1/query/compile"
  body := "x"

/-- A question for the progress of a query, with a wrong key. -/
def misguided : Request where
  method := "GET"
  target := "/api/v1/query/progress/q%41"
  headers := [("X-Api-Key", "guess")]

/-- The service says that it cannot take the body before the key is missed, unlike the query id. -/
theorem unauthorized_iff_taken_untyped :
    let s : Service := { apiKey := some "secret" }
    let r := { Registry.new 1 with running := [("qA", 0)], registrations := [{}] }
    Extractors.standard.Lawful ∧ ¬ untyped.Shows "secret" ∧ ¬ misguided.Shows "secret" ∧
    s.respond r untyped = ⟨415, none⟩ ∧ s.respond r misguided = .unauthorized := by
  intro s r
  have huntyped : ¬ untyped.Shows "secret" := by simp [Request.Shows, untyped]
  have hmisguided : ¬ misguided.Shows "secret" := by simp [Request.Shows, misguided]
  have hcompile : untyped.Asks .compile := ⟨by decide +kernel, rfl⟩
  have hprogress : misguided.Asks (.progress "q%41".toList) := ⟨by decide +kernel, rfl⟩
  have hdecoded : decodeSegment? "q%41".toList = some "qA" := by decide +kernel
  have hlawful := Extractors.lawful_standard
  refine ⟨hlawful, huntyped, hmisguided, ?_, ?_⟩
  · exact (unauthorized_iff_taken hlawful rfl hcompile nofun huntyped r).2.1 _ rfl
  · exact (unauthorized_iff_taken hlawful rfl hprogress nofun hmisguided r).1.mpr
      ⟨"qA", by simp only [Extractors.standard, Extractors.readSegment, hdecoded]⟩

end PanelQuery.Http
