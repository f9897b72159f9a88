import PanelQuery.Cursor
import PanelQuery.Metrics.Compile
import PanelQuery.Statement.Compile

/-!
Compiling a request: the range is checked, a cursor is applied, list panels get their default limit,
and the query goes to the compiler of its signal.
-/

namespace PanelQuery

/-- The flag that switches rates from per second to per minute. -/
def preferRpmFeature : String := "PreferRPM"

/-- What a service compiles with. -/
structure Engine where
  features : List String := []
  defaultListLimit : UInt64 := 100

/-- A compiled request. -/
structure Compiled where
  queryName : String
  sql : Sql

def Compiled.members (c : Compiled) : List (String × Json) :=
  [("queryName", .str c.queryName), ("sql", .str c.sql.text),
   ("requiresTopNGroups", .bool c.sql.needsGroups)]

def Compiled.toJson (c : Compiled) : Json := .obj c.members

namespace Engine

def prefersRpm (features : List String) : Bool := features.contains preferRpmFeature

/-- The statement of a query by its signal. Metrics take the rate unit from the features alone. -/
def statementSql (features : List String) (start stop : Int) (panel : Panel) (q : Query)
    (options : QueryOptions) : Except Fault Sql := do
  match q.signal with
  | .logs => return (← q.tableStatement .logs start stop panel options).sql
  | .traces => return (← q.tableStatement .traces start stop panel options).sql
  | .metrics => return (← q.metricsStatement start stop panel (prefersRpm features)).sql

/-- The query of a request with its cursor applied. -/
def pagedQuery (request : CompileRequest) : Except Fault Query :=
  match request.cursor with
  | none => .ok request.query
  | some text => do
    if request.panel ≠ .list then .error .cursorOutsideList
    (← ListCursor.decode text).apply request.query

/-- A list without page size and limit gets the default limit. -/
def limited (e : Engine) (panel : Panel) (q : Query) : Query :=
  if panel = .list ∧ q.pageSize = 0 ∧ q.limit = 0 then { q with limit := e.defaultListLimit } else q

/-- The options of a request, with the rate unit that the features ask for. -/
def options (e : Engine) (request : CompileRequest) : QueryOptions :=
  { request.options with preferRpm := request.options.preferRpm || prefersRpm e.features }

/-- The statement of a request. -/
def compile (e : Engine) (request : CompileRequest) : Except Fault Sql := do
  if request.stop.toInt < request.start.toInt then
    .error (.startAfterEnd request.start.toInt request.stop.toInt)
  let q ← pagedQuery request
  statementSql e.features request.start.toInt request.stop.toInt request.panel
    (e.limited request.panel q) (e.options request)

/-- What compiles: a range in order, and a query whose cursor can be applied. -/
theorem compile_ok {e : Engine} {request : CompileRequest} {sql : Sql}
    (h : e.compile request = .ok sql) :
    request.start.toInt ≤ request.stop.toInt ∧ ∃ q, pagedQuery request = .ok q ∧
      statementSql e.features request.start.toInt request.stop.toInt request.panel
        (e.limited request.panel q) (e.options request) = .ok sql := by
  unfold compile at h
  dsimp only at h
  split at h
  · cases h
  next hrange =>
    cases hq : pagedQuery request with
    | error fault =>
      rw [hq] at h
      cases h
    | ok q =>
      rw [hq] at h
      exact ⟨Int.not_lt.mp hrange, q, rfl, h⟩

/-- The statement under the name of its query. -/
def respond (e : Engine) (request : CompileRequest) : Except Fault Compiled := do
  return ⟨request.query.name, ← e.compile request⟩

end Engine

namespace Sql

/-- The text of a statement that is to run; one that waits for groups cannot. -/
def final (sql : Sql) : Except ServiceError String :=
  match sql.final? with
  | some text => .ok text
  | none => .error (.internal "top-n group list was not bound before execution")

end Sql

end PanelQuery
