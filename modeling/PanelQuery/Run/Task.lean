import PanelQuery.Engine
import PanelQuery.Progress.Registry
import PanelQuery.Run.Groups

/-!
Running a request against the store. A `Task` says which statement is sent next and how the rows
that come back are used; it knows nothing of time, failure or the registry. `run` performs a task
under a registration, which ends with the task however the task ends.
-/

namespace PanelQuery

inductive Task where
  | done (result : Except ServiceError (List Row))
  | send (statement : String) (next : List Row → Task)

/-! ## The task of a request -/

/-- A limited, grouped graph of logs or traces is ranked first, unless the caller chose a pass. -/
def CompileRequest.isRanked (r : CompileRequest) : Bool :=
  r.panel == .graph && r.query.signal != .metrics && r.options.pass == .none
    && !r.query.groupBy.isEmpty && 0 < r.query.limit

def CompileRequest.withPass (r : CompileRequest) (pass : TopNPass) : CompileRequest :=
  { r with options := { r.options with pass } }

namespace Engine

/-- The text that is sent for a request without groups. -/
def finalText (e : Engine) (r : CompileRequest) : Except ServiceError String := do
  (← (e.compile r).mapError Fault.toError).final

/-- The text of the second pass for the rows of the first. -/
def groupedText (e : Engine) (r : CompileRequest) (rows : List Row) :
    Except ServiceError String := do
  let groups ← groupTuples r.query.groupBy rows
  let sql ← (e.compile (r.withPass .second)).mapError Fault.toError
  return sql.bind groups

end Engine

/-- Sends a text that could be made. -/
def Task.ofText (text : Except ServiceError String) (next : List Row → Task) : Task :=
  match text with
  | .ok statement => .send statement next
  | .error e => .done (.error e)

/-- One statement, or a ranking and a statement for the groups it found. -/
def Task.ofRequest (e : Engine) (r : CompileRequest) : Task :=
  if r.isRanked then
    .ofText (e.finalText (r.withPass .first)) fun rows =>
      if rows.isEmpty then .done (.ok [])
      else .ofText (e.groupedText r rows) fun rows => .done (.ok rows)
  else .ofText (e.finalText r) fun rows => .done (.ok rows)

/-! ## Performing it -/

/-- How the wait for a statement ends. -/
inductive Reply where
  | rows (rows : List Row)
  | failed (text : String)
  | timedOut
  | abandoned

/-- A store with a state of its own. While it works on a statement it may report progress, and
others may use the registry. -/
abbrev Store (σ : Type) := Reporter → String → Registry × σ → Reply × Registry × σ

/-- How a run ends. -/
inductive Ending where
  | rows (rows : List Row)
  | failed (e : ServiceError)
  | abandoned

def Ending.ofResult : Except ServiceError (List Row) → Ending
  | .ok found => .rows found
  | .error e => .failed e

/-- A value panel has one row at most. -/
def checkRows (panel : Panel) (rows : List Row) : Except ServiceError (List Row) :=
  if panel = .value ∧ 1 < rows.length then
    .error (.invalidRequest ("value panel query returned " ++ toString rows.length
      ++ " rows, expected at most one"))
  else .ok rows

def Task.perform (store : Store σ) (panel : Panel) (reporter : Reporter) :
    Task → Registry × σ → Ending × Registry × σ
  | .done result, world => (.ofResult (result.bind (checkRows panel)), world)
  | .send statement next, world =>
    match store reporter statement world with
    | (.rows rows, world) => (next rows).perform store panel reporter world
    | (.failed text, world) => (.failed (.internal text), world)
    | (.timedOut, world) =>
      (.failed (.timeout ("query " ++ reporter.queryId ++ " timed out")), world)
    | (.abandoned, world) => (.abandoned, world)

/-- Runs a request under a query id. -/
def run (e : Engine) (store : Store σ) (queryId : String) (r : CompileRequest)
    (world : Registry × σ) : Ending × Registry × σ :=
  match world.1.start queryId with
  | .error e => (.failed e, world)
  | .ok (guard, registry) =>
    let (ending, registry, state) :=
      (Task.ofRequest e r).perform store r.panel guard.reporter (registry, world.2)
    (ending, registry.finish guard, state)

end PanelQuery
