import PanelQuery.Engine
import PanelQuery.Rule.Range

/-!
The statements of one rule evaluation. Every enabled query is compiled as a graph over the range of
the tick, in the order of the query names, with a step that keeps its series short.
-/

namespace PanelQuery.Rule

structure PlannedQuery where
  name : String
  range : Range
  sql : Sql

/-- The step of a rule query: as requested, but at least a minute and what the range asks for. -/
def step (r : Range) (q : Query) : Int64 :=
  max q.stepInterval (Int64.ofInt (max (minStep r) 60))

/-- The request that evaluates a query over a range. -/
def request (r : Range) (q : Query) : CompileRequest where
  start := Int64.ofInt r.start
  stop := Int64.ofInt r.stop
  panel := .graph
  query := { q with stepInterval := step r q }

def planQuery (e : Engine) (r : Range) (name : String) (q : Query) : Except Fault PlannedQuery :=
  match e.compile (request r q) with
  | .ok sql => .ok ⟨name, r, sql⟩
  | .error fault => .error (.within ("rule query " ++ name) fault)

/-- The plan of a rule whose queries are listed by name. -/
def plan (e : Engine) (tick : Int) (window delay : Nat) (queries : List (String × Query)) :
    Except Fault (List PlannedQuery) :=
  let r := Range.atTick tick window delay
  (queries.filter fun (_, q) => !q.disabled).mapM fun (name, q) => planQuery e r name q

end PanelQuery.Rule
