import PanelQuery.Deploy.Gate
import PanelQuery.Json.Value

/-!
Pushes of a configuration to remote agents, one at a time. A deployment passes the gate, pushes its
payload and waits for the agents' verdict on a channel of its own. However it comes to an end, it
gives its permit back.
-/

namespace PanelQuery

/-- What the agents say about a configuration. -/
inductive Verdict where
  | accepted
  | refused (text : String)
  deriving DecidableEq, Repr

/-- The channel for one verdict. -/
structure Channel where
  /-- The verdict that has been sent. -/
  sent : Option Verdict := none
  /-- The agents' end has been given up. -/
  closed : Bool := false
  /-- Somebody waits at the other end. -/
  awaited : Bool := true

inductive DeployStatus where
  | deployed
  | failed (text : String)
  deriving DecidableEq, Repr

/-- How a deployment ends. -/
abbrev DeployResult := Except ServiceError DeployStatus

/-- A deployment that waits for its verdict. -/
structure Deployment where
  permit : Nat
  channel : Nat

structure Coordinator where
  gate : Gate := {}
  channels : List Channel := []
  /-- The payloads that have been pushed. -/
  pushed : List Json := []

namespace Channel

/-- Sends a verdict; whether somebody got it. -/
def send (c : Channel) (v : Verdict) : Bool × Channel :=
  if c.awaited then (true, { c with sent := some v, closed := true })
  else (false, { c with closed := true })

/-- What a waiting deployment finds, if anything. -/
def status? (c : Channel) : Option DeployStatus :=
  match c.sent with
  | some .accepted => some .deployed
  | some (.refused text) => some (.failed text)
  | none => if c.closed then some (.failed "agent acknowledgement channel closed") else none

end Channel

def DeployStatus.toJson : DeployStatus → Json
  | .deployed => .obj [("status", .str "deployed")]
  | .failed text => .obj [("status", .str "failed"), ("message", .str text)]

namespace Coordinator

def isReady (c : Coordinator) : Bool := c.gate.isReady

/-- What the pusher does with a payload. -/
inductive PushOutcome where
  | sent
  | failed (text : String)

/-- What becomes of a deployment at its start: it waits, or its push failed. -/
inductive Started where
  | waiting (d : Deployment)
  | ended (e : ServiceError)

/-- A deployment passes the gate. -/
def enter (c : Coordinator) : Except ServiceError (Nat × Coordinator) := do
  let (permit, gate) ← c.gate.acquire
  return (permit, { c with gate })

/-- A deployment that holds a permit leaves without a verdict: the permit is dropped. -/
def leave (c : Coordinator) (permit : Nat) : Coordinator :=
  { c with gate := c.gate.giveBack permit }

/-- A push with its channel. -/
def record (c : Coordinator) (payload : Json) (channel : Channel) : Coordinator :=
  { c with pushed := c.pushed ++ [payload], channels := c.channels ++ [channel] }

/-- A deployment that holds a permit pushes its payload. The push gets the next channel; if it fails,
nobody will wait there. -/
def push (c : Coordinator) (permit : Nat) (payload : Json) (outcome : PushOutcome) :
    Started × Coordinator :=
  match outcome with
  | .sent => (.waiting ⟨permit, c.channels.length⟩, c.record payload {})
  | .failed text =>
    (.ended (.internal text), (c.record payload { awaited := false }).leave permit)

/-- Starts a deployment; without a permit there is no push. -/
def start (c : Coordinator) (payload : Json) (outcome : PushOutcome) :
    Except ServiceError (Started × Coordinator) := do
  let (permit, c) ← c.enter
  return c.push permit payload outcome

/-- Nobody waits on the channel any more. -/
def leaveChannel (c : Coordinator) (channel : Nat) : Coordinator :=
  { c with channels := c.channels.modify channel fun ch => { ch with awaited := false } }

/-- A deployment without a verdict is given up. -/
def cancel (c : Coordinator) (d : Deployment) : Coordinator :=
  (c.leaveChannel d.channel).leave d.permit

/-- The end of a deployment whose verdict is there: the permit is released. -/
def settle (c : Coordinator) (d : Deployment) : Coordinator :=
  { c.leaveChannel d.channel with gate := c.gate.release d.permit }

/-- Looks for the verdict on a deployment. -/
def poll (c : Coordinator) (d : Deployment) : Option DeployResult × Coordinator :=
  match (c.channels[d.channel]?).bind Channel.status? with
  | some status => (some (.ok status), c.settle d)
  | none => (none, c)

/-- Waits to the end: a deployment without a verdict runs out of time. -/
def wait (c : Coordinator) (d : Deployment) : DeployResult × Coordinator :=
  match c.poll d with
  | (some result, c) => (result, c)
  | (none, c) => (.error (.timeout "operation timed out"), c.cancel d)

/-- The agents' verdict on a push; whether a deployment is there to hear it. -/
def acknowledge (c : Coordinator) (channel : Nat) (v : Verdict) : Bool × Coordinator :=
  match c.channels[channel]? with
  | none => (false, c)
  | some ch =>
    let (delivered, ch) := ch.send v
    (delivered, { c with channels := c.channels.set channel ch })

/-- The agents' end of a channel is dropped. -/
def close (c : Coordinator) (channel : Nat) : Coordinator :=
  { c with channels := c.channels.modify channel fun ch => { ch with closed := true } }

end Coordinator

end PanelQuery
