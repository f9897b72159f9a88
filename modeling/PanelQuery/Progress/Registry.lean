import PanelQuery.Error
import PanelQuery.Progress.Stream

/-!
The registry of running queries. A query id leads to the registration of its present run; ids may be
used again, registrations may not. Operations that first look a registration up and then act on it
are given as two steps, `find` and what follows, because the run may end in between; the operations
of one caller are their compositions. Registrations and subscriptions are known by their positions.
-/

namespace PanelQuery

/-- One run of a query. -/
structure Registration where
  counters : Counters := {}
  closed : Bool := false
  /-- The subscriptions that snapshots are published to. -/
  attached : List Nat := []

/-- A subscriber to a registration. -/
structure Subscription where
  registration : Nat
  stream : Stream := {}

structure Registry where
  /-- How many snapshots a stream holds. -/
  capacity : Nat
  capacity_pos : 0 < capacity
  /-- The registrations of running queries by query id. -/
  running : List (String × Nat) := []
  registrations : List Registration := []
  subscriptions : List Subscription := []

/-- The right to end a run. -/
structure Guard where
  queryId : String

/-- The right to report on a run, which it knows by the query id alone. -/
structure Reporter where
  queryId : String

def Guard.reporter (g : Guard) : Reporter := ⟨g.queryId⟩

namespace Registry

/-- An empty registry; streams hold at least one snapshot. -/
def new (buffer : Nat) : Registry where
  capacity := max buffer 1
  capacity_pos := by omega

/-! ## Looking up -/

/-- The registration that runs under an id. -/
def find? (r : Registry) (queryId : String) : Option Nat := r.running.lookup queryId

def isRunning (r : Registry) (queryId : String) : Bool := (r.find? queryId).isSome

def missing (queryId : String) : ServiceError :=
  .notFound ("query " ++ queryId ++ " doesn't exist")

def find (r : Registry) (queryId : String) : Except ServiceError Nat :=
  match r.find? queryId with
  | some i => .ok i
  | none => .error (missing queryId)

def countersAt (r : Registry) (i : Nat) : Counters := (r.registrations[i]?.getD {}).counters

/-- The counters of a running query. -/
def snapshot (r : Registry) (queryId : String) : Except ServiceError Counters := do
  return r.countersAt (← r.find queryId)

/-! ## Steps -/

/-- A fresh registration under an id that is not running. -/
def start (r : Registry) (queryId : String) : Except ServiceError (Guard × Registry) :=
  if r.isRunning queryId then .error (.alreadyExists ("query " ++ queryId ++ " already started"))
  else .ok (⟨queryId⟩,
    { r with
      running := (queryId, r.registrations.length) :: r.running
      registrations := r.registrations ++ [{}] })

/-- Changes the streams of the listed subscriptions. -/
def changeStreams (r : Registry) (change : Stream → Stream) (listed : List Nat) : Registry :=
  { r with subscriptions := r.subscriptions.mapIdx fun j s =>
      if j ∈ listed then { s with stream := change s.stream } else s }

/-- Counts a report in and publishes the new counters. -/
def publish (r : Registry) (i : Nat) (report : Counters) : Registry :=
  match r.registrations[i]? with
  | none => r
  | some g =>
    let counters := g.counters.add report
    { r with registrations := r.registrations.set i { g with counters } }.changeStreams
      (Stream.push r.capacity counters) g.attached

/-- The registration takes subscribers. -/
def isOpen (r : Registry) (i : Nat) : Bool := (r.registrations[i]?.map (!·.closed)).getD false

/-- A new subscription; one to a run that has ended is closed from the start. -/
def attach (r : Registry) (i : Nat) : Nat × Registry :=
  let j := r.subscriptions.length
  let registrations :=
    if r.isOpen i then r.registrations.modify i fun g => { g with attached := g.attached ++ [j] }
    else r.registrations
  (j, { r with
    registrations
    subscriptions := r.subscriptions ++ [⟨i, { closed := !r.isOpen i }⟩] })

/-- Takes an id out of the running queries. -/
def remove (r : Registry) (queryId : String) : Registry :=
  { r with running := r.running.filter (·.1 ≠ queryId) }

/-- Ends a registration: its streams are closed and forgotten. -/
def closeAll (r : Registry) (i : Nat) : Registry :=
  match r.registrations[i]? with
  | none => r
  | some g =>
    { r with registrations := r.registrations.set i { g with closed := true, attached := [] }
      }.changeStreams Stream.close g.attached

/-- Nothing more is published to a subscription. -/
def detach (r : Registry) (j : Nat) : Registry :=
  match r.subscriptions[j]? with
  | none => r
  | some s =>
    { r with registrations := r.registrations.modify s.registration fun g =>
        { g with attached := g.attached.filter (· ≠ j) } }

/-- Closes the stream of a subscription. -/
def closeStream (r : Registry) (j : Nat) : Registry := r.changeStreams Stream.close [j]

/-! ## Operations of one caller -/

def report (r : Registry) (queryId : String) (delta : Counters) : Except ServiceError Registry := do
  return r.publish (← r.find queryId) delta

def subscribe (r : Registry) (queryId : String) : Except ServiceError (Nat × Registry) := do
  return r.attach (← r.find queryId)

/-- Ends the run of a guard. -/
def finish (r : Registry) (g : Guard) : Registry :=
  match r.find? g.queryId with
  | none => r
  | some i => (r.remove g.queryId).closeAll i

/-- Ends a subscription; what it has not read yet can still be read. -/
def unsubscribe (r : Registry) (j : Nat) : Registry := (r.detach j).closeStream j

/-- The stream of a subscription. -/
def stream (r : Registry) (j : Nat) : Stream :=
  match r.subscriptions[j]? with
  | some s => s.stream
  | none => {}

/-- The stream of a subscription after it has been read from. -/
def withStream (r : Registry) (j : Nat) (stream : Stream) : Registry :=
  r.changeStreams (fun _ => stream) [j]

/-- Takes the oldest waiting snapshot of a subscription. -/
def take (r : Registry) (j : Nat) : Option Counters × Registry :=
  let (c, rest) := (r.stream j).take
  (c, r.withStream j rest)

/-- One attempt of a subscriber to read. -/
def poll (r : Registry) (j : Nat) : Stream.Reading × Registry :=
  let (reading, rest) := (r.stream j).poll
  (reading, r.withStream j rest)

end Registry

def Reporter.report (reporter : Reporter) (r : Registry) (delta : Counters) :
    Except ServiceError Registry :=
  r.report reporter.queryId delta

end PanelQuery
