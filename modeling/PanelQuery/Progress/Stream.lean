import PanelQuery.Progress.Counters

/-!
What a subscriber has still to read. A stream holds the latest snapshots up to a capacity; when it
is full the oldest is dropped and counted, so that nobody waits for a slow reader. A closed stream
takes nothing in and can be read to its end.
-/

namespace PanelQuery

structure Stream where
  waiting : List Counters := []
  closed : Bool := false
  dropped : Nat := 0
  deriving DecidableEq, Repr

namespace Stream

/-- The stream after a snapshot has been published to it. -/
def push (capacity : Nat) (snapshot : Counters) (s : Stream) : Stream :=
  if s.closed then s
  else if capacity ≤ s.waiting.length then
    { s with waiting := s.waiting.tail ++ [snapshot], dropped := s.dropped + 1 }
  else { s with waiting := s.waiting ++ [snapshot] }

def close (s : Stream) : Stream := { s with closed := true }

/-- The oldest snapshot is taken out, if there is one. -/
def take (s : Stream) : Option Counters × Stream :=
  (s.waiting.head?, { s with waiting := s.waiting.tail })

/-- What a reader meets. -/
inductive Reading where
  | snapshot (c : Counters)
  | ended
  | pending
  deriving DecidableEq, Repr

/-- One attempt to read: the end shows only once nothing is left. -/
def poll (s : Stream) : Reading × Stream :=
  match s.take with
  | (some c, rest) => (.snapshot c, rest)
  | (none, rest) => (if s.closed then .ended else .pending, rest)

end Stream

end PanelQuery
