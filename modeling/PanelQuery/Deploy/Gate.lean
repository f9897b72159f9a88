import PanelQuery.Error

/-!
A gate that one caller at a time may pass. Whoever passes holds a permit, known by its number; the
permit is given back once, by name or when it is dropped, and giving it back again does nothing.
-/

namespace PanelQuery

structure Gate where
  busy : Bool := false
  /-- For each permit ever handed out, whether it is still held. -/
  held : List Bool := []

namespace Gate

def isReady (g : Gate) : Bool := !g.busy

/-- A permit, unless somebody holds one. -/
def acquire (g : Gate) : Except ServiceError (Nat × Gate) :=
  if g.busy then .error (.busy "config push already in flight")
  else .ok (g.held.length, ⟨true, g.held ++ [true]⟩)

/-- Gives a permit back. -/
def giveBack (g : Gate) (permit : Nat) : Gate :=
  if g.held[permit]? = some true then ⟨false, g.held.set permit false⟩ else g

/-- An explicit release: the permit is given back and then dropped. -/
def release (g : Gate) (permit : Nat) : Gate := (g.giveBack permit).giveBack permit

end Gate

end PanelQuery
