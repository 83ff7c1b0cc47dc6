/-!
Ticks, and a record of when the most recent ones were issued.
-/
namespace Tickflow

/-- One beat of a clock. Instants are numbered by the order of events. -/
structure Tick where
  frame : Nat
  timestamp : Float
  delta : Float
  issuedAt : Nat
  deriving DecidableEq, Repr

/-- Frame and instant of issue of the latest ticks, oldest first. -/
structure TickHistory where
  recent : List (Nat × Nat)
  deriving DecidableEq, Repr

namespace TickHistory

def size : Nat := 64

def empty : TickHistory := ⟨[]⟩

def record (frame issuedAt : Nat) (h : TickHistory) : TickHistory :=
  let kept := if h.recent.length = size then h.recent.drop 1 else h.recent
  ⟨kept ++ [(frame, issuedAt)]⟩

def issuedAfter (frame : Nat) (h : TickHistory) : Option Nat :=
  (h.recent.find? fun e => decide (frame < e.1)).map (·.2)

end TickHistory

end Tickflow
