import Tickflow.Tick.History
/-!
Handing every tick to every subscriber without waiting for any of them. A subscriber's queue holds a
fixed number of ticks; what does not fit is missed and counted.
-/
namespace Tickflow

/-- The channel of one subscriber. `attached`: the broadcaster still sends into it. `listening`: the
receiver is still there. -/
structure TickChannel where
  name : String
  queue : List Tick
  missed : Nat
  attached : Bool
  listening : Bool
  deriving DecidableEq, Repr

namespace TickChannel

def opened (name : String) : TickChannel := ⟨name, [], 0, true, true⟩

def isFull (depth : Nat) (c : TickChannel) : Bool := decide (depth ≤ c.queue.length)

def takes (depth : Nat) (c : TickChannel) : Bool := c.attached && c.listening && !c.isFull depth

/-- The channel after a tick was sent: a receiver that is gone ends the subscription. -/
def sent (depth : Nat) (tick : Tick) (c : TickChannel) : TickChannel :=
  if !c.attached then c
  else if !c.listening then { c with attached := false }
  else if c.isFull depth then { c with missed := c.missed + 1 }
  else { c with queue := c.queue ++ [tick] }

def received (c : TickChannel) : Option (Tick × TickChannel) :=
  match c.queue with
  | [] => none
  | tick :: rest => some (tick, { c with queue := rest })

def isOver (c : TickChannel) : Bool := c.queue.isEmpty && !c.attached

end TickChannel

structure TickBroadcaster where
  depth : Nat
  history : TickHistory
  channels : List TickChannel
  deriving DecidableEq, Repr

namespace TickBroadcaster

def defaultDepth : Nat := 4

/-- A queue holds at least one tick, whatever depth is asked for. -/
def make (depth : Nat) : TickBroadcaster := ⟨max depth 1, .empty, []⟩

def subscribe (name : String) (b : TickBroadcaster) : TickBroadcaster :=
  { b with channels := b.channels ++ [.opened name] }

def subscriberCount (b : TickBroadcaster) : Nat := (b.channels.filter (·.attached)).length

/-- Gives the number of subscribers that got the tick. -/
def broadcast (tick : Tick) (b : TickBroadcaster) : Nat × TickBroadcaster :=
  ((b.channels.filter (·.takes b.depth)).length,
    { b with
      history := b.history.record tick.frame tick.issuedAt
      channels := b.channels.map (·.sent b.depth tick) })

/-- Ends all subscriptions. What is queued can still be received. -/
def clear (b : TickBroadcaster) : TickBroadcaster :=
  { b with channels := b.channels.map fun c => { c with attached := false } }

def modify (name : String) (f : TickChannel → TickChannel) (b : TickBroadcaster) :
    TickBroadcaster :=
  { b with channels := b.channels.map fun c => if c.name = name then f c else c }

def channel? (name : String) (b : TickBroadcaster) : Option TickChannel :=
  b.channels.find? (·.name == name)

end TickBroadcaster

end Tickflow
