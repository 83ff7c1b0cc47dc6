import Tickflow.Engine.Calls
/-!
Issuing ticks and letting handlers work on them until nobody can go on. Cooperative handlers take
turns in the order in which they were added, and one that is held keeps those after it waiting;
isolated handlers wait for nobody.
-/
namespace Tickflow

namespace Engine

def issue (frame : Nat) (timestamp delta : Float) (e : Engine) : Engine :=
  let (_, broadcaster) := e.broadcaster.broadcast ⟨frame, timestamp, delta, e.now + 1⟩
  { e with broadcaster, now := e.now + 1, nextFrame := frame + 1 }

def idsOf (dispatcher : Dispatcher) (e : Engine) : List HandlerId :=
  (e.handlers.filter fun h => h.behaviour.dispatcher = dispatcher).map (·.id)

/-- Lets the cooperative handlers work, up to the first one that is held. -/
def takeTurns : List HandlerId → Engine → Engine
  | [], e => e
  | id :: rest, e =>
    let e := e.catchUp id
    if e.isHeld id then e else takeTurns rest e

def settle (e : Engine) : Engine :=
  let e := takeTurns (e.idsOf .cooperative) e
  (e.idsOf .isolated).foldl (fun e id => e.catchUp id) e

def inOrder (e : Engine) (entries : List JournalEntry) : List JournalEntry :=
  e.ids.flatMap fun id => entries.filter (·.handler = id)

/-- Issues a tick and lets the handlers work on it. Gives the calls that ended meanwhile. -/
def beat (frame : Nat) (timestamp delta : Float) (e : Engine) : List JournalEntry × Engine :=
  let after := (e.issue frame timestamp delta).settle
  (after.inOrder (after.shown (after.journal.drop e.journal.length)), after)

def resume (id : HandlerId) (e : Engine) : Engine :=
  e.modify id fun h => { h with call := h.call.map fun c => { c with held := false } }

/-- Lets a held call go on, and the handler catch up with its ticks. When it kept others waiting,
these go on as well. -/
def release (id : HandlerId) (e : Engine) : Engine :=
  if e.isHeld id then
    let e := ((e.resume id).runOpen id).catchUp id
    if ((e.handler? id).map (·.behaviour.dispatcher)) = some .cooperative && !e.isHeld id then
      takeTurns (e.idsOf .cooperative) e
    else e
  else e

end Engine

end Tickflow
