import Tickflow.Actor.Uri
import Tickflow.Engine.Behaviour
import Tickflow.Engine.Graph
import Tickflow.Engine.Notice
import Tickflow.Port.Table
import Tickflow.Settings
import Tickflow.Supply.BufferPool
import Tickflow.Tick.Broadcast
/-!
The state of an engine: its handlers, the connections between their ports, the cells of the links,
and what it has handed out, issued and reported so far.
-/
namespace Tickflow

inductive LifecycleState where
  | created
  /-- The handler's start succeeded, and it is subscribed to ticks. -/
  | started
  /-- It has worked on a tick. -/
  | running
  | stopping
  | stopped
  /-- Its start failed, or it was disabled with what feeds it. -/
  | failed
  deriving DecidableEq, Repr

namespace LifecycleState

def isActive : LifecycleState → Bool
  | .started | .running => true
  | _ => false

def text : LifecycleState → String
  | .created => "created"
  | .started => "started"
  | .running => "running"
  | .stopping => "stopping"
  | .stopped => "stopped"
  | .failed => "failed"

end LifecycleState

structure HandlerStats where
  processed : Nat
  errors : Nat
  lastFrame : Option Nat
  deriving DecidableEq, Repr

/-- A frame number after it was kept in 64 bits as one more than it is, where 0 means none. -/
def HandlerStats.kept (frame : Nat) : Option Nat :=
  match (frame + 1) % 18446744073709551616 with
  | 0 => none
  | word + 1 => some word

inductive CallEvent where
  | ticked (tick : Tick) (causal : Bool)
  | read (port : String) (message : Option Message)
  | wrote (port : String)
  | forwarded (target : Option String)
  | buffered (length : Nat) (zeroed : Bool)
  | failed (cause : Fault)
  | panicked
  deriving DecidableEq, Repr

/-- A handler at work on a tick: when it began, what it has still to do, and what it did. -/
structure Call where
  tick : Tick
  startedAt : Nat
  rest : List Step
  held : Bool
  events : List CallEvent
  deriving DecidableEq, Repr

structure Handler where
  id : HandlerId
  behaviour : Behaviour
  isAdapter : Bool
  state : LifecycleState
  stats : HandlerStats
  ports : HandlerPorts
  uri : Option ActorUri
  /-- Number of the message that was bridged last. -/
  bridged : Option Nat
  call : Option Call

structure Link where
  source : PortAddress
  target : PortAddress
  cell : CellId
  deriving DecidableEq, Repr

/-- A connection has one link, or two links through an adapter. -/
structure Connection where
  id : String
  source : PortAddress
  target : PortAddress
  kind : PayloadKind
  adapter : Option HandlerId
  links : List Link
  deriving DecidableEq, Repr

inductive EngineState where
  | idle
  | running
  | stopped
  deriving DecidableEq, Repr

def EngineState.text : EngineState → String
  | .idle => "idle"
  | .running => "running"
  | .stopped => "stopped"

inductive JournalEvent where
  | started (fps : Float) (connected : List (String × Bool)) (inputs outputs : Nat)
  | stopped
  | processed (frame : Nat) (events : List CallEvent)
  deriving DecidableEq, Repr

structure JournalEntry where
  handler : HandlerId
  event : JournalEvent
  deriving DecidableEq, Repr

/-- `key` tells engines apart. `now` is the instant of the latest event; every event that is timed
gets an instant of its own. -/
structure Engine where
  key : Nat
  settings : Settings
  handlers : List Handler
  connections : List Connection
  graph : HandlerGraph
  nextConnection : Nat
  cells : CellStore
  portRange : Option PortRange
  pool : BufferPool
  broadcaster : TickBroadcaster
  nextFrame : Nat
  state : EngineState
  now : Nat
  notices : List Notice
  journal : List JournalEntry

namespace Engine

/-- An engine driven at the rate `fps`, which overrides the one in the settings. -/
def make (key : Nat) (settings : Settings) (fps : Float) : Except Fault Engine := do
  let settings := settings.withFps fps
  settings.validate
  let portRange ← settings.ports
  return {
    key, settings, portRange
    handlers := [], connections := [], graph := .empty, nextConnection := 0, cells := []
    pool := .make settings.poolMaxRetained, broadcaster := .make settings.tickQueueDepth
    nextFrame := 0, state := .idle, now := 0, notices := [], journal := [] }

def handler? (e : Engine) (id : HandlerId) : Option Handler := e.handlers.find? (·.id == id)

def ids (e : Engine) : List HandlerId := e.handlers.map (·.id)

def modify (id : HandlerId) (f : Handler → Handler) (e : Engine) : Engine :=
  { e with handlers := e.handlers.map fun h => if h.id = id then f h else h }

def setState (id : HandlerId) (state : LifecycleState) (e : Engine) : Engine :=
  e.modify id fun h => { h with state }

def report (notice : Notice) (e : Engine) : Engine := { e with notices := e.notices ++ [notice] }

def record (id : HandlerId) (event : JournalEvent) (e : Engine) : Engine :=
  { e with journal := e.journal ++ [⟨id, event⟩] }

def withoutTraces (e : Engine) : Engine := { e with notices := [], journal := [] }

def shown (e : Engine) (entries : List JournalEntry) : List JournalEntry :=
  entries.filter fun entry =>
    ((e.handler? entry.handler).map (·.behaviour.journaled)).getD false

def missed (e : Engine) (id : HandlerId) : Nat :=
  ((e.broadcaster.channel? id.text).map (·.missed)).getD 0

def adapterCount (e : Engine) : Nat := (e.handlers.filter (·.isAdapter)).length

def ensureIdle (action : String) (e : Engine) : Except Fault Unit :=
  match e.state with
  | .idle => .ok ()
  | .running => .error (.runtime (.whileRunning action))
  | .stopped => .error (.runtime (.afterStop action))

end Engine

end Tickflow
