import Tickflow.Engine.State
/-!
What an engine shows of its handlers.
-/
namespace Tickflow

structure HandlerStatus where
  id : HandlerId
  className : String
  dispatcher : Dispatcher
  state : LifecycleState
  isAdapter : Bool
  uri : Option ActorUri
  stats : HandlerStats
  missed : Nat
  deriving DecidableEq, Repr

structure EngineStatus where
  state : EngineState
  fps : Float
  connections : Nat
  adapters : Nat
  handlers : List HandlerStatus
  deriving DecidableEq, Repr

namespace Engine

def statusOf (e : Engine) (h : Handler) : HandlerStatus :=
  { id := h.id, className := h.behaviour.className, dispatcher := h.behaviour.dispatcher
    state := h.state, isAdapter := h.isAdapter, uri := h.uri, stats := h.stats
    missed := e.missed h.id }

def status (e : Engine) : EngineStatus :=
  { state := e.state, fps := e.settings.fps, connections := e.connections.length
    adapters := e.adapterCount, handlers := e.handlers.map e.statusOf }

def handlerNamed? (e : Engine) (id : String) : Option Handler :=
  e.handlers.find? (·.id.text == id)

end Engine

def EngineStatus.totalMissed (s : EngineStatus) : Nat :=
  s.handlers.foldr (fun h n => h.missed + n) 0

end Tickflow
