import Tickflow.Actor.Registry
import Tickflow.Engine.Ticking
import Tickflow.Engine.Wiring
/-!
Adding handlers under a registry, starting an engine and stopping it. A failed start either takes
back all that was started, or disables the failed handler with everything downstream of it. Every
handler that was asked to start is asked to stop, once.
-/
namespace Tickflow

namespace Engine

def callStart (id : HandlerId) (e : Engine) : Option Fault × Engine :=
  match e.handler? id with
  | none => (none, e)
  | some h =>
    let connected (spec : PortSpec) : String × Bool :=
      (spec.name, ((h.ports.input? spec.name).map (·.isConnected)).getD false)
    let e := e.record id (.started e.settings.fps (h.behaviour.ports.map connected)
      h.ports.inputs.length h.ports.outputs.length)
    (match h.behaviour.onStart with
      | none => none
      | some (.fault cause) => some cause
      | some (.panic text) => some (.runtime (.startPanicked text)), e)

def callStop (id : HandlerId) (e : Engine) : Engine :=
  match e.handler? id with
  | none => e
  | some h =>
    if h.call.isSome then e.report (.stopSkipped id)
    else
      let e := e.record id .stopped
      match h.behaviour.onStop with
      | none => e
      | some how => e.report (.stopFailed id how)

def stopAll (ids : List HandlerId) (e : Engine) : Engine :=
  ids.foldr (fun id e => (e.callStop id).setState id .stopped) e

def closeInputs (id : HandlerId) (e : Engine) : Engine :=
  match e.handler? id with
  | none => e
  | some h =>
    let feeding := h.ports.inputs.filterMap (·.cell)
    { e with cells := feeding.foldl (fun cells c => cells.modify c Cell.close) e.cells }

def disable : List HandlerId → (started : List HandlerId) → Engine → List HandlerId × Engine
  | [], started, e => (started, e)
  | id :: rest, started, e =>
    if !e.ids.contains id then disable rest started e
    else
      let e := if started.contains id then e.callStop id else e
      disable rest (started.filter (· != id)) ((e.setState id .failed).closeInputs id)

/-- Starts the handlers in turn. Gives the fault that ended the start, if any, and the handlers that
are started. -/
def startEach : List HandlerId → (started disabled : List HandlerId) → Engine →
    Option Fault × List HandlerId × Engine
  | [], started, _, e => (none, started, e)
  | id :: rest, started, disabled, e =>
    if disabled.contains id then startEach rest started disabled e
    else match e.callStart id with
      | (none, e) => startEach rest (started ++ [id]) disabled (e.setState id .started)
      | (some cause, e) =>
        let e := ((e.report (.startFailed id cause)).setState id .failed).callStop id
        match e.settings.startPolicy with
        | .rollback =>
          (some (.startFailed id.text cause), [],
            (e.report (.rollingBack started.length)).stopAll started)
        | .isolate =>
          let downstream := e.graph.downstreamOf id
          let (started, e) := disable downstream started (e.closeInputs id)
          startEach rest started (disabled ++ downstream)
            (e.report (.disabled id downstream.length))

def subscribeAll (ids : List HandlerId) (e : Engine) : Engine :=
  { e with broadcaster := ids.foldl (fun b id => b.subscribe id.text) e.broadcaster }

def activeIds (e : Engine) : List HandlerId :=
  (e.handlers.filter (·.state.isActive)).map (·.id)

def quiesce (ids : List HandlerId) (e : Engine) : Engine :=
  let e := ids.foldl (fun e id => e.setState id .stopping) e
  { e with broadcaster := e.broadcaster.clear }

/-- Reports the handlers that do not come back when they are asked to stop. A cooperative one that is
held keeps every isolated handler from hearing of the stop. -/
def reportBusy (ids : List HandlerId) (e : Engine) : Engine :=
  let isolated := (e.idsOf .isolated).filter ids.contains
  if ids.any fun id => e.isHeld id && !isolated.contains id then
    isolated.foldl (fun e id => e.report (.abandoned id)) (e.report .cooperativeBusy)
  else (isolated.filter e.isHeld).foldl (fun e id => e.report (.abandoned id)) e

end Engine

/-- An engine together with the registry that its handlers are named in, if any. -/
structure Hosted where
  engine : Engine
  registry : Option ActorRegistry

namespace Hosted

def addHandler (id : Option String) (b : Behaviour) (h : Hosted) :
    Except Fault (HandlerId × Hosted) := do
  h.engine.ensureIdle "add a handler"
  let id ← h.engine.chooseId id b
  let ports ← h.engine.prepare id b
  match h.registry with
  | none => return (id, { h with engine := h.engine.insert id b false ports none })
  | some r =>
    let (uri, r) ← r.register h.engine.key id b.className false
    return (id, ⟨h.engine.insert id b false ports (some uri), some r⟩)

def unname (id : HandlerId) (h : Hosted) : Hosted :=
  match (h.engine.handler? id).bind (·.uri) with
  | none => h
  | some uri =>
    let engine := h.engine.modify id fun x => { x with uri := none }
    match h.registry with
    | none => { h with engine }
    | some r =>
      match r.unregister uri with
      | .ok (_, r) => ⟨engine, some r⟩
      | .error cause => ⟨engine.report (.stillRegistered id uri.text cause), some r⟩

def retire (id : HandlerId) (h : Hosted) : Hosted :=
  { h with engine := h.engine.modify id fun x =>
      { x with state := if x.state = .failed then .failed else .stopped } }

def finishStop (h : Hosted) : Hosted :=
  let h := h.engine.ids.foldl (fun h id => (h.retire id).unname id) h
  { h with engine := { h.engine with
      broadcaster := { h.engine.broadcaster with history := .empty }, state := .stopped } }

/-- Idealised: the threads and the tick channels of the handlers can always be created, so that a
start fails only where a handler does. -/
def start (h : Hosted) : Except Fault Unit × Hosted :=
  match h.engine.state with
  | .running => (.error (.runtime .alreadyRunning), h)
  | .stopped => (.error (.runtime .alreadyStopped), h)
  | .idle =>
    let e := if h.engine.graph.hasCycle then h.engine.report .feedbackLoop else h.engine
    match e.startEach e.ids [] [] with
    | (some fault, _, e) => (.error fault, { h with engine := e }.finishStop)
    | (none, started, e) =>
      (.ok (), { h with engine := { e.subscribeAll started with state := .running } })

def tearDown (active : List HandlerId) (h : Hosted) : Hosted :=
  { h with engine := (h.engine.reportBusy active).stopAll active }.finishStop

/-- Ends the work of all handlers. An engine that is stopped stays as it is. -/
def stop (h : Hosted) : Hosted :=
  match h.engine.state with
  | .stopped => h
  | .idle => h.finishStop
  | .running =>
    let active := h.engine.activeIds
    { h with engine := h.engine.quiesce active }.tearDown active

end Hosted

end Tickflow
