import Tickflow.Engine.State
/-!
Adding handlers and connecting their ports. A connection is planned before anything is changed. When
the two ports have no memory in common, an adapter is put between them and both of its links work
alike.
-/
namespace Tickflow

structure ConnectionPlan where
  kind : PayloadKind
  policy : ConsumptionPolicy
  route : Option Route
  deriving DecidableEq, Repr

namespace Engine

def prepare (id : HandlerId) (b : Behaviour) (e : Engine) : Except Fault HandlerPorts :=
  if e.ids.contains id then .error (.duplicateHandler id.text)
  else HandlerPorts.ofSpecs id b.ports

def insert (id : HandlerId) (b : Behaviour) (isAdapter : Bool) (ports : HandlerPorts)
    (uri : Option ActorUri) (e : Engine) : Engine :=
  { e with
    graph := e.graph.addHandler id
    handlers := e.handlers ++ [{
      id, isAdapter, ports, uri
      behaviour := b, state := .created, stats := ⟨0, 0, none⟩, bridged := none, call := none }] }

def chooseId (id : Option String) (b : Behaviour) (e : Engine) : Except Fault HandlerId :=
  match id with
  | some text => HandlerId.ofText? text
  | none => .ok (.fresh b.className e.ids)

def findOutput (source : PortAddress) (h : Handler) : Except Fault OutputPort :=
  match h.ports.output? source.port with
  | some port => .ok port
  | none =>
    if (h.ports.input? source.port).isSome then
      .error (.configuration (.startsAtInput source.text))
    else .error (.portNotFound source.text)

def findInput (target : PortAddress) (h : Handler) : Except Fault InputPort :=
  match h.ports.input? target.port with
  | some port => .ok port
  | none =>
    if (h.ports.output? target.port).isSome then
      .error (.configuration (.endsAtOutput target.text))
    else .error (.portNotFound target.text)

def findHandler (id : HandlerId) (e : Engine) : Except Fault Handler :=
  match e.handler? id with
  | some h => .ok h
  | none => .error (.handlerNotFound id.text)

def planPorts (source target : PortAddress) (output : OutputPort) (input : InputPort)
    (e : Engine) : Except Fault ConnectionPlan :=
  let kind := output.spec.kind
  if kind ≠ input.spec.kind then
    .error (.kindMismatch source.text kind target.text input.spec.kind)
  else if input.isConnected then .error (.inputAlreadyConnected target.text)
  else if input.spec.policy = some (.orderedAll 0) then
    .error (.configuration (.emptyQueue target.text))
  else
    let policy := input.spec.policy.getD (e.settings.policyFor kind)
    let sourceCaps := output.spec.capabilities
    let targetCaps := input.spec.capabilities
    if sourceCaps.intersects targetCaps then .ok ⟨kind, policy, none⟩
    else match Route.select? Route.all sourceCaps targetCaps with
      | some route => .ok ⟨kind, policy, some route⟩
      | none => .error (.unsatisfiableRoute source.text sourceCaps target.text targetCaps)

def plan (source target : PortAddress) (e : Engine) : Except Fault ConnectionPlan := do
  let producer ← e.findHandler source.handler
  let consumer ← e.findHandler target.handler
  let output ← findOutput source producer
  let input ← findInput target consumer
  e.planPorts source target output input

def linkEnd (port? : HandlerPorts → String → Option α) (a : PortAddress) (e : Engine) :
    Except Fault α :=
  match e.handler? a.handler with
  | none => .error (.handlerNotFound a.handler.text)
  | some h =>
    match port? h.ports a.port with
    | none => .error (.portNotFound a.text)
    | some port => .ok port

/-- Makes the cell of one link and attaches it to both ports. What was changed before a failure stays
changed, here and in the two steps below. -/
def link (source target : PortAddress) (policy : ConsumptionPolicy) (e : Engine) :
    Except Failure Link × Engine :=
  match e.linkEnd HandlerPorts.input? target with
  | .error f => (.error (.fault f), e)
  | .ok input =>
    match Cell.make policy (source.text ++ " -> " ++ target.text) with
    | .error f => (.error f, e)
    | .ok cell =>
      let id := e.cells.length
      let e := { e with cells := e.cells ++ [cell] }.modify target.handler fun h =>
        { h with ports := h.ports.setInput { input with cell := some id } }
      match e.linkEnd HandlerPorts.output? source with
      | .error f => (.error (.fault f), e)
      | .ok output => (.ok ⟨source, target, id⟩, e.modify source.handler fun h =>
          { h with ports := h.ports.setOutput { output with cells := output.cells ++ [id] } })

def linkAll (source target : PortAddress) (p : ConnectionPlan) (e : Engine) :
    Except Failure (Option HandlerId × List Link) × Engine :=
  match p.route with
  | none =>
    match e.link source target p.policy with
    | (.error f, e) => (.error f, e)
    | (.ok l, e) => (.ok (none, [l]), e)
  | some route =>
    let id := HandlerId.fresh route.className e.ids
    let behaviour := route.adapter p.kind e.settings.devicePoolId
    match e.prepare id behaviour with
    | .error f => (.error (.fault f), e)
    | .ok ports =>
      match (e.insert id behaviour true ports none).link source ⟨id, Route.inputPort⟩ p.policy with
      | (.error f, e) => (.error f, e)
      | (.ok first, e) =>
        match e.link ⟨id, Route.outputPort⟩ target p.policy with
        | (.error f, e) => (.error f, e)
        | (.ok second, e) => (.ok (some id, [first, second]), e)

/-- Connects an output to an input. The number of the connection is taken before its links are
made. -/
def connectInPlace (source target : PortAddress) (e : Engine) : Except Failure String × Engine :=
  match e.ensureIdle "connect ports" with
  | .error f => (.error (.fault f), e)
  | .ok () =>
    match e.plan source target with
    | .error f => (.error (.fault f), e)
    | .ok p =>
      let id := "conn_" ++ e.nextConnection.repr
      match linkAll source target p { e with nextConnection := e.nextConnection + 1 } with
      | (.error f, e) => (.error f, e)
      | (.ok (adapter, links), e) =>
        let graph := links.foldl (fun g l => g.addLink l.source.handler l.target.handler id) e.graph
        (.ok id, { e with
          graph, connections := e.connections ++ [⟨id, source, target, p.kind, adapter, links⟩] })

def connectTextsInPlace (source target : String) (e : Engine) : Except Failure String × Engine :=
  match PortAddress.ofText? source, PortAddress.ofText? target with
  | .error f, _ => (.error (.fault f), e)
  | .ok _, .error f => (.error (.fault f), e)
  | .ok source, .ok target => e.connectInPlace source target

def onSuccess (r : Except Failure α × Engine) : Except Failure (α × Engine) :=
  match r with
  | (.ok a, e) => .ok (a, e)
  | (.error f, _) => .error f

def connect (source target : PortAddress) (e : Engine) : Except Failure (String × Engine) :=
  onSuccess (e.connectInPlace source target)

def connectTexts (source target : String) (e : Engine) : Except Failure (String × Engine) :=
  onSuccess (e.connectTextsInPlace source target)

end Engine

end Tickflow
