import Tickflow.Engine.State
/-!
Handlers at work. A call begins with the oldest waiting tick, goes on action by action, and ends
when no action is left or one of them fails. Calls of different handlers may be under way together.
What a call may read is limited: to what was written before it began, and before the first later
tick was issued.
-/
namespace Tickflow

namespace Engine

/-- The latest instant whose writes the call may see. -/
def cutoff (c : Call) (e : Engine) : Nat :=
  match e.broadcaster.history.issuedAfter c.tick.frame with
  | some issued => min issued c.startedAt
  | none => c.startedAt

def portFault (id : HandlerId) (port : String) : Fault := .portNotFound (id.text ++ "." ++ port)

def readPort (id : HandlerId) (port : String) (cutoff : Option Nat) (e : Engine) :
    Except Fault (Option Message) × Engine :=
  match (e.handler? id).bind (·.ports.input? port) with
  | none => (.error (portFault id port), e)
  | some input =>
    let (m, cells) := input.read cutoff e.cells
    (.ok m, { e with cells })

def writePort (id : HandlerId) (port : String) (m : Message) (e : Engine) :
    Except Fault Unit × Engine :=
  match (e.handler? id).bind (·.ports.output? port) with
  | none => (.error (portFault id port), e)
  | some output =>
    let start := e.now + 1
    let (result, output, cells) := output.write start m e.cells
    (result, { e with now := start, cells }.modify id fun h =>
      { h with ports := h.ports.setOutput output })

def writeNoted (id : HandlerId) (port : String) (m : Message) (event : CallEvent) (e : Engine) :
    Except Failure (List CallEvent) × Engine :=
  match e.writePort id port m with
  | (.ok (), e) => (.ok [event], e)
  | (.error f, e) => (.error (.fault f), e)

def frozen (bytes : List UInt8) (e : Engine) : List UInt8 × Engine :=
  let (lease, pool) := e.pool.acquire bytes.length
  let (bytes, pool) := pool.freeze (lease.holding bytes)
  (bytes, { e with pool })

/-- Moves a message that was not moved before. -/
def bridge (id : HandlerId) (c : Call) (source target : String) (location : Location)
    (e : Engine) : Except Failure (List CallEvent) × Engine :=
  match e.readPort id source (some (e.cutoff c)) with
  | (.error f, e) => (.error (.fault f), e)
  | (.ok none, e) => (.ok [], e)
  | (.ok (some m), e) =>
    if (e.handler? id).bind (·.bridged) = some m.sequence then (.ok [], e)
    else
      let e := e.modify id fun h => { h with bridged := some m.sequence }
      let (bytes, e) := e.frozen m.bytes
      e.writeNoted id target (m.relocated location bytes) (.wrote target)

def fillBuffer (id : HandlerId) (c : Call) (length : Nat) (byte : UInt8) (port : Option String)
    (e : Engine) : List CallEvent × Except Failure (List CallEvent) × Engine :=
  let (lease, pool) := e.pool.acquire length
  let event := CallEvent.buffered lease.bytes.length (lease.bytes.all (· == 0))
  let lease := lease.filled byte
  match port with
  | none => ([event], .ok [], { e with pool := pool.release lease })
  | some port =>
    let (bytes, pool) := pool.freeze lease
    let m := Message.ofHost .data bytes c.tick.timestamp
    match { e with pool }.writePort id port m with
    | (.ok (), e) => ([event], .ok [], e)
    | (.error f, e) => ([event], .error (.fault f), e)

/-- Carries out one action. Gives what it noted even if it failed, and how it ended. -/
def act (id : HandlerId) (c : Call) (a : Action) (e : Engine) :
    List CallEvent × Except Failure (List CallEvent) × Engine :=
  match a with
  | .noteTick =>
    ([], .ok [.ticked c.tick (decide (c.tick.issuedAt ≤ e.cutoff c))], e)
  | .read port =>
    match e.readPort id port (some (e.cutoff c)) with
    | (.ok m, e) => ([], .ok [.read port m], e)
    | (.error f, e) => ([], .error (.fault f), e)
  | .readNow port =>
    match e.readPort id port none with
    | (.ok m, e) => ([], .ok [.read port m], e)
    | (.error f, e) => ([], .error (.fault f), e)
  | .write port m => ([], e.writeNoted id port m (.wrote port))
  | .stamp port =>
    let frame := c.tick.frame
    let m := Message.ofHost .data [UInt8.ofNat (frame / 256), UInt8.ofNat frame] c.tick.timestamp
    ([], e.writeNoted id port m (.wrote port))
  | .capture port =>
    let m := Message.ofHost (.video 1 1) [UInt8.ofNat c.tick.frame] c.tick.timestamp
    ([], e.writeNoted id port m (.wrote port))
  | .forward source target =>
    match e.readPort id source (some (e.cutoff c)) with
    | (.error f, e) => ([], .error (.fault f), e)
    | (.ok none, e) => ([], .ok [.forwarded none], e)
    | (.ok (some m), e) => ([], e.writeNoted id target m (.forwarded (some target)))
  | .buffer length byte port => e.fillBuffer id c length byte port
  | .bridge source target location => ([], e.bridge id c source target location)
  | .fail how => ([], .error how, e)
  | .hold => ([], .ok [], e)

def finish (id : HandlerId) (c : Call) (how : Option Failure) (e : Engine) : Engine :=
  let e := e.record id (.processed c.tick.frame c.events)
  let e := match how with
    | none => e
    | some failure => e.report (.processFailed id c.tick.frame failure)
  e.modify id fun h => { h with
    call := none
    stats := {
      processed := h.stats.processed + 1
      errors := h.stats.errors + how.toList.length
      lastFrame := HandlerStats.kept c.tick.frame }
    state := if h.state = .started then .running else h.state }

def setCall (id : HandlerId) (c : Call) (e : Engine) : Engine :=
  e.modify id fun h => { h with call := some c }

def advance (id : HandlerId) (c : Call) (e : Engine) : Engine :=
  match c.rest with
  | [] => e.finish id c none
  | ⟨.hold, _⟩ :: rest => e.setCall id { c with rest, held := true }
  | ⟨action, soft⟩ :: rest =>
    let (noted, result, e) := e.act id c action
    let events := c.events ++ noted
    match result with
    | .ok more => e.setCall id { c with rest, events := events ++ more }
    | .error (.panic text) =>
      e.finish id { c with rest, events := events ++ [.panicked] } (some (.panic text))
    | .error (.fault f) =>
      let c := { c with rest, events := events ++ [.failed f] }
      if soft then e.setCall id c else e.finish id c (some (.fault f))

def openCall? (id : HandlerId) (e : Engine) : Option Call :=
  ((e.handler? id).bind (·.call)).filter (!·.held)

/-- Begins a call for the oldest waiting tick. A handler that is not active lets the tick go. -/
def beginCall (id : HandlerId) (e : Engine) : Engine :=
  match (e.broadcaster.channel? id.text).bind (·.received) with
  | none => e
  | some (tick, channel) =>
    let e := { e with broadcaster := e.broadcaster.modify id.text fun _ => channel }
    match e.handler? id with
    | none => e
    | some h =>
      if h.state.isActive then
        { e with now := e.now + 1 }.setCall id
          ⟨tick, e.now + 1, h.behaviour.process tick.frame, false, []⟩
      else e

/-- Carries on with a call until it ends or is held, for at most `steps` actions. -/
def runCall (id : HandlerId) : (steps : Nat) → Engine → Engine
  | 0, e => e
  | steps + 1, e =>
    match e.openCall? id with
    | none => e
    | some c => runCall id steps (e.advance id c)

def runOpen (id : HandlerId) (e : Engine) : Engine :=
  match e.openCall? id with
  | none => e
  | some c => e.runCall id (c.rest.length + 1)

def isHeld (id : HandlerId) (e : Engine) : Bool :=
  (((e.handler? id).bind (·.call)).map (·.held)).getD false

def drain (id : HandlerId) : (ticks : Nat) → Engine → Engine
  | 0, e => e
  | ticks + 1, e =>
    if e.isHeld id then e else drain id ticks ((e.beginCall id).runOpen id)

def waiting (id : HandlerId) (e : Engine) : Nat :=
  ((e.broadcaster.channel? id.text).map (·.queue.length)).getD 0

def catchUp (id : HandlerId) (e : Engine) : Engine := e.drain id (e.waiting id)

end Engine

end Tickflow
