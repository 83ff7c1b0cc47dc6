import Tickflow.Port.Address
import Tickflow.Port.Spec
/-!
The ports of a handler. An input reads from at most one cell, an output writes to every cell that
leads away from it. Cells belong to both of their ends, so ports name them by their place in a
common store.
-/
namespace Tickflow

abbrev CellId := Nat

abbrev CellStore := List (Cell Message)

structure InputPort where
  spec : PortSpec
  cell : Option CellId
  deriving DecidableEq, Repr

structure OutputPort where
  spec : PortSpec
  address : String
  cells : List CellId
  nextSequence : Nat
  deriving DecidableEq, Repr

structure HandlerPorts where
  inputs : List InputPort
  outputs : List OutputPort
  deriving DecidableEq, Repr

namespace InputPort

def name (p : InputPort) : String := p.spec.name

def isConnected (p : InputPort) : Bool := p.cell.isSome

def read (cutoff : Option Nat) (p : InputPort) (store : CellStore) : Option Message × CellStore :=
  match p.cell with
  | none => (none, store)
  | some id =>
    match store[id]? with
    | none => (none, store)
    | some cell =>
      let (m, cell) := cell.read cutoff
      (m, store.set id cell)

end InputPort

namespace OutputPort

def name (p : OutputPort) : String := p.spec.name

/-- Whether the port takes the message. It must be of the port's kind and in memory that the port
declares. -/
def check (p : OutputPort) (m : Message) : Except Fault Unit :=
  if m.kind ≠ p.spec.kind then
    .error (.kindMismatch s!"message #{m.sequence}" m.kind p.address p.spec.kind)
  else if !p.spec.capabilities.intersects m.location.capability then
    .error (.locationMismatch p.address m.location)
  else .ok ()

/-- Writes into every cell. Gives the first fault; later cells are written all the same. -/
def deliver (start : Nat) (m : Message) : List CellId → CellStore → Except Fault Unit × CellStore
  | [], store => (.ok (), store)
  | id :: rest, store =>
    match store[id]? with
    | none => deliver start m rest store
    | some cell =>
      let (first, cell) := cell.write start m
      let (later, store) := deliver start m rest (store.set id cell)
      (match first with
        | .ok () => later
        | .error fault => .error fault, store)

/-- A write that begins at `start`. A message that is taken gets the next number, even when no cell has
room for it. -/
def write (start : Nat) (m : Message) (p : OutputPort) (store : CellStore) :
    Except Fault Unit × OutputPort × CellStore :=
  match p.check m with
  | .error fault => (.error fault, p, store)
  | .ok () =>
    let (result, store) := deliver start (m.withSequence p.nextSequence) p.cells store
    (result, { p with nextSequence := p.nextSequence + 1 }, store)

end OutputPort

namespace HandlerPorts

def empty : HandlerPorts := ⟨[], []⟩

def input? (ports : HandlerPorts) (name : String) : Option InputPort :=
  ports.inputs.find? (·.name == name)

def output? (ports : HandlerPorts) (name : String) : Option OutputPort :=
  ports.outputs.find? (·.name == name)

def addSpec (owner : HandlerId) (spec : PortSpec) (ports : HandlerPorts) :
    Except Fault HandlerPorts :=
  match spec.direction with
  | .input =>
    if (ports.input? spec.name).isSome then
      .error (.configuration (.portTwice owner.text spec.name))
    else .ok { ports with inputs := ports.inputs ++ [⟨spec, none⟩] }
  | .output =>
    if (ports.output? spec.name).isSome then
      .error (.configuration (.portTwice owner.text spec.name))
    else
      let address := PortAddress.text ⟨owner, spec.name⟩
      .ok { ports with outputs := ports.outputs ++ [⟨spec, address, [], 0⟩] }

def ofSpecs (owner : HandlerId) (specs : List PortSpec) : Except Fault HandlerPorts :=
  specs.foldlM (fun ports spec => ports.addSpec owner spec) empty

def setInput (port : InputPort) (ports : HandlerPorts) : HandlerPorts :=
  { ports with inputs := ports.inputs.map fun p => if p.name = port.name then port else p }

def setOutput (port : OutputPort) (ports : HandlerPorts) : HandlerPorts :=
  { ports with outputs := ports.outputs.map fun p => if p.name = port.name then port else p }

def defaultInput (ports : HandlerPorts) : Option String := ports.inputs.head?.map (·.name)

def defaultOutput (ports : HandlerPorts) : Option String := ports.outputs.head?.map (·.name)

end HandlerPorts

end Tickflow
