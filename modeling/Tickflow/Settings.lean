import Tickflow.Cell
import Tickflow.Decimal.Reading
import Tickflow.Supply.PortRange
/-!
Settings of an engine: their defaults, which of them are admissible, and what follows from them.
-/
namespace Tickflow

inductive StartPolicy where
  | rollback
  | isolate
  deriving DecidableEq, Repr

def StartPolicy.text : StartPolicy → String
  | .rollback => "rollback"
  | .isolate => "isolate"

structure PortBounds where
  first : Nat
  past : Nat
  deriving DecidableEq, Repr

structure Settings where
  fps : Float
  stopGraceMs : Nat
  tickQueueDepth : Nat
  orderedQueueCapacity : Nat
  orderedWriteTimeoutMs : Nat
  startPolicy : StartPolicy
  autoRegister : Bool
  portRange : Option PortBounds
  devicePoolId : Nat
  poolMaxRetained : Nat
  deriving DecidableEq, Repr

namespace Settings

def default : Settings :=
  { fps := 30.0, stopGraceMs := 500, tickQueueDepth := 4, orderedQueueCapacity := 32
    orderedWriteTimeoutMs := 5, startPolicy := .rollback, autoRegister := true, portRange := none
    devicePoolId := 0, poolMaxRetained := 16 }

def withFps (fps : Float) (s : Settings) : Settings := { s with fps }

def ports (s : Settings) : Except Fault (Option PortRange) :=
  match s.portRange with
  | none => .ok none
  | some bounds => (PortRange.make bounds.first bounds.past).map some

def validate (s : Settings) : Except Fault Unit :=
  if !Decimal.isFinite s.fps || s.fps ≤ 0.0 then .error (.configuration (.rate s.fps))
  else if s.tickQueueDepth = 0 then .error (.configuration .tickQueueDepth)
  else if s.orderedQueueCapacity = 0 then .error (.configuration .orderedQueueCapacity)
  else s.ports.map fun _ => ()

/-- How a link carries its payloads when its input does not say: audio must not lose any. -/
def policyFor (s : Settings) : PayloadKind → ConsumptionPolicy
  | .audio => .orderedAll s.orderedQueueCapacity
  | .video | .data => .latestWins

def graceSeconds (s : Settings) : Nat := s.stopGraceMs / 1000

def writeTimeoutNanoseconds (s : Settings) : Nat := s.orderedWriteTimeoutMs % 1000 * 1000000

end Settings

end Tickflow
