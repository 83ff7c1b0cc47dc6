import Tickflow.Dispatcher
import Tickflow.Port.Spec
/-!
What a handler is to the engine: its class, its ports, and what it does when it is started, at each
tick and when it is stopped. The work of a tick is a list of actions, so that what a handler may do
is exactly what actions can say.
-/
namespace Tickflow

inductive Action where
  | noteTick
  /-- Reads what may be seen at this tick. -/
  | read (port : String)
  /-- Reads whatever is there. -/
  | readNow (port : String)
  | write (port : String) (message : Message)
  /-- Writes the low 16 bits of the frame number. -/
  | stamp (port : String)
  /-- Writes a picture of one point whose shade is the frame number. -/
  | capture (port : String)
  | forward (source target : String)
  /-- Fills a pooled buffer, and writes it when there is a port. -/
  | buffer (length : Nat) (byte : UInt8) (port : Option String)
  /-- Moves what was read and not moved before to other memory, and writes it. -/
  | bridge (source target : String) (location : Location)
  | fail (how : Failure)
  /-- Stays inside the call until it is released. -/
  | hold
  deriving DecidableEq, Repr

/-- An action; a soft one may fail without ending the call. -/
structure Step where
  action : Action
  soft : Bool
  deriving DecidableEq, Repr

/-- `onStart` and `onStop` are how these calls fail, when they do. A behaviour that is not
`journaled` leaves no traces of its calls. -/
structure Behaviour where
  className : String
  ports : List PortSpec
  dispatcher : Dispatcher
  onStart : Option Failure
  onStop : Option Failure
  process : Nat → List Step
  journaled : Bool

def Failure.unexplained : Failure := .panic "unknown panic payload"

namespace Behaviour

def plain (className : String) (ports : List PortSpec) (actions : List Action) : Behaviour :=
  { className, ports, dispatcher := .cooperative, onStart := none, onStop := none
    process := fun _ => actions.map fun a => ⟨a, false⟩, journaled := false }

def camera : Behaviour :=
  plain "CameraSource" [.output "video" .video] [.capture "video"]

def wrapper : Behaviour :=
  plain "Wrapper" [.input "in" .data, .output "out" .data] [.forward "in" "out"]

end Behaviour

structure Route where
  className : String
  input : Capabilities
  output : Capabilities
  deriving DecidableEq, Repr

namespace Route

def inputPort : String := "in"
def outputPort : String := "out"

def hostToDevice : Route := ⟨"HostToDeviceAdapter", .hostOnly, .deviceOnly⟩
def deviceToHost : Route := ⟨"DeviceToHostAdapter", .deviceOnly, .hostOnly⟩

def all : List Route := [hostToDevice, deviceToHost]

def fits (source target : Capabilities) (r : Route) : Bool :=
  r.input.intersects source && r.output.intersects target

def breadth (r : Route) : Nat := r.input.size + r.output.size

/-- The narrowest of the routes that fit, the first one of equally narrow ones. -/
def select? (routes : List Route) (source target : Capabilities) : Option Route :=
  (routes.filter (·.fits source target)).foldl (fun best r =>
    match best with
    | none => some r
    | some b => if r.breadth < b.breadth then some r else some b) none

def destination (devicePool : Nat) (r : Route) : Location :=
  if r.output.device then .device devicePool else .host

def adapter (kind : PayloadKind) (devicePool : Nat) (r : Route) : Behaviour :=
  .plain r.className
    [(PortSpec.input inputPort kind).withCapabilities r.input,
     (PortSpec.output outputPort kind).withCapabilities r.output]
    [.bridge inputPort outputPort (r.destination devicePool)]

end Route

end Tickflow
