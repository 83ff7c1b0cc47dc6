import Tickflow.HandlerId
/-!
What the engine reports besides its answers. Failures at work are reported by the workers, all else
by the caller of the operation.
-/
namespace Tickflow

inductive Notice where
  | feedbackLoop
  | startFailed (handler : HandlerId) (cause : Fault)
  | rollingBack (count : Nat)
  | disabled (handler : HandlerId) (downstream : Nat)
  | cooperativeBusy
  | abandoned (handler : HandlerId)
  | stopSkipped (handler : HandlerId)
  | stopFailed (handler : HandlerId) (how : Failure)
  | stillRegistered (handler : HandlerId) (uri : String) (cause : Fault)
  | processFailed (handler : HandlerId) (frame : Nat) (how : Failure)
  | rangeExhausted (first past : Nat) (label : String)
  deriving DecidableEq, Repr

namespace Notice

def isError : Notice → Bool
  | .startFailed .. | .stopFailed .. | .processFailed .. => true
  | _ => false

def ofWorker : Notice → Bool
  | .processFailed .. => true
  | _ => false

def text : Notice → String
  | .feedbackLoop => "[Runtime] Connection graph contains a feedback loop"
  | .startFailed id cause => s!"[{id.text}] on_start() failed: {cause.text}"
  | .rollingBack count => s!"[Runtime] Rolling back {count} started handler(s)"
  | .disabled id n => s!"[Runtime] Disabled {id.text} and {n} downstream handler(s)"
  | .cooperativeBusy =>
    "[Runtime] Cooperative handlers still busy after grace period, abandoning"
  | .abandoned id =>
    s!"[{id.text}] Still inside process() after grace period, abandoning thread"
  | .stopSkipped id => s!"[{id.text}] Still inside process(), skipping on_stop()"
  | .stopFailed id (.fault cause) => s!"[{id.text}] on_stop() failed: {cause.text}"
  | .stopFailed id (.panic message) => s!"[{id.text}] on_stop() panicked: {message}"
  | .stillRegistered id uri cause =>
    s!"[{id.text}] Failed to unregister {uri}: {cause.text}"
  | .processFailed id frame (.fault cause) =>
    s!"[{id.text}] process() failed at frame {frame}: {cause.text}"
  | .processFailed id frame (.panic message) =>
    s!"[{id.text}] process() panicked at frame {frame}: {message}"
  | .rangeExhausted first past label =>
    s!"[PortAllocator] Range [{first}, {past}) exhausted ('{label}' requested)"

def line (n : Notice) : String := (if n.isError then "ERROR " else "WARN ") ++ n.text

/-- The lines of a report: the caller's in their order, then the workers' sorted. -/
def lines (notices : List Notice) : List String :=
  (notices.filter (!·.ofWorker)).map line ++
    ((notices.filter (·.ofWorker)).map line).mergeSort fun a b => decide (a ≤ b)

def ofRequest (label : String) : Option Fault → List Notice
  | some (.portRangeExhausted first past) => [.rangeExhausted first past label]
  | _ => []

end Notice

end Tickflow
