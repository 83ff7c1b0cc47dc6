import Tickflow.Media.Message
import Tickflow.Decimal.Shortest
/-!
Why an operation fails, and the text that says so.
-/
namespace Tickflow

/-- Why a text names no actor. Each cause carries the whole text, some also the part at fault. -/
inductive UriFault where
  | missingScheme (uri : String)
  | invalidScheme (uri found : String)
  | invalidShape (uri : String)
  | invalidHost (uri : String)
  | invalidClassName (uri className : String)
  | invalidInstanceId (uri instanceId : String)
  deriving DecidableEq, Repr

def UriFault.text : UriFault → String
  | .missingScheme uri => s!"'{uri}': missing '://' after scheme"
  | .invalidScheme uri found => s!"'{uri}': scheme must be 'streamlib', got '{found}'"
  | .invalidShape uri => s!"'{uri}': expected scheme://host/ClassName/instance_id"
  | .invalidHost uri => s!"'{uri}': host is empty or contains whitespace"
  | .invalidClassName uri name =>
    s!"'{uri}': class name '{name}' must match [A-Za-z][A-Za-z0-9]*"
  | .invalidInstanceId uri id => s!"'{uri}': instance id '{id}' must match [A-Za-z0-9_-]+"

inductive ConfigFault where
  | handlerId (text : String)
  | addressShape (text : String)
  | addressPort (text : String)
  | unknownCapability (name : String)
  | portTwice (owner port : String)
  | startsAtInput (address : String)
  | endsAtOutput (address : String)
  | emptyQueue (address : String)
  | oddRange (first past : Nat)
  | emptyRange (first past : Nat)
  | clockRate (fps : Float)
  | rate (fps : Float)
  | tickQueueDepth
  | orderedQueueCapacity
  | unreadable (path reason : String)
  | unsupported (path : String)
  | malformed (format : String)
  | nothingBefore (stage : String)
  | noRuntime
  | noStages
  | reported (text : String)
  deriving DecidableEq, Repr

def ConfigFault.text : ConfigFault → String
  | .handlerId id => s!"Invalid handler id '{id}' (allowed: [A-Za-z0-9_-]+)"
  | .addressShape s => s!"Invalid port address '{s}' (expected 'handler_id.port_name')"
  | .addressPort s => s!"Invalid port address '{s}': empty port name"
  | .unknownCapability name => s!"Unknown capability '{name}' (expected 'host' or 'device')"
  | .portTwice owner port => s!"Handler '{owner}' declares port '{port}' twice"
  | .startsAtInput address => s!"{address} is an input; connections start at an output"
  | .endsAtOutput address => s!"{address} is an output; connections end at an input"
  | .emptyQueue address => s!"{address} declares an ordered queue with capacity 0"
  | .oddRange first past => s!"Port range bounds must be even, got [{first}, {past})"
  | .emptyRange first past => s!"Port range start must be below end, got [{first}, {past})"
  | .clockRate fps => "Clock fps must be a finite positive number, got " ++ Decimal.text fps
  | .rate fps => "fps must be a finite positive number, got " ++ Decimal.text fps
  | .tickQueueDepth => "tick_queue_depth must be at least 1"
  | .orderedQueueCapacity => "ordered_queue_capacity must be at least 1"
  | .unreadable path reason => s!"Failed to read {path}: {reason}"
  | .unsupported path => s!"Unsupported config file type: {path} (expected .yaml, .yml or .toml)"
  | .malformed format => s!"Failed to parse {format} config"
  | .nothingBefore stage => s!"Stage '{stage}' has nothing upstream to connect to"
  | .noRuntime => "Pipeline has no runtime"
  | .noStages => "Pipeline has no stages"
  | .reported text => text

inductive RuntimeFault where
  | whileRunning (action : String)
  | afterStop (action : String)
  | alreadyRunning
  | alreadyStopped
  | startPanicked (message : String)
  | reported (text : String)
  deriving DecidableEq, Repr

def RuntimeFault.text : RuntimeFault → String
  | .whileRunning action => s!"Cannot {action} while the runtime is running"
  | .afterStop action => s!"Cannot {action} after the runtime has stopped"
  | .alreadyRunning => "Runtime already running"
  | .alreadyStopped => "Runtime has been stopped and cannot be restarted"
  | .startPanicked message => s!"on_start() panicked: {message}"
  | .reported text => text

inductive Fault where
  | configuration (cause : ConfigFault)
  | invalidUri (cause : UriFault)
  | kindMismatch (source : String) (sourceKind : PayloadKind) (target : String)
      (targetKind : PayloadKind)
  | unsatisfiableRoute (source : String) (sourceCaps : Capabilities) (target : String)
      (targetCaps : Capabilities)
  | locationMismatch (port : String) (location : Location)
  | inputAlreadyConnected (address : String)
  | portNotFound (address : String)
  | handlerNotFound (id : String)
  | duplicateHandler (id : String)
  | duplicateUri (uri : String)
  | uriNotFound (uri : String)
  | portRangeExhausted (first past : Nat)
  | portNotAllocated (id : Nat)
  | bufferFull (label : String)
  | startFailed (handler : String) (cause : Fault)
  | runtime (cause : RuntimeFault)
  | inputOutput (text : String)
  | other (text : String)
  deriving DecidableEq, Repr

def Fault.text : Fault → String
  | .configuration cause => "Invalid configuration: " ++ cause.text
  | .invalidUri cause => "Invalid actor URI: " ++ cause.text
  | .kindMismatch source sourceKind target targetKind =>
    s!"Payload kind mismatch: {source} carries {sourceKind.text}, " ++
      s!"{target} expects {targetKind.text}"
  | .unsatisfiableRoute source sourceCaps target targetCaps =>
    s!"No adapter can route {source} [{sourceCaps.text}] to {target} [{targetCaps.text}]"
  | .locationMismatch port location =>
    s!"Message location {location.text} is not declared by port {port}"
  | .inputAlreadyConnected address => "Input port already connected: " ++ address
  | .portNotFound address => "Port not found: " ++ address
  | .handlerNotFound id => "Handler not found: " ++ id
  | .duplicateHandler id => "Handler already exists: " ++ id
  | .duplicateUri uri => "Actor already registered: " ++ uri
  | .uriNotFound uri => "Actor not registered: " ++ uri
  | .portRangeExhausted first past => s!"Port range [{first}, {past}) exhausted"
  | .portNotAllocated id => s!"Port {id} is not allocated"
  | .bufferFull label => "Buffer full, chunk dropped on " ++ label
  | .startFailed handler cause => s!"Handler '{handler}' failed to start: " ++ cause.text
  | .runtime cause => "Runtime error: " ++ cause.text
  | .inputOutput text => "IO error: " ++ text
  | .other text => text

/-- How a piece of work ends that does not end well: with a fault, or by breaking off. -/
inductive Failure where
  | fault (cause : Fault)
  | panic (text : String)
  deriving DecidableEq, Repr

def Failure.text : Failure → String
  | .fault cause => cause.text
  | .panic text => text

end Tickflow
