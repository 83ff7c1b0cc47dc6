import Tickflow.Actor.Uri
/-!
Registries: which handler an actor URI names. The host of a URI may be spelled in any way that means
this process; a URI with another host names nothing here.
-/
namespace Tickflow

structure ActorRef where
  uri : ActorUri
  engine : Nat
  handler : HandlerId
  className : String
  isAdapter : Bool
  deriving DecidableEq, Repr

/-- Entries in the order of their URIs. -/
structure ActorRegistry where
  actors : List ActorRef
  deriving DecidableEq, Repr

/-- What a URI leads to: a handler of this process, or a place elsewhere. -/
inductive ActorStub where
  | here (actor : ActorRef)
  | elsewhere (uri : ActorUri)
  deriving DecidableEq, Repr

namespace ActorRegistry

def empty : ActorRegistry := ⟨[]⟩

def find? (uri : ActorUri) (r : ActorRegistry) : Option ActorRef :=
  r.actors.find? fun a => a.uri == uri

def place (actor : ActorRef) : List ActorRef → List ActorRef
  | [] => [actor]
  | a :: rest =>
    if actor.uri.before a.uri then actor :: a :: rest else a :: place actor rest

def register (engine : Nat) (handler : HandlerId) (className : String) (isAdapter : Bool)
    (r : ActorRegistry) : Except Fault (ActorUri × ActorRegistry) := do
  let uri ← (ActorUri.makeLocal className handler.text).mapError Fault.invalidUri
  if (r.find? uri).isSome then .error (.duplicateUri uri.text)
  else return (uri, ⟨place ⟨uri, engine, handler, className, isAdapter⟩ r.actors⟩)

def lookup? (uri : ActorUri) (r : ActorRegistry) : Option ActorRef :=
  if uri.isLocal then r.find? uri.toLocal else none

def unregister (uri : ActorUri) (r : ActorRegistry) : Except Fault (ActorRef × ActorRegistry) :=
  match r.lookup? uri with
  | some actor => .ok (actor, ⟨r.actors.filter fun a => a.uri != actor.uri⟩)
  | none => .error (.uriNotFound uri.text)

def byClass (className : String) (r : ActorRegistry) : List ActorRef :=
  r.actors.filter fun a => a.className == className

def byInstance (instanceId : String) (r : ActorRegistry) : List ActorRef :=
  r.actors.filter fun a => a.uri.instanceId == instanceId

def connect (text : String) (r : ActorRegistry) : Except Fault ActorStub := do
  let uri ← (ActorUri.ofText? text).mapError Fault.invalidUri
  if !uri.isLocal then return .elsewhere uri
  else match r.lookup? uri with
    | some actor => return .here actor
    | none => .error (.uriNotFound uri.text)

def uris (r : ActorRegistry) : List ActorUri := r.actors.map (·.uri)

end ActorRegistry

end Tickflow
