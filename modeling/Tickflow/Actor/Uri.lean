import Tickflow.HandlerId
import Tickflow.Text.Blank
import Tickflow.Text.Cut
import Tickflow.Text.IpAddress
/-!
Actor URIs: a scheme, a host, a class name and an instance id.
-/
namespace Tickflow

structure ActorUri where
  host : String
  className : String
  instanceId : String
  deriving DecidableEq, Repr

namespace ActorUri

def scheme : String := "streamlib"

def localHost : String := "local"

def isHost (s : List Char) : Bool := !s.isEmpty && !s.any Text.isBlank

def isClassName : List Char → Bool
  | [] => false
  | c :: rest => c.isAlpha && rest.all Char.isAlphanum

def textOf (host className instanceId : String) : String :=
  scheme ++ "://" ++ host ++ "/" ++ className ++ "/" ++ instanceId

def text (u : ActorUri) : String := textOf u.host u.className u.instanceId

/-- The URI of three parts that were cut from, or would be written as, `whole`. -/
def check (whole host className instanceId : String) : Except UriFault ActorUri :=
  if !isHost host.toList then .error (.invalidHost whole)
  else if !isClassName className.toList then .error (.invalidClassName whole className)
  else if !isIdText instanceId.toList then .error (.invalidInstanceId whole instanceId)
  else .ok ⟨host, className, instanceId⟩

def make (host className instanceId : String) : Except UriFault ActorUri :=
  check (textOf host className instanceId) host className instanceId

def makeLocal (className instanceId : String) : Except UriFault ActorUri :=
  make localHost className instanceId

def ofText? (s : String) : Except UriFault ActorUri :=
  match Text.cut? "://".toList s.toList with
  | none => .error (.missingScheme s)
  | some (found, rest) =>
    if String.ofList found ≠ scheme then .error (.invalidScheme s (String.ofList found))
    else match Text.pieces '/' rest with
      | [host, className, instanceId] =>
        check s (String.ofList host) (String.ofList className) (String.ofList instanceId)
      | _ => .error (.invalidShape s)

def withoutBrackets (s : List Char) : List Char :=
  match s with
  | '[' :: rest =>
    match rest.reverse with
    | ']' :: inner => inner.reverse
    | _ => s
  | _ => s

/-- Hosts that mean this process: `local` and `localhost` in any case, and loopback addresses. -/
def isLocalHost (host : String) : Bool :=
  let small := String.ofList (host.toList.map Char.toLower)
  small == localHost || small == "localhost" ||
    ((Text.IpAddress.ofText? (withoutBrackets host.toList)).map (·.isLoopback)).getD false

def isLocal (u : ActorUri) : Bool := isLocalHost u.host

def toLocal (u : ActorUri) : ActorUri := { u with host := localHost }

/-- Order of URIs: by host, then class name, then instance id. -/
def before (a b : ActorUri) : Bool :=
  decide (a.host < b.host) || (a.host == b.host &&
    (decide (a.className < b.className) || (a.className == b.className &&
      decide (a.instanceId < b.instanceId))))

end ActorUri

end Tickflow
