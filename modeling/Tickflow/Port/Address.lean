import Tickflow.HandlerId
import Tickflow.Text.Cut
/-!
Port addresses, written `handler.port`. A handler id has no point in it, so the first point ends it.
-/
namespace Tickflow

structure PortAddress where
  handler : HandlerId
  port : String
  deriving DecidableEq, Repr

namespace PortAddress

def text (a : PortAddress) : String := a.handler.text ++ "." ++ a.port

def ofText? (s : String) : Except Fault PortAddress :=
  match Text.cut? ['.'] s.toList with
  | none => .error (.configuration (.addressShape s))
  | some (_, []) => .error (.configuration (.addressPort s))
  | some (handler, port) => do
    return ⟨← HandlerId.ofText? (String.ofList handler), String.ofList port⟩

end PortAddress

end Tickflow
