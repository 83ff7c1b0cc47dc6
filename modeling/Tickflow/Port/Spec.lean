import Tickflow.Cell
/-!
What a handler declares about one of its ports.
-/
namespace Tickflow

inductive PortDirection where
  | input
  | output
  deriving DecidableEq, Repr

structure PortSpec where
  name : String
  direction : PortDirection
  kind : PayloadKind
  capabilities : Capabilities
  /-- How the link that feeds an input shall work, when the declaration says so. -/
  policy : Option ConsumptionPolicy
  deriving DecidableEq, Repr

namespace PortSpec

def input (name : String) (kind : PayloadKind) : PortSpec := ⟨name, .input, kind, .hostOnly, none⟩

def output (name : String) (kind : PayloadKind) : PortSpec :=
  ⟨name, .output, kind, .hostOnly, none⟩

def withCapabilities (capabilities : Capabilities) (s : PortSpec) : PortSpec :=
  { s with capabilities }

end PortSpec

end Tickflow
