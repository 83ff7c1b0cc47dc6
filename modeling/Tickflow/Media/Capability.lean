/-!
Memory that a port can deal with: host memory, device memory, both or none.
-/
namespace Tickflow

structure Capabilities where
  host : Bool
  device : Bool
  deriving DecidableEq, Repr

namespace Capabilities

def empty : Capabilities := ⟨false, false⟩
def hostOnly : Capabilities := ⟨true, false⟩
def deviceOnly : Capabilities := ⟨false, true⟩

def union (a b : Capabilities) : Capabilities := ⟨a.host || b.host, a.device || b.device⟩

def intersects (a b : Capabilities) : Bool := (a.host && b.host) || (a.device && b.device)

def isEmpty (a : Capabilities) : Bool := !a.host && !a.device

def size (a : Capabilities) : Nat := a.host.toNat + a.device.toNat

def bits (a : Capabilities) : Nat := a.host.toNat + 2 * a.device.toNat

def names (a : Capabilities) : List String :=
  (if a.host then ["host"] else []) ++ (if a.device then ["device"] else [])

def text (a : Capabilities) : String := String.intercalate "," a.names

end Capabilities

end Tickflow
