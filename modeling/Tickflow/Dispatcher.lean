/-!
Where a handler's work is done: in turn with the others, or on a thread of its own.
-/
namespace Tickflow

inductive Dispatcher where
  | cooperative
  | isolated
  deriving DecidableEq, Repr

namespace Dispatcher

def isIsolated : Dispatcher → Bool
  | .cooperative => false
  | .isolated => true

def text : Dispatcher → String
  | .cooperative => "cooperative"
  | .isolated => "isolated"

end Dispatcher

end Tickflow
