import Tickflow.Fault
import Tickflow.Text.Blank
import Tickflow.Text.Cut
/-!
Written capability sets: names between commas. Blanks around a name and empty places do not count.
-/
namespace Tickflow.Capabilities

def ofName? (name : List Char) : Except Fault Capabilities :=
  if name = "host".toList then .ok hostOnly
  else if name = "device".toList then .ok deviceOnly
  else .error (.configuration (.unknownCapability (String.ofList name)))

/-- The union of the named sets; the first unknown name is reported. -/
def ofNames? : List (List Char) → Except Fault Capabilities
  | [] => .ok empty
  | name :: rest => do
    let first ← ofName? name
    let others ← ofNames? rest
    return first.union others

def ofText? (s : String) : Except Fault Capabilities :=
  ofNames? (((Text.pieces ',' s.toList).map Text.trim).filter fun name => !name.isEmpty)

end Tickflow.Capabilities
