import Tickflow.Format.Toml.Text
import Tickflow.Settings.Entries
/-!
The TOML forms of settings. Integers may stand for numbers with places, but not the other way round.
-/
namespace Tickflow.Toml

def float? : Toml → Option Float
  | .float x => some x
  | .integer n => some (Decimal.signed (decide (n < 0)) (Decimal.Scaled.toFloat ⟨n.natAbs, 0⟩))
  | _ => none

def nat? (bits : Nat) : Toml → Option Nat
  | .integer n => if 0 ≤ n ∧ n.toNat < Nat.pow 2 bits then some n.toNat else none
  | _ => none

def bool? : Toml → Option Bool
  | .bool b => some b
  | _ => none

/-- A choice without parts: its name as a string, or over something empty. -/
def word? : Toml → Option String
  | .string text => some text
  | .table _ [(name, .table _ [])] => some name
  | .table _ [(name, .array [])] => some name
  | _ => none

def group? : Toml → Option (Settings.Group Toml)
  | .table _ entries => some (.named entries)
  | .array items => some (.listed items)
  | .tables elements => some (.listed (elements.map (.table .header)))
  | _ => none

def spelling : Settings.Spelling Toml where
  float? := float?
  nat? := nat?
  bool? := bool?
  word? := word?
  isAbsent _ := false
  group? := group?
  exactLists := false

def settings? (text : String) : Option Settings :=
  (ofText? text).bind (Settings.ofEntries? spelling)

end Tickflow.Toml
