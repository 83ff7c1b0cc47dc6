/-!
Bytes as text, two lower-case hexadecimal digits a byte, the reading of it, and numbers in a base.
-/
namespace Tickflow.Text

def hexDigit (n : Nat) : Char := (Nat.digitChar (n % 16))

def hexOfBytes (bytes : List UInt8) : String :=
  String.ofList (bytes.flatMap fun b => [hexDigit (b.toNat / 16), hexDigit b.toNat])

def hexValue? (c : Char) : Option Nat :=
  if '0' ≤ c ∧ c ≤ '9' then some (c.toNat - '0'.toNat)
  else if 'a' ≤ c ∧ c ≤ 'f' then some (c.toNat - 'a'.toNat + 10)
  else if 'A' ≤ c ∧ c ≤ 'F' then some (c.toNat - 'A'.toNat + 10)
  else none

def natOfBase? (base : Nat) (s : List Char) : Option Nat :=
  if s.isEmpty then none
  else (s.mapM fun c => (hexValue? c).filter (· < base)).map fun values =>
    values.foldl (fun n d => base * n + d) 0

def charOfHex? (digits : List Char) : Option Char :=
  (natOfBase? 16 digits).bind fun n => if n.isValidChar then some (Char.ofNat n) else none

def bytesOfHex? : List Char → Option (List UInt8)
  | [] => some []
  | a :: b :: rest => do
    let x ← hexValue? a
    let y ← hexValue? b
    let bytes ← bytesOfHex? rest
    return UInt8.ofNat (16 * x + y) :: bytes
  | [_] => none

end Tickflow.Text
