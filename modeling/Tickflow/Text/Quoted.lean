import Tickflow.Text.Unseen
/-!
Quoted text for inspection: between double quotes, with the characters escaped that would be
misread or not be seen.
-/
namespace Tickflow.Text

def lowerHex (n : Nat) : List Char := Nat.toDigits 16 n

def quotedChar (c : Char) : List Char :=
  match c with
  | '"' => ['\\', '"']
  | '\\' => ['\\', '\\']
  | '\n' => ['\\', 'n']
  | '\r' => ['\\', 'r']
  | '\t' => ['\\', 't']
  | _ =>
    if c.toNat = 0 then ['\\', '0']
    else if isUnseen c then '\\' :: 'u' :: '\x7b' :: (lowerHex c.toNat ++ ['\x7d'])
    else [c]

def quoted (s : String) : String :=
  String.ofList ('"' :: (s.toList.flatMap quotedChar ++ ['"']))

end Tickflow.Text
