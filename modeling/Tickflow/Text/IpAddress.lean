import Tickflow.Text.Bytes
/-!
Texts of IP addresses: four decimal groups, or eight hexadecimal groups of which one run of zeros
may be left out and the last two may be written as four decimal groups.
-/
namespace Tickflow.Text

inductive IpAddress where
  | v4 (octets : List Nat)
  | v6 (groups : List Nat)
  deriving DecidableEq, Repr

def IpAddress.isLoopback : IpAddress → Bool
  | .v4 octets => octets.head? == some 127
  | .v6 groups => groups == [0, 0, 0, 0, 0, 0, 0, 1]

def digitGroup? (base width : Nat) (leadingZero : Bool) (s : List Char) :
    Option (Nat × List Char) :=
  let value (c : Char) : Option Nat := (hexValue? c).filter (· < base)
  let digits := s.takeWhile fun c => (value c).isSome
  if digits.isEmpty || width < digits.length then none
  else if !leadingZero && 1 < digits.length && digits.head? == some '0' then none
  else some (digits.foldl (fun n c => base * n + (value c).getD 0) 0, s.drop digits.length)

def octet? (s : List Char) : Option (Nat × List Char) :=
  (digitGroup? 10 3 false s).filter (·.1 < 256)

def octets? (s : List Char) : Option (List Nat × List Char) := do
  let (a, s) ← octet? s
  let '.' :: s := s | none
  let (b, s) ← octet? s
  let '.' :: s := s | none
  let (c, s) ← octet? s
  let '.' :: s := s | none
  let (d, s) ← octet? s
  return ([a, b, c, d], s)

def afterColon? (first : Bool) (s : List Char) : Option (List Char) :=
  if first then some s
  else match s with
    | ':' :: rest => some rest
    | _ => none

/-- Up to `room` groups at the front, whether they end in four octets, and what follows. -/
def hexGroups (first : Bool) : (room : Nat) → List Char → List Nat × Bool × List Char
  | 0, s => ([], false, s)
  | room + 1, s =>
    match (if room = 0 then none else (afterColon? first s).bind octets?) with
    | some ([a, b, c, d], rest) => ([256 * a + b, 256 * c + d], true, rest)
    | _ =>
      match (afterColon? first s).bind (digitGroup? 16 4 true) with
      | some (g, rest) =>
        let (gs, dotted, rest) := hexGroups false room rest
        (g :: gs, dotted, rest)
      | none => ([], false, s)

def v6? (s : List Char) : Option (List Nat × List Char) :=
  match hexGroups true 8 s with
  | (head, dotted, rest) =>
    if head.length = 8 then some (head, rest)
    else if dotted then none
    else match rest with
      | ':' :: ':' :: rest =>
        let (tail, _, rest) := hexGroups true (7 - head.length) rest
        some (head ++ List.replicate (8 - head.length - tail.length) 0 ++ tail, rest)
      | _ => none

def IpAddress.ofText? (s : List Char) : Option IpAddress :=
  match octets? s with
  | some (octets, []) => some (.v4 octets)
  | _ =>
    match v6? s with
    | some (groups, []) => some (.v6 groups)
    | _ => none

end Tickflow.Text
