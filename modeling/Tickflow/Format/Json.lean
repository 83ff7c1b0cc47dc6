import Tickflow.Decimal.Reading
import Tickflow.Text.Bytes
/-!
JSON texts and values. Numbers keep their spelling, so that a number which nobody asks for cannot be
out of range.
-/
namespace Tickflow

structure JsonNumber where
  negative : Bool
  whole : List Char
  places : Option (List Char)
  exponent : Option Int
  deriving DecidableEq, Repr

/-- Strings with half of a surrogate pair in an escape have no text. -/
inductive Json where
  | null
  | bool (value : Bool)
  | number (value : JsonNumber)
  | string (text : Option String)
  | array (items : List Json)
  | object (members : List (Option String × Json))
  deriving Repr

namespace JsonNumber

def nat? (bits : Nat) (n : JsonNumber) : Option Nat :=
  match n with
  | ⟨false, whole, none, none⟩ =>
    let value := Decimal.natOfDigits whole
    if value < Nat.pow 2 bits then some value else none
  | _ => none

/-- The digits that are kept: as many as fit into 64 bits. Whole digits beyond that only raise the
power of ten, further places are dropped. -/
def significand (n : JsonNumber) : Nat × Int :=
  let keep (acc : Nat × Int × Bool) (c : Char) (lost kept : Int) : Nat × Int × Bool :=
    let (value, shift, full) := acc
    let longer := 10 * value + (c.toNat - '0'.toNat)
    if full || decide (Nat.pow 2 64 ≤ longer) then (value, shift + lost, true)
    else (longer, shift + kept, false)
  let (value, shift, _) := n.whole.foldl (fun acc c => keep acc c 1 0) (0, 0, false)
  let (value, shift, _) :=
    (n.places.getD []).foldl (fun acc c => keep acc c 0 (-1))
      (value, shift, false)
  (value, shift)

def powerOfTen (k : Nat) : Float := Float.ofScientific 1 false k

/-- Divides by `10 ^ 308` until the rest of the negative exponent is a power of ten in range. -/
def scaleDown : (steps : Nat) → Float → (exponent : Nat) → Float
  | 0, x, _ => x
  | steps + 1, x, exponent =>
    if exponent ≤ 308 then x / powerOfTen exponent
    else if x == 0.0 then x
    else scaleDown steps (x / powerOfTen 308) (exponent - 308)

/-- The significand times the power of ten, in two rounding steps; none when it is infinite. -/
def scale? (value : Nat) (exponent : Int) : Option Float :=
  let x := Decimal.Scaled.toFloat ⟨value, 0⟩
  if 308 < exponent then (if value = 0 then some 0.0 else none)
  else if 0 ≤ exponent then
    let y := x * powerOfTen exponent.toNat
    if Decimal.isFinite y then some y else none
  else some (scaleDown 4 x (-exponent).toNat)

/-- Exponents are read up to the largest of 32 bits; beyond that only zero and infinity are left. -/
def exponentLimit : Int := 2147483647

def float? (n : JsonNumber) : Option Float :=
  let (value, shift) := n.significand
  let spelled := n.exponent.getD 0
  let magnitude :=
    if exponentLimit < spelled then (if value = 0 then some 0.0 else none)
    else if spelled < -exponentLimit then some 0.0
    else scale? value (max (-2147483648) (min exponentLimit (shift + spelled)))
  magnitude.map (Decimal.signed n.negative)

end JsonNumber

namespace Json

def isSpace (c : Char) : Bool := c == ' ' || c == '\n' || c == '\t' || c == '\r'

def skipSpace (s : List Char) : List Char := s.dropWhile isSpace

def wholeDigits? (s : List Char) : Option (List Char × List Char) :=
  match s with
  | '0' :: c :: rest => if c.isDigit then none else some (['0'], c :: rest)
  | _ =>
    let digits := s.takeWhile Char.isDigit
    if digits.isEmpty then none else some (digits, s.dropWhile Char.isDigit)

def someDigits? (s : List Char) : Option (List Char × List Char) :=
  let digits := s.takeWhile Char.isDigit
  if digits.isEmpty then none else some (digits, s.dropWhile Char.isDigit)

def number? (s : List Char) : Option (JsonNumber × List Char) := do
  let (negative, s) := match s with
    | '-' :: rest => (true, rest)
    | rest => (false, rest)
  let (whole, s) ← wholeDigits? s
  let (places, s) ← match s with
    | '.' :: rest => (someDigits? rest).map fun p => (some p.1, p.2)
    | rest => some (none, rest)
  match s with
  | c :: rest =>
    if c = 'e' ∨ c = 'E' then
      let (down, rest) := match rest with
        | '-' :: r => (true, r)
        | '+' :: r => (false, r)
        | r => (false, r)
      let (digits, rest) ← someDigits? rest
      let size : Int := Decimal.natOfDigits digits
      return (⟨negative, whole, places, some (if down then -size else size)⟩, rest)
    else return (⟨negative, whole, places, none⟩, s)
  | [] => return (⟨negative, whole, places, none⟩, [])

def hex4? : List Char → Option (Nat × List Char)
  | a :: b :: c :: d :: rest => do
    let x ← Text.hexValue? a
    let y ← Text.hexValue? b
    let z ← Text.hexValue? c
    let w ← Text.hexValue? d
    return (4096 * x + 256 * y + 16 * z + w, rest)
  | _ => none

/-- What is in a string after its opening quote: its characters, or none for half a surrogate pair,
and what follows the closing quote. -/
def stringBody : (fuel : Nat) → List Char → Option (Option (List Char) × List Char)
  | 0, _ => none
  | fuel + 1, s =>
    let put (c : Char) (rest : List Char) : Option (Option (List Char) × List Char) :=
      (stringBody fuel rest).map fun p => (p.1.map (c :: ·), p.2)
    match s with
    | [] => none
    | '"' :: rest => some (some [], rest)
    | '\\' :: '"' :: rest => put '"' rest
    | '\\' :: '\\' :: rest => put '\\' rest
    | '\\' :: '/' :: rest => put '/' rest
    | '\\' :: 'b' :: rest => put '\x08' rest
    | '\\' :: 'f' :: rest => put '\x0c' rest
    | '\\' :: 'n' :: rest => put '\n' rest
    | '\\' :: 'r' :: rest => put '\r' rest
    | '\\' :: 't' :: rest => put '\t' rest
    | '\\' :: 'u' :: rest => do
      let (unit, rest) ← hex4? rest
      if 0xD800 ≤ unit ∧ unit < 0xDC00 then
        match rest with
        | '\\' :: 'u' :: second =>
          let (low, after) ← hex4? second
          if 0xDC00 ≤ low ∧ low < 0xE000 then
            put (Char.ofNat (0x10000 + (unit - 0xD800) * 0x400 + (low - 0xDC00))) after
          else (stringBody fuel rest).map fun p => (none, p.2)
        | _ => (stringBody fuel rest).map fun p => (none, p.2)
      else if 0xDC00 ≤ unit ∧ unit < 0xE000 then
        (stringBody fuel rest).map fun p => (none, p.2)
      else put (Char.ofNat unit) rest
    | '\\' :: _ => none
    | c :: rest => if c.toNat < 0x20 then none else put c rest

def literal? (word : String) (value : Json) (s : List Char) : Option (Json × List Char) :=
  if word.toList.isPrefixOf s then some (value, s.drop word.length) else none

mutual

/-- A value at the front, and what follows it. Every step of the fuel consumes a character. -/
def value : (fuel : Nat) → List Char → Option (Json × List Char)
  | 0, _ => none
  | fuel + 1, s =>
    match skipSpace s with
    | 'n' :: rest => literal? "null" .null ('n' :: rest)
    | 't' :: rest => literal? "true" (.bool true) ('t' :: rest)
    | 'f' :: rest => literal? "false" (.bool false) ('f' :: rest)
    | '"' :: rest => (stringBody fuel rest).map fun p => (.string (p.1.map String.ofList), p.2)
    | '[' :: rest =>
      match skipSpace rest with
      | ']' :: after => some (.array [], after)
      | inner => (items fuel inner).map fun p => (.array p.1, p.2)
    | '\x7b' :: rest =>
      match skipSpace rest with
      | '\x7d' :: after => some (.object [], after)
      | inner => (members fuel inner).map fun p => (.object p.1, p.2)
    | rest => (number? rest).map fun p => (.number p.1, p.2)

def items : (fuel : Nat) → List Char → Option (List Json × List Char)
  | 0, _ => none
  | fuel + 1, s => do
    let (item, s) ← value fuel s
    match skipSpace s with
    | ']' :: after => return ([item], after)
    | ',' :: rest =>
      let (others, after) ← items fuel rest
      return (item :: others, after)
    | _ => none

def members : (fuel : Nat) → List Char → Option (List (Option String × Json) × List Char)
  | 0, _ => none
  | fuel + 1, s => do
    let '"' :: s := skipSpace s | none
    let (key, s) ← stringBody fuel s
    let ':' :: s := skipSpace s | none
    let (item, s) ← value fuel s
    let entry := (key.map String.ofList, item)
    match skipSpace s with
    | '\x7d' :: after => return ([entry], after)
    | ',' :: rest =>
      let (others, after) ← members fuel rest
      return (entry :: others, after)
    | _ => none

end

def ofText? (s : String) : Option Json :=
  match value (2 * s.length + 2) s.toList with
  | some (v, rest) => if (skipSpace rest).isEmpty then some v else none
  | none => none

def escapedChar (c : Char) : List Char :=
  match c with
  | '"' => ['\\', '"']
  | '\\' => ['\\', '\\']
  | '\n' => ['\\', 'n']
  | '\r' => ['\\', 'r']
  | '\t' => ['\\', 't']
  | '\x08' => ['\\', 'b']
  | '\x0c' => ['\\', 'f']
  | _ =>
    if c.toNat < 0x20 then
      ['\\', 'u', '0', '0', Text.hexDigit (c.toNat / 16), Text.hexDigit c.toNat]
    else [c]

def quoted (s : String) : String :=
  String.ofList ('"' :: (s.toList.flatMap escapedChar ++ ['"']))

def ofNat (n : Nat) : Json := .number ⟨false, n.repr.toList, none, none⟩

def ofString (s : String) : Json := .string (some s)

def ofFields (fields : List (String × Json)) : Json :=
  .object (fields.map fun f => (some f.1, f.2))

def JsonNumber.text (n : JsonNumber) : String :=
  (if n.negative then "-" else "") ++ String.ofList n.whole ++
    (match n.places with
      | some p => "." ++ String.ofList p
      | none => "") ++
    (match n.exponent with
      | some e => "e" ++ toString e
      | none => "")

mutual

def compact : Json → String
  | .null => "null"
  | .bool b => if b then "true" else "false"
  | .number n => JsonNumber.text n
  | .string s => quoted (s.getD "")
  | .array items => "[" ++ compactItems items ++ "]"
  | .object members => "\x7b" ++ compactMembers members ++ "\x7d"

def compactItems : List Json → String
  | [] => ""
  | [v] => compact v
  | v :: rest => compact v ++ "," ++ compactItems rest

def compactMembers : List (Option String × Json) → String
  | [] => ""
  | [(k, v)] => quoted (k.getD "") ++ ":" ++ compact v
  | (k, v) :: rest => quoted (k.getD "") ++ ":" ++ compact v ++ "," ++ compactMembers rest

end

def indent (depth : Nat) : String := "\n" ++ String.ofList (List.replicate (2 * depth) ' ')

mutual

/-- The value over several lines, two blanks deeper in each array and object that is not empty. -/
def pretty (depth : Nat) : Json → String
  | .array [] => "[]"
  | .array (v :: rest) =>
    "[" ++ indent (depth + 1) ++ pretty (depth + 1) v ++ prettyItems (depth + 1) rest ++
      indent depth ++ "]"
  | .object [] => "\x7b\x7d"
  | .object ((k, v) :: rest) =>
    "\x7b" ++ indent (depth + 1) ++ quoted (k.getD "") ++ ": " ++ pretty (depth + 1) v ++
      prettyMembers (depth + 1) rest ++ indent depth ++ "\x7d"
  | .null => "null"
  | .bool b => if b then "true" else "false"
  | .number n => JsonNumber.text n
  | .string s => quoted (s.getD "")

def prettyItems (depth : Nat) : List Json → String
  | [] => ""
  | v :: rest => "," ++ indent depth ++ pretty depth v ++ prettyItems depth rest

def prettyMembers (depth : Nat) : List (Option String × Json) → String
  | [] => ""
  | (k, v) :: rest =>
    "," ++ indent depth ++ quoted (k.getD "") ++ ": " ++ pretty depth v ++
      prettyMembers depth rest

end

end Json

end Tickflow
