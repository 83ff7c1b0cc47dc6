import Tickflow.Decimal.Reading
import Tickflow.Format.Toml.Table
import Tickflow.Text.Bytes
import Tickflow.Text.Cut
/-!
Reading TOML text. Each reader takes what it reads from the front and gives it with what follows, or
gives none when the text is not well formed.
-/
namespace Tickflow.Toml

def isSpace (c : Char) : Bool := c == ' ' || c == '\t'

def skipSpace (s : List Char) : List Char := s.dropWhile isSpace

def isText (c : Char) : Bool := c == '\t' || (decide (0x20 ≤ c.toNat) && c.toNat != 0x7F)

def newline? : List Char → Option (List Char)
  | '\n' :: rest => some rest
  | '\r' :: '\n' :: rest => some rest
  | _ => none

def lineEnd? (s : List Char) : Option (List Char) :=
  let s := skipSpace s
  let s := match s with
    | '#' :: rest => rest.dropWhile isText
    | rest => rest
  if s.isEmpty then some [] else newline? s

def skipFiller (comment : Bool) : List Char → List Char
  | [] => []
  | '\n' :: rest => skipFiller false rest
  | '\r' :: '\n' :: rest => skipFiller false rest
  | c :: rest =>
    if comment then if isText c then skipFiller true rest else c :: rest
    else if isSpace c then skipFiller false rest
    else if c = '#' then skipFiller true rest
    else c :: rest

def charOfEscape? : Char → Option Char
  | 'b' => some '\x08'
  | 't' => some '\t'
  | 'n' => some '\n'
  | 'f' => some '\x0c'
  | 'r' => some '\r'
  | '"' => some '"'
  | '\\' => some '\\'
  | _ => none

/-- What is in a string of one line, after its opening quote. Only double quotes have escapes. -/
def shortBody (quote : Char) : List Char → Option (List Char × List Char)
  | [] => none
  | c :: rest =>
    let put (c : Char) (read : Option (List Char × List Char)) := read.map fun p => (c :: p.1, p.2)
    if c = quote then some ([], rest)
    else if c = '\\' ∧ quote = '"' then
      match rest with
      | 'u' :: a :: b :: c :: d :: rest =>
        (Text.charOfHex? [a, b, c, d]).bind fun x => put x (shortBody quote rest)
      | 'U' :: a :: b :: c :: d :: e :: f :: g :: h :: rest =>
        (Text.charOfHex? [a, b, c, d, e, f, g, h]).bind fun x => put x (shortBody quote rest)
      | e :: rest => (charOfEscape? e).bind fun x => put x (shortBody quote rest)
      | [] => none
    else if isText c then put c (shortBody quote rest)
    else none

/-- What is in a string between three quotes. It may end in one or two quotes of its own. After a
backslash at the end of a line, blanks and line ends are skipped. -/
def longBody (quote : Char) : (skip : Bool) → List Char → Option (List Char × List Char)
  | _, [] => none
  | skip, c :: rest =>
    let put (c : Char) (read : Option (List Char × List Char)) := read.map fun p => (c :: p.1, p.2)
    let quotes := ((c :: rest).takeWhile (· == quote)).length
    if 3 ≤ quotes then
      some (List.replicate (min (quotes - 3) 2) quote, (c :: rest).drop (min quotes 5))
    else if c = '\n' then
      if skip then longBody quote true rest else put c (longBody quote false rest)
    else if c = '\r' then
      match rest with
      | '\n' :: rest =>
        if skip then longBody quote true rest else put '\n' (longBody quote false rest)
      | _ => none
    else if skip && isSpace c then longBody quote true rest
    else if c = '\\' ∧ quote = '"' then
      if (newline? (skipSpace rest)).isSome then longBody quote true rest
      else match rest with
        | 'u' :: a :: b :: c :: d :: rest =>
          (Text.charOfHex? [a, b, c, d]).bind fun x => put x (longBody quote false rest)
        | 'U' :: a :: b :: c :: d :: e :: f :: g :: h :: rest =>
          (Text.charOfHex? [a, b, c, d, e, f, g, h]).bind fun x => put x (longBody quote false rest)
        | e :: rest => (charOfEscape? e).bind fun x => put x (longBody quote false rest)
        | [] => none
    else if isText c then put c (longBody quote false rest)
    else none

/-- A string of either length; the line end right after three quotes does not belong to it. -/
def string? (quote : Char) (s : List Char) : Option (String × List Char) :=
  if s.take 3 == [quote, quote, quote] then
    let inner := s.drop 3
    (longBody quote false ((newline? inner).getD inner)).map fun p => (String.ofList p.1, p.2)
  else (shortBody quote (s.drop 1)).map fun p => (String.ofList p.1, p.2)

def isBare (c : Char) : Bool := c.isAlphanum || c == '_' || c == '-'

def name? (s : List Char) : Option (String × List Char) :=
  match s with
  | '"' :: rest => (shortBody '"' rest).map fun p => (String.ofList p.1, p.2)
  | '\'' :: rest => (shortBody '\'' rest).map fun p => (String.ofList p.1, p.2)
  | _ =>
    let name := s.takeWhile isBare
    if name.isEmpty then none else some (String.ofList name, s.dropWhile isBare)

/-- How many names may be joined by points, and how many arrays and inline tables may stand one in
the other. -/
def depthLimit : Nat := 79

def namesWithin? : (most : Nat) → List Char → Option (List String × String × List Char)
  | 0, _ => none
  | most + 1, s => do
    let (name, rest) ← name? (skipSpace s)
    match skipSpace rest with
    | '.' :: rest =>
      let (path, key, rest) ← namesWithin? most rest
      return (name :: path, key, rest)
    | rest => return ([], name, rest)

def names? (s : List Char) : Option (List String × String × List Char) := namesWithin? depthLimit s

def digits? (s : List Char) : Option (List Char) :=
  let groups := Text.pieces '_' s
  if groups.all fun g => !g.isEmpty then some groups.flatten else none

def natOfBase? (base : Nat) (s : List Char) : Option Nat :=
  (digits? s).bind (Text.natOfBase? base)

def decimalDigits? (s : List Char) : Option (List Char) :=
  (digits? s).filter fun d => d.all Char.isDigit

def wholeDigits? (s : List Char) : Option (List Char) :=
  (decimalDigits? s).filter fun d => d.length = 1 || d.head? != some '0'

def splitSign : List Char → Bool × List Char
  | '-' :: rest => (true, rest)
  | '+' :: rest => (false, rest)
  | rest => (false, rest)

def integerOfText? (s : List Char) : Option Int :=
  let value : Option Int := match s with
    | '0' :: 'x' :: rest => (natOfBase? 16 rest).map Int.ofNat
    | '0' :: 'o' :: rest => (natOfBase? 8 rest).map Int.ofNat
    | '0' :: 'b' :: rest => (natOfBase? 2 rest).map Int.ofNat
    | _ =>
      let (negative, body) := splitSign s
      (wholeDigits? body).map fun d =>
        let n : Int := Decimal.natOfDigits d
        if negative then -n else n
  let bound : Int := Nat.pow 2 63
  value.filter fun n => decide (-bound ≤ n) && decide (n < bound)

def decimal? (s : List Char) : Option (List Char) := do
  let isMark (c : Char) : Bool := c == 'e' || c == 'E'
  let mantissa := s.takeWhile fun c => !isMark c
  let whole ← wholeDigits? (mantissa.takeWhile (· != '.'))
  let places ← match mantissa.dropWhile (· != '.') with
    | [] => some []
    | _ :: d => (decimalDigits? d).map ('.' :: ·)
  let exponent ← match s.dropWhile fun c => !isMark c with
    | [] => some []
    | _ :: e =>
      let (negative, body) := splitSign e
      (decimalDigits? body).map fun d => 'e' :: (if negative then '-' :: d else d)
  if places.isEmpty && exponent.isEmpty then none else some (whole ++ places ++ exponent)

/-- A number in binary64. One that is too large is refused when it is positive and infinite when it
is negative. -/
def floatOfText? (s : List Char) : Option Float :=
  let (negative, body) := splitSign s
  if body = ['i', 'n', 'f'] then some (Decimal.signed negative (1.0 / 0.0))
  else if body = ['n', 'a', 'n'] then some (Decimal.signed negative (0.0 / 0.0))
  else
    ((decimal? body).bind Decimal.scaled?).bind fun d =>
      let x := d.toFloat
      if Decimal.isFinite x || negative then some (Decimal.signed negative x) else none

def twoDigits? (least most : Nat) : List Char → Option (Nat × List Char)
  | a :: b :: rest =>
    let n := Decimal.natOfDigits [a, b]
    if a.isDigit && b.isDigit && decide (least ≤ n) && decide (n ≤ most) then some (n, rest)
    else none
  | _ => none

def daysIn (year month : Nat) : Nat :=
  if month = 2 then if year % 4 = 0 ∧ (year % 100 ≠ 0 ∨ year % 400 = 0) then 29 else 28
  else if month = 4 ∨ month = 6 ∨ month = 9 ∨ month = 11 then 30
  else 31

def afterDate? (s : List Char) : Option (List Char) := do
  let (century, s) ← twoDigits? 0 99 s
  let (year, s) ← twoDigits? 0 99 s
  let '-' :: s := s | none
  let (month, s) ← twoDigits? 1 12 s
  let '-' :: s := s | none
  let (_, s) ← twoDigits? 1 (daysIn (100 * century + year) month) s
  return s

def afterTime? (s : List Char) : Option (List Char) := do
  let (_, s) ← twoDigits? 0 23 s
  let ':' :: s := s | none
  let (_, s) ← twoDigits? 0 59 s
  let ':' :: s := s | none
  let (_, s) ← twoDigits? 0 60 s
  match s with
  | '.' :: c :: rest => if c.isDigit then return rest.dropWhile Char.isDigit else none
  | _ => return s

def isOffset : List Char → Bool
  | ['Z'] | ['z'] => true
  | sign :: s =>
    (sign == '+' || sign == '-') &&
      match twoDigits? 0 23 s with
      | some (_, ':' :: s) => (twoDigits? 0 59 s).any (·.2.isEmpty)
      | _ => false
  | [] => false

def isMoment (s : List Char) : Bool :=
  match afterDate? s with
  | some [] => true
  | some (c :: rest) =>
    (c == 'T' || c == 't' || c == ' ') &&
      (afterTime? rest).any fun r => r.isEmpty || isOffset r
  | none => afterTime? s == some []

def isWord (c : Char) : Bool := c.isAlphanum || c == '_' || c == '+' || c == '-' || c == '.' || c == ':'

/-- A value without quotes or brackets. A day and its time may be apart by a space. -/
def bareValue? (s : List Char) : Option (Toml × List Char) :=
  let word := s.takeWhile isWord
  let rest := s.dropWhile isWord
  if word = "true".toList then some (.bool true, rest)
  else if word = "false".toList then some (.bool false, rest)
  else match integerOfText? word with
    | some n => some (.integer n, rest)
    | none =>
      match floatOfText? word with
      | some x => some (.float x, rest)
      | none =>
        let longer := word ++ rest.take 1 ++ (rest.drop 1).takeWhile isWord
        if rest.head? = some ' ' ∧ isMoment longer then
          some (.moment (String.ofList longer), (rest.drop 1).dropWhile isWord)
        else if isMoment word then some (.moment (String.ofList word), rest)
        else none

mutual

/-- A value at the front, with room for so many arrays and inline tables one in the other. Every
step of the fuel but one for each of them consumes a character. -/
def value? : (fuel room : Nat) → List Char → Option (Toml × List Char)
  | 0, _, _ => none
  | fuel + 1, room, s =>
    match s, room with
    | '"' :: _, _ => (string? '"' s).map fun p => (.string p.1, p.2)
    | '\'' :: _, _ => (string? '\'' s).map fun p => (.string p.1, p.2)
    | '[' :: rest, room + 1 => (items? fuel room rest).map fun p => (.array p.1, p.2)
    | '\x7b' :: rest, room + 1 =>
      match skipSpace rest with
      | '\x7d' :: after => some (.table .inline [], after)
      | inner => do
        let (members, after) ← members? fuel room inner
        let entries ← inlineEntries? members
        return (.table .inline entries, after)
    | _, _ => bareValue? s

def items? : (fuel room : Nat) → List Char → Option (List Toml × List Char)
  | 0, _, _ => none
  | fuel + 1, room, s =>
    match skipFiller false s with
    | ']' :: after => some ([], after)
    | s => do
      let (item, s) ← value? fuel room s
      match skipFiller false s with
      | ']' :: after => return ([item], after)
      | ',' :: rest =>
        let (others, after) ← items? fuel room rest
        return (item :: others, after)
      | _ => none

def members? : (fuel room : Nat) → List Char →
    Option (List (List String × String × Toml) × List Char)
  | 0, _, _ => none
  | fuel + 1, room, s => do
    let (path, key, s) ← names? s
    let '=' :: s := s | none
    let (value, s) ← value? fuel room (skipSpace s)
    match skipSpace s with
    | '\x7d' :: after => return ([(path, key, value)], after)
    | ',' :: rest =>
      let (others, after) ← members? fuel room rest
      return ((path, key, value) :: others, after)
    | _ => none

end

def lines? : (fuel : Nat) → Document → List Char → Option Document
  | 0, _, _ => none
  | fuel + 1, doc, s =>
    if s.isEmpty then some doc
    else match lineEnd? s with
      | some rest => lines? fuel doc rest
      | none => do
        let (doc, s) ← match skipSpace s with
          | '[' :: '[' :: s => do
            let (path, key, s) ← names? s
            let ']' :: ']' :: s := s | none
            pure (← doc.openElement? path key, s)
          | '[' :: s => do
            let (path, key, s) ← names? s
            let ']' :: s := s | none
            pure (← doc.openTable? path key, s)
          | s => do
            let (path, key, s) ← names? s
            let '=' :: s := s | none
            let (value, s) ← value? fuel depthLimit (skipSpace s)
            pure (← doc.define? path key value, s)
        lines? fuel doc (← lineEnd? s)

def ofText? (s : String) : Option Entries :=
  let text := match s.toList with
    | '\ufeff' :: rest => rest
    | rest => rest
  (lines? (text.length + 2) .empty text).map (·.entries)

end Tickflow.Toml
