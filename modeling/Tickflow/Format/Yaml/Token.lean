import Tickflow.Format.Yaml.Scalar
/-!
YAML text as tokens. Indentation is turned into tokens that open and close blocks. A scalar turns
out to be a key only when its colon is met, so the tokens for a key are put before it afterwards.
-/
namespace Tickflow.Yaml

inductive Token where
  | version (major minor : Nat)
  | handle (name : String) (meaning : List UInt8)
  | documentStart
  | documentEnd
  | blockSequence
  | blockMapping
  | blockEnd
  | flowSequence
  | flowSequenceEnd
  | flowMapping
  | flowMappingEnd
  | entry
  | comma
  | key
  | value
  | alias (name : String)
  | anchor (name : String)
  | tag (handle : String) (suffix : List UInt8)
  | scalar (style : ScalarStyle) (text : String)
  deriving DecidableEq, Repr

/-- A token that may turn out to be a key, with its index and its place. It has to be one when it
stands where the keys of the open block stand. -/
structure Candidate where
  index : Nat
  place : Cursor
  required : Bool
  deriving DecidableEq, Repr

/-- A scan under way: where it is, the tokens so far, the columns of the open blocks from the inside, the
candidate here and those outside each open bracket, and whether a key may stand here. -/
structure Scan where
  place : Cursor
  tokens : Array Token
  indents : List Nat
  candidate : Option Candidate
  outside : List (Option Candidate)
  keyAllowed : Bool

namespace Scan

def start (s : List Char) : Scan := ⟨.start s, #[], [], none, [], true⟩

def inFlow (s : Scan) : Bool := !s.outside.isEmpty

def margin (s : Scan) : Nat :=
  match s.indents with
  | [] => 0
  | column :: _ => column + 1

def emit (s : Scan) (t : Token) : Scan := { s with tokens := s.tokens.push t }

def take (s : Scan) (width : Nat) (t : Token) : Scan :=
  { s with place := s.place.step width }.emit t

def insert (s : Scan) (index : Nat) (t : Token) : Scan :=
  { s with tokens := s.tokens.extract 0 index ++ #[t] ++ s.tokens.extract index s.tokens.size }

def close (s : Scan) (column : Nat) : Scan :=
  if s.inFlow then s
  else
    let closed := s.indents.takeWhile fun i => decide (column ≤ i)
    { s with
      indents := s.indents.drop closed.length
      tokens := s.tokens ++ (closed.map fun _ => Token.blockEnd).toArray }

/-- Opens a block whose keys or entries start at the column, unless it is open; its token comes
before those from the index on. -/
def openBlock (s : Scan) (column index : Nat) (t : Token) : Scan :=
  if s.inFlow || decide (column < s.margin) then s
  else { s.insert index t with indents := column :: s.indents }

def forget? (s : Scan) : Option Scan :=
  if s.candidate.any (·.required) then none else some { s with candidate := none }

def propose? (s : Scan) : Option Scan :=
  if s.keyAllowed then
    s.forget?.map fun s =>
      let required := !s.inFlow && s.indents.head? == some s.place.column
      { s with candidate := some ⟨s.tokens.size, s.place, required⟩ }
  else some s

def allowKey (s : Scan) (allowed : Bool) : Scan := { s with keyAllowed := allowed }

/-- Skips blanks, comments and line breaks, and a byte order mark at the start of a line. Outside
brackets, keys are allowed on a new line, and where keys are allowed no tab may stand before them. -/
def skip : (fuel : Nat) → Scan → Scan
  | 0, s => s
  | fuel + 1, s =>
    let c := s.place
    let c := if c.column = 0 ∧ c.rest.head? = some '\ufeff' then c.step 1 else c
    let tabs := s.inFlow || !s.keyAllowed
    let c := c.stepWhile fun x => x == ' ' || (tabs && x == '\t')
    let c := if c.rest.head? == some '#' then c.stepWhile fun x => !isBreak x else c
    match c.lineBreak? with
    | some (_, c) => skip fuel { s with place := c, keyAllowed := s.keyAllowed || !s.inFlow }
    | none => { s with place := c }

def isWord (c : Char) : Bool := c.isAlphanum || c == '_' || c == '-'

/-- Characters of a tag; the last three only where nothing else can be meant. -/
def isTagChar (free : Bool) (c : Char) : Bool :=
  isWord c || ";/?:@&=+$.%!~*'()".toList.contains c || (free && ",[]".toList.contains c)

def percentByte? : List Char → Option (UInt8 × List Char)
  | '%' :: a :: b :: rest => do
    let x ← Text.hexValue? a
    let y ← Text.hexValue? b
    return (UInt8.ofNat (16 * x + y), rest)
  | _ => none

def widthOfLead? (lead : UInt8) : Option Nat :=
  if lead < 0x80 then some 1
  else if lead < 0xC0 then none
  else if lead < 0xE0 then some 2
  else if lead < 0xF0 then some 3
  else if lead < 0xF8 then some 4
  else none

def trailingBytes? : (count : Nat) → List Char → Option (List UInt8 × List Char)
  | 0, s => some ([], s)
  | count + 1, s => do
    let (byte, s) ← percentByte? s
    if byte &&& 0xC0 = 0x80 then
      let (more, s) ← trailingBytes? count s
      return (byte :: more, s)
    else none

/-- The bytes of a part of a tag. Those behind percent signs need only look like a character. -/
def tagBytes? : (fuel : Nat) → List Char → Option (List UInt8)
  | 0, _ => none
  | _ + 1, [] => some []
  | fuel + 1, c :: rest =>
    if c = '%' then do
      let (lead, rest) ← percentByte? (c :: rest)
      let width ← widthOfLead? lead
      let (more, rest) ← trailingBytes? (width - 1) rest
      return lead :: more ++ (← tagBytes? fuel rest)
    else (tagBytes? fuel rest).map (UInt8.ofNat c.toNat :: ·)

def tagPart? (free mayBeEmpty : Bool) (c : Cursor) : Option (List UInt8 × Cursor) :=
  let part := c.rest.takeWhile (isTagChar free)
  if part.isEmpty && !mayBeEmpty then none
  else (tagBytes? (part.length + 1) part).map fun bytes =>
    (bytes.takeWhile (· != 0), c.step part.length)

def tag? (s : Scan) : Option Scan := do
  let c := s.place.step 1
  let (handle, suffix, c) ←
    if c.rest.head? = some '<' then do
      let (bytes, c) ← tagPart? true false (c.step 1)
      if c.rest.head? ≠ some '>' then none else some ("", bytes, c.step 1)
    else
      let name := c.rest.takeWhile isWord
      if (c.rest.drop name.length).head? = some '!' then do
        let (bytes, after) ← tagPart? false false (c.step (name.length + 1))
        some (String.ofList ('!' :: name ++ ['!']), bytes, after)
      else do
        let (bytes, c) ← tagPart? false true c
        some (if bytes.isEmpty then ("", "!".toUTF8.toList, c) else ("!", bytes, c))
  if atGap c.rest || (s.inFlow && c.rest.head? == some ',') then
    return { s with place := c }.emit (.tag handle suffix)
  else none

def name? (s : Scan) (token : String → Token) : Option Scan :=
  let name := (s.place.rest.drop 1).takeWhile isWord
  let after := s.place.rest.drop (1 + name.length)
  if name.isEmpty then none
  else if atGap after || after.head?.any "?:,]\x7d%@`".toList.contains then
    some (s.take (1 + name.length) (token (String.ofList name)))
  else none

def number? (c : Cursor) : Option (Nat × Cursor) :=
  let digits := c.rest.takeWhile Char.isDigit
  if digits.isEmpty || decide (9 < digits.length) then none
  else some (digits.foldl (fun n d => 10 * n + (d.toNat - '0'.toNat)) 0, c.step digits.length)

def directive? (s : Scan) : Option Scan := do
  let c := s.place.step 1
  let name := String.ofList (c.rest.takeWhile isWord)
  let after := c.stepWhile isWord
  let c := after.stepWhile isBlank
  let (token, c) ←
    if !atGap after.rest then none
    else if name = "YAML" then do
      let (major, c) ← number? c
      if c.rest.head? ≠ some '.' then none
      else
        let (minor, c) ← number? (c.step 1)
        some (Token.version major minor, c)
    else if name = "TAG" then
      if c.rest.head? ≠ some '!' then none
      else do
        let word := (c.rest.drop 1).takeWhile isWord
        let c := c.step (1 + word.length)
        let closed := c.rest.head? = some '!'
        let c := if closed then c.step 1 else c
        let handle := '!' :: word ++ (if closed then ['!'] else [])
        if (!closed && !word.isEmpty) || !c.rest.head?.any isBlank then none
        else
          let (meaning, c) ← tagPart? true false (c.stepWhile isBlank)
          if !atGap c.rest then none
          else some (Token.handle (String.ofList handle) meaning, c)
    else none
  return { s with place := ← c.toLineEnd? }.emit token

/-- A colon: makes the candidate a key when it is on this line and at most 1024 bytes away. -/
def value? (s : Scan) : Option Scan :=
  let near := s.candidate.filter fun k =>
    k.place.line == s.place.line && decide (s.place.offset ≤ k.place.offset + 1024)
  match near with
  | some k =>
    let keyed := { s.insert k.index .key with candidate := none }
    some (((keyed.openBlock k.place.column k.index .blockMapping).allowKey false).take 1 .value)
  | none => do
    let s ← s.forget?
    if !s.inFlow && !s.keyAllowed then none
    else
      let opened := s.openBlock s.place.column s.tokens.size .blockMapping
      return (opened.allowKey (!s.inFlow)).take 1 .value

def marked? (s : Scan) (keyAfter : Bool) (block token : Token) : Option Scan :=
  if !s.inFlow && !s.keyAllowed then none
  else ((s.openBlock s.place.column s.tokens.size block).forget?).map fun s =>
    (s.allowKey keyAfter).take 1 token

def openFlow? (s : Scan) (t : Token) : Option Scan :=
  s.propose?.map fun s =>
    ({ s with candidate := none, outside := s.candidate :: s.outside }.allowKey true).take 1 t

def closeFlow? (s : Scan) (t : Token) : Option Scan :=
  s.forget?.map fun s =>
    let s := match s.outside with
      | [] => s
      | c :: rest => { s with candidate := c, outside := rest }
    (s.allowKey false).take 1 t

def atMargin? (s : Scan) : Option Scan := (s.close 0).forget?.map (·.allowKey false)

def plainScalar? (s : Scan) : Option Scan := do
  let s ← s.propose?
  let (text, broken, c) ← plain? s.inFlow s.margin (s.place.rest.length + 1) s.place
  return { s with place := c, keyAllowed := broken }.emit (.scalar .plain (String.ofList text))

def quotedScalar? (s : Scan) (double : Bool) : Option Scan := do
  let s ← s.propose?
  let (text, c) ← quoted? double (s.place.rest.length + 1) (s.place.step 1)
  return { s with place := c, keyAllowed := false }.emit (.scalar .marked (String.ofList text))

def blockScalar? (s : Scan) (folded : Bool) : Option Scan := do
  let s ← s.forget?
  let (text, c) ← block? folded s.margin s.place
  let style : ScalarStyle := if folded then .marked else .literal
  return { s with place := c, keyAllowed := true }.emit (.scalar style (String.ofList text))

def startsPlain (flow : Bool) (c : Char) (rest : List Char) : Bool :=
  if c == '-' then !rest.head?.any isBlank
  else if c == '?' || c == ':' then !flow && !atGap rest
  else !"#&*!|>'\"%@`,[]\x7b\x7d".toList.contains c && !atGap [c]

/-- The next token; the scan is past all blanks, and more text follows. -/
def next? (s : Scan) (c : Char) (rest : List Char) : Option Scan :=
  if s.place.column = 0 ∧ c = '%' then s.atMargin?.bind directive?
  else if s.place.atDocumentMark then
    s.atMargin?.map fun s => s.take 3 (if c = '-' then .documentStart else .documentEnd)
  else match c with
    | '[' => s.openFlow? .flowSequence
    | '\x7b' => s.openFlow? .flowMapping
    | ']' => s.closeFlow? .flowSequenceEnd
    | '\x7d' => s.closeFlow? .flowMappingEnd
    | ',' => s.forget?.map fun s => (s.allowKey true).take 1 .comma
    | '*' => s.propose?.bind fun s => (s.allowKey false).name? .alias
    | '&' => s.propose?.bind fun s => (s.allowKey false).name? .anchor
    | '!' => s.propose?.bind fun s => (s.allowKey false).tag?
    | '\'' => s.quotedScalar? false
    | '"' => s.quotedScalar? true
    | _ =>
      if c = '-' ∧ atGap rest then s.marked? true .blockSequence .entry
      else if c = '?' ∧ (s.inFlow ∨ atGap rest) then s.marked? (!s.inFlow) .blockMapping .key
      else if c = ':' ∧ (s.inFlow ∨ atGap rest) then s.value?
      else if c = '|' ∧ !s.inFlow then s.blockScalar? false
      else if c = '>' ∧ !s.inFlow then s.blockScalar? true
      else if startsPlain s.inFlow c rest then s.plainScalar?
      else none

/-- Scans to the end. Each token takes at least one character. -/
def run? : (fuel : Nat) → Scan → Option (Array Token)
  | 0, _ => none
  | fuel + 1, s => do
    let s := s.skip (s.place.rest.length + 1)
    let s := s.close (s.place.column + 1)
    match s.place.rest with
    | [] => return (← s.atMargin?).tokens
    | c :: rest => run? fuel (← s.next? c rest)

end Scan

def tokens? (s : List Char) : Option (List Token) :=
  if s.all isAllowed then (Scan.run? (s.length + 1) (.start s)).map (·.toList) else none

end Tickflow.Yaml
