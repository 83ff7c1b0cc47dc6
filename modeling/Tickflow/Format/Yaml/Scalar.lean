import Tickflow.Text.Bytes
/-!
The scalars of YAML text: plain, quoted and in blocks. A scalar may go over several lines; between
its words a single line break counts as a blank, and of several line breaks all but the first count.
-/
namespace Tickflow.Yaml

/-- Characters that a text may hold: no controls but the tab and the line breaks. -/
def isAllowed (c : Char) : Bool :=
  let n := c.toNat
  n == 0x09 || n == 0x0A || n == 0x0D || (decide (0x20 ≤ n) && decide (n ≤ 0x7E)) || n == 0x85 ||
    (decide (0xA0 ≤ n) && n != 0xFFFE && n != 0xFFFF)

def isBlank (c : Char) : Bool := c == ' ' || c == '\t'

/-- How a scalar is written: without marks, as a literal block, or otherwise. -/
inductive ScalarStyle where
  | plain
  | literal
  | marked
  deriving DecidableEq, Repr

/-- A line break at the front: as it counts in a scalar, and how many characters it has. -/
def lineBreak? : List Char → Option (Char × Nat)
  | '\r' :: '\n' :: _ => some ('\n', 2)
  | '\r' :: _ | '\n' :: _ | '\u0085' :: _ => some ('\n', 1)
  | '\u2028' :: _ => some ('\u2028', 1)
  | '\u2029' :: _ => some ('\u2029', 1)
  | _ => none

def isBreak (c : Char) : Bool := (lineBreak? [c]).isSome

def atGap : List Char → Bool
  | [] => true
  | c :: _ => isBlank c || isBreak c

def atLineEnd : List Char → Bool
  | [] => true
  | c :: _ => isBreak c

/-- A place in the text: what follows, and where it is. Columns are counted in characters, the offset
in bytes. -/
structure Cursor where
  rest : List Char
  line : Nat
  column : Nat
  offset : Nat
  deriving DecidableEq, Repr

namespace Cursor

def start (s : List Char) : Cursor := ⟨s, 0, 0, 0⟩

def bytesAhead (c : Cursor) (n : Nat) : Nat :=
  (c.rest.take n).foldl (fun bytes x => bytes + x.utf8Size) 0

def step (c : Cursor) (n : Nat) : Cursor :=
  { c with
    rest := c.rest.drop n, column := c.column + n, offset := c.offset + c.bytesAhead n }

def stepWhile (c : Cursor) (p : Char → Bool) : Cursor := c.step (c.rest.takeWhile p).length

def lineBreak? (c : Cursor) : Option (Char × Cursor) :=
  (Yaml.lineBreak? c.rest).map fun b =>
    (b.1, ⟨c.rest.drop b.2, c.line + 1, 0, c.offset + c.bytesAhead b.2⟩)

def toLineEnd? (c : Cursor) : Option Cursor :=
  let c := c.stepWhile isBlank
  let c := if c.rest.head? == some '#' then c.stepWhile fun x => !isBreak x else c
  if atLineEnd c.rest then some ((c.lineBreak?.map (·.2)).getD c) else none

def atDocumentMark (c : Cursor) : Bool :=
  c.column == 0 && (c.rest.take 3 == ['-', '-', '-'] || c.rest.take 3 == ['.', '.', '.']) &&
    atGap (c.rest.drop 3)

end Cursor

structure Gap where
  blanks : List Char
  breaks : List Char
  deriving DecidableEq, Repr

def Gap.text (g : Gap) : List Char :=
  match g.breaks with
  | [] => g.blanks
  | ['\n'] => [' ']
  | '\n' :: more => more
  | breaks => breaks

/-- The blanks and line breaks here. Tabs do not count as indentation up to the margin. -/
def gap? (margin : Nat) : (fuel : Nat) → (broken : Bool) → Cursor → Option (Gap × Cursor)
  | 0, _, c => some (⟨[], []⟩, c)
  | fuel + 1, broken, c =>
    match c.rest.head? with
    | none => some (⟨[], []⟩, c)
    | some x =>
      if isBlank x then
        if broken && decide (c.column < margin) && x == '\t' then none
        else (gap? margin fuel broken (c.step 1)).map fun r =>
          (if broken then r.1 else { r.1 with blanks := x :: r.1.blanks }, r.2)
      else match c.lineBreak? with
        | some (b, c) => (gap? margin fuel true c).map fun r =>
          ({ r.1 with breaks := b :: r.1.breaks }, r.2)
        | none => some (⟨[], []⟩, c)

def isFlowMark (c : Char) : Bool :=
  c == ',' || c == '[' || c == ']' || c == '\x7b' || c == '\x7d'

/-- A word of a plain scalar. Between brackets a colon must not stand right before a mark. -/
def plainWord? (flow : Bool) : List Char → Option (List Char)
  | [] => some []
  | c :: rest =>
    if isBlank c || isBreak c then some []
    else if flow && c == ':' && rest.head?.any fun x => x == '?' || isFlowMark x then none
    else if (c == ':' && atGap rest) || (flow && isFlowMark c) then some []
    else (plainWord? flow rest).map (c :: ·)

def plain? (flow : Bool) (margin : Nat) : (fuel : Nat) → Cursor → Option (List Char × Bool × Cursor)
  | 0, _ => none
  | fuel + 1, c =>
    if c.atDocumentMark || c.rest.head? == some '#' then some ([], false, c)
    else do
      let word ← plainWord? flow c.rest
      let c := c.step word.length
      let (gap, after) ← gap? margin c.rest.length false c
      let broken := !gap.breaks.isEmpty
      if !atGap c.rest || after.rest.isEmpty || (!flow && decide (after.column < margin)) then
        return (word, broken, after)
      else
        let (more, brokenLater, last) ← plain? flow margin fuel after
        return if more.isEmpty then (word, broken, last)
          else (word ++ gap.text ++ more, brokenLater, last)

def charOfEscape? : Char → Option Char
  | '0' => some '\x00'
  | 'a' => some '\x07'
  | 'b' => some '\x08'
  | 't' | '\t' => some '\t'
  | 'n' => some '\n'
  | 'v' => some '\x0b'
  | 'f' => some '\x0c'
  | 'r' => some '\r'
  | 'e' => some '\x1b'
  | 'N' => some '\u0085'
  | '_' => some '\u00a0'
  | 'L' => some '\u2028'
  | 'P' => some '\u2029'
  | ' ' => some ' '
  | '"' => some '"'
  | '/' => some '/'
  | '\\' => some '\\'
  | _ => none

def escapeWidth? : Char → Option Nat
  | 'x' => some 2
  | 'u' => some 4
  | 'U' => some 8
  | _ => none

/-- What is in a quoted scalar after its opening quote. Only double quotes have escapes, where a
line break after a backslash does not count. -/
def quoted? (double : Bool) : (fuel : Nat) → Cursor → Option (List Char × Cursor)
  | 0, _ => none
  | fuel + 1, c =>
    let put (x : Char) (width : Nat) : Option (List Char × Cursor) :=
      (quoted? double fuel (c.step width)).map fun r => (x :: r.1, r.2)
    if c.atDocumentMark then none
    else match c.rest with
      | [] => none
      | x :: rest =>
        if isBlank x || isBreak x then do
          let (gap, after) ← gap? 0 c.rest.length false c
          (quoted? double fuel after).map fun r => (gap.text ++ r.1, r.2)
        else if !double && x == '\'' then
          if rest.head? == some '\'' then put '\'' 2 else some ([], c.step 1)
        else if double && x == '"' then some ([], c.step 1)
        else if double && x == '\\' then
          match (c.step 1).lineBreak?, rest with
          | some (_, after), _ => do
            let (gap, after) ← gap? 0 rest.length true after
            (quoted? double fuel after).map fun r => (gap.breaks ++ r.1, r.2)
          | none, e :: rest =>
            match charOfEscape? e, escapeWidth? e with
            | some y, _ => put y 2
            | none, some width =>
              if rest.length < width then none
              else (Text.charOfHex? (rest.take width)).bind fun y => put y (2 + width)
            | none, none => none
          | none, [] => none
        else put x 1

/-- The line breaks before the next line of a block, and the greatest indentation among the lines
passed. No indentation is known yet when it is 0. -/
def blockBreaks? (indent : Nat) :
    (fuel : Nat) → (widest : Nat) → Cursor → Option (List Char × Nat × Cursor)
  | 0, widest, c => some ([], widest, c)
  | fuel + 1, widest, c =>
    let blanks := (c.rest.takeWhile (· == ' ')).length
    let c := c.step (if indent = 0 then blanks else min blanks (indent - c.column))
    let widest := max widest c.column
    if (indent == 0 || decide (c.column < indent)) && c.rest.head? == some '\t' then none
    else match c.lineBreak? with
      | some (b, c) => (blockBreaks? indent fuel widest c).map fun r => (b :: r.1, r.2)
      | none => some ([], widest, c)

/-- The lines of a block: their text, the line break after the last one, and the line breaks of the
empty lines at the end. In a folded block a single line break between lines that do not start with
a blank counts as a blank. -/
def blockLines? (folded : Bool) (indent : Nat) : (fuel : Nat) → (afterBlank : Bool) →
    (last breaks : List Char) → Cursor → Option (List Char × List Char × List Char × Cursor)
  | 0, _, last, breaks, c => some ([], last, breaks, c)
  | fuel + 1, afterBlank, last, breaks, c =>
    if c.column ≠ indent ∨ c.rest.isEmpty then some ([], last, breaks, c)
    else do
      let blank := c.rest.head?.any isBlank
      let join :=
        if folded && last == ['\n'] && !afterBlank && !blank then
          if breaks.isEmpty then [' '] else []
        else last
      let line := c.rest.takeWhile fun x => !isBreak x
      let c := c.step line.length
      let (ended, c) := match c.lineBreak? with
        | some (b, c) => ([b], c)
        | none => ([], c)
      let (empty, _, c) ← blockBreaks? indent c.rest.length 0 c
      let (more, rest) ← blockLines? folded indent fuel blank ended empty c
      return (join ++ breaks ++ line ++ more, rest)

inductive Chomping where
  | strip
  | clip
  | keep
  deriving DecidableEq, Repr

def chomping? : List Char → Option Chomping
  | '-' :: _ => some .strip
  | '+' :: _ => some .keep
  | _ => none

/-- A scalar in a block, from its mark on. The margin is the least indentation that it may have. -/
def block? (folded : Bool) (margin : Nat) (c : Cursor) : Option (List Char × Cursor) := do
  let c := c.step 1
  let (before, c) := match chomping? c.rest with
    | some x => (some x, c.step 1)
    | none => (none, c)
  let (increment, c) ← match c.rest.head? with
    | some d =>
      if d = '0' then none
      else if d.isDigit then some (d.toNat - '0'.toNat, c.step 1)
      else some (0, c)
    | none => some (0, c)
  let (chomping, c) := match before, decide (0 < increment), chomping? c.rest with
    | none, true, some x => (x, c.step 1)
    | _, _, _ => (before.getD .clip, c)
  let c ← c.toLineEnd?
  let known := if increment = 0 then 0 else margin - 1 + increment
  let (breaks, widest, c) ← blockBreaks? known c.rest.length 0 c
  let indent := if increment = 0 then max (max widest margin) 1 else known
  let (text, last, empty, c) ← blockLines? folded indent (c.rest.length + 1) false [] breaks c
  let tail := match chomping with
    | .strip => []
    | .clip => last
    | .keep => last ++ empty
  return (text ++ tail, c)

end Tickflow.Yaml
