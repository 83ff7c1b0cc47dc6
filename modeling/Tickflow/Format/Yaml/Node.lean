import Tickflow.Format.Yaml.Token
/-!
YAML tokens as nodes. An anchor gives the node after it a number, and an alias stands for the last
node that has the number of its name: a new name takes the number of names so far, and so does a
name that is used again.
-/
namespace Tickflow

/-- The tag of a node, as bytes that need not be text. -/
structure Yaml.Tag where
  bytes : List UInt8
  deriving DecidableEq, Repr

/-- A node with its tag; an alias is kept as the number of its name. -/
inductive Yaml where
  | scalar (tag : Option Yaml.Tag) (style : Yaml.ScalarStyle) (text : String)
  | sequence (tag : Option Yaml.Tag) (items : List Yaml)
  | mapping (tag : Option Yaml.Tag) (entries : List (Yaml × Yaml))
  | alias (number : Nat)
  deriving Repr

namespace Yaml

def omitted : Yaml := .scalar none .plain ""

/-- The numbers of the names, and the nodes with their numbers in the order in which they start. -/
structure Anchors where
  numbers : List (String × Nat)
  nodes : List (Nat × Yaml)

namespace Anchors

def empty : Anchors := ⟨[], []⟩

def begin (name : String) (a : Anchors) : Anchors :=
  let number := a.numbers.length
  ⟨(name, number) :: a.numbers.filter (·.1 != name), a.nodes ++ [(number, omitted)]⟩

def finish (index : Nat) (node : Yaml) (a : Anchors) : Anchors :=
  { a with nodes := a.nodes.modify index fun entry => (entry.1, node) }

def node? (number : Nat) (a : Anchors) : Option Yaml :=
  (a.nodes.reverse.find? (·.1 == number)).map (·.2)

def resolve (a : Anchors) : Yaml → Yaml
  | .alias number => (a.node? number).getD omitted
  | node => node

end Anchors

structure Pending where
  tokens : List Token
  anchors : Anchors

abbrev Parse := StateT Pending Option

def peek : Parse (Option Token) := return (← get).tokens.head?

def advance : Parse Unit := modify fun p => { p with tokens := p.tokens.tail }

def expect (t : Token) : Parse Unit := do
  if (← peek) = some t then advance else failure

def nextIn (ts : List Token) : Parse Bool := return (← peek).any ts.contains

def named (anchor : Option String) (read : Parse Yaml) : Parse Yaml :=
  match anchor with
  | none => read
  | some name => do
    let index := (← get).anchors.nodes.length
    modify fun p => { p with anchors := p.anchors.begin name }
    let node ← read
    modify fun p => { p with anchors := p.anchors.finish index node }
    return node

abbrev Handles := List (String × List UInt8)

def commonHandles : Handles :=
  [("!", "!".toUTF8.toList), ("!!", "tag:yaml.org,2002:".toUTF8.toList)]

def tagOf? (handles : Handles) (handle : String) (suffix : List UInt8) : Option Tag :=
  if handle.isEmpty then some ⟨suffix⟩
  else (handles.lookup handle).map fun meaning => ⟨meaning ++ suffix⟩

def anchor? : Parse (Option String) := do
  match ← peek with
  | some (.anchor name) => advance; return some name
  | _ => return none

def tag? (handles : Handles) : Parse (Option Tag) := do
  match ← peek with
  | some (.tag handle suffix) =>
    advance
    match tagOf? handles handle suffix with
    | some tag => return some tag
    | none => failure
  | _ => return none

def properties (handles : Handles) : Parse (Option String × Option Tag) := do
  let before ← anchor?
  let tag ← tag? handles
  if before.isSome then return (before, tag)
  else return (← anchor?, tag)

mutual

/-- A node. Only in a block may it be a block, and only as a value or a key may it be a sequence
without an indentation of its own. -/
def node (handles : Handles) (block inMapping : Bool) : (fuel : Nat) → Parse Yaml
  | 0 => failure
  | fuel + 1 => do
    if let some (.alias name) ← peek then
      advance
      match (← get).anchors.numbers.lookup name with
      | some number => return .alias number
      | none => failure
    else
      let (anchor, tag) ← properties handles
      named anchor do
        let next ← peek
        if let some (.scalar style text) := next then
          advance
          return .scalar tag style text
        else if next = some .flowSequence then
          advance
          return .sequence tag (← flowItems handles true fuel)
        else if next = some .flowMapping then
          advance
          return .mapping tag (← flowEntries handles true fuel)
        else if next = some .entry && inMapping then
          return .sequence tag (← looseItems handles fuel)
        else if next = some .blockSequence && block then
          advance
          return .sequence tag (← blockItems handles fuel)
        else if next = some .blockMapping && block then
          advance
          return .mapping tag (← blockEntries handles fuel)
        else if anchor.isSome || tag.isSome then
          return .scalar tag .plain ""
        else failure

def blockItems (handles : Handles) : (fuel : Nat) → Parse (List Yaml)
  | 0 => failure
  | fuel + 1 => do
    if ← nextIn [.blockEnd] then
      advance
      return []
    else
      expect .entry
      let item ←
        if ← nextIn [.entry, .blockEnd] then pure omitted else node handles true false fuel
      return item :: (← blockItems handles fuel)

/-- The items of a sequence that has the indentation of the mapping it belongs to. -/
def looseItems (handles : Handles) : (fuel : Nat) → Parse (List Yaml)
  | 0 => failure
  | fuel + 1 => do
    if ← nextIn [.entry] then
      advance
      let item ←
        if ← nextIn [.entry, .key, .value, .blockEnd] then pure omitted
        else node handles true false fuel
      return item :: (← looseItems handles fuel)
    else return []

def blockEntries (handles : Handles) : (fuel : Nat) → Parse (List (Yaml × Yaml))
  | 0 => failure
  | fuel + 1 => do
    if ← nextIn [.blockEnd] then
      advance
      return []
    else
      expect .key
      let key ←
        if ← nextIn [.key, .value, .blockEnd] then pure omitted
        else node handles true true fuel
      let value ←
        if ← nextIn [.value] then
          advance
          if ← nextIn [.key, .value, .blockEnd] then pure omitted
          else node handles true true fuel
        else pure omitted
      return (key, value) :: (← blockEntries handles fuel)

/-- A key and its value after the mark of the key; the closing bracket and a comma end both. In a
sequence the token that shows the key to be left out is passed over. -/
def flowPair (handles : Handles) (closing : Token) : (fuel : Nat) → Parse (Yaml × Yaml)
  | 0 => failure
  | fuel + 1 => do
    let key ←
      if ← nextIn [.value, .comma, closing] then
        if closing = .flowSequenceEnd then advance
        pure omitted
      else node handles false false fuel
    if ← nextIn [.value] then
      advance
      if ← nextIn [.comma, closing] then return (key, omitted)
      else return (key, ← node handles false false fuel)
    else return (key, omitted)

/-- Items up to the closing bracket. A key among them makes a mapping of one entry. -/
def flowItems (handles : Handles) (first : Bool) : (fuel : Nat) → Parse (List Yaml)
  | 0 => failure
  | fuel + 1 => do
    if !first && !(← nextIn [.flowSequenceEnd]) then expect .comma
    if ← nextIn [.flowSequenceEnd] then
      advance
      return []
    else
      let item ←
        if ← nextIn [.key] then
          advance
          pure (.mapping none [← flowPair handles .flowSequenceEnd fuel])
        else node handles false false fuel
      return item :: (← flowItems handles false fuel)

def flowEntries (handles : Handles) (first : Bool) : (fuel : Nat) → Parse (List (Yaml × Yaml))
  | 0 => failure
  | fuel + 1 => do
    if !first && !(← nextIn [.flowMappingEnd]) then expect .comma
    if ← nextIn [.flowMappingEnd] then
      advance
      return []
    else
      let entry ←
        if ← nextIn [.key] then
          advance
          flowPair handles .flowMappingEnd fuel
        else pure (← node handles false false fuel, omitted)
      return entry :: (← flowEntries handles false fuel)

end

def directives? : (versioned : Bool) → Handles → List Token → Option (Handles × List Token)
  | versioned, handles, .version major minor :: rest =>
    if versioned || major != 1 || (minor != 1 && minor != 2) then none
    else directives? true handles rest
  | versioned, handles, .handle name meaning :: rest =>
    if (handles.lookup name).isSome then none
    else directives? versioned ((name, meaning) :: handles) rest
  | _, handles, rest => some (handles, rest)

structure Document where
  root : Yaml
  anchors : Anchors

def document? (tokens : List Token) : Option (Document × List Token) := do
  let fuel := 3 * tokens.length + 3
  let (defined, rest) ← directives? false [] tokens
  let (explicit, rest) := match rest with
    | .documentStart :: rest => (true, rest)
    | rest => (false, rest)
  if !explicit && rest.length < tokens.length then none
  else
    let ended : Bool := match rest with
      | [] | .version _ _ :: _ | .handle _ _ :: _ | .documentStart :: _ | .documentEnd :: _ => true
      | _ => false
    if explicit && ended then return (⟨omitted, .empty⟩, rest)
    else
      let (root, pending) ← (node (defined ++ commonHandles) true false fuel).run ⟨rest, .empty⟩
      return (⟨root, pending.anchors⟩, pending.tokens)

/-- What the text holds, at most one document; a text without any holds an omitted node. -/
def ofText? (s : String) : Option Document := do
  match ← tokens? s.toList with
  | [] => return ⟨omitted, .empty⟩
  | tokens =>
    let (document, rest) ← document? tokens
    if (rest.dropWhile (· == .documentEnd)).isEmpty then return document else none

end Yaml

end Tickflow
