import Tickflow.Decimal.Reading
import Tickflow.Format.Yaml.Node
import Tickflow.Settings.Entries
/-!
The YAML forms of settings. Numbers and truth values are plain scalars, whatever their tag, or
literal blocks with the tag of their kind; where a word is asked for, the style does not matter.
-/
namespace Tickflow.Yaml

namespace Tag

def ofText (s : String) : Tag := ⟨s.toUTF8.toList⟩

def null : Tag := ofText "tag:yaml.org,2002:null"
def bool : Tag := ofText "tag:yaml.org,2002:bool"
def int : Tag := ofText "tag:yaml.org,2002:int"
def float : Tag := ofText "tag:yaml.org,2002:float"

def ownName? (t : Tag) : Option String :=
  match t.bytes with
  | 0x21 :: name => String.fromUTF8? ⟨(if name.isEmpty then t.bytes else name).toArray⟩
  | _ => none

end Tag

def isNull (s : String) : Bool := s == "null" || s == "Null" || s == "NULL" || s == "~"

def textOf? (kind : Tag) : Yaml → Option (List Char)
  | .scalar _ .plain text => some text.toList
  | .scalar tag .literal text => if tag = some kind then some text.toList else none
  | _ => none

/-- A number without places: with a plus sign or none, and in base ten without leading zeros. -/
def nat? (bits : Nat) (v : Yaml) : Option Nat := do
  let text ← v.textOf? .int
  let body := if text.head? = some '+' then text.drop 1 else text
  let n ← match body with
    | '0' :: 'x' :: rest => Text.natOfBase? 16 rest
    | '0' :: 'o' :: rest => Text.natOfBase? 8 rest
    | '0' :: 'b' :: rest => Text.natOfBase? 2 rest
    | '0' :: _ :: _ => none
    | _ => Text.natOfBase? 10 body
  if n < Nat.pow 2 bits then some n else none

/-- A number in binary64. Infinity and the undefined number are written with a point; a number that
is too large is none. -/
def float? (v : Yaml) : Option Float := do
  let text ← v.textOf? .float
  let body := if text.head? = some '+' then text.drop 1 else text
  let word := String.ofList body
  if word = ".inf" ∨ word = ".Inf" ∨ word = ".INF" then some (1.0 / 0.0)
  else if word = "-.inf" ∨ word = "-.Inf" ∨ word = "-.INF" then
    if body.length = text.length then some (-1.0 / 0.0) else none
  else if word = ".nan" ∨ word = ".NaN" ∨ word = ".NAN" then
    if body.length = text.length then some (0.0 / 0.0) else none
  else if body.length ≠ text.length ∧ (body.head? = some '-' ∨ body.head? = some '+') then none
  else (Decimal.float? body).filter Decimal.isFinite

def bool? (v : Yaml) : Option Bool :=
  match (v.textOf? .bool).map String.ofList with
  | some "true" | some "True" | some "TRUE" => some true
  | some "false" | some "False" | some "FALSE" => some false
  | _ => none

def text? : Yaml → Option String
  | .scalar _ _ text => some text
  | _ => none

/-- A choice without parts: its name as a scalar, or as the document's own tag of nothing. -/
def word? : Yaml → Option String
  | .scalar tag style text =>
    match tag.bind (·.ownName?) with
    | none => some text
    | some name =>
      if style = .plain && (text.isEmpty || isNull text) then some name else none
  | _ => none

/-- Whether a value is left out. With another tag than that of nothing it never is. -/
def isAbsent : Yaml → Bool
  | .scalar none .plain text => text.isEmpty || isNull text
  | .scalar (some tag) .plain text => tag = .null && isNull text
  | _ => false

/-- Mappings with scalars as keys; an empty plain scalar is an empty one. -/
def group? (anchors : Anchors) : Yaml → Option (Settings.Group Yaml)
  | .mapping _ entries =>
    (entries.mapM fun (e : Yaml × Yaml) =>
      (text? (anchors.resolve e.1)).map fun key => (key, e.2)).map .named
  | .scalar _ .plain "" => some (.named [])
  | _ => none

def spelling (anchors : Anchors) : Settings.Spelling Yaml where
  float? v := float? (anchors.resolve v)
  nat? bits v := nat? bits (anchors.resolve v)
  bool? v := bool? (anchors.resolve v)
  word? v := word? (anchors.resolve v)
  isAbsent v := isAbsent (anchors.resolve v)
  group? v := group? anchors (anchors.resolve v)
  exactLists := true

def settings? (text : String) : Option Settings := do
  let document ← ofText? text
  Settings.ofGroup? (spelling document.anchors) (← group? document.anchors document.root)

end Tickflow.Yaml
