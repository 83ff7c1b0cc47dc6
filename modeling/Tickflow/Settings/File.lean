import Tickflow.Format.TomlForms
import Tickflow.Format.YamlForms
import Tickflow.Text.Cut
/-!
Settings from files. The ending of a file's name tells whether it is read as YAML or as TOML.
-/
namespace Tickflow

inductive FileFormat where
  | yaml
  | toml
  deriving DecidableEq, Repr

def FileFormat.text : FileFormat → String
  | .yaml => "YAML"
  | .toml => "TOML"

def pathParts (path : String) : List (List Char) :=
  (Text.pieces '/' path.toList).filter fun part => part != [] && part != ['.']

/-- What stands after the last point of a file's own name, unless its only point starts it. -/
def extension? (path : String) : Option String := do
  let backwards := (← (pathParts path).getLast?).reverse
  let ending := backwards.takeWhile (· != '.')
  let before := (backwards.dropWhile (· != '.')).drop 1
  if before.isEmpty || backwards == ['.', '.'] then none else some (String.ofList ending.reverse)

def FileFormat.ofName? (name : String) : Option FileFormat :=
  match extension? name with
  | some "yaml" | some "yml" => some .yaml
  | some "toml" => some .toml
  | _ => none

/-- What is found under the name of a file: also nothing that could have been there at all, when the
name is too long or holds a zero character. -/
inductive Found where
  | nothing
  | folder
  | tooLong
  | unnameable
  | file (bytes : List UInt8)
  deriving DecidableEq, Repr

def pathLimit : Nat := 4095
def nameLimit : Nat := 255

/-- What is found under a name in a folder where nothing is but what was written under that name. -/
def Found.under (name : String) (written : Option (List UInt8)) : Found :=
  if name.toList.contains '\x00' then .unnameable
  else if name.isEmpty then .nothing
  else if pathLimit < name.utf8ByteSize then .tooLong
  else match (pathParts name).find? (· != ['.', '.']) with
    | none => .folder
    | some part =>
      if nameLimit < (String.ofList part).utf8ByteSize then .tooLong
      else match written with
        | some bytes => .file bytes
        | none => .nothing

def Found.text : Found → Except String String
  | .nothing => .error "No such file or directory (os error 2)"
  | .folder => .error "Is a directory (os error 21)"
  | .tooLong => .error "File name too long (os error 36)"
  | .unnameable => .error "file name contained an unexpected NUL byte"
  | .file bytes =>
    match String.fromUTF8? ⟨bytes.toArray⟩ with
    | some text => .ok text
    | none => .error "stream did not contain valid UTF-8"

namespace Settings

def ofText (format : FileFormat) (text : String) : Except Fault Settings := do
  let read := match format with
    | .yaml => Yaml.settings? text
    | .toml => Toml.settings? text
  match read with
  | none => throw (.configuration (.malformed format.text))
  | some s =>
    s.validate
    return s

/-- Settings from a file. Its content is read before its name is looked at. -/
def load (name : String) (found : Found) : Except Fault Settings :=
  match found.text with
  | .error reason => .error (.configuration (.unreadable name reason))
  | .ok text =>
    match FileFormat.ofName? name with
    | some format => ofText format text
    | none => .error (.configuration (.unsupported name))

end Settings

end Tickflow
