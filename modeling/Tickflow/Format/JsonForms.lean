import Tickflow.Dispatcher
import Tickflow.Format.Json
import Tickflow.Settings.Entries
/-!
The JSON forms of settings, policies, places and media. A choice without parts is its name, alone or
over `null`; one with parts is its name over them. Parts stand under their names, where unknown
names do not count and known ones come once, or in a list of exactly their number.
-/
namespace Tickflow.Json

def text? : Json → Option String
  | .string s => s
  | _ => none

def nat? (bits : Nat) : Json → Option Nat
  | .number n => n.nat? bits
  | _ => none

def entries? (members : List (Option String × Json)) : Option (List (String × Json)) :=
  members.mapM fun m => m.1.map fun key => (key, m.2)

def group? : Json → Option (Settings.Group Json)
  | .object members => (entries? members).map .named
  | .array items => some (.listed items)
  | _ => none

/-- A choice: its name, with its parts when it has some. -/
def choice? : Json → Option (String × Option Json)
  | .string (some s) => some (s, none)
  | .object [(some key, .null)] => some (key, none)
  | .object [(some key, parts)] => some (key, some parts)
  | _ => none

def word? (v : Json) : Option String :=
  match choice? v with
  | some (name, none) => some name
  | _ => none

def spelling : Settings.Spelling Json where
  float? v := match v with
    | .number n => n.float?
    | _ => none
  nat? bits v := nat? bits v
  bool? v := match v with
    | .bool b => some b
    | _ => none
  word? := word?
  isAbsent v := match v with
    | .null => true
    | _ => false
  group? := group?
  exactLists := true

def parts? (fields : List (String × Nat)) (v : Json) : Option (List Nat) :=
  match group? v with
  | some (.named entries) =>
    let known := entries.filter fun e => fields.any (·.1 == e.1)
    if Settings.repeats (known.map (·.1)) then none
    else fields.mapM fun f => (known.find? (·.1 == f.1)).bind fun e => nat? f.2 e.2
  | some (.listed items) =>
    if items.length = fields.length then
      (fields.zip items).mapM fun p => nat? p.1.2 p.2
    else none
  | none => none

def settings? (v : Json) : Option Settings := (group? v).bind (Settings.ofGroup? spelling)

def portBounds? (v : Json) : Option PortBounds := Settings.bounds? spelling v

def startPolicy? (v : Json) : Option StartPolicy := (word? v).bind Settings.startPolicyOfWord?

def payloadKind? (v : Json) : Option PayloadKind :=
  match word? v with
  | some "video" => some .video
  | some "audio" => some .audio
  | some "data" => some .data
  | _ => none

def dispatcher? (v : Json) : Option Dispatcher :=
  match word? v with
  | some "cooperative" => some .cooperative
  | some "isolated" => some .isolated
  | _ => none

def policy? (v : Json) : Option ConsumptionPolicy :=
  match choice? v with
  | some ("latest_wins", none) => some .latestWins
  | some ("ordered_all", some parts) =>
    match parts? [("capacity", 64)] parts with
    | some [capacity] => some (.orderedAll capacity)
    | _ => none
  | _ => none

def location? (v : Json) : Option Location :=
  match choice? v with
  | some ("host", none) => some .host
  | some ("device", some parts) =>
    match parts? [("pool", 32)] parts with
    | some [pool] => some (.device pool)
    | _ => none
  | _ => none

def mediaInfo? (v : Json) : Option MediaInfo :=
  match choice? v with
  | some ("Data", none) => some .data
  | some ("Video", some parts) =>
    match parts? [("width", 32), ("height", 32)] parts with
    | some [width, height] => some (.video width height)
    | _ => none
  | some ("Audio", some parts) =>
    match parts? [("channels", 16), ("sample_rate", 32)] parts with
    | some [channels, rate] => some (.audio channels rate)
    | _ => none
  | _ => none

def ofParts (name : String) (parts : List (String × Nat)) : Json :=
  ofFields [(name, ofFields (parts.map fun p => (p.1, ofNat p.2)))]

def ofPolicy : ConsumptionPolicy → Json
  | .latestWins => ofString "latest_wins"
  | .orderedAll capacity => ofParts "ordered_all" [("capacity", capacity)]

def ofLocation : Location → Json
  | .host => ofString "host"
  | .device pool => ofParts "device" [("pool", pool)]

def ofMediaInfo : MediaInfo → Json
  | .data => ofString "Data"
  | .video width height => ofParts "Video" [("width", width), ("height", height)]
  | .audio channels rate => ofParts "Audio" [("channels", channels), ("sample_rate", rate)]

def ofPortBounds (b : PortBounds) : Json :=
  ofFields [("start", ofNat b.first), ("end", ofNat b.past)]

end Tickflow.Json
