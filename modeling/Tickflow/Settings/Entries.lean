import Tickflow.Settings
/-!
Settings from named or listed values, whatever the format they are written in. A format says how it
spells numbers, words and groups; here stands which names there are, that none may be unknown or
come twice, and that what is left out keeps its default.
-/
namespace Tickflow.Settings

inductive Group (ν : Type) where
  | named (entries : List (String × ν))
  | listed (items : List ν)

/-- How the values `ν` of a format are read. Numbers are asked for with the bits that they may
have. `exactLists`: a list may not be longer than the names. -/
structure Spelling (ν : Type) where
  float? : ν → Option Float
  nat? : Nat → ν → Option Nat
  bool? : ν → Option Bool
  word? : ν → Option String
  isAbsent : ν → Bool
  group? : ν → Option (Group ν)
  exactLists : Bool

def startPolicyOfWord? : String → Option StartPolicy
  | "rollback" => some .rollback
  | "isolate" => some .isolate
  | _ => none

def repeats (names : List String) : Bool := names.eraseDups.length != names.length

def boundsOfEntries? (sp : Spelling ν) (entries : List (String × ν)) : Option PortBounds := do
  let known := entries.filter fun e => e.1 == "start" || e.1 == "end"
  if repeats (known.map (·.1)) then none
  else
    let first ← (known.find? (·.1 == "start")).bind fun e => sp.nat? 16 e.2
    let past ← (known.find? (·.1 == "end")).bind fun e => sp.nat? 16 e.2
    return ⟨first, past⟩

def bounds? (sp : Spelling ν) (v : ν) : Option PortBounds :=
  match sp.group? v with
  | some (.named entries) => boundsOfEntries? sp entries
  | some (.listed (first :: past :: rest)) =>
    if sp.exactLists && !rest.isEmpty then none
    else do return ⟨← sp.nat? 16 first, ← sp.nat? 16 past⟩
  | _ => none

def names : List String :=
  ["fps", "stop_grace_ms", "tick_queue_depth", "ordered_queue_capacity",
   "ordered_write_timeout_ms", "start_policy", "auto_register", "port_range", "device_pool_id",
   "pool_max_retained"]

/-- One setting changed; none for an unknown name or a value that does not fit. -/
def set? (sp : Spelling ν) (s : Settings) (name : String) (v : ν) : Option Settings :=
  match name with
  | "fps" => (sp.float? v).map fun x => { s with fps := x }
  | "stop_grace_ms" => (sp.nat? 64 v).map fun n => { s with stopGraceMs := n }
  | "tick_queue_depth" => (sp.nat? 64 v).map fun n => { s with tickQueueDepth := n }
  | "ordered_queue_capacity" => (sp.nat? 64 v).map fun n => { s with orderedQueueCapacity := n }
  | "ordered_write_timeout_ms" => (sp.nat? 64 v).map fun n => { s with orderedWriteTimeoutMs := n }
  | "start_policy" =>
    ((sp.word? v).bind startPolicyOfWord?).map fun p => { s with startPolicy := p }
  | "auto_register" => (sp.bool? v).map fun b => { s with autoRegister := b }
  | "port_range" =>
    if sp.isAbsent v then some { s with portRange := none }
    else (bounds? sp v).map fun b => { s with portRange := some b }
  | "device_pool_id" => (sp.nat? 32 v).map fun n => { s with devicePoolId := n }
  | "pool_max_retained" => (sp.nat? 64 v).map fun n => { s with poolMaxRetained := n }
  | _ => none

def ofEntries? (sp : Spelling ν) (entries : List (String × ν)) : Option Settings :=
  if repeats (entries.map (·.1)) then none
  else entries.foldlM (fun s e => set? sp s e.1 e.2) default

def ofGroup? (sp : Spelling ν) : Group ν → Option Settings
  | .named entries => ofEntries? sp entries
  | .listed items =>
    if names.length < items.length then none else ofEntries? sp (names.zip items)

end Tickflow.Settings
