import Tickflow.Fault
import Tickflow.Text.Quoted
/-!
Cells: the place where one output leaves values for one input. A latest-wins cell shows the newest
value and keeps the one before it for readers that may not see the newest yet. An ordered-all cell
is a bounded queue whose values are read once, oldest first. Every value carries the instant at
which its write began, so that a reader can leave out what is later than its cutoff.
-/
namespace Tickflow

inductive ConsumptionPolicy where
  | latestWins
  | orderedAll (capacity : Nat)
  deriving DecidableEq, Repr

namespace ConsumptionPolicy

def isOrdered : ConsumptionPolicy → Bool
  | .latestWins => false
  | .orderedAll _ => true

def text : ConsumptionPolicy → String
  | .latestWins => "latest_wins"
  | .orderedAll capacity => s!"ordered_all({capacity})"

def inspected : ConsumptionPolicy → String
  | .latestWins => "LatestWins"
  | .orderedAll capacity => s!"OrderedAll \x7b capacity: {capacity} \x7d"

end ConsumptionPolicy

structure Entry (α : Type) where
  value : α
  writtenAt : Nat
  deriving DecidableEq, Repr

/-- What a cell holds. `shadow` is the value that `current` replaced; `currentRead` says whether
`current` has been read since it was written. -/
inductive Slots (α : Type) where
  | latest (current shadow : Option (Entry α)) (currentRead : Bool)
  | ordered (capacity : Nat) (queue : List (Entry α))
  deriving DecidableEq, Repr

structure CellStats where
  writes : Nat
  reads : Nat
  droppedFrames : Nat
  droppedChunks : Nat
  deriving DecidableEq, Repr

structure Cell (α : Type) where
  label : String
  slots : Slots α
  closed : Bool
  stats : CellStats
  deriving DecidableEq, Repr

namespace Slots

def policy : Slots α → ConsumptionPolicy
  | .latest _ _ _ => .latestWins
  | .ordered capacity _ => .orderedAll capacity

/-- Values that a reader without a cutoff could still get. -/
def length : Slots α → Nat
  | .latest current _ _ => current.toList.length
  | .ordered _ queue => queue.length

def cleared : Slots α → Slots α
  | .latest _ _ _ => .latest none none false
  | .ordered capacity _ => .ordered capacity []

def isFull : Slots α → Bool
  | .latest _ _ _ => false
  | .ordered capacity queue => decide (capacity ≤ queue.length)

end Slots

namespace Cell

def ofSlots (slots : Slots α) (label : String) : Cell α :=
  { label, slots, closed := false, stats := ⟨0, 0, 0, 0⟩ }

/-- An empty cell. A queue that could hold nothing is refused by breaking off. -/
def make (policy : ConsumptionPolicy) (label : String) : Except Failure (Cell α) :=
  match policy with
  | .latestWins => .ok (ofSlots (.latest none none false) label)
  | .orderedAll 0 => .error (.panic "Ordered-all cell must have capacity >= 1, got 0")
  | .orderedAll capacity => .ok (ofSlots (.ordered capacity []) label)

def policy (c : Cell α) : ConsumptionPolicy := c.slots.policy

def length (c : Cell α) : Nat := c.slots.length

def mustWait (c : Cell α) : Bool := !c.closed && c.slots.isFull

def isUnread : Slots α → Bool
  | .latest (some _) _ currentRead => !currentRead
  | _ => false

/-- A write that began at the instant `start`, at the moment when it is decided: it is stored where
there is room, given up where the queue is full, and without effect on a closed cell. A write that
waits is decided once `mustWait` ends or its time is up. -/
def write (start : Nat) (value : α) (c : Cell α) : Except Fault Unit × Cell α :=
  if c.closed then (.ok (), c)
  else match c.slots with
    | .latest current shadow currentRead =>
      let dropped := (isUnread (.latest current shadow currentRead)).toNat
      (.ok (), { c with
        slots := .latest (some ⟨value, start⟩) current false
        stats := { c.stats with
          writes := c.stats.writes + 1
          droppedFrames := c.stats.droppedFrames + dropped } })
    | .ordered capacity queue =>
      if queue.length < capacity then
        (.ok (), { c with
          slots := .ordered capacity (queue ++ [⟨value, start⟩])
          stats := { c.stats with writes := c.stats.writes + 1 } })
      else
        (.error (.bufferFull c.label),
          { c with stats := { c.stats with droppedChunks := c.stats.droppedChunks + 1 } })

def Entry.isVisible (cutoff : Option Nat) (e : Entry α) : Bool :=
  match cutoff with
  | none => true
  | some limit => decide (e.writtenAt ≤ limit)

def take (cutoff : Option Nat) : Slots α → Option α × Slots α
  | .latest current shadow currentRead =>
    match current.filter (Entry.isVisible cutoff) with
    | some e => (some e.value, .latest current shadow true)
    | none => ((shadow.filter (Entry.isVisible cutoff)).map (·.value),
        .latest current shadow currentRead)
  | .ordered capacity [] => (none, .ordered capacity [])
  | .ordered capacity (e :: rest) =>
    if Entry.isVisible cutoff e then (some e.value, .ordered capacity rest)
    else (none, .ordered capacity (e :: rest))

/-- Reads what was written at or before `cutoff`, or at any time without one. -/
def read (cutoff : Option Nat) (c : Cell α) : Option α × Cell α :=
  let (value, slots) := take cutoff c.slots
  (value, { c with
    slots, stats := { c.stats with reads := c.stats.reads + value.toList.length } })

def clear (c : Cell α) : Cell α := { c with slots := c.slots.cleared }

/-- Empties the cell for good: later writes are taken and forgotten. -/
def close (c : Cell α) : Cell α := { c.clear with closed := true }

/-- A write that is given time, with the other side acting while it waits. When it need not wait it
is decided first. -/
def writeDuring (start : Nat) (value : α) (act : Cell α → β × Cell α) (c : Cell α) :
    β × Except Fault Unit × Cell α :=
  if c.mustWait then
    let (b, c) := act c
    let (r, c) := c.write start value
    (b, r, c)
  else
    let (r, c) := c.write start value
    let (b, c) := act c
    (b, r, c)

def inspected (c : Cell α) : String :=
  s!"BufferCell \x7b label: {Text.quoted c.label}, policy: {c.policy.inspected}, " ++
    s!"len: {c.length}, closed: {c.closed} \x7d"

end Cell

end Tickflow
