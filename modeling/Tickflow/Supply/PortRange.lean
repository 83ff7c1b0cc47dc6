import Tickflow.Fault
/-!
Ids handed out from a range, two endpoints for each even id. The search goes on from where it last
stopped and wraps round, so that a freed id rests until the search comes back to it.
-/
namespace Tickflow

structure Reservation where
  id : Nat
  label : String
  paired : Bool
  deriving DecidableEq, Repr

structure PortRange where
  first : Nat
  past : Nat
  cursor : Nat
  reserved : List Reservation
  deriving DecidableEq, Repr

namespace PortRange

def make (first past : Nat) : Except Fault PortRange :=
  if first % 2 ≠ 0 ∨ past % 2 ≠ 0 then .error (.configuration (.oddRange first past))
  else if past ≤ first then .error (.configuration (.emptyRange first past))
  else .ok ⟨first, past, first, []⟩

def capacity (r : PortRange) : Nat := (r.past - r.first) / 2

def find? (r : PortRange) (id : Nat) : Option Reservation := r.reserved.find? (·.id == id)

def isReserved (r : PortRange) (id : Nat) : Bool := (r.find? id).isSome

def next (r : PortRange) (id : Nat) : Nat := if r.past ≤ id + 2 then r.first else id + 2

/-- Looks at `steps` ids from `cursor` on. Gives the first free one, and where the search stopped. -/
def search (r : PortRange) : (steps : Nat) → (cursor : Nat) → Option Nat × Nat
  | 0, cursor => (none, cursor)
  | steps + 1, cursor =>
    if r.isReserved cursor then r.search steps (r.next cursor)
    else (some cursor, r.next cursor)

def isFull (r : PortRange) : Bool := decide (r.capacity ≤ r.reserved.length)

/-- Reserves the next free id. In a full range the search would only come round to where it began. -/
def reserve (label : String) (paired : Bool) (r : PortRange) : Except Fault Nat × PortRange :=
  let exhausted := Except.error (.portRangeExhausted r.first r.past)
  if r.isFull then (exhausted, r)
  else match r.search r.capacity r.cursor with
    | (some id, cursor) =>
      (.ok id, { r with cursor, reserved := ⟨id, label, paired⟩ :: r.reserved })
    | (none, cursor) => (exhausted, { r with cursor })

def remove (r : PortRange) (id : Nat) : PortRange :=
  { r with reserved := r.reserved.filter (·.id != id) }

def free (id : Nat) (r : PortRange) : Except Fault Unit × PortRange :=
  if r.isReserved id then (.ok (), r.remove id) else (.error (.portNotAllocated id), r)

def freePair (id : Nat) (r : PortRange) : Except Fault Unit × PortRange :=
  match r.find? id with
  | some ⟨_, _, true⟩ => (.ok (), r.remove id)
  | _ => (.error (.portNotAllocated id), r)

def fill (label : String) : (steps : Nat) → PortRange → List Nat × Option Fault × PortRange
  | 0, r => ([], none, r)
  | steps + 1, r =>
    match r.reserve label false with
    | (.ok id, r) =>
      let (ids, fault, r) := fill label steps r
      (id :: ids, fault, r)
    | (.error fault, r) => ([], some fault, r)

/-- Reserves all that is free; one request more than the range holds cannot succeed. -/
def fillAll (label : String) (r : PortRange) : List Nat × Option Fault × PortRange :=
  fill label (r.capacity + 1) r

end PortRange

end Tickflow
