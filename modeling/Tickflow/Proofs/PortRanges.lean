import Mathlib.Data.List.Perm.Subperm
import Mathlib.Data.List.Nodup
import Tickflow.Proofs.Lookup
import Tickflow.Supply.PortRange
/-!
What a range of ids has handed out. A search goes round the range from slot to slot, so that it comes to
every free id before it is where it began, and what is reserved is just what was granted and not freed
since. All of this is so in numbers of 16 bits too: no sum on the way is too large for one.
-/
namespace Tickflow

namespace PortRange

variable {r : PortRange}

/-! The way round. -/

structure Bounded (r : PortRange) : Prop where
  firstEven : r.first % 2 = 0
  pastEven : r.past % 2 = 0
  below : r.first < r.past
  word : r.past < 65536

/-- The even ids of the range, counted on and on round it. -/
def slot (r : PortRange) (k : Nat) : Nat := r.first + 2 * (k % r.capacity)

theorem Bounded.capacity_pos (b : r.Bounded) : 0 < r.capacity := by
  obtain ⟨firstEven, pastEven, below, _⟩ := b
  unfold capacity
  omega

theorem Bounded.first_capacity (b : r.Bounded) : r.first + 2 * r.capacity = r.past := by
  obtain ⟨firstEven, pastEven, below, _⟩ := b
  unfold capacity
  omega

theorem Bounded.slot_inside (b : r.Bounded) (k : Nat) :
    r.slot k % 2 = 0 ∧ r.first ≤ r.slot k ∧ r.slot k + 1 < r.past := by
  have even := b.firstEven
  have whole := b.first_capacity
  have rest := Nat.mod_lt k b.capacity_pos
  unfold slot
  omega

theorem Bounded.slot_of_inside (b : r.Bounded) {id : Nat} (even : id % 2 = 0) (low : r.first ≤ id)
    (high : id < r.past) : ∃ k < r.capacity, r.slot k = id := by
  have firstEven := b.firstEven
  have whole := b.first_capacity
  have bound : (id - r.first) / 2 < r.capacity := by omega
  refine ⟨(id - r.first) / 2, bound, ?_⟩
  rw [slot, Nat.mod_eq_of_lt bound]
  omega

theorem slot_inj {j k : Nat} (hj : j < r.capacity) (hk : k < r.capacity)
    (same : r.slot j = r.slot k) : j = k := by
  rw [slot, slot, Nat.mod_eq_of_lt hj, Nat.mod_eq_of_lt hk] at same
  omega

theorem slot_round (r : PortRange) (k : Nat) : r.slot (k + r.capacity) = r.slot k := by
  rw [slot, slot, Nat.add_mod_right]

theorem Bounded.slot_ahead (b : r.Bounded) (k : Nat) {j : Nat} (bound : j < r.capacity) :
    ∃ i < r.capacity, r.slot (k + i) = r.slot j := by
  have rest := Nat.mod_lt k b.capacity_pos
  have split := Nat.div_add_mod k r.capacity
  by_cases before : k % r.capacity ≤ j
  · refine ⟨j - k % r.capacity, by omega, ?_⟩
    have sum : k + (j - k % r.capacity) = j + r.capacity * (k / r.capacity) := by omega
    rw [slot, slot, sum, Nat.add_mul_mod_self_left]
  · refine ⟨j + r.capacity - k % r.capacity, by omega, ?_⟩
    have sum : k + (j + r.capacity - k % r.capacity) =
        j + r.capacity * (k / r.capacity) + r.capacity := by omega
    rw [slot, slot, sum, Nat.add_mod_right, Nat.add_mul_mod_self_left]

theorem Bounded.next_slot (b : r.Bounded) (k : Nat) : r.next (r.slot k) = r.slot (k + 1) := by
  have whole := b.first_capacity
  have rest := Nat.mod_lt k b.capacity_pos
  have after : (k + 1) % r.capacity = (k % r.capacity + 1) % r.capacity := (Nat.mod_add_mod k _ 1).symm
  by_cases last : k % r.capacity + 1 = r.capacity
  · rw [next, slot, slot, after, last, Nat.mod_self, if_pos (by omega)]
    rfl
  · have stays := Nat.mod_eq_of_lt (show k % r.capacity + 1 < r.capacity by omega)
    rw [next, slot, slot, after, stays, if_neg (by omega)]
    omega

/-- A search ends at the first free slot on its way, or else where its steps have led it. -/
theorem search_slots (b : r.Bounded) (steps k : Nat) :
    (∃ i < steps, (∀ j < i, r.isReserved (r.slot (k + j)) = true) ∧
      r.isReserved (r.slot (k + i)) = false ∧
      r.search steps (r.slot k) = (some (r.slot (k + i)), r.slot (k + i + 1))) ∨
    (∀ j < steps, r.isReserved (r.slot (k + j)) = true) ∧
      r.search steps (r.slot k) = (none, r.slot (k + steps)) := by
  induction steps generalizing k with
  | zero => exact .inr ⟨fun j bound => absurd bound (Nat.not_lt_zero j), rfl⟩
  | succ steps ih =>
    cases taken : r.isReserved (r.slot k) with
    | false =>
      refine .inl ⟨0, Nat.succ_pos steps, fun j bound => absurd bound (Nat.not_lt_zero j), taken, ?_⟩
      simp [search, taken, b.next_slot]
    | true =>
      have on : r.search (steps + 1) (r.slot k) = r.search steps (r.slot (k + 1)) := by
        simp [search, taken, b.next_slot]
      have shift (j : Nat) : k + 1 + j = k + (j + 1) := by omega
      have upto {n : Nat} (met : ∀ j < n, r.isReserved (r.slot (k + 1 + j)) = true) :
          ∀ j < n + 1, r.isReserved (r.slot (k + j)) = true := by
        intro j bound
        cases j with
        | zero => exact taken
        | succ j => exact shift j ▸ met j (Nat.lt_of_succ_lt_succ bound)
      rw [on]
      rcases ih (k + 1) with ⟨i, bound, met, free, found⟩ | ⟨met, ended⟩
      · rw [shift] at free found
        exact .inl ⟨i + 1, Nat.succ_lt_succ bound, upto met, free, found⟩
      · rw [shift] at ended
        exact .inr ⟨upto met, ended⟩

/-! In numbers of 16 bits. -/

def add16? (a b : Nat) : Option Nat := if a + b < 65536 then some (a + b) else none

def next16? (id : Nat) (r : PortRange) : Option Nat :=
  (add16? id 2).map fun after => if r.past ≤ after then r.first else after

def search16? (r : PortRange) : (steps : Nat) → (cursor : Nat) → Option (Option Nat × Nat)
  | 0, cursor => some (none, cursor)
  | steps + 1, cursor => do
    let after ← r.next16? cursor
    if r.isReserved cursor then r.search16? steps after else return (some cursor, after)

/-- The search for a free id in numbers of 16 bits. It goes round a full range like any other. -/
def reserve16? (label : String) (paired : Bool) (r : PortRange) :
    Option (Except Fault Nat × PortRange) := do
  match ← r.search16? r.capacity r.cursor with
  | (some id, cursor) =>
    return (.ok id, { r with cursor, reserved := ⟨id, label, paired⟩ :: r.reserved })
  | (none, cursor) => return (.error (.portRangeExhausted r.first r.past), { r with cursor })

def endpoints16? (id : Nat) : Option (Nat × Nat) := (add16? id 1).map fun second => (id, second)

theorem next16_slot (b : r.Bounded) (k : Nat) : r.next16? (r.slot k) = some (r.slot (k + 1)) := by
  have inside := b.slot_inside k
  have word := b.word
  have pastEven := b.pastEven
  rw [next16?, add16?, if_pos (by omega), Option.map_some, ← b.next_slot, next]

theorem search16_slot (b : r.Bounded) (steps k : Nat) :
    r.search16? steps (r.slot k) = some (r.search steps (r.slot k)) := by
  induction steps generalizing k with
  | zero => rfl
  | succ steps ih =>
    rw [search16?, next16_slot b, search, b.next_slot]
    cases r.isReserved (r.slot k) with
    | true => exact ih (k + 1)
    | false => rfl

/-! What was done. -/

inductive Request where
  | reserve (label : String) (paired : Bool)
  | free (id : Nat)
  | freePair (id : Nat)

inductive Event where
  | granted (x : Reservation)
  | freed (id : Nat)
  | refused (cause : Fault)

def noteFreed (id : Nat) : Except Fault Unit × PortRange → Event × PortRange
  | (.ok (), r) => (.freed id, r)
  | (.error cause, r) => (.refused cause, r)

def serve (q : Request) (r : PortRange) : Event × PortRange :=
  match q with
  | .reserve label paired =>
    match r.reserve label paired with
    | (.ok id, r) => (.granted ⟨id, label, paired⟩, r)
    | (.error cause, r) => (.refused cause, r)
  | .free id => noteFreed id (r.free id)
  | .freePair id => noteFreed id (r.freePair id)

def serveAll : List Request → PortRange → List Event × PortRange
  | [], r => ([], r)
  | q :: rest, r =>
    let (event, r) := r.serve q
    let (events, r) := serveAll rest r
    (event :: events, r)

/-- It was granted, and its id was not freed since. -/
def Live (events : List Event) (x : Reservation) : Prop :=
  ∃ before after, events = before ++ .granted x :: after ∧ .freed x.id ∉ after

variable {events : List Event} {x y : Reservation}

theorem live_append {e : Event} : Live (events ++ [e]) x ↔
    e = .granted x ∨ (Live events x ∧ e ≠ .freed x.id) := by
  constructor
  · rintro ⟨before, after, same, kept⟩
    rcases List.eq_nil_or_concat after with rfl | ⟨after, last, same_after⟩
    · exact .inl (List.singleton_inj.mp (List.append_inj_right' same rfl))
    · rw [List.concat_eq_append] at same_after
      subst same_after
      rw [← List.cons_append, ← List.append_assoc] at same
      obtain ⟨rfl, here⟩ := List.append_inj' same rfl
      obtain rfl := List.singleton_inj.mp here
      refine .inr ⟨⟨before, after, rfl, fun mem => kept ?_⟩, fun freed => kept ?_⟩
      · exact List.mem_append_left _ mem
      · exact List.mem_append_right _ (List.mem_singleton.mpr freed.symm)
  · rintro (rfl | ⟨⟨before, after, rfl, kept⟩, other⟩)
    · exact ⟨events, [], rfl, List.not_mem_nil⟩
    · refine ⟨before, after ++ [e], by simp, fun mem => ?_⟩
      rcases List.mem_append.mp mem with old | new
      · exact kept old
      · exact other (List.mem_singleton.mp new).symm

/-! What is known after any requests. -/

structure Holds (first past : Nat) (events : List Event) (r : PortRange) : Prop where
  bounds : r.first = first ∧ r.past = past
  bounded : r.Bounded
  place : ∃ k, r.cursor = r.slot k
  ids : (r.reserved.map (·.id)).Nodup
  slots : ∀ x ∈ r.reserved, ∃ k < r.capacity, r.slot k = x.id
  live : ∀ x, x ∈ r.reserved ↔ Live events x

theorem isReserved_iff {id : Nat} : r.isReserved id = true ↔ ∃ x ∈ r.reserved, x.id = id := by
  simp [isReserved, find?]

theorem find_iff (ids : (r.reserved.map (·.id)).Nodup) {id : Nat} :
    r.find? id = some x ↔ x ∈ r.reserved ∧ x.id = id := by
  constructor
  · exact key_of_find
  · rintro ⟨mem, rfl⟩
    exact find_of_mem ids mem

namespace Holds

variable {first past : Nat}

theorem count (holds : Holds first past events r) : r.reserved.length ≤ r.capacity ∧
    (r.reserved.length = r.capacity ↔ ∀ k < r.capacity, r.isReserved (r.slot k) = true) := by
  let taken := r.reserved.map (·.id)
  let slots := (List.range r.capacity).map r.slot
  have size : slots.length = r.capacity := by simp [slots]
  have within : taken ⊆ slots := by
    intro id mem
    obtain ⟨x, there, rfl⟩ := List.mem_map.mp mem
    obtain ⟨k, bound, same⟩ := holds.slots x there
    exact List.mem_map.mpr ⟨k, List.mem_range.mpr bound, same⟩
  have fits : taken.Subperm slots := holds.ids.subperm within
  have fewer : r.reserved.length ≤ r.capacity := by
    have lengths := fits.length_le
    rwa [size, List.length_map] at lengths
  refine ⟨fewer, fun same k bound => ?_, fun full => Nat.le_antisymm fewer ?_⟩
  · have all : taken.Perm slots := fits.perm_of_length_le (by simp [size, taken, same])
    have mem : r.slot k ∈ slots := List.mem_map_of_mem (List.mem_range.mpr bound)
    exact isReserved_iff.mpr (List.mem_map.mp (all.mem_iff.mpr mem))
  · have distinct : slots.Nodup := by
      refine List.Nodup.map_on (fun j hj k hk same => ?_) List.nodup_range
      exact slot_inj (List.mem_range.mp hj) (List.mem_range.mp hk) same
    have covered : slots ⊆ taken := by
      intro id mem
      obtain ⟨k, bound, rfl⟩ := List.mem_map.mp mem
      exact List.mem_map.mpr (isReserved_iff.mp (full k (List.mem_range.mp bound)))
    have lengths := (distinct.subperm covered).length_le
    rwa [size, List.length_map] at lengths

theorem search_ends (holds : Holds first past events r) :
    (r.isFull = true ∧ r.search r.capacity r.cursor = (none, r.cursor)) ∨
      ∃ k, r.isFull = false ∧ r.isReserved (r.slot k) = false ∧
        r.search r.capacity r.cursor = (some (r.slot k), r.slot (k + 1)) := by
  obtain ⟨fewer, full⟩ := holds.count
  obtain ⟨k, here⟩ := holds.place
  have capacity := holds.bounded.capacity_pos
  rw [here]
  rcases search_slots holds.bounded r.capacity k with ⟨i, _, _, free, found⟩ | ⟨met, ended⟩
  · refine .inr ⟨k + i, ?_, free, found⟩
    have room : r.reserved.length ≠ r.capacity := by
      intro same
      have taken := full.mp same ((k + i) % r.capacity) (Nat.mod_lt _ capacity)
      rw [slot, Nat.mod_mod] at taken
      rw [slot, taken] at free
      cases free
    exact decide_eq_false (by omega)
  · refine .inl ⟨decide_eq_true (Nat.le_of_eq (full.mpr fun j bound => ?_).symm), ?_⟩
    · obtain ⟨i, short, same⟩ := holds.bounded.slot_ahead k bound
      exact same ▸ met i short
    · rw [ended, slot_round]

theorem reserve_cases (holds : Holds first past events r) (label : String) (paired : Bool) :
    (r.reserved.length = r.capacity ∧
      r.reserve label paired = (.error (.portRangeExhausted first past), r)) ∨
    ∃ k, r.reserved.length ≠ r.capacity ∧ r.isReserved (r.slot k) = false ∧
      r.reserve label paired = (.ok (r.slot k), { r with
        cursor := r.slot (k + 1), reserved := ⟨r.slot k, label, paired⟩ :: r.reserved }) := by
  have fewer := holds.count.1
  obtain ⟨atFirst, atPast⟩ := holds.bounds
  rcases holds.search_ends with ⟨full, _⟩ | ⟨k, room, free, found⟩
  · have many : r.capacity ≤ r.reserved.length := of_decide_eq_true full
    exact .inl ⟨by omega, by simp [reserve, full, atFirst, atPast]⟩
  · have few : ¬ r.capacity ≤ r.reserved.length := of_decide_eq_false room
    exact .inr ⟨k, by omega, free, by simp [reserve, room, found]⟩

theorem reserve16_eq (holds : Holds first past events r) (label : String) (paired : Bool) :
    r.reserve16? label paired = some (r.reserve label paired) := by
  have words : r.search16? r.capacity r.cursor = some (r.search r.capacity r.cursor) := by
    obtain ⟨k, here⟩ := holds.place
    rw [here, search16_slot holds.bounded]
  rcases holds.search_ends with ⟨full, ended⟩ | ⟨k, room, free, found⟩
  · simp [reserve16?, words, ended, reserve, full]
  · simp [reserve16?, words, found, reserve, room]

theorem fresh {r : PortRange} (b : r.Bounded) (start : r.cursor = r.first)
    (empty : r.reserved = []) : Holds r.first r.past [] r := by
  refine ⟨⟨rfl, rfl⟩, b, ⟨0, ?_⟩, ?_, ?_, fun x => ?_⟩
  · rw [start, slot, Nat.zero_mod]
    rfl
  · rw [empty]
    exact .nil
  · rw [empty]
    exact fun x mem => absurd mem List.not_mem_nil
  · rw [empty]
    refine ⟨fun mem => absurd mem List.not_mem_nil, ?_⟩
    rintro ⟨before, after, same, _⟩
    simp at same

theorem grant (holds : Holds first past events r) {k : Nat} (label : String) (paired : Bool)
    (free : r.isReserved (r.slot k) = false) :
    Holds first past (events ++ [.granted ⟨r.slot k, label, paired⟩]) { r with
      cursor := r.slot (k + 1), reserved := ⟨r.slot k, label, paired⟩ :: r.reserved } := by
  have capacity := holds.bounded.capacity_pos
  obtain ⟨bounds, ⟨firstEven, pastEven, below, word⟩, place, ids, slots, live⟩ := holds
  refine ⟨bounds, ⟨firstEven, pastEven, below, word⟩, ⟨k + 1, rfl⟩, ?_, ?_, fun x => ?_⟩
  · refine List.nodup_cons.mpr ⟨fun mem => ?_, ids⟩
    have taken := isReserved_iff.mpr (List.mem_map.mp mem)
    rw [free] at taken
    cases taken
  · intro x mem
    rcases List.mem_cons.mp mem with rfl | old
    · exact ⟨k % r.capacity, Nat.mod_lt k capacity, congrArg (r.first + 2 * ·) (Nat.mod_mod k _)⟩
    · exact slots x old
  · rw [live_append, List.mem_cons, live x, Event.granted.injEq]
    constructor
    · rintro (rfl | old)
      · exact .inl rfl
      · exact .inr ⟨old, by simp⟩
    · rintro (same | ⟨old, _⟩)
      · exact .inl same.symm
      · exact .inr old

theorem drop (holds : Holds first past events r) (id : Nat) :
    Holds first past (events ++ [.freed id]) (r.remove id) := by
  obtain ⟨bounds, ⟨firstEven, pastEven, below, word⟩, place, ids, slots, live⟩ := holds
  refine ⟨bounds, ⟨firstEven, pastEven, below, word⟩, place, ?_, ?_, fun x => ?_⟩
  · exact ids.sublist (List.filter_sublist.map _)
  · exact fun x mem => slots x (List.mem_filter.mp mem).1
  · rw [live_append, remove, List.mem_filter, live x]
    simp [eq_comm (a := id)]

theorem refuse (holds : Holds first past events r) (cause : Fault) :
    Holds first past (events ++ [.refused cause]) r := by
  refine { holds with live := fun x => ?_ }
  rw [live_append, holds.live x]
  simp

theorem free_cases (id : Nat) (r : PortRange) :
    (r.isReserved id = true ∧ r.free id = (.ok (), r.remove id)) ∨
      (r.isReserved id = false ∧ r.free id = (.error (.portNotAllocated id), r)) := by
  cases taken : r.isReserved id <;> simp [free, taken]

theorem freePair_cases (id : Nat) (r : PortRange) :
    (∃ x, r.find? id = some x ∧ x.paired = true ∧ r.freePair id = (.ok (), r.remove id)) ∨
      ((∀ x, r.find? id = some x → x.paired = false) ∧
        r.freePair id = (.error (.portNotAllocated id), r)) := by
  cases found : r.find? id with
  | none => simp [freePair, found]
  | some x =>
    obtain ⟨at_id, label, _ | _⟩ := x <;> simp [freePair, found]

theorem serve (holds : Holds first past events r) (q : Request) :
    Holds first past (events ++ [(r.serve q).1]) (r.serve q).2 := by
  cases q with
  | reserve label paired =>
    rcases holds.reserve_cases label paired with ⟨_, refused⟩ | ⟨k, _, free, granted⟩
    · simp only [PortRange.serve, refused]
      exact holds.refuse _
    · simp only [PortRange.serve, granted]
      exact holds.grant label paired free
  | free id =>
    rcases free_cases id r with ⟨_, freed⟩ | ⟨_, refused⟩
    · simp only [PortRange.serve, freed, noteFreed]
      exact holds.drop id
    · simp only [PortRange.serve, refused, noteFreed]
      exact holds.refuse _
  | freePair id =>
    rcases freePair_cases id r with ⟨_, _, _, freed⟩ | ⟨_, refused⟩
    · simp only [PortRange.serve, freed, noteFreed]
      exact holds.drop id
    · simp only [PortRange.serve, refused, noteFreed]
      exact holds.refuse _

theorem serveAll (holds : Holds first past events r) (requests : List Request) :
    Holds first past (events ++ (r.serveAll requests).1) (r.serveAll requests).2 := by
  induction requests generalizing events r with
  | nil => simpa [PortRange.serveAll] using holds
  | cons q rest ih =>
    have all := ih (holds.serve q)
    rwa [List.append_assoc] at all

theorem refused_same (holds : Holds first past events r) {q : Request} {cause : Fault}
    (refused : (r.serve q).1 = .refused cause) : (r.serve q).2 = r := by
  cases q with
  | reserve label paired =>
    rcases holds.reserve_cases label paired with ⟨_, same⟩ | ⟨k, _, _, granted⟩
    · simp [PortRange.serve, same]
    · simp [PortRange.serve, granted] at refused
  | free id =>
    rcases free_cases id r with ⟨_, freed⟩ | ⟨_, same⟩
    · simp [PortRange.serve, freed, noteFreed] at refused
    · simp [PortRange.serve, same, noteFreed]
  | freePair id =>
    rcases freePair_cases id r with ⟨_, _, _, freed⟩ | ⟨_, same⟩
    · simp [PortRange.serve, freed, noteFreed] at refused
    · simp [PortRange.serve, same, noteFreed]

end Holds

structure Exact (first past : Nat) (events : List Event) (r : PortRange) : Prop where
  inside : ∀ x, Live events x → x.id % 2 = 0 ∧ first ≤ x.id ∧ x.id + 1 < past
  apart : ∀ x y, Live events x → Live events y → x ≠ y →
    x.id ≠ y.id ∧ x.id + 1 ≠ y.id ∧ x.id ≠ y.id + 1
  /-- What is reserved, and under which label. -/
  listed : r.reserved.Nodup ∧ ∀ x, x ∈ r.reserved ↔ Live events x
  reserved : ∀ id, r.isReserved id = true ↔ ∃ x, Live events x ∧ x.id = id
  found : ∀ id x, r.find? id = some x ↔ Live events x ∧ x.id = id
  count : r.reserved.length ≤ (past - first) / 2
  full : r.reserved.length = (past - first) / 2 ↔
    ∀ id, id % 2 = 0 → first ≤ id → id < past → ∃ x, Live events x ∧ x.id = id
  /-- An id that is given out is in the range, and was free. -/
  grants : ∀ label paired id, (r.reserve label paired).1 = .ok id →
    id % 2 = 0 ∧ first ≤ id ∧ id + 1 < past ∧ ∀ x, Live events x → x.id ≠ id
  exhausts : ∀ label paired f, (r.reserve label paired).1 = .error f ↔
    f = .portRangeExhausted first past ∧ r.reserved.length = (past - first) / 2
  frees : ∀ id, (r.free id).1 = .ok () ↔ ∃ x, Live events x ∧ x.id = id
  freesPair : ∀ id, (r.freePair id).1 = .ok () ↔ ∃ x, Live events x ∧ x.id = id ∧ x.paired = true
  refuses : ∀ q f, (r.serve q).1 = .refused f → (r.serve q).2 = r
  /-- Nothing exceeds 16 bits, neither in a search nor at the second endpoint of an id. -/
  words : (∀ label paired, r.reserve16? label paired = some (r.reserve label paired)) ∧
    (∀ label paired id, (r.reserve label paired).1 = .ok id → endpoints16? id = some (id, id + 1)) ∧
    ∀ x, Live events x → endpoints16? x.id = some (x.id, x.id + 1)

theorem endpoints16_of_word {id : Nat} (word : id + 1 < 65536) :
    endpoints16? id = some (id, id + 1) := by
  simp [endpoints16?, add16?, word]

namespace Holds

variable {first past : Nat}

theorem reserved_live (holds : Holds first past events r) (id : Nat) :
    r.isReserved id = true ↔ ∃ x, Live events x ∧ x.id = id := by
  simp only [isReserved_iff, holds.live]

theorem live_unique (holds : Holds first past events r) (hx : Live events x) (hy : Live events y)
    (same : x.id = y.id) : x = y :=
  List.inj_on_of_nodup_map holds.ids ((holds.live x).mpr hx) ((holds.live y).mpr hy) same

theorem capacity_eq (holds : Holds first past events r) : r.capacity = (past - first) / 2 := by
  rw [capacity, holds.bounds.1, holds.bounds.2]

theorem slot_inside (holds : Holds first past events r) (k : Nat) :
    r.slot k % 2 = 0 ∧ first ≤ r.slot k ∧ r.slot k + 1 < past := by
  obtain ⟨atFirst, atPast⟩ := holds.bounds
  exact atFirst ▸ atPast ▸ holds.bounded.slot_inside k

theorem live_inside (holds : Holds first past events r) (hx : Live events x) :
    x.id % 2 = 0 ∧ first ≤ x.id ∧ x.id + 1 < past := by
  obtain ⟨k, _, here⟩ := holds.slots x ((holds.live x).mpr hx)
  exact here ▸ holds.slot_inside k

theorem full_iff (holds : Holds first past events r) : r.reserved.length = r.capacity ↔
    ∀ id, id % 2 = 0 → first ≤ id → id < past → ∃ x, Live events x ∧ x.id = id := by
  obtain ⟨atFirst, atPast⟩ := holds.bounds
  refine holds.count.2.trans ⟨fun full id even low high => ?_, fun full k _ => ?_⟩
  · obtain ⟨k, bound, here⟩ :=
      holds.bounded.slot_of_inside even (atFirst ▸ low) (atPast ▸ high)
    exact (holds.reserved_live id).mp (here ▸ full k bound)
  · obtain ⟨even, low, high⟩ := holds.slot_inside k
    exact (holds.reserved_live _).mpr (full _ even low (by omega))

theorem granted_inside (holds : Holds first past events r) {label : String} {paired : Bool} {id : Nat}
    (granted : (r.reserve label paired).1 = .ok id) :
    id % 2 = 0 ∧ first ≤ id ∧ id + 1 < past ∧ ∀ x, Live events x → x.id ≠ id := by
  rcases holds.reserve_cases label paired with ⟨_, refused⟩ | ⟨k, _, free, made⟩
  · rw [refused] at granted
    cases granted
  · rw [made] at granted
    obtain rfl := Except.ok.inj granted
    obtain ⟨even, low, high⟩ := holds.slot_inside k
    refine ⟨even, low, high, fun x live same => ?_⟩
    have taken := (holds.reserved_live _).mpr ⟨x, live, same⟩
    rw [free] at taken
    cases taken

theorem exhausted_iff (holds : Holds first past events r) (label : String) (paired : Bool)
    (f : Fault) : (r.reserve label paired).1 = .error f ↔
      f = .portRangeExhausted first past ∧ r.reserved.length = r.capacity := by
  rcases holds.reserve_cases label paired with ⟨full, refused⟩ | ⟨k, room, _, made⟩
  · rw [refused, Except.error.injEq]
    exact ⟨fun same => ⟨same.symm, full⟩, fun same => same.1.symm⟩
  · rw [made]
    exact ⟨fun other => (by cases other), fun full => absurd full.2 room⟩

theorem free_iff (holds : Holds first past events r) (id : Nat) :
    (r.free id).1 = .ok () ↔ ∃ x, Live events x ∧ x.id = id := by
  rw [← holds.reserved_live]
  rcases free_cases id r with ⟨taken, freed⟩ | ⟨free, refused⟩
  · simp [freed, taken]
  · simp [refused, free]

theorem found_iff (holds : Holds first past events r) (id : Nat) (x : Reservation) :
    r.find? id = some x ↔ Live events x ∧ x.id = id := by
  rw [find_iff holds.ids, holds.live]

theorem freePair_iff (holds : Holds first past events r) (id : Nat) :
    (r.freePair id).1 = .ok () ↔ ∃ x, Live events x ∧ x.id = id ∧ x.paired = true := by
  rcases freePair_cases id r with ⟨x, found, paired, freed⟩ | ⟨single, refused⟩
  · obtain ⟨live, here⟩ := (holds.found_iff id x).mp found
    rw [freed]
    exact ⟨fun _ => ⟨x, live, here, paired⟩, fun _ => rfl⟩
  · rw [refused]
    refine ⟨fun other => (by cases other), ?_⟩
    rintro ⟨x, live, here, paired⟩
    rw [single x ((holds.found_iff id x).mpr ⟨live, here⟩)] at paired
    cases paired

theorem exact (holds : Holds first past events r) : Exact first past events r := by
  have word : past < 65536 := holds.bounds.2 ▸ holds.bounded.word
  have capacity := holds.capacity_eq
  constructor
  case inside => exact fun x live => holds.live_inside live
  case apart =>
    intro x y hx hy differ
    have evenX := (holds.live_inside hx).1
    have evenY := (holds.live_inside hy).1
    exact ⟨fun same => differ (holds.live_unique hx hy same), by omega, by omega⟩
  case listed => exact ⟨holds.ids.of_map _, holds.live⟩
  case reserved => exact holds.reserved_live
  case found => exact holds.found_iff
  case count => exact capacity ▸ holds.count.1
  case full => exact capacity ▸ holds.full_iff
  case grants => exact fun _ _ _ granted => holds.granted_inside granted
  case exhausts => exact capacity ▸ holds.exhausted_iff
  case frees => exact holds.free_iff
  case freesPair => exact holds.freePair_iff
  case refuses => exact fun _ _ refused => holds.refused_same refused
  case words =>
    refine ⟨holds.reserve16_eq, fun _ _ id granted => ?_, fun x live => ?_⟩
    · obtain ⟨_, _, high, _⟩ := holds.granted_inside granted
      exact endpoints16_of_word (by omega)
    · obtain ⟨_, _, high⟩ := holds.live_inside live
      exact endpoints16_of_word (by omega)

end Holds

/-- A range whose bounds are even and in order can be made. Whatever is asked of it, it keeps to what is
live. -/
theorem reservations_exact {first past : Nat} (firstEven : first % 2 = 0) (pastEven : past % 2 = 0)
    (below : first < past) (word : past < 65536) :
    ∃ r, make first past = .ok r ∧ ∀ requests,
      Exact first past (r.serveAll requests).1 (r.serveAll requests).2 := by
  refine ⟨⟨first, past, first, []⟩, ?_, fun requests => ?_⟩
  · simp [make, firstEven, pastEven, Nat.not_le.mpr below]
  · have begun : Holds first past [] ⟨first, past, first, []⟩ :=
      .fresh (r := ⟨first, past, first, []⟩) ⟨firstEven, pastEven, below, word⟩ rfl rfl
    exact (begun.serveAll requests).exact

theorem reservations_exact_topmost : ∃ r, make 65528 65534 = .ok r ∧
    let requests : List Request := [.reserve "audio" true, .reserve "video" false, .freePair 65528,
      .reserve "data" true, .freePair 65530, .reserve "audio" true]
    Exact 65528 65534 (r.serveAll requests).1 (r.serveAll requests).2 ∧
      (r.serveAll requests).2.reserved.map (·.id) = [65528, 65532, 65530] ∧
      ((r.serveAll requests).2.reserve "more" false).1 = .error (.portRangeExhausted 65528 65534) := by
  obtain ⟨r, made, all⟩ := @reservations_exact 65528 65534 (by decide) (by decide) (by decide)
    (by decide)
  obtain rfl : (⟨65528, 65534, 65528, []⟩ : PortRange) = r := Except.ok.inj made
  exact ⟨_, made, all _, by decide, by decide⟩

end PortRange

end Tickflow
