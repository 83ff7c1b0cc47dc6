import Tickflow.Proofs.Lookup
/-!
What reading and writing leave alone in cells and ports. A cell keeps its label, its policy and whether
it is closed; one that is closed and empty stays entirely as it is.
-/
namespace Tickflow

theorem set_same {xs : List α} {i : Nat} {x : α} (at_i : xs[i]? = some x) : xs.set i x = xs := by
  obtain ⟨bound, rfl⟩ := List.getElem?_eq_some_iff.mp at_i
  exact List.set_getElem_self bound

theorem map_set_same {f : α → β} {xs : List α} {i : Nat} {x y : α} (at_i : xs[i]? = some x)
    (same : f y = f x) : (xs.set i y).map f = xs.map f := by
  rw [List.map_set, same]
  exact set_same (by simp [at_i])

namespace Cell

def emptied (c : Cell α) : Cell α := { c with slots := c.slots.cleared, stats := ⟨0, 0, 0, 0⟩ }

structure Dead (c : Cell α) : Prop where
  closed : c.closed = true
  empty : c.slots = c.slots.cleared

theorem cleared_cleared (s : Slots α) : s.cleared.cleared = s.cleared := by cases s <;> rfl

theorem cleared_policy (s : Slots α) : s.cleared.policy = s.policy := by cases s <;> rfl

theorem emptied_policy (c : Cell α) : c.emptied.policy = c.policy := cleared_policy c.slots

theorem write_emptied (start : Nat) (value : α) (c : Cell α) :
    (c.write start value).2.emptied = c.emptied := by
  obtain ⟨label, slots, closed, stats⟩ := c
  cases closed with
  | true => rfl
  | false =>
    cases slots with
    | latest current shadow currentRead => rfl
    | ordered capacity queue =>
      simp only [write, Bool.false_eq_true, ↓reduceIte]
      split <;> rfl

theorem take_cleared (cutoff : Option Nat) (s : Slots α) :
    (take cutoff s).2.cleared = s.cleared := by
  cases s with
  | latest current shadow currentRead => simp only [take]; split <;> rfl
  | ordered capacity queue =>
    cases queue with
    | nil => rfl
    | cons e rest => simp only [take]; split <;> rfl

theorem read_emptied (cutoff : Option Nat) (c : Cell α) :
    (c.read cutoff).2.emptied = c.emptied := by
  simp [read, emptied, take_cleared]

theorem close_dead (c : Cell α) : c.close.Dead := ⟨rfl, (cleared_cleared c.slots).symm⟩

theorem close_emptied (c : Cell α) :
    { c.close.emptied with closed := false } = { c.emptied with closed := false } := by
  simp [close, clear, emptied, cleared_cleared]

theorem Dead.write {c : Cell α} (dead : c.Dead) (start : Nat) (value : α) :
    c.write start value = (.ok (), c) := by
  simp [Cell.write, dead.closed]

theorem Dead.mustWait {c : Cell α} (dead : c.Dead) : c.mustWait = false := by
  simp [Cell.mustWait, dead.closed]

theorem Dead.length {c : Cell α} (dead : c.Dead) : c.length = 0 := by
  rw [Cell.length, dead.empty]
  cases c.slots <;> rfl

theorem Dead.read {c : Cell α} (dead : c.Dead) (cutoff : Option Nat) :
    c.read cutoff = (none, c) := by
  have nothing : take cutoff c.slots = (none, c.slots) := by
    rw [dead.empty]
    cases c.slots <;> rfl
  simp [Cell.read, nothing]

end Cell

def DeadStay (before after : CellStore) : Prop :=
  ∀ (i : CellId) (c : Cell Message), before[i]? = some c → c.Dead → after[i]? = some c

theorem dead_stay_refl (store : CellStore) : DeadStay store store := fun _ _ at_i _ => at_i

theorem dead_stay_trans {a b c : CellStore} (first : DeadStay a b) (second : DeadStay b c) :
    DeadStay a c := fun i d at_i dead => second i d (first i d at_i dead) dead

theorem dead_stay_set {store : CellStore} {i : CellId} {c d : Cell Message}
    (at_i : store[i]? = some c) (same : c.Dead → d = c) : DeadStay store (store.set i d) := by
  intro j x at_j dead
  by_cases eq : i = j
  · subst j
    have : x = c := Option.some.inj (at_j.symm.trans at_i)
    subst x
    rw [same dead, set_same at_i]
    exact at_i
  · rw [List.getElem?_set_ne eq]
    exact at_j

theorem input_read_emptied (cutoff : Option Nat) (p : InputPort) (store : CellStore) :
    (p.read cutoff store).2.map Cell.emptied = store.map Cell.emptied := by
  unfold InputPort.read
  split
  · rfl
  · split
    · rfl
    · rename_i at_i
      exact map_set_same at_i (Cell.read_emptied _ _)

theorem input_read_dead (cutoff : Option Nat) (p : InputPort) (store : CellStore) :
    DeadStay store (p.read cutoff store).2 := by
  unfold InputPort.read
  split
  · exact dead_stay_refl store
  · split
    · exact dead_stay_refl store
    · rename_i at_i
      exact dead_stay_set at_i fun dead => by rw [dead.read]

theorem deliver_emptied (start : Nat) (m : Message) (ids : List CellId) (store : CellStore) :
    (OutputPort.deliver start m ids store).2.map Cell.emptied = store.map Cell.emptied := by
  induction ids generalizing store with
  | nil => rfl
  | cons id rest ih =>
    simp only [OutputPort.deliver]
    split
    · exact ih store
    · rename_i at_id
      rw [ih]
      exact map_set_same at_id (Cell.write_emptied _ _ _)

theorem deliver_dead (start : Nat) (m : Message) (ids : List CellId) (store : CellStore) :
    DeadStay store (OutputPort.deliver start m ids store).2 := by
  induction ids generalizing store with
  | nil => exact dead_stay_refl store
  | cons id rest ih =>
    simp only [OutputPort.deliver]
    split
    · exact ih store
    · rename_i at_id
      exact dead_stay_trans (dead_stay_set at_id fun dead => by rw [dead.write]) (ih _)

def OutputPort.unused (q : OutputPort) : OutputPort := { q with nextSequence := 0 }

theorem output_write_unused (start : Nat) (m : Message) (q : OutputPort) (store : CellStore) :
    (q.write start m store).2.1.unused = q.unused := by
  unfold OutputPort.write
  split <;> rfl

theorem output_write_emptied (start : Nat) (m : Message) (q : OutputPort) (store : CellStore) :
    (q.write start m store).2.2.map Cell.emptied = store.map Cell.emptied := by
  unfold OutputPort.write
  split
  · rfl
  · exact deliver_emptied _ _ _ _

theorem output_write_dead (start : Nat) (m : Message) (q : OutputPort) (store : CellStore) :
    DeadStay store (q.write start m store).2.2 := by
  unfold OutputPort.write
  split
  · exact dead_stay_refl store
  · exact deliver_dead _ _ _ _

end Tickflow
