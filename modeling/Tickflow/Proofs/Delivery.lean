import Tickflow.Proofs.Atomic
/-!
An ordered link loses nothing in silence. From the moment it is made, every number that its output
gives is read from the link, waits in it, was refused by it, or is that of the one message that is on
its way.
-/
namespace Tickflow

namespace Flow

open Engine

variable {f g : Flow} {s t u : List Event} {l : Link} {n : CellId}

theorem stored_refused_perm (n : CellId) (t : List Event) :
    (stored n t ++ refused n t).Perm ((outcomes n t).map (·.1)) := by
  rw [stored, refused, ← List.map_append]
  exact (List.filter_append_perm _ _).map _

theorem queue_numbers {capacity : Nat} {queue : List (Entry Message)}
    (filled : (Slots.ordered capacity queue).Filled (stored n t) (taken n t)) :
    Message.numbers (taken n t) ++ Entry.numbers queue = Entry.numbers (stored n t) := by
  obtain ⟨gone, parts, values⟩ := filled
  rw [parts, ← values]
  simp [Message.numbers, Entry.numbers]

/-- The numbers that the output of an ordered link gives from the moment the link is made are read,
wait, were refused or are on their way, each of them once, and they are read and wait in rising order.
All that the link ever answers is that it took the message or that it is full. -/
theorem ordered_complete {f₀ f₁ f₂ : Flow} {c : Cell Message} {capacity : Nat}
    {queue : List (Entry Message)} (before : Traced s f₀) (made : Step f₀ u f₁)
    (old : l ∉ f₀.engine.links) (new : l ∈ f₁.engine.links) (run : Run f₁ t f₂)
    (here : f₂.engine.cells[l.cell]? = some c) (isOpen : c.closed = false)
    (ordered : c.slots = .ordered capacity queue) :
    ∃ q₁ q₂, f₁.engine.output? l.source = some q₁ ∧ f₂.engine.output? l.source = some q₂ ∧
      q₁.nextSequence ≤ q₂.nextSequence ∧
      (Message.numbers (taken l.cell t) ++ Entry.numbers queue ++
        Entry.numbers (refused l.cell t) ++ f₂.undecided l).Perm
          (List.range' q₁.nextSequence (q₂.nextSequence - q₁.nextSequence)) ∧
      (f₂.parcels l.source = none → f₂.undecided l = []) ∧
      (Message.numbers (taken l.cell t) ++ Entry.numbers queue).Pairwise (· < ·) ∧
      (∀ o ∈ outcomes l.cell t, o.2 = .ok () ∨ o.2 = .error (.bufferFull c.label)) ∧
      c.stats.droppedChunks = (refused l.cell t).length := by
  obtain ⟨calm, bound⟩ := new_calm before made old new
  obtain ⟨unsettled, unread⟩ := traced_inside before _ bound
  have holds := traced_holds ((before.next made).append run) here
  -- The trace has nothing of the cell before the link was made.
  have since : outcomes l.cell (s ++ u ++ t) = outcomes l.cell t := by
    simp [unsettled, calm.silent.outcomes]
  have since' : taken l.cell (s ++ u ++ t) = taken l.cell t := by
    simp [unread, calm.silent.taken]
  have filled := holds.filled isOpen
  rw [stored, since, since', ordered] at filled
  obtain ⟨q₁, found₁, first⟩ := ledger_new before made old new (u := []) rfl
  obtain ⟨ledger, _⟩ := run_ledger (before.next made) new first run
  obtain ⟨q₂, found₂, low, numbers⟩ := ledger.numbers
  have queued := queue_numbers filled
  refine ⟨q₁, q₂, found₁, found₂, low, ?_, undecided_free, ?_, ?_, ?_⟩
  · rw [queued, ← numbers]
    refine List.Perm.append_right _ ?_
    have split := (stored_refused_perm l.cell t).map (·.value.sequence)
    rw [List.map_append, List.map_map] at split
    exact split
  · rw [queued]
    exact ledger.stored_numbers_rise
  · rw [← since]
    exact holds.results
  · rw [holds.dropped, refused, since]
    rfl

/-- Three messages on a link with room for one: the second is refused, the first is read, and the
third waits. -/
def tight : Flow :=
  (((atRest (linked (.orderedAll 1))).wrote source (note 0)).wrote source (note 1)).got sink none
    |>.wrote source (note 2)

theorem ordered_complete_tight : ∃ t, Run (atRest (linked (.orderedAll 1))) t tight ∧
    Message.numbers (taken 0 t) = [0] ∧ Entry.numbers (refused 0 t) = [1] ∧
    (Message.numbers (taken 0 t) ++ [2] ++ Entry.numbers (refused 0 t) ++
      tight.undecided ⟨source, sink, 0⟩).Perm (List.range' 0 3) := by
  let f₁ := atRest (linked (.orderedAll 1))
  let f₂ := f₁.wrote source (note 0)
  let f₃ := f₂.wrote source (note 1)
  let f₄ := f₃.got sink none
  have w : f₁.engine.Wired := traced_wired ((source_and_sink_traced _).next (linked_step _))
  have first : Run f₁ (written source (note 0) f₁.engine) f₂ := wrote_run w source rfl (note 0)
  have w₂ := run_wired w first
  have second : Run f₂ (written source (note 1) f₂.engine) f₃ := wrote_run w₂ source rfl (note 1)
  have w₃ := run_wired w₂ second
  have third : Run f₃ (seen sink none none f₃.engine) f₄ := got_run sink none (by simp)
  have w₄ := run_wired w₃ third
  have fourth : Run f₄ (written source (note 2) f₄.engine) tight := wrote_run w₄ source rfl (note 2)
  have run := ((first.trans second).trans third).trans fourth
  obtain ⟨q₁, q₂, found₁, found₂, _, all, _⟩ := ordered_complete (l := ⟨source, sink, 0⟩)
    (source_and_sink_traced _) (linked_step _) (by decide +kernel) (by decide +kernel) run
    (c := tight.engine.cells.get ⟨0, by decide +kernel⟩) rfl rfl
    (show _ = Slots.ordered 1 [⟨(note 2).withSequence 2, 3⟩] from rfl)
  cases found₁
  cases found₂
  exact ⟨_, run, by decide +kernel, by decide +kernel, all⟩

end Flow

end Tickflow
