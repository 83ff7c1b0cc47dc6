import Tickflow.Proofs.Steps
/-!
What is in a cell, told from the trace. A latest-wins cell shows the last two values that were stored
in it; a queue holds all that were stored in it less those at the front that were read.
-/
namespace Tickflow

open Engine

/-- What slots hold after the entries `all` were stored in them and the values `got` were read. -/
def Slots.Filled (all : List (Entry α)) (got : List α) : Slots α → Prop
  | .latest current shadow _ => current = all.getLast? ∧ shadow = all.dropLast.getLast?
  | .ordered _ queue => ∃ gone, all = gone ++ queue ∧ gone.map (·.value) = got

theorem cleared_filled {s : Slots α} (empty : s = s.cleared) : s.Filled [] [] := by
  cases s with
  | latest current shadow currentRead =>
    cases empty
    exact ⟨rfl, rfl⟩
  | ordered capacity queue =>
    cases empty
    exact ⟨[], rfl, rfl⟩

theorem take_filled {all : List (Entry α)} {got : List α} {s : Slots α} (filled : s.Filled all got)
    (cutoff : Option Nat) :
    (Cell.take cutoff s).2.Filled all (got ++ (Cell.take cutoff s).1.toList) := by
  cases s with
  | latest current shadow currentRead =>
    simp only [Cell.take]
    split <;> exact filled
  | ordered capacity queue =>
    obtain ⟨gone, parts, values⟩ := filled
    cases queue with
    | nil => exact ⟨gone, parts, by simpa [Cell.take] using values⟩
    | cons e rest =>
      simp only [Cell.take]
      split
      · exact ⟨gone ++ [e], by simpa using parts, by simp [values]⟩
      · exact ⟨gone, parts, by simpa using values⟩

theorem visible_by {cutoff : Option Nat} {e : Entry α} (seen : Cell.Entry.isVisible cutoff e = true) :
    ∀ limit, cutoff = some limit → e.writtenAt ≤ limit := by
  rintro limit rfl
  simpa [Cell.Entry.isVisible] using seen

theorem take_stored {all : List (Entry α)} {got : List α} {s : Slots α} (filled : s.Filled all got)
    {cutoff : Option Nat} {value : α} (read : (Cell.take cutoff s).1 = some value) :
    ∃ e ∈ all, e.value = value ∧ ∀ limit, cutoff = some limit → e.writtenAt ≤ limit := by
  cases s with
  | latest current shadow currentRead =>
    obtain ⟨rfl, rfl⟩ := filled
    simp only [Cell.take] at read
    split at read
    · rename_i e visible
      cases read
      obtain ⟨last, seen⟩ := Option.filter_eq_some_iff.mp visible
      exact ⟨e, List.mem_of_getLast? last, rfl, visible_by seen⟩
    · obtain ⟨e, visible, rfl⟩ := Option.map_eq_some_iff.mp read
      obtain ⟨last, seen⟩ := Option.filter_eq_some_iff.mp visible
      exact ⟨e, (List.dropLast_sublist all).subset (List.mem_of_getLast? last), rfl,
        visible_by seen⟩
  | ordered capacity queue =>
    obtain ⟨gone, rfl, _⟩ := filled
    cases queue with
    | nil => cases read
    | cons e rest =>
      simp only [Cell.take] at read
      split at read
      · rename_i seen
        cases read
        exact ⟨e, by simp, rfl, visible_by seen⟩
      · cases read

theorem write_open {c : Cell α} (isOpen : c.closed = false) (start : Nat) (value : α) :
    ((c.write start value).1 = .ok () ∧
      (c.write start value).2.stats.droppedChunks = c.stats.droppedChunks ∧
      ∀ all got, c.slots.Filled all got →
        (c.write start value).2.slots.Filled (all ++ [⟨value, start⟩]) got) ∨
    ((c.write start value).1 = .error (.bufferFull c.label) ∧
      (c.write start value).2.stats.droppedChunks = c.stats.droppedChunks + 1 ∧
      (c.write start value).2.slots = c.slots) := by
  obtain ⟨label, slots, closed, stats⟩ := c
  cases isOpen
  cases slots with
  | latest current shadow currentRead =>
    refine .inl ⟨rfl, rfl, ?_⟩
    rintro all got ⟨rfl, _⟩
    exact ⟨by simp, by simp⟩
  | ordered capacity queue =>
    simp only [Cell.write, Bool.false_eq_true, ↓reduceIte]
    split
    · refine .inl ⟨rfl, rfl, ?_⟩
      rintro all got ⟨gone, rfl, values⟩
      exact ⟨gone, by simp, values⟩
    · exact .inr ⟨rfl, rfl, rfl⟩

theorem write_closed {c : Cell α} (closed : c.closed = true) (start : Nat) (value : α) :
    c.write start value = (.ok (), c) := by
  simp [Cell.write, closed]

theorem read_slots (cutoff : Option Nat) (c : Cell α) :
    (c.read cutoff).1 = (Cell.take cutoff c.slots).1 ∧
      (c.read cutoff).2.slots = (Cell.take cutoff c.slots).2 ∧
      (c.read cutoff).2.closed = c.closed ∧
      (c.read cutoff).2.stats.droppedChunks = c.stats.droppedChunks := ⟨rfl, rfl, rfl, rfl⟩

/-- The cell holds what the trace says, or it was closed. -/
structure Cell.Holds (t : List Event) (n : CellId) (c : Cell Message) : Prop where
  results : ∀ o ∈ outcomes n t, o.2 = .ok () ∨ o.2 = .error (.bufferFull c.label)
  dropped : c.stats.droppedChunks = (refused n t).length
  slots : c.Dead ∨ (c.closed = false ∧ c.slots.Filled (stored n t) (taken n t))

theorem Cell.Holds.dead {t : List Event} {n : CellId} {c : Cell Message} (holds : c.Holds t n)
    (closed : c.closed = true) : c.Dead := by
  rcases holds.slots with dead | ⟨isOpen, _⟩
  · exact dead
  · rw [closed] at isOpen
    cases isOpen

theorem Cell.Holds.filled {t : List Event} {n : CellId} {c : Cell Message} (holds : c.Holds t n)
    (isOpen : c.closed = false) : c.slots.Filled (stored n t) (taken n t) := by
  rcases holds.slots with dead | ⟨_, filled⟩
  · rw [dead.closed] at isOpen
    cases isOpen
  · exact filled

theorem Cell.Holds.found {t : List Event} {n : CellId} {c : Cell Message} (holds : c.Holds t n)
    {cutoff : Option Nat} {m : Message} (got : (c.read cutoff).1 = some m) :
    ∃ e ∈ stored n t, e.value = m ∧ ∀ limit, cutoff = some limit → e.writtenAt ≤ limit := by
  rcases holds.slots with dead | ⟨_, filled⟩
  · rw [dead.read] at got
    cases got
  · exact take_stored filled got

section
variable {n : CellId} {s t : List Event} (nothing : outcomes n s = [])
include nothing

theorem stored_none : stored n (t ++ s) = stored n t := by
  rw [stored_append, stored, stored, nothing]
  exact List.append_nil _

theorem refused_none : refused n (t ++ s) = refused n t := by
  rw [refused_append, refused, refused, nothing]
  exact List.append_nil _

end

theorem Cell.Holds.silent {n : CellId} {s t : List Event} {c : Cell Message} (holds : c.Holds t n)
    (unsettled : outcomes n s = []) (unread : taken n s = []) : c.Holds (t ++ s) n := by
  refine ⟨?_, ?_, ?_⟩
  · rw [outcomes_append, unsettled, List.append_nil]
    exact holds.results
  · rw [refused_none unsettled]
    exact holds.dropped
  · rw [stored_none unsettled, taken_append, unread, List.append_nil]
    exact holds.slots

theorem Cell.Holds.read {n : CellId} {t : List Event} {c : Cell Message} (holds : c.Holds t n)
    (a : PortAddress) (look : Option Look) (cutoff : Option Nat) :
    (c.read cutoff).2.Holds (t ++ [.read a n look (c.read cutoff).1]) n := by
  have got : taken n [.read a n look (c.read cutoff).1] = (Cell.take cutoff c.slots).1.toList := by
    rw [← (read_slots cutoff c).1]
    cases (c.read cutoff).1 <;> simp [taken, Event.taken?]
  refine ⟨?_, ?_, ?_⟩
  · rw [outcomes_append, show outcomes n [_] = [] from rfl, List.append_nil]
    exact holds.results
  · rw [refused_none rfl]
    exact holds.dropped
  · rw [stored_none rfl, taken_append, got]
    rcases holds.slots with dead | ⟨isOpen, filled⟩
    · rw [dead.read]
      exact .inl dead
    · exact .inr ⟨isOpen, take_filled filled cutoff⟩

theorem outcomes_settled (n : CellId) (e : Entry Message) (r : Except Fault Unit) :
    outcomes n [.settled n e r] = [(e, r)] := by
  simp [outcomes, Event.outcome?]

theorem Cell.Holds.write {n : CellId} {t : List Event} {c : Cell Message} (holds : c.Holds t n)
    (start : Nat) (m : Message) :
    (c.write start m).2.Holds (t ++ [.settled n ⟨m, start⟩ (c.write start m).1]) n := by
  have untaken : taken n [.settled n ⟨m, start⟩ (c.write start m).1] = [] := rfl
  have settled := outcomes_settled n ⟨m, start⟩ (c.write start m).1
  have label : (c.write start m).2.label = c.label :=
    (congrArg Cell.label (write_emptied start m c) :)
  have more {r : Except Fault Unit} (known : r = .ok () ∨ r = .error (.bufferFull c.label)) :
      ∀ o ∈ outcomes n (t ++ [.settled n ⟨m, start⟩ r]),
        o.2 = .ok () ∨ o.2 = .error (.bufferFull c.label) := by
    intro o mem
    rw [outcomes_append, outcomes_settled] at mem
    rcases List.mem_append.mp mem with old | new
    · exact holds.results o old
    · rw [List.mem_singleton.mp new]
      exact known
  cases closed : c.closed with
  | true =>
    rw [write_closed closed] at settled ⊢
    refine ⟨more (.inl rfl), ?_, .inl (holds.dead closed)⟩
    rw [refused_append, refused, refused, settled]
    simpa [Except.isOk, Except.toBool, refused] using holds.dropped
  | false =>
    have filled := holds.filled closed
    have stays : (c.write start m).2.closed = false := by
      have same := congrArg Cell.closed (write_emptied start m c)
      exact same.trans closed
    rcases write_open closed start m with ⟨ok, dropped, fills⟩ | ⟨error, dropped, same⟩
    · rw [ok] at settled untaken ⊢
      refine ⟨label ▸ more (.inl rfl), ?_, .inr ⟨stays, ?_⟩⟩
      · rw [dropped, holds.dropped, refused_append]
        simp [refused, settled, Except.isOk, Except.toBool]
      · rw [stored_append, taken_append, untaken, List.append_nil]
        simpa [stored, settled, Except.isOk, Except.toBool] using fills _ _ filled
    · rw [error] at settled untaken ⊢
      refine ⟨label ▸ more (.inr rfl), ?_, .inr ⟨stays, ?_⟩⟩
      · rw [dropped, holds.dropped, refused_append]
        simp [refused, settled, Except.isOk, Except.toBool]
      · rw [stored_append, taken_append, untaken, List.append_nil, same]
        simpa [stored, settled, Except.isOk, Except.toBool] using filled

namespace Flow

variable {f g : Flow} {s t : List Event}

/-- Cells are numbered as they are made, so the trace has nothing of cells to come. -/
def Inside (t : List Event) (f : Flow) : Prop :=
  ∀ n, f.engine.cells.length ≤ n → outcomes n t = [] ∧ taken n t = []

theorem outcomes_elsewhere {n : CellId} {e : Entry Message} {r : Except Fault Unit} {m : CellId}
    (other : m ≠ n) : outcomes n [.settled m e r] = [] := by
  simp [outcomes, Event.outcome?, other]

theorem taken_elsewhere {n m : CellId} {a : PortAddress} {look : Option Look} {x : Option Message}
    (other : m ≠ n) : taken n [.read a m look x] = [] := by
  simp [taken, Event.taken?, other]

theorem traced_inside (run : Traced t f) : Inside t f := by
  induction run with
  | fresh made r => exact fun n _ => ⟨rfl, rfl⟩
  | @next t s f g run step ih =>
    intro n bound
    rcases step_calm (traced_wired run) step with calm | move
    · obtain ⟨old, old'⟩ := ih n (Nat.le_trans calm.arranged.count bound)
      rw [outcomes_append, taken_append, calm.silent.outcomes, calm.silent.taken, old, old']
      exact ⟨rfl, rfl⟩
    · have there {m : CellId} {c : Cell Message} (here : f.engine.cells[m]? = some c) :
          m < f.engine.cells.length := (List.getElem?_eq_some_iff.mp here).1
      rw [outcomes_append, taken_append]
      cases move with
      | read a look cutoff found fed here =>
        rw [fill_cells, List.length_set] at bound
        obtain ⟨old, old'⟩ := ih n bound
        rw [old, old', taken_elsewhere (Nat.ne_of_lt (Nat.lt_of_lt_of_le (there here) bound))]
        exact ⟨rfl, rfl⟩
      | settle source held here =>
        rw [carry_engine, fill_cells, List.length_set] at bound
        obtain ⟨old, old'⟩ := ih n bound
        rw [old, old', outcomes_elsewhere (Nat.ne_of_lt (Nat.lt_of_lt_of_le (there here) bound))]
        exact ⟨rfl, rfl⟩
      | number | enter | done =>
        obtain ⟨old, old'⟩ := ih n bound
        rw [old, old']
        exact ⟨rfl, rfl⟩

theorem blank_holds {n : CellId} {c : Cell Message} (blank : c.Blank) (fresh : outcomes n t = [])
    (unread : taken n t = []) : c.Holds t n := by
  refine ⟨by simp [fresh], ?_, ?_⟩
  · rw [refused, fresh]
    exact blank.2
  · rw [stored, fresh, unread]
    cases closed : c.closed with
    | true => exact .inl ⟨closed, blank.1⟩
    | false => exact .inr ⟨rfl, cleared_filled blank.1⟩

theorem close_holds {n : CellId} {c : Cell Message} (holds : c.Holds t n) : c.close.Holds t n :=
  ⟨holds.results, holds.dropped, .inl (Cell.close_dead c)⟩

theorem traced_holds (run : Traced t f) {n : CellId} {c : Cell Message}
    (here : f.engine.cells[n]? = some c) : c.Holds t n := by
  induction run generalizing n c with
  | fresh made r =>
    obtain ⟨_, _, rfl⟩ := make_blank made
    cases here
  | @next t s f g run step ih =>
    have inside := traced_inside (run.next step)
    rcases step_calm (traced_wired run) step with calm | move
    · rcases calm.arranged.cells n c here with ⟨x, before, same⟩ | ⟨bound, blank⟩
      · have kept := (ih before).silent (calm.silent.outcomes n) (calm.silent.taken n)
        rcases same with rfl | rfl
        · exact kept
        · exact close_holds kept
      · obtain ⟨old, old'⟩ := traced_inside run n bound
        have kept : c.Holds t n := blank_holds blank old old'
        exact kept.silent (calm.silent.outcomes n) (calm.silent.taken n)
    · cases move with
      | @read a p m x look cutoff found fed before =>
        rw [fill_cells, List.getElem?_set] at here
        split at here
        · rename_i same
          subst m
          split at here
          · cases here
            exact (ih before).read a look cutoff
          · cases here
        · rename_i other
          exact (ih here).silent rfl (taken_elsewhere other)
      | @settle source message m rest start x held before =>
        rw [carry_engine, fill_cells, List.getElem?_set] at here
        split at here
        · rename_i same
          subst m
          split at here
          · cases here
            exact (ih before).write start message
          · cases here
        · rename_i other
          exact (ih here).silent (outcomes_elsewhere other) rfl
      | number | enter | done => exact (ih here).silent rfl rfl

end Flow

end Tickflow
