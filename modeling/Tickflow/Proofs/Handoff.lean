import Mathlib.Data.List.DropRight
import Tickflow.Proofs.Contents
import Tickflow.Proofs.Uses
/-!
A queue between one writer and whoever reads, empties or closes it. A write begins, gets hold of the
cell, and is decided then if there is room or it has no time to wait; else it waits until there is room,
the cell is closed, or its time is up. Between any two of these moments the other side may act.
-/
namespace Tickflow

def Slots.queue : Slots α → List (Entry α)
  | .latest _ _ _ => []
  | .ordered _ queue => queue

@[simp] theorem Slots.queue_ordered (capacity : Nat) (queue : List (Entry α)) :
    (Slots.ordered capacity queue).queue = queue := rfl

inductive Writer (α : Type) where
  | idle
  | coming (e : Entry α) (timeout : Nat)
  | waiting (e : Entry α) (deadline : Nat)

def Writer.entry? : Writer α → Option (Entry α)
  | .idle => none
  | .coming e _ => some e
  | .waiting e _ => some e

structure Handoff (α : Type) where
  cell : Cell α
  writer : Writer α
  now : Nat

namespace Handoff

/-- What can be seen of a cell and its writer. `decided` tells the result of a write and whether the
cell was closed at that moment, `cleared` what was thrown away. -/
inductive Deed (α : Type) where
  | begun (e : Entry α)
  | delayed
  | decided (e : Entry α) (result : Except Fault Unit) (closed : Bool)
  | got (value : Option α)
  | cleared (lost : List (Entry α))
  | shut
  | passed

namespace Deed

def begun? : Deed α → Option (Entry α)
  | .begun e => some e
  | _ => none

def decided? : Deed α → Option (Entry α)
  | .decided e _ _ => some e
  | _ => none

def stored? : Deed α → Option (Entry α)
  | .decided e (.ok ()) false => some e
  | _ => none

def refused? : Deed α → Option (Entry α)
  | .decided e (.error _) _ => some e
  | _ => none

def got? : Deed α → Option α
  | .got value => value
  | _ => none

def lost : Deed α → List (Entry α)
  | .cleared lost => lost
  | _ => []

def isCleared : Deed α → Bool
  | .cleared _ => true
  | _ => false

end Deed

/-- Whether the write is to be decided now: it need not wait, or may not. -/
def Due (s : Handoff α) (e : Entry α) : Prop :=
  match s.writer with
  | .idle => False
  | .coming e' timeout => e' = e ∧ (s.cell.mustWait = false ∨ timeout = 0)
  | .waiting e' deadline => e' = e ∧ (s.cell.mustWait = false ∨ deadline ≤ s.now)

/-- The cell is closed in two moves, `shut` and then `clear`; a writer or a reader may come between. -/
inductive Step : Handoff α → Deed α → Handoff α → Prop where
  | begin {s : Handoff α} (value : α) (timeout : Nat) (idle : s.writer = .idle) :
      Step s (.begun ⟨value, s.now⟩) { s with writer := .coming ⟨value, s.now⟩ timeout }
  | wait {s : Handoff α} {e : Entry α} {timeout : Nat} (coming : s.writer = .coming e timeout)
      (full : s.cell.mustWait = true) (time : timeout ≠ 0) :
      Step s .delayed { s with writer := .waiting e (s.now + timeout) }
  | decide {s : Handoff α} {e : Entry α} (due : s.Due e) :
      Step s (.decided e (s.cell.write e.writtenAt e.value).1 s.cell.closed)
        { s with cell := (s.cell.write e.writtenAt e.value).2, writer := .idle }
  | read {s : Handoff α} (cutoff : Option Nat) :
      Step s (.got (s.cell.read cutoff).1) { s with cell := (s.cell.read cutoff).2 }
  | clear {s : Handoff α} : Step s (.cleared s.cell.slots.queue) { s with cell := s.cell.clear }
  | shut {s : Handoff α} : Step s .shut { s with cell := { s.cell with closed := true } }
  | pass {s : Handoff α} {time : Nat} (later : s.now ≤ time) :
      Step s .passed { s with now := time }

inductive Run : Handoff α → List (Deed α) → Handoff α → Prop where
  | rest (s : Handoff α) : Run s [] s
  | next {s m s' : Handoff α} {t : List (Deed α)} {d : Deed α} (run : Run s t m)
      (step : Step m d s') : Run s (t ++ [d]) s'

section
variable {s m s' : Handoff α} {t u : List (Deed α)} {d : Deed α}

theorem Step.run (step : Step s d s') : Run s [d] s' := .next (.rest s) step

theorem Run.append (first : Run s t m) (then_ : Run m u s') : Run s (t ++ u) s' := by
  induction then_ with
  | rest => simpa using first
  | next _ step ih =>
    rw [← List.append_assoc]
    exact ih.next step

theorem close_run (s : Handoff α) :
    Run s [.shut, .cleared s.cell.slots.queue] { s with cell := s.cell.close } :=
  (Step.shut (s := s)).run.next .clear

end

section
variable (t : List (Deed α))

def begun : List (Entry α) := t.filterMap Deed.begun?

def decided : List (Entry α) := t.filterMap Deed.decided?

def stored : List (Entry α) := t.filterMap Deed.stored?

def refused : List (Entry α) := t.filterMap Deed.refused?

def gotten : List α := t.filterMap Deed.got?

def lost : List (Entry α) := t.flatMap Deed.lost

def recent : List (Deed α) := t.rtakeWhile (!·.isCleared)

end

/-- A queue holds what the trace says, and its counts are those of the trace. -/
structure Accounts (capacity : Nat) (label : String) (t : List (Deed α)) (c : Cell α) : Prop where
  label : c.label = label
  slots : c.slots = .ordered capacity c.slots.queue
  bounded : c.slots.queue.length ≤ capacity
  filled : c.slots.Filled (stored (recent t)) (gotten (recent t))
  writes : c.stats.writes = (stored t).length
  reads : c.stats.reads = (gotten t).length
  dropped : c.stats.droppedChunks = (refused t).length
  balance : c.stats.writes = c.stats.reads + c.slots.queue.length + (lost t).length

section
variable {c : Cell α} {capacity : Nat} {queue : List (Entry α)}

theorem write_queue (slots : c.slots = .ordered capacity queue) (e : Entry α) :
    (c.closed = true ∧ c.write e.writtenAt e.value = (.ok (), c)) ∨
    (c.closed = false ∧ queue.length < capacity ∧ c.write e.writtenAt e.value =
      (.ok (), { c with
        slots := .ordered capacity (queue ++ [e])
        stats := { c.stats with writes := c.stats.writes + 1 } })) ∨
    (c.closed = false ∧ capacity ≤ queue.length ∧ c.write e.writtenAt e.value =
      (.error (.bufferFull c.label),
        { c with stats := { c.stats with droppedChunks := c.stats.droppedChunks + 1 } })) := by
  cases closed : c.closed with
  | true => exact .inl ⟨rfl, write_closed closed e.writtenAt e.value⟩
  | false =>
    by_cases room : queue.length < capacity
    · refine .inr (.inl ⟨rfl, room, ?_⟩)
      simp [Cell.write, closed, slots, room]
    · refine .inr (.inr ⟨rfl, Nat.le_of_not_lt room, ?_⟩)
      simp [Cell.write, closed, slots, room]

theorem read_queue (slots : c.slots = .ordered capacity queue) (cutoff : Option Nat) :
    (∃ e rest, queue = e :: rest ∧ Cell.Entry.isVisible cutoff e = true ∧ c.read cutoff =
      (some e.value, { c with
        slots := .ordered capacity rest
        stats := { c.stats with reads := c.stats.reads + 1 } })) ∨
    (queue.head?.any (Cell.Entry.isVisible cutoff) = false ∧ c.read cutoff = (none, c)) := by
  obtain ⟨label, _, closed, stats⟩ := c
  cases slots
  cases queue with
  | nil => exact .inr ⟨rfl, rfl⟩
  | cons e rest =>
    by_cases seen : Cell.Entry.isVisible cutoff e = true
    · refine .inl ⟨e, rest, rfl, seen, ?_⟩
      simp [Cell.read, Cell.take, seen]
    · refine .inr ⟨by simpa using seen, ?_⟩
      simp [Cell.read, Cell.take, seen]

end

section
variable (t : List (Deed α)) (d : Deed α)

theorem filterMap_concat (f : Deed α → Option β) :
    (t ++ [d]).filterMap f = t.filterMap f ++ (f d).toList := by
  rw [List.filterMap_append]
  cases found : f d <;> simp [found]

@[simp] theorem begun_concat : begun (t ++ [d]) = begun t ++ d.begun?.toList :=
  filterMap_concat t d Deed.begun?

@[simp] theorem decided_concat : decided (t ++ [d]) = decided t ++ d.decided?.toList :=
  filterMap_concat t d Deed.decided?

@[simp] theorem stored_concat : stored (t ++ [d]) = stored t ++ d.stored?.toList :=
  filterMap_concat t d Deed.stored?

@[simp] theorem refused_concat : refused (t ++ [d]) = refused t ++ d.refused?.toList :=
  filterMap_concat t d Deed.refused?

@[simp] theorem gotten_concat : gotten (t ++ [d]) = gotten t ++ d.got?.toList :=
  filterMap_concat t d Deed.got?

@[simp] theorem lost_concat : lost (t ++ [d]) = lost t ++ d.lost := by
  rw [lost, List.flatMap_append, List.flatMap_singleton]
  rfl

end

section
variable {capacity : Nat} {label : String} {t : List (Deed α)} {c : Cell α} {d : Deed α}

theorem recent_concat (t : List (Deed α)) (kept : d.isCleared = false) :
    recent (t ++ [d]) = recent t ++ [d] :=
  List.rtakeWhile_concat_pos _ _ _ (by simp [kept])

structure Deed.Quiet (d : Deed α) : Prop where
  unstored : d.stored? = none
  granted : d.refused? = none
  ungotten : d.got? = none
  unlost : d.lost = []
  kept : d.isCleared = false

theorem Accounts.quiet (accounts : Accounts capacity label t c) (quiet : d.Quiet) :
    Accounts capacity label (t ++ [d]) c := by
  obtain ⟨label, slots, bounded, filled, writes, reads, dropped, balance⟩ := accounts
  obtain ⟨unstored, granted, ungotten, unlost, kept⟩ := quiet
  refine ⟨label, slots, bounded, ?_, ?_, ?_, ?_, ?_⟩
  · rw [recent_concat t kept]
    simpa [unstored, ungotten] using filled
  · simpa [unstored] using writes
  · simpa [ungotten] using reads
  · simpa [granted] using dropped
  · simpa [unlost] using balance

theorem Accounts.decide (accounts : Accounts capacity label t c) (e : Entry α) :
    Accounts capacity label (t ++ [.decided e (c.write e.writtenAt e.value).1 c.closed])
      (c.write e.writtenAt e.value).2 := by
  obtain ⟨label, slots, bounded, filled, writes, reads, dropped, balance⟩ := accounts
  rcases write_queue slots e with
    ⟨closed, written⟩ | ⟨isOpen, room, written⟩ | ⟨isOpen, full, written⟩
  · rw [written, closed]
    exact Accounts.quiet ⟨label, slots, bounded, filled, writes, reads, dropped, balance⟩
      ⟨rfl, rfl, rfl, rfl, rfl⟩
  · obtain ⟨gone, parts, values⟩ := slots ▸ filled
    rw [written, isOpen]
    refine ⟨label, rfl, ?_, ?_, ?_, ?_, ?_, ?_⟩
    · simpa using Nat.succ_le_of_lt room
    · rw [recent_concat t rfl]
      exact ⟨gone, by simp [parts, Deed.stored?], by simp [values, Deed.got?]⟩
    · simpa [Deed.stored?] using writes
    · simpa [Deed.got?] using reads
    · simpa [Deed.refused?] using dropped
    · simp only [Slots.queue_ordered, List.length_append, List.length_singleton, lost_concat,
        Deed.lost, List.append_nil, balance]
      omega
  · rw [written, isOpen]
    refine ⟨label, slots, bounded, ?_, ?_, ?_, ?_, ?_⟩
    · rw [recent_concat t rfl]
      simpa [Deed.stored?, Deed.got?] using filled
    · simpa [Deed.stored?] using writes
    · simpa [Deed.got?] using reads
    · simpa [Deed.refused?] using dropped
    · simpa [Deed.lost] using balance

theorem Accounts.read (accounts : Accounts capacity label t c) (cutoff : Option Nat) :
    Accounts capacity label (t ++ [.got (c.read cutoff).1]) (c.read cutoff).2 := by
  obtain ⟨label, slots, bounded, filled, writes, reads, dropped, balance⟩ := accounts
  rcases read_queue slots cutoff with ⟨e, rest, queue, _, got⟩ | ⟨_, got⟩
  · rw [got]
    rw [queue] at slots bounded balance
    refine ⟨label, rfl, Nat.le_of_succ_le bounded, ?_, ?_, ?_, ?_, ?_⟩
    · rw [recent_concat t rfl]
      obtain ⟨gone, parts, values⟩ := slots ▸ filled
      exact ⟨gone ++ [e], by simp [parts, Deed.stored?], by simp [values, Deed.got?]⟩
    · simpa [Deed.stored?] using writes
    · simpa [Deed.got?] using reads
    · simpa [Deed.refused?] using dropped
    · simp only [Slots.queue_ordered, lost_concat, Deed.lost, List.append_nil,
        List.length_cons] at balance ⊢
      omega
  · rw [got]
    exact Accounts.quiet ⟨label, slots, bounded, filled, writes, reads, dropped, balance⟩
      ⟨rfl, rfl, rfl, rfl, rfl⟩

theorem Accounts.clear (accounts : Accounts capacity label t c) :
    Accounts capacity label (t ++ [.cleared c.slots.queue]) c.clear := by
  obtain ⟨label, slots, bounded, filled, writes, reads, dropped, balance⟩ := accounts
  have emptied : c.clear.slots = .ordered capacity [] := by
    rw [Cell.clear, slots]
    rfl
  have none_recent : recent (t ++ [.cleared c.slots.queue]) = [] :=
    List.rtakeWhile_concat_neg _ _ _ (by simp [Deed.isCleared])
  refine ⟨label, ?_, ?_, ?_, ?_, ?_, ?_, ?_⟩
  · rw [emptied]
    rfl
  · rw [emptied]
    exact Nat.zero_le capacity
  · rw [none_recent, emptied]
    exact ⟨[], rfl, rfl⟩
  · simpa [Cell.clear, Deed.stored?] using writes
  · simpa [Cell.clear, Deed.got?] using reads
  · simpa [Cell.clear, Deed.refused?] using dropped
  · rw [emptied, lost_concat, List.length_append]
    have shifted : c.stats.reads + c.slots.queue.length + (lost t).length =
        c.stats.reads + 0 + ((lost t).length + c.slots.queue.length) := by omega
    exact balance.trans shifted

end

section
variable {capacity : Nat} {label : String} {t : List (Deed α)} {s s' : Handoff α} {d : Deed α}

theorem Accounts.step (accounts : Accounts capacity label t s.cell) (step : Step s d s') :
    Accounts capacity label (t ++ [d]) s'.cell := by
  cases step with
  | begin | wait | pass => exact accounts.quiet ⟨rfl, rfl, rfl, rfl, rfl⟩
  | decide => exact accounts.decide _
  | read cutoff => exact accounts.read cutoff
  | clear => exact accounts.clear
  | shut =>
    obtain ⟨label, slots, bounded, filled, writes, reads, dropped, balance⟩ := accounts
    exact Accounts.quiet ⟨label, slots, bounded, filled, writes, reads, dropped, balance⟩
      ⟨rfl, rfl, rfl, rfl, rfl⟩

theorem Due.pending {e : Entry α} (due : s.Due e) : s.writer.entry? = some e := by
  revert due
  rw [Due]
  cases s.writer with
  | idle => exact False.elim
  | coming | waiting => exact fun due => congrArg some due.1

theorem once_step (once : begun t = decided t ++ s.writer.entry?.toList) (step : Step s d s') :
    begun (t ++ [d]) = decided (t ++ [d]) ++ s'.writer.entry?.toList := by
  rw [begun_concat, decided_concat, once]
  cases step with
  | begin value timeout idle => simp [idle, Deed.begun?, Deed.decided?, Writer.entry?]
  | wait coming => simp [coming, Deed.begun?, Deed.decided?, Writer.entry?]
  | decide due =>
    rw [due.pending]
    simp [Deed.begun?, Deed.decided?, Writer.entry?]
  | read | clear | shut | pass => simp [Deed.begun?, Deed.decided?]

/-- A queue that is full after a step was as full before, and nothing in it moved, unless the step
decided a write. -/
theorem Step.still (step : Step s d s') (accounts : Accounts capacity label t s.cell)
    (positive : 0 < capacity) (undecided : d.decided? = none) (full : s'.cell.mustWait = true) :
    s'.cell.slots = s.cell.slots ∧ s.cell.mustWait = true := by
  have fits {c : Cell α} {queue : List (Entry α)} (slots : c.slots = .ordered capacity queue)
      (room : queue.length < capacity) : c.mustWait = false := by
    simp [Cell.mustWait, slots, Slots.isFull, room]
  cases step with
  | begin | wait | pass => exact ⟨rfl, full⟩
  | decide => cases undecided
  | read cutoff =>
    rcases read_queue accounts.slots cutoff with ⟨e, rest, queue, _, got⟩ | ⟨_, got⟩
    · have bounded := accounts.bounded
      rw [queue] at bounded
      rw [got, fits rfl bounded] at full
      cases full
    · rw [got] at full ⊢
      exact ⟨rfl, full⟩
  | clear =>
    have emptied : s.cell.clear.slots = .ordered capacity [] := by
      rw [Cell.clear, accounts.slots]
      rfl
    rw [fits emptied positive] at full
    cases full
  | shut => cases full

theorem Step.waiting (step : Step s d s') (undecided : d.decided? = none) {e : Entry α}
    {deadline : Nat} (waiting : s.writer = .waiting e deadline) :
    s'.writer = .waiting e deadline := by
  cases step with
  | begin value timeout idle => rw [waiting] at idle; cases idle
  | wait coming => rw [waiting] at coming; cases coming
  | decide => cases undecided
  | read | clear | shut | pass => exact waiting

end

section
variable {capacity : Nat} {label : String} {t u : List (Deed α)} {s m s' : Handoff α}

theorem Run.accounts (run : Run s u s') (accounts : Accounts capacity label t s.cell) :
    Accounts capacity label (t ++ u) s'.cell := by
  induction run with
  | rest => simpa using accounts
  | next _ step ih =>
    rw [← List.append_assoc]
    exact ih.step step

theorem Run.once (run : Run s u s') (idle : s.writer = .idle) :
    begun u = decided u ++ s'.writer.entry?.toList := by
  induction run with
  | rest => rw [idle]; rfl
  | next _ step ih => exact once_step ih step

theorem Run.still (run : Run m u s) (accounts : Accounts capacity label t m.cell)
    (positive : 0 < capacity) (undecided : ∀ d ∈ u, d.decided? = none)
    (full : s.cell.mustWait = true) : m.cell.slots = s.cell.slots := by
  induction run with
  | rest => rfl
  | @next x s u d run step ih =>
    have before : ∀ d ∈ u, d.decided? = none :=
      fun d mem => undecided d (List.mem_append_left _ mem)
    obtain ⟨same, full'⟩ := step.still (run.accounts accounts) positive
      (undecided d (List.mem_append_right _ List.mem_cons_self)) full
    rw [same]
    exact ih before full'

theorem Run.waiting (run : Run m u s) (undecided : ∀ d ∈ u, d.decided? = none) {e : Entry α}
    {deadline : Nat} (waiting : m.writer = .waiting e deadline) :
    s.writer = .waiting e deadline := by
  induction run with
  | rest => exact waiting
  | @next x s u d run step ih =>
    exact step.waiting (undecided d (List.mem_append_right _ List.mem_cons_self))
      (ih fun d mem => undecided d (List.mem_append_left _ mem))

theorem Run.dead (run : Run s u s') (dead : s.cell.Dead) :
    s'.cell = s.cell ∧ stored u = [] ∧ refused u = [] ∧ gotten u = [] := by
  induction run with
  | rest => exact ⟨rfl, rfl, rfl, rfl⟩
  | next _ step ih =>
    obtain ⟨same, unstored, granted, ungotten⟩ := ih
    have dead' := same ▸ dead
    rw [stored_concat, refused_concat, gotten_concat, unstored, granted, ungotten]
    cases step with
    | begin | wait | pass => exact ⟨same, rfl, rfl, rfl⟩
    | decide =>
      rw [dead'.write, dead'.closed]
      exact ⟨same, rfl, rfl, rfl⟩
    | read cutoff =>
      rw [dead'.read]
      exact ⟨same, rfl, rfl, rfl⟩
    | clear =>
      refine ⟨?_, rfl, rfl, rfl⟩
      rw [← same]
      exact dead'.use .clear
    | shut =>
      refine ⟨?_, rfl, rfl, rfl⟩
      rw [← same, ← dead'.closed]

end

def TimeUp (s : Handoff α) : Prop :=
  match s.writer with
  | .idle => False
  | .coming _ timeout => timeout = 0
  | .waiting _ deadline => deadline ≤ s.now

theorem Due.timeUp {s : Handoff α} {e : Entry α} (due : s.Due e) (full : s.cell.mustWait = true) :
    s.TimeUp := by
  revert due
  rw [Due, TimeUp, full]
  cases s.writer with
  | idle => exact id
  | coming | waiting => exact fun due => due.2.resolve_left Bool.noConfusion

inductive Settled (capacity : Nat) (label : String) (s : Handoff α) (e : Entry α) :
    Except Fault Unit → Bool → Cell α → Prop where
  | forgotten : Settled capacity label s e (.ok ()) true s.cell
  | stored {c : Cell α} (room : s.cell.slots.queue.length < capacity)
      (last : c.slots.queue = s.cell.slots.queue ++ [e]) : Settled capacity label s e (.ok ()) false c
  | refused {c : Cell α} (late : s.TimeUp) (full : s.cell.slots.queue.length = capacity)
      (counted : c = { s.cell with
        stats := { s.cell.stats with droppedChunks := s.cell.stats.droppedChunks + 1 } }) :
      Settled capacity label s e (.error (.bufferFull label)) false c

section
variable {capacity : Nat} {label : String} {t u : List (Deed α)} {s m s' : Handoff α} {e : Entry α}

theorem Accounts.mustWait (accounts : Accounts capacity label t s.cell)
    (isOpen : s.cell.closed = false) (full : capacity ≤ s.cell.slots.queue.length) :
    s.cell.mustWait = true := by
  rw [Cell.mustWait, isOpen, accounts.slots]
  simpa [Slots.isFull] using full

theorem Accounts.settled (accounts : Accounts capacity label t s.cell)
    {result : Except Fault Unit} {closed : Bool} (step : Step s (.decided e result closed) s') :
    Settled capacity label s e result closed s'.cell := by
  cases step with
  | decide due =>
    rcases write_queue accounts.slots e with
      ⟨shut, written⟩ | ⟨isOpen, room, written⟩ | ⟨isOpen, full, written⟩
    · rw [written, shut]
      exact .forgotten
    · rw [written, isOpen]
      exact .stored room rfl
    · have late := due.timeUp (accounts.mustWait isOpen full)
      have result : (s.cell.write e.writtenAt e.value).1 = .error (.bufferFull label) := by
        rw [written, accounts.label]
      rw [result, isOpen]
      exact .refused late (Nat.le_antisymm accounts.bounded full) (congrArg Prod.snd written)

theorem Accounts.refused (accounts : Accounts capacity label t s.cell) {fault : Fault}
    {closed : Bool} (step : Step s (.decided e (.error fault) closed) s') :
    s.cell.mustWait = true ∧ s.TimeUp := by
  generalize given : (Except.error fault : Except Fault Unit) = result at step
  cases step with
  | decide due =>
    rcases write_queue accounts.slots e with
      ⟨_, written⟩ | ⟨_, _, written⟩ | ⟨isOpen, full, _⟩
    · rw [written] at given
      cases given
    · rw [written] at given
      cases given
    · have waits := accounts.mustWait isOpen full
      exact ⟨waits, due.timeUp waits⟩

theorem answered (pending : s.writer.entry? = some e) : ∃ later result closed s',
    Run s (later ++ [.decided e result closed]) s' ∧ ∀ d ∈ later, d = .delayed ∨ d = .passed := by
  have wait {m : Handoff α} {deadline : Nat} (waiting : m.writer = .waiting e deadline) :
      ∃ result closed s', Run m [.passed, .decided e result closed] s' := by
    let late : Handoff α := { m with now := max m.now deadline }
    have due : late.Due e := by
      rw [Due, show late.writer = _ from waiting]
      exact ⟨rfl, .inr (Nat.le_max_right m.now deadline)⟩
    exact ⟨_, _, _, (Step.pass (Nat.le_max_left m.now deadline)).run.next (.decide due)⟩
  cases writer : s.writer with
  | idle =>
    rw [writer] at pending
    cases pending
  | waiting =>
    rw [writer] at pending
    cases pending
    obtain ⟨result, closed, s', run⟩ := wait writer
    exact ⟨[.passed], result, closed, s', run, by simp⟩
  | coming _ timeout =>
    rw [writer] at pending
    cases pending
    by_cases ready : s.cell.mustWait = false ∨ timeout = 0
    · have due : s.Due e := by
        rw [Due, writer]
        exact ⟨rfl, ready⟩
      exact ⟨[], _, _, _, (Step.decide due).run, by simp⟩
    · obtain ⟨full, time⟩ := not_or.mp ready
      obtain ⟨result, closed, s', run⟩ :=
        wait (m := { s with writer := .waiting e (s.now + timeout) }) rfl
      exact ⟨[.delayed, .passed], result, closed, s',
        (Step.wait writer ((Bool.not_eq_false _).mp full) time).run.append run, by simp⟩

theorem released (dead : s.cell.Dead) (pending : s.writer.entry? = some e) :
    ∃ s', Step s (.decided e (.ok ()) true) s' := by
  have due : s.Due e := by
    rw [Due]
    cases writer : s.writer with
    | idle =>
      rw [writer] at pending
      cases pending
    | coming | waiting =>
      rw [writer] at pending
      cases pending
      exact ⟨rfl, .inl dead.mustWait⟩
  have step := Step.decide due
  rw [dead.write, dead.closed] at step
  exact ⟨_, step⟩

end

/-- What a queue owes its writer and its readers after any course of events. -/
structure HandsOver (capacity : Nat) (label : String) (start : Handoff α) (t : List (Deed α))
    (s : Handoff α) : Prop where
  bounded : s.cell.length ≤ capacity
  inOrder : (stored (recent t)).map (·.value) =
    gotten (recent t) ++ s.cell.slots.queue.map (·.value)
  oldest : ∀ cutoff, (∃ e rest, s.cell.slots.queue = e :: rest ∧
      Cell.Entry.isVisible cutoff e = true ∧ (s.cell.read cutoff).1 = some e.value ∧
      (s.cell.read cutoff).2.slots.queue = rest) ∨
    (s.cell.slots.queue.head?.any (Cell.Entry.isVisible cutoff) = false ∧
      s.cell.read cutoff = (none, s.cell))
  once : begun t = decided t ++ s.writer.entry?.toList
  answered : ∀ e, s.writer.entry? = some e → ∃ later result closed s',
    Run s (later ++ [.decided e result closed]) s' ∧ ∀ d ∈ later, d = .delayed ∨ d = .passed
  settled : ∀ e result closed s', Step s (.decided e result closed) s' →
    Settled capacity label s e result closed s'.cell
  patient : ∀ before during m e deadline fault closed s', Run start before m → Run m during s →
    m.writer = .waiting e deadline → (∀ d ∈ during, d.decided? = none) →
    Step s (.decided e (.error fault) closed) s' → m.cell.slots = s.cell.slots ∧ deadline ≤ s.now
  writes : s.cell.stats.writes = (stored t).length
  reads : s.cell.stats.reads = (gotten t).length
  dropped : s.cell.stats.droppedChunks = (refused t).length
  balance : s.cell.stats.writes = s.cell.stats.reads + s.cell.length + (lost t).length
  closes : s.cell.closed = true → ∀ gone s', Step s (.cleared gone) s' → s'.cell.Dead
  dead : s.cell.Dead → s.cell.length = 0 ∧ (∀ e, s.writer.entry? = some e →
      ∃ s', Step s (.decided e (.ok ()) true) s') ∧
    ∀ later s', Run s later s' →
      s'.cell = s.cell ∧ stored later = [] ∧ refused later = [] ∧ gotten later = []

/-- An ordered-all cell is a bounded queue that hands over every accepted value once and in order,
however its writer, its readers and whoever closes it come in between one another. -/
theorem ordered_hands_over {capacity : Nat} {label : String} {c : Cell α}
    (made : Cell.make (.orderedAll capacity) label = .ok c) {now : Nat} {t : List (Deed α)}
    {s : Handoff α} (run : Run ⟨c, .idle, now⟩ t s) :
    HandsOver capacity label ⟨c, .idle, now⟩ t s := by
  have positive : 0 < capacity := by
    cases capacity with
    | zero => cases made
    | succ n => exact Nat.succ_pos n
  have fresh : c = .ofSlots (.ordered capacity []) label := by
    cases capacity with
    | zero => cases made
    | succ n => exact (Except.ok.inj made).symm
  have first : Accounts capacity label [] c := by
    subst fresh
    exact ⟨rfl, rfl, Nat.zero_le capacity, ⟨[], rfl, rfl⟩, rfl, rfl, rfl, rfl⟩
  have accounts : Accounts capacity label t s.cell := run.accounts first
  have length : s.cell.length = s.cell.slots.queue.length := by
    rw [Cell.length, accounts.slots]
    rfl
  have inOrder : (stored (recent t)).map (·.value) =
      gotten (recent t) ++ s.cell.slots.queue.map (·.value) := by
    have filled := accounts.filled
    rw [accounts.slots] at filled
    obtain ⟨gone, parts, values⟩ := filled
    rw [parts, List.map_append, values]
  refine ⟨length ▸ accounts.bounded, inOrder, ?_, run.once rfl, fun e => answered,
    fun e result closed s' => accounts.settled, ?_, accounts.writes, accounts.reads,
    accounts.dropped, length ▸ accounts.balance, ?_, ?_⟩
  · intro cutoff
    rcases read_queue accounts.slots cutoff with ⟨e, rest, queue, seen, got⟩ | unseen
    · exact .inl ⟨e, rest, queue, seen, by rw [got], by rw [got]; exact Slots.queue_ordered _ _⟩
    · exact .inr unseen
  · intro before during m e deadline fault closed s' reached onward waiting undecided step
    have known : Accounts capacity label before m.cell := reached.accounts first
    obtain ⟨full, late⟩ := accounts.refused step
    refine ⟨onward.still known positive undecided full, ?_⟩
    rw [TimeUp, onward.waiting undecided waiting] at late
    exact late
  · intro closed gone s' step
    cases step with
    | clear => exact ⟨closed, (Cell.cleared_cleared _).symm⟩
  · exact fun dead => ⟨dead.length, fun e => released dead, fun later s' more => more.dead dead⟩

def waitingTwice : List (Deed Nat) :=
  [.begun ⟨7, 0⟩, .decided ⟨7, 0⟩ (.ok ()) false, .begun ⟨8, 0⟩, .delayed, .got (some 7),
    .decided ⟨8, 0⟩ (.ok ()) false, .begun ⟨9, 0⟩, .delayed, .shut, .cleared [⟨8, 0⟩],
    .decided ⟨9, 0⟩ (.ok ()) true]

theorem waiting_twice_run : ∃ s, Run ⟨.ofSlots (.ordered 1 []) "ear", .idle, 0⟩ waitingTwice s := by
  let s₀ : Handoff Nat := ⟨.ofSlots (.ordered 1 []) "ear", .idle, 0⟩
  have stored : Run s₀ [.begun ⟨7, 0⟩, .decided ⟨7, 0⟩ (.ok ()) false] _ :=
    (Step.begin 7 0 rfl).run.next (.decide (e := ⟨7, 0⟩) ⟨rfl, .inl rfl⟩)
  have read := ((stored.next (.begin 8 5 rfl)).next (.wait rfl rfl (by decide))).next (.read none)
  have second := read.next (.decide (e := ⟨8, 0⟩) ⟨rfl, .inl rfl⟩)
  have third := (second.next (.begin 9 5 rfl)).next (.wait rfl rfl (by decide))
  have closed := third.append (close_run _)
  exact ⟨_, closed.next (.decide (e := ⟨9, 0⟩) ⟨rfl, .inl rfl⟩)⟩

theorem ordered_hands_over_waiting : ∃ s,
    (Cell.make (.orderedAll 1) "ear" : Except Failure (Cell Nat)) =
        .ok (.ofSlots (.ordered 1 []) "ear") ∧
      Run ⟨.ofSlots (.ordered 1 []) "ear", .idle, 0⟩ waitingTwice s ∧
      HandsOver 1 "ear" ⟨.ofSlots (.ordered 1 []) "ear", .idle, 0⟩ waitingTwice s := by
  obtain ⟨s, run⟩ := waiting_twice_run
  exact ⟨s, rfl, run, ordered_hands_over rfl run⟩

section
variable {s : Handoff α}

theorem use_run {u : Cell.Use α} (other : u.isWrite = false) :
    ∃ t, Run s t { s with cell := s.cell.use u } := by
  cases u with
  | write e => cases other
  | read cutoff => exact ⟨_, (Step.read cutoff).run⟩
  | clear => exact ⟨_, Step.clear.run⟩
  | close => exact ⟨_, close_run s⟩

theorem useAll_run {us : List (Cell.Use α)} (others : ∀ u ∈ us, u.isWrite = false) :
    ∃ t, Run s t { s with cell := s.cell.useAll us } := by
  induction us generalizing s with
  | nil => exact ⟨[], .rest s⟩
  | cons u rest ih =>
    obtain ⟨t, first⟩ := use_run (s := s) (others u List.mem_cons_self)
    obtain ⟨t', later⟩ := ih (s := { s with cell := s.cell.use u })
      fun v mem => others v (List.mem_cons_of_mem u mem)
    exact ⟨t ++ t', first.append later⟩

/-- A write that is given time while the other side acts is a course of a cell and its writer. -/
theorem writeDuring_run (idle : s.writer = .idle) (value : α) {us : List (Cell.Use α)}
    (others : ∀ u ∈ us, u.isWrite = false) : ∃ t s' closed, Run s t s' ∧
      .decided ⟨value, s.now⟩
        (s.cell.writeDuring s.now value fun c => ((), c.useAll us)).2.1 closed ∈ t ∧
      s'.cell = (s.cell.writeDuring s.now value fun c => ((), c.useAll us)).2.2 := by
  rw [Cell.writeDuring]
  cases full : s.cell.mustWait with
  | true =>
    let waiting : Handoff α := { s with writer := .waiting ⟨value, s.now⟩ (s.now + 1) }
    have waits : Run s [.begun ⟨value, s.now⟩, .delayed] waiting :=
      (Step.begin value 1 idle).run.next (.wait rfl full (Nat.succ_ne_zero 0))
    obtain ⟨t, acts⟩ := useAll_run (s := waiting) others
    let acted : Handoff α := { waiting with cell := s.cell.useAll us }
    let late : Handoff α := { acted with now := s.now + 1 }
    have passes : Step acted .passed late := .pass (Nat.le_succ s.now)
    have due : late.Due ⟨value, s.now⟩ := ⟨rfl, .inr (Nat.le_refl (s.now + 1))⟩
    exact ⟨_, _, _, ((waits.append acts).next passes).next (.decide due),
      List.mem_append_right _ List.mem_cons_self, rfl⟩
  | false =>
    let coming : Handoff α := { s with writer := .coming ⟨value, s.now⟩ 0 }
    have due : coming.Due ⟨value, s.now⟩ := ⟨rfl, .inl full⟩
    have first := (Step.begin value 0 idle).run.next (.decide due)
    obtain ⟨t, acts⟩ := useAll_run others
      (s := { s with cell := (s.cell.write s.now value).2, writer := .idle })
    exact ⟨_, _, _, first.append acts,
      List.mem_append_left t (List.mem_append_right [Deed.begun _] List.mem_cons_self), rfl⟩

end

end Handoff

end Tickflow
