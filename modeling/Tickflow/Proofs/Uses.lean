import Tickflow.Proofs.Cells
/-!
Cells under use. A use is anything that a writer, a reader or the wiring does to a cell, and a course of
uses leaves a cell and the answers that its reads got. A cell that is closed and empty is through with
all of them.
-/
namespace Tickflow

namespace Cell

/-- What may be done to a cell. A write is told by the entry that it would store. -/
inductive Use (α : Type) where
  | write (entry : Entry α)
  | read (cutoff : Option Nat)
  | clear
  | close
  deriving DecidableEq, Repr

namespace Use

def isWrite : Use α → Bool
  | .write _ => true
  | _ => false

def isClear : Use α → Bool
  | .clear => true
  | _ => false

def isClose : Use α → Bool
  | .close => true
  | _ => false

def entry? : Use α → Option (Entry α)
  | .write e => some e
  | _ => none

def shows (e : Entry α) : Use α → Bool
  | .read cutoff => Entry.isVisible cutoff e
  | _ => false

end Use

def use (c : Cell α) : Use α → Cell α
  | .write e => (c.write e.writtenAt e.value).2
  | .read cutoff => (c.read cutoff).2
  | .clear => c.clear
  | .close => c.close

def answer (c : Cell α) : Use α → List (Option α)
  | .read cutoff => [(c.read cutoff).1]
  | _ => []

def useAll (c : Cell α) (us : List (Use α)) : Cell α := us.foldl use c

def answers (c : Cell α) : List (Use α) → List (Option α)
  | [] => []
  | u :: rest => c.answer u ++ (c.use u).answers rest

section
variable (c : Cell α) (u : Use α) (us more : List (Use α))

theorem useAll_append : c.useAll (us ++ more) = (c.useAll us).useAll more := List.foldl_append

theorem useAll_concat : c.useAll (us ++ [u]) = (c.useAll us).use u := useAll_append c us [u]

theorem answers_append : c.answers (us ++ more) = c.answers us ++ (c.useAll us).answers more := by
  induction us generalizing c with
  | nil => rfl
  | cons u rest ih =>
    rw [List.cons_append, answers, answers, List.append_assoc, ih]
    rfl

theorem use_reads :
    (c.use u).stats.reads = c.stats.reads + (c.answer u).countP (·.isSome) := by
  cases u with
  | write e =>
    obtain ⟨label, slots, closed, stats⟩ := c
    cases closed with
    | true => rfl
    | false =>
      cases slots with
      | latest current shadow currentRead => rfl
      | ordered capacity queue =>
        simp only [use, write, Bool.false_eq_true, ↓reduceIte]
        split <;> rfl
  | read cutoff =>
    have got : (c.read cutoff).1 = (take cutoff c.slots).1 := rfl
    rw [answer, got]
    change c.stats.reads + (take cutoff c.slots).1.toList.length = _
    cases (take cutoff c.slots).1 <;> rfl
  | clear => rfl
  | close => rfl

theorem useAll_reads :
    (c.useAll us).stats.reads = c.stats.reads + (c.answers us).countP (·.isSome) := by
  induction us generalizing c with
  | nil => rfl
  | cons u rest ih =>
    rw [answers, List.countP_append, ← Nat.add_assoc, ← use_reads]
    exact ih (c.use u)

end

theorem Dead.use {c : Cell α} (dead : c.Dead) (u : Use α) : c.use u = c := by
  have clear : c.clear = c := by
    rw [Cell.clear, ← dead.empty]
  cases u with
  | write e => exact congrArg Prod.snd (dead.write e.writtenAt e.value)
  | read cutoff => exact congrArg Prod.snd (dead.read cutoff)
  | clear => exact clear
  | close => rw [Cell.use, close, clear, ← dead.closed]

theorem Dead.useAll {c : Cell α} (dead : c.Dead) (us : List (Use α)) : c.useAll us = c := by
  induction us with
  | nil => rfl
  | cons u rest ih => exact (congrArg (·.useAll rest) (dead.use u)).trans ih

theorem close_useAll (c : Cell α) (us : List (Use α)) : c.close.useAll us = c.close :=
  (close_dead c).useAll us

end Cell

end Tickflow
