import Tickflow.Proofs.Adapters
import Tickflow.Proofs.Ledger
/-!
The messages that were sent along a link. One is added when the output takes it and numbers it; the
steps that follow move it on from cell to cell and change nothing about the list.
-/
namespace Tickflow

namespace Flow

open Engine

variable {f g : Flow} {s t : List Event} {l : Link}

def pending (l : Link) (f : Flow) : List Message :=
  match f.parcels l.source with
  | none => []
  | some p => if l.cell ∈ p.rest then [p.message] else []

def sent (l : Link) (t : List Event) (f : Flow) : List Message :=
  (outcomes l.cell t).map (·.1.value) ++ f.pending l

theorem pending_held {p : Parcel} (held : f.parcels l.source = some p) :
    f.pending l = if l.cell ∈ p.rest then [p.message] else [] := by
  unfold pending
  rw [held]

theorem pending_free (free : f.parcels l.source = none) : f.pending l = [] := by
  unfold pending
  rw [free]

theorem pending_same (same : g.parcels l.source = f.parcels l.source) :
    g.pending l = f.pending l := by
  unfold pending
  rw [same]

theorem sent_same (unsettled : outcomes l.cell s = []) (pending : g.pending l = f.pending l) :
    g.sent l (t ++ s) = f.sent l t := by
  rw [sent, outcomes_append, unsettled, List.append_nil, pending]
  rfl

theorem numbered_sent (w : f.engine.Wired) (ml : l ∈ f.engine.links) {q : OutputPort}
    (found : f.engine.output? l.source = some q) (free : f.parcels l.source = none) (m : Message) :
    (f.numbered l.source q m).sent l t = f.sent l t ++ [m.withSequence q.nextSequence] := by
  obtain ⟨q', found', mem⟩ := w.link_output ml
  rw [found] at found'
  cases found'
  have held : (f.numbered l.source q m).parcels l.source =
      some ⟨m.withSequence q.nextSequence, q.cells, none⟩ := Function.update_self _ _ _
  rw [sent, sent, pending_held held, if_pos mem, pending_free free, List.append_nil]

def Unnumbered (a : PortAddress) (f g : Flow) : Prop :=
  ∀ q, f.engine.output? a = some q → ∃ q', g.engine.output? a = some q' ∧
    q'.nextSequence = q.nextSequence

theorem unnumbered_refl (a : PortAddress) (f : Flow) : Unnumbered a f f :=
  fun q found => ⟨q, found, rfl⟩

theorem step_numbers (w : f.engine.Wired) (step : Step f s g) (a : PortAddress) :
    Unnumbered a f g ∨ ∃ q m, f.engine.output? a = some q ∧ q.check m = .ok () ∧
      f.parcels a = none ∧ s = [] ∧ g = f.numbered a q m := by
  rcases step_calm w step with calm | move
  · left
    intro q found
    obtain ⟨q', found', next, _⟩ := calm.arranged.outputs _ q found
    exact ⟨q', found', next⟩
  · cases move with
    | @number source q m found accepted free =>
      by_cases here : source = a
      · subst source
        exact .inr ⟨q, m, found, accepted, free, rfl, rfl⟩
      · left
        intro q' found'
        exact ⟨q', (counted_elsewhere found (Ne.symm here)).trans found', rfl⟩
    | read | enter | settle | done => exact .inl (unnumbered_refl a f)

theorem numbered_next {a : PortAddress} {q : OutputPort} (found : f.engine.output? a = some q)
    (m : Message) : (f.numbered a q m).engine.output? a =
      some { q with nextSequence := q.nextSequence + 1 } := counted_here found

theorem step_sent (w : f.engine.Wired) (under : Underway f) (ml : l ∈ f.engine.links)
    (step : Step f s g) : g.sent l (t ++ s) = f.sent l t ∨
    ∃ q m, f.engine.output? l.source = some q ∧ q.check m = .ok () ∧
      f.parcels l.source = none ∧ s = [] ∧ g = f.numbered l.source q m := by
  have other {a : PortAddress} (away : a ≠ l.source) (p : Option Parcel) :
      Function.update f.parcels a p l.source = f.parcels l.source :=
    Function.update_of_ne (Ne.symm away) _ _
  rcases step_calm w step with calm | move
  · exact .inl (sent_same (calm.silent.outcomes _) (pending_same (by rw [calm.parcels])))
  · cases move with
    | read => exact .inl (sent_same rfl rfl)
    | @number source q m found accepted free =>
      by_cases here : source = l.source
      · subst source
        exact .inr ⟨q, m, found, accepted, free, rfl, rfl⟩
      · exact .inl (sent_same rfl (pending_same (other here _)))
    | @enter source m rest start held =>
      by_cases here : source = l.source
      · subst source
        refine .inl (sent_same rfl ?_)
        have held' : ((f.put { f.engine with now := start }).carry l.source
            (some ⟨m, rest, some start⟩)).parcels l.source = some ⟨m, rest, some start⟩ :=
          Function.update_self _ _ _
        rw [pending_held held, pending_held held']
      · exact .inl (sent_same rfl (pending_same (other here _)))
    | @settle source m n rest start c held =>
      left
      by_cases here : source = l.source
      · subst source
        have held' : ((f.fill n (c.write start m).2).carry l.source
            (some ⟨m, rest, none⟩)).parcels l.source = some ⟨m, rest, none⟩ :=
          Function.update_self _ _ _
        by_cases cell : n = l.cell
        · subst n
          obtain ⟨q, found, _, sub⟩ := under _ _ held
          have once : l.cell ∉ rest :=
            (List.nodup_cons.mp ((w.output_nodup found).sublist sub)).1
          rw [sent, sent, pending_held held, pending_held held', if_neg once,
            if_pos List.mem_cons_self, outcomes_append, outcomes_settled, List.map_append,
            List.append_nil]
          rfl
        · apply sent_same (outcomes_elsewhere cell)
          rw [pending_held held, pending_held held']
          simp [Ne.symm cell]
      · have cell : n ≠ l.cell := by
          obtain ⟨q, found, _, sub⟩ := under source _ held
          rintro rfl
          exact here (w.writer ml found (sub.subset List.mem_cons_self))
        exact sent_same (outcomes_elsewhere cell) (pending_same (other here _))
    | @done source m held =>
      refine .inl (sent_same rfl ?_)
      by_cases here : source = l.source
      · subst source
        have free : (f.carry l.source none).parcels l.source = none := Function.update_self _ _ _
        rw [pending_held held, pending_free free, if_neg (by simp)]
      · exact pending_same (other here _)

theorem new_unsent (run : Traced t f) (step : Step f s g) (old : l ∉ f.engine.links)
    (new : l ∈ g.engine.links) : g.sent l (t ++ s) = [] := by
  obtain ⟨calm, bound⟩ := new_calm run step old new
  have unsettled : outcomes l.cell (t ++ s) = [] := by
    rw [outcomes_append, calm.silent.outcomes, (traced_inside run _ bound).1]
    rfl
  have nothing : g.pending l = [] := by
    unfold pending
    split
    · rfl
    · rename_i p held
      exact if_neg (new_apart run step old new p held)
  rw [sent, unsettled, nothing]
  rfl

end Flow

end Tickflow
