import Tickflow.Proofs.Contents
/-!
How the messages of an output reach the cell of one link. They come in the order of their numbers, none
is left out and none comes twice; the last one may still be on its way.
-/
namespace Tickflow

def Message.numbers (ms : List Message) : List Nat := ms.map (·.sequence)

def Entry.numbers (es : List (Entry Message)) : List Nat := es.map (·.value.sequence)

namespace Engine

variable {e : Engine} {l : Link}

theorem Wired.link_carried (w : e.Wired) (ml : l ∈ e.links) :
    (∃ q, e.output? l.source = some q) ∧ (∃ p, e.input? l.target = some p) ∧
      ∃ c : Cell Message, e.cells[l.cell]? = some c := by
  obtain ⟨c, mc, ml⟩ := List.mem_flatMap.mp ml
  obtain ⟨_, _, carries⟩ := (w.fits c mc).carries
  obtain ⟨q, p, cell, output, input, here, _⟩ := carries l ml
  exact ⟨⟨q, output⟩, ⟨p, input⟩, cell, here⟩

theorem Wired.link_output (w : e.Wired) (ml : l ∈ e.links) :
    ∃ q, e.output? l.source = some q ∧ l.cell ∈ q.cells := by
  obtain ⟨⟨q, found⟩, _⟩ := w.link_carried ml
  obtain ⟨h, mh, at_id, mq, name⟩ := mem_output found
  refine ⟨q, found, ?_⟩
  rw [← w.attached.outputs h mh q mq, at_id, name]
  exact List.mem_map_of_mem (List.mem_filter.mpr ⟨ml, by simp⟩)

theorem Wired.link_input (w : e.Wired) (ml : l ∈ e.links) :
    ∃ p, e.input? l.target = some p ∧ p.cell = some l.cell := by
  obtain ⟨_, ⟨p, found⟩, _⟩ := w.link_carried ml
  obtain ⟨h, mh, at_id, mp, name⟩ := mem_input found
  refine ⟨p, found, ?_⟩
  have mem : l.cell ∈ p.cell.toList := by
    rw [← w.attached.inputs h mh p mp, at_id, name]
    exact List.mem_map_of_mem (List.mem_filter.mpr ⟨ml, by simp⟩)
  simpa [eq_comm] using mem

theorem Wired.output_nodup (w : e.Wired) {a : PortAddress} {q : OutputPort}
    (found : e.output? a = some q) : q.cells.Nodup := by
  obtain ⟨h, mh, _, mq, _⟩ := mem_output found
  rw [← w.attached.outputs h mh q mq]
  exact w.cells_nodup.sublist (List.filter_sublist.map _)

theorem Wired.cell_bound (w : e.Wired) (ml : l ∈ e.links) : l.cell < e.cells.length := by
  have mem : l.cell ∈ e.links.map (·.cell) := List.mem_map_of_mem ml
  rw [w.attached.cells] at mem
  exact List.mem_range.mp mem

/-- A cell is written by the output at the source of its link, and by no other. -/
theorem Wired.writer (w : e.Wired) (ml : l ∈ e.links) {a : PortAddress} {q : OutputPort}
    (found : e.output? a = some q) (mem : l.cell ∈ q.cells) : a = l.source := by
  obtain ⟨k, mk, source, cell⟩ := w.output_link found mem
  rw [← source, w.link_unique mk ml cell]

theorem Wired.new_cell {e' : Engine} (w : e.Wired) (w' : e'.Wired) (kept : e.links ⊆ e'.links)
    (old : l ∉ e.links) (new : l ∈ e'.links) : e.cells.length ≤ l.cell := by
  apply Nat.le_of_not_lt
  intro bound
  have mem : l.cell ∈ e.links.map (·.cell) := by
    rw [w.attached.cells]
    exact List.mem_range.mpr bound
  obtain ⟨k, mk, cell⟩ := List.mem_map.mp mem
  exact old (w'.link_unique (kept mk) new cell ▸ mk)

end Engine

namespace Flow

open Engine

variable {f g : Flow} {s t : List Event} {l : Link} {first : Nat}

/-- A write that is under way has the last number of its output, and goes to cells of that output. -/
def Underway (f : Flow) : Prop := ∀ a p, f.parcels a = some p →
  ∃ q, f.engine.output? a = some q ∧ p.message.sequence + 1 = q.nextSequence ∧
    p.rest.Sublist q.cells

theorem held_carry {a b : PortAddress} {p : Parcel} {now : Option Parcel}
    (held : (f.carry b now).parcels a = some p) :
    (a = b ∧ now = some p) ∨ (a ≠ b ∧ f.parcels a = some p) := by
  rw [carry_parcels] at held
  by_cases here : a = b
  · subst a
    rw [Function.update_self] at held
    exact .inl ⟨rfl, held⟩
  · rw [Function.update_of_ne here] at held
    exact .inr ⟨here, held⟩

theorem traced_underway (run : Traced t f) : Underway f := by
  induction run with
  | fresh made r =>
    intro a p held
    cases held
  | @next t s f g run step ih =>
    intro a p held
    rcases step_calm (traced_wired run) step with calm | move
    · rw [calm.parcels] at held
      obtain ⟨q, found, number, sub⟩ := ih a p held
      obtain ⟨q', found', next', cells'⟩ := calm.arranged.outputs a q found
      exact ⟨q', found', next'.symm ▸ number, sub.trans cells'.sublist⟩
    · cases move with
      | read => exact ih a p held
      | number source m found =>
        rcases held_carry held with ⟨rfl, same⟩ | ⟨other, old⟩
        · cases same
          exact ⟨_, counted_here found, rfl, List.Sublist.refl _⟩
        · obtain ⟨q, found', rest⟩ := ih a p old
          exact ⟨q, (counted_elsewhere found other).trans found', rest⟩
      | enter source start before =>
        rcases held_carry held with ⟨rfl, same⟩ | ⟨_, old⟩
        · cases same
          obtain ⟨q, found, number, sub⟩ := ih a _ before
          exact ⟨q, found, number, sub⟩
        · exact ih a p old
      | @settle source m n rest start c before =>
        rcases held_carry held with ⟨rfl, same⟩ | ⟨_, old⟩
        · cases same
          obtain ⟨q, found, number, sub⟩ := ih a _ before
          exact ⟨q, found, number, (List.sublist_cons_self n rest).trans sub⟩
        · exact ih a p old
      | done =>
        rcases held_carry held with ⟨_, same⟩ | ⟨_, old⟩
        · cases same
        · exact ih a p old

def undecided (l : Link) (f : Flow) : List Nat :=
  match f.parcels l.source with
  | none => []
  | some p => if l.cell ∈ p.rest then [p.message.sequence] else []

/-- What the trace has of the cell of a link since its output would have numbered a message with
`first`: each number in its turn, at instants that never go back. -/
structure Ledger (l : Link) (first : Nat) (t : List Event) (f : Flow) : Prop where
  numbers : ∃ q, f.engine.output? l.source = some q ∧ first ≤ q.nextSequence ∧
    (outcomes l.cell t).map (·.1.value.sequence) ++ f.undecided l =
      List.range' first (q.nextSequence - first)
  rising : ((outcomes l.cell t).map (·.1.writtenAt)).Pairwise (· ≤ ·)
  passed : ∀ o ∈ outcomes l.cell t, o.1.writtenAt ≤ f.engine.now
  begun : ∀ p start, f.parcels l.source = some p → p.began = some start → l.cell ∈ p.rest →
    start ≤ f.engine.now ∧ ∀ o ∈ outcomes l.cell t, o.1.writtenAt ≤ start

theorem step_now (w : f.engine.Wired) (step : Step f s g) : f.engine.now ≤ g.engine.now := by
  rcases step_steady w step with steady | beat
  · exact steady.scheduled.now
  · cases beat with
    | issue _ _ _ _ _ later => exact later
    | begin _ _ _ later => exact later
    | look => exact Nat.le_refl _
    | finish id c how => exact (finish_scheduled id c how f.engine).now

theorem Ledger.undisturbed (ledger : Ledger l first t f) (unsettled : outcomes l.cell s = [])
    (output : ∀ q, f.engine.output? l.source = some q → ∃ q', g.engine.output? l.source = some q' ∧
      q'.nextSequence = q.nextSequence)
    (same : g.undecided l = f.undecided l) (later : f.engine.now ≤ g.engine.now)
    (begun : ∀ p start, g.parcels l.source = some p → p.began = some start → l.cell ∈ p.rest →
      (f.engine.now ≤ start ∧ start ≤ g.engine.now) ∨
        ∃ p', f.parcels l.source = some p' ∧ p'.began = some start ∧ l.cell ∈ p'.rest) :
    Ledger l first (t ++ s) g := by
  obtain ⟨q, found, low, numbers⟩ := ledger.numbers
  obtain ⟨q', found', next⟩ := output q found
  have outcomes_same : outcomes l.cell (t ++ s) = outcomes l.cell t := by
    rw [outcomes_append, unsettled, List.append_nil]
  refine ⟨⟨q', found', by omega, ?_⟩, outcomes_same ▸ ledger.rising, ?_, ?_⟩
  · rw [outcomes_same, same, next]
    exact numbers
  · intro o mem
    exact Nat.le_trans (ledger.passed o (outcomes_same ▸ mem)) later
  · intro p start held began mem
    rw [outcomes_same]
    rcases begun p start held began mem with ⟨after, before⟩ | ⟨p', held', began', mem'⟩
    · exact ⟨before, fun o mo => Nat.le_trans (ledger.passed o mo) after⟩
    · obtain ⟨low, all⟩ := ledger.begun p' start held' began' mem'
      exact ⟨Nat.le_trans low later, all⟩

theorem Ledger.elsewhere (ledger : Ledger l first t f) (unsettled : outcomes l.cell s = [])
    (output : ∀ q, f.engine.output? l.source = some q → ∃ q', g.engine.output? l.source = some q' ∧
      q'.nextSequence = q.nextSequence)
    (same : g.parcels l.source = f.parcels l.source) (later : f.engine.now ≤ g.engine.now) :
    Ledger l first (t ++ s) g := by
  refine ledger.undisturbed unsettled output ?_ later ?_
  · unfold undecided
    rw [same]
  · intro p start held began mem
    exact .inr ⟨p, same ▸ held, began, mem⟩

theorem undecided_held {p : Parcel} (held : f.parcels l.source = some p) :
    f.undecided l = if l.cell ∈ p.rest then [p.message.sequence] else [] := by
  unfold undecided
  rw [held]

theorem undecided_free (free : f.parcels l.source = none) : f.undecided l = [] := by
  unfold undecided
  rw [free]

theorem range_next {first next : Nat} (low : first ≤ next) :
    List.range' first (next + 1 - first) = List.range' first (next - first) ++ [next] := by
  rw [show next + 1 - first = next - first + 1 by omega, List.range'_concat]
  congr 2
  omega

theorem Ledger.number (ledger : Ledger l first t f) (w : f.engine.Wired)
    (ml : l ∈ f.engine.links) {q : OutputPort} (found : f.engine.output? l.source = some q)
    (free : f.parcels l.source = none) (m : Message) :
    Ledger l first t ((f.put (f.engine.counted l.source q)).carry l.source
      (some ⟨m.withSequence q.nextSequence, q.cells, none⟩)) := by
  obtain ⟨q', found', low, numbers⟩ := ledger.numbers
  rw [found] at found'
  cases found'
  obtain ⟨q', found', mem⟩ := w.link_output ml
  rw [found] at found'
  cases found'
  have held : ((f.put (f.engine.counted l.source q)).carry l.source
      (some ⟨m.withSequence q.nextSequence, q.cells, none⟩)).parcels l.source =
      some ⟨m.withSequence q.nextSequence, q.cells, none⟩ := Function.update_self _ _ _
  refine ⟨⟨_, counted_here found, Nat.le_succ_of_le low, ?_⟩, ledger.rising, ledger.passed, ?_⟩
  · rw [undecided_free free, List.append_nil] at numbers
    rw [undecided_held held, if_pos mem, numbers]
    exact (range_next low).symm
  · intro p start other began
    rw [held] at other
    cases other
    cases began

theorem Ledger.settle (ledger : Ledger l first t f) (w : f.engine.Wired) (under : Underway f)
    {m : Message} {rest : List CellId} {start : Nat}
    (held : f.parcels l.source = some ⟨m, l.cell :: rest, some start⟩) (c : Cell Message)
    (r : Except Fault Unit) :
    Ledger l first (t ++ [.settled l.cell ⟨m, start⟩ r])
      ((f.fill l.cell c).carry l.source (some ⟨m, rest, none⟩)) := by
  obtain ⟨q, found, low, numbers⟩ := ledger.numbers
  obtain ⟨q', found', _, sub⟩ := under _ _ held
  rw [found] at found'
  cases found'
  have once : l.cell ∉ rest :=
    (List.nodup_cons.mp ((w.output_nodup found).sublist sub)).1
  obtain ⟨now, before⟩ := ledger.begun _ start held rfl List.mem_cons_self
  have held' : ((f.fill l.cell c).carry l.source (some ⟨m, rest, none⟩)).parcels l.source =
      some ⟨m, rest, none⟩ := Function.update_self _ _ _
  rw [undecided_held held, if_pos List.mem_cons_self] at numbers
  refine ⟨⟨q, found, low, ?_⟩, ?_, ?_, ?_⟩
  · rw [undecided_held held', if_neg once, List.append_nil, outcomes_append, outcomes_settled,
      List.map_append]
    exact numbers
  · rw [outcomes_append, outcomes_settled, List.map_append]
    refine List.pairwise_append.mpr ⟨ledger.rising, List.pairwise_singleton _ _, ?_⟩
    intro x mem y last
    obtain ⟨o, mo, rfl⟩ := List.mem_map.mp mem
    rw [List.mem_singleton.mp last]
    exact before o mo
  · intro o mem
    rw [outcomes_append, outcomes_settled] at mem
    rcases List.mem_append.mp mem with old | new
    · exact ledger.passed o old
    · rw [List.mem_singleton.mp new]
      exact now
  · intro p start other began
    rw [held'] at other
    cases other
    cases began

theorem Ledger.step (ledger : Ledger l first t f) (w : f.engine.Wired) (under : Underway f)
    (ml : l ∈ f.engine.links) (step : Step f s g) : Ledger l first (t ++ s) g := by
  have later := step_now w step
  have same : ∀ q, f.engine.output? l.source = some q → ∃ q', f.engine.output? l.source = some q' ∧
      q'.nextSequence = q.nextSequence := fun q found => ⟨q, found, rfl⟩
  have other {a : PortAddress} (away : a ≠ l.source) (p : Option Parcel) :
      Function.update f.parcels a p l.source = f.parcels l.source :=
    Function.update_of_ne (Ne.symm away) _ _
  rcases step_calm w step with calm | move
  · refine ledger.elsewhere (calm.silent.outcomes l.cell) ?_ (by rw [calm.parcels]) later
    intro q found
    obtain ⟨q', found', next, _⟩ := calm.arranged.outputs _ q found
    exact ⟨q', found', next⟩
  · cases move with
    | read => exact ledger.elsewhere rfl same rfl later
    | @number source q m found _ free =>
      by_cases here : source = l.source
      · subst source
        rw [List.append_nil]
        exact ledger.number w ml found free m
      · refine ledger.elsewhere rfl ?_ (other here _) later
        intro q' found'
        exact ⟨q', (counted_elsewhere found (Ne.symm here)).trans found', rfl⟩
    | @enter source m rest start held after =>
      by_cases here : source = l.source
      · subst source
        have held' : ((f.put { f.engine with now := start }).carry l.source
            (some ⟨m, rest, some start⟩)).parcels l.source = some ⟨m, rest, some start⟩ :=
          Function.update_self _ _ _
        refine ledger.undisturbed rfl same ?_ later ?_
        · rw [undecided_held held, undecided_held held']
        · intro p instant now began _
          rw [held'] at now
          cases now
          cases began
          exact .inl ⟨after, Nat.le_refl _⟩
      · exact ledger.elsewhere rfl same (other here _) later
    | @settle source m n rest start c held =>
      by_cases here : source = l.source
      · subst source
        by_cases cell : n = l.cell
        · subst n
          exact ledger.settle w under held _ _
        · have held' : ((f.fill n (c.write start m).2).carry l.source
              (some ⟨m, rest, none⟩)).parcels l.source = some ⟨m, rest, none⟩ :=
            Function.update_self _ _ _
          refine ledger.undisturbed (outcomes_elsewhere cell) same ?_ later ?_
          · rw [undecided_held held, undecided_held held']
            simp [Ne.symm cell]
          · intro p instant now began
            rw [held'] at now
            cases now
            cases began
      · have cell : n ≠ l.cell := by
          obtain ⟨q, found, _, sub⟩ := under source _ held
          rintro rfl
          exact here (w.writer ml found (sub.subset List.mem_cons_self))
        exact ledger.elsewhere (outcomes_elsewhere cell) same (other here _) later
    | @done source m held =>
      by_cases here : source = l.source
      · subst source
        have free : (f.carry l.source none).parcels l.source = none := Function.update_self _ _ _
        refine ledger.undisturbed rfl same ?_ later ?_
        · rw [undecided_held held, undecided_free free, if_neg (by simp)]
        · intro p instant now
          rw [free] at now
          cases now
      · exact ledger.elsewhere rfl same (other here _) later

theorem step_links (w : f.engine.Wired) (step : Step f s g) : f.engine.links ⊆ g.engine.links := by
  rcases step_calm w step with calm | move
  · exact calm.arranged.links
  · cases move <;> exact List.Subset.refl _

theorem new_calm (run : Traced t f) (step : Step f s g) (old : l ∉ f.engine.links)
    (new : l ∈ g.engine.links) : Calm f s g ∧ f.engine.cells.length ≤ l.cell := by
  have w := traced_wired run
  have w' := traced_wired (run.next step)
  refine ⟨?_, w.new_cell w' (step_links w step) old new⟩
  rcases step_calm w step with calm | move
  · exact calm
  · cases move <;> exact absurd new old

theorem new_apart (run : Traced t f) (step : Step f s g) (old : l ∉ f.engine.links)
    (new : l ∈ g.engine.links) : ∀ p, g.parcels l.source = some p → l.cell ∉ p.rest := by
  obtain ⟨calm, bound⟩ := new_calm run step old new
  intro p held mem
  rw [calm.parcels] at held
  obtain ⟨q, found, _, sub⟩ := traced_underway run _ p held
  obtain ⟨k, mk, _, cell⟩ := (traced_wired run).output_link found (sub.subset mem)
  have before := (traced_wired run).cell_bound mk
  rw [cell] at before
  exact Nat.not_lt.mpr bound before

theorem ledger_new (run : Traced t f) (step : Step f s g) (old : l ∉ f.engine.links)
    (new : l ∈ g.engine.links) {u : List Event} (unsettled : outcomes l.cell u = []) :
    ∃ q, g.engine.output? l.source = some q ∧ Ledger l q.nextSequence u g := by
  obtain ⟨q, found, _⟩ := (traced_wired (run.next step)).link_output new
  have away := new_apart run step old new
  have nothing : g.undecided l = [] := by
    unfold undecided
    split
    · rfl
    · rename_i p held
      exact if_neg (away p held)
  refine ⟨q, found, ⟨q, found, Nat.le_refl _, ?_⟩, ?_, ?_, ?_⟩
  · simp [unsettled, nothing]
  · simp [unsettled]
  · simp [unsettled]
  · intro p start held _ mem
    exact absurd mem (away p held)

theorem traced_ledger (run : Traced t f) (ml : l ∈ f.engine.links) :
    ∃ first, Ledger l first t f := by
  induction run with
  | fresh made r =>
    obtain ⟨_, _, rfl⟩ := make_blank made
    cases ml
  | @next t s f g run step ih =>
    by_cases old : l ∈ f.engine.links
    · obtain ⟨first, ledger⟩ := ih old
      exact ⟨first, ledger.step (traced_wired run) (traced_underway run) old step⟩
    · obtain ⟨calm, bound⟩ := new_calm run step old ml
      have unsettled : outcomes l.cell (t ++ s) = [] := by
        rw [outcomes_append, (traced_inside run _ bound).1, calm.silent.outcomes]
        rfl
      obtain ⟨q, _, ledger⟩ := ledger_new run step old ml unsettled
      exact ⟨q.nextSequence, ledger⟩

theorem run_ledger (before : Traced s f) (ml : l ∈ f.engine.links) (ledger : Ledger l first [] f)
    (run : Run f t g) : Ledger l first t g ∧ l ∈ g.engine.links := by
  induction run with
  | refl => exact ⟨ledger, ml⟩
  | tail run step ih =>
    have now := before.append run
    exact ⟨ih.1.step (traced_wired now) (traced_underway now) ih.2 step,
      step_links (traced_wired now) step ih.2⟩

theorem stored_sublist (n : CellId) (t : List Event) :
    (stored n t).Sublist ((outcomes n t).map (·.1)) := List.filter_sublist.map _

theorem Ledger.stored_numbers_rise (ledger : Ledger l first t f) :
    (Entry.numbers (stored l.cell t)).Pairwise (· < ·) := by
  obtain ⟨q, _, _, numbers⟩ := ledger.numbers
  have all : (List.range' first (q.nextSequence - first)).Pairwise (· < ·) :=
    List.pairwise_lt_range'
  rw [← numbers] at all
  have rise := (List.pairwise_append.mp all).1
  rw [← Function.comp_def (fun e : Entry Message => e.value.sequence) Prod.fst,
    ← List.map_map] at rise
  exact rise.sublist ((stored_sublist l.cell t).map _)

theorem Ledger.stored_instants_rise (ledger : Ledger l first t f) :
    ((stored l.cell t).map (·.writtenAt)).Pairwise (· ≤ ·) := by
  have rise := ledger.rising
  rw [← Function.comp_def (fun e : Entry Message => e.writtenAt) Prod.fst, ← List.map_map] at rise
  exact rise.sublist ((stored_sublist l.cell t).map _)

end Flow

end Tickflow
