import Tickflow.Proofs.Cutoffs
import Tickflow.Proofs.Visibility
/-!
What handlers read through the context of their calls. The cutoff of a read lies before the call and
before the later ticks that are remembered, and since cutoffs never decrease, a latest-wins input never
goes back to an older message.
-/
namespace Tickflow

namespace Engine

theorem Wired.target_unique {e : Engine} (w : e.Wired) {k l : Link} (mk : k ∈ e.links)
    (ml : l ∈ e.links) (same : k.target = l.target) : k = l := by
  obtain ⟨p, found, cell⟩ := w.link_input mk
  obtain ⟨q, found', cell'⟩ := w.link_input ml
  rw [same, found'] at found
  cases found
  rw [cell'] at cell
  exact w.link_unique mk ml (Option.some.inj cell).symm

end Engine

namespace Flow

open Engine

variable {f g : Flow} {s t : List Event} {a : PortAddress} {n : CellId} {id : HandlerId}

theorem silent_causal (silent : Silent s) (a : PortAddress) : causalReads a s = [] := by
  refine List.filterMap_eq_nil_iff.mpr ?_
  intro e mem
  cases e with
  | read b n look m => exact absurd mem (silent.reads b n look m)
  | issued | looked | settled => rfl

theorem traced_fed (run : Traced t f) {look : Option Look} {m : Option Message}
    (mem : .read a n look m ∈ t) : ∃ l ∈ f.engine.links, l.target = a ∧ l.cell = n := by
  induction run with
  | fresh made r => cases mem
  | @next t s f g run step ih =>
    have kept (old : .read a n look m ∈ t) : ∃ l ∈ g.engine.links, l.target = a ∧ l.cell = n := by
      obtain ⟨l, ml, same⟩ := ih old
      exact ⟨l, step_links (traced_wired run) step ml, same⟩
    rcases List.mem_append.mp mem with old | new
    · exact kept old
    · rcases step_calm (traced_wired run) step with calm | move
      · exact absurd new (calm.silent.reads a n look m)
      · cases move with
        | read _ _ _ found fed =>
          cases List.mem_singleton.mp new
          exact (traced_wired run).input_link found fed
        | settle => cases List.mem_singleton.mp new
        | number | enter | done => cases new

theorem traced_told (run : Traced t f) {l : Look} (told : f.looks id = some l) :
    (cutoffs id t).getLast? = some l.cutoff := by
  induction run generalizing l with
  | fresh made r => cases told
  | @next t s f g run step ih =>
    rw [cutoffs_append]
    rcases step_steady (traced_wired run) step with steady | beat
    · rw [steady.cutoffs, List.append_nil]
      exact ih (steady.looks ▸ told)
    · cases beat with
      | issue | begin => exact (congrArg List.getLast? (List.append_nil _)).trans (ih told)
      | look x c current =>
        by_cases here : x = id
        · subst x
          rw [tell_looks, Function.update_self] at told
          cases told
          simp [cutoffs, Event.cutoff?]
        · rw [tell_looks, Function.update_of_ne (Ne.symm here)] at told
          rw [show cutoffs id [_] = [] by simp [cutoffs, Event.cutoff?, here], List.append_nil]
          exact ih told
      | finish x c how =>
        exact (congrArg List.getLast? (List.append_nil _)).trans (ih (untold told))

theorem le_last {xs : List Nat} {y : Nat} (rising : xs.Pairwise (· ≤ ·))
    (last : xs.getLast? = some y) : ∀ x ∈ xs, x ≤ y := by
  obtain ⟨before, rfl⟩ := List.getLast?_eq_some_iff.mp last
  rw [← List.map_id' (before ++ [y])] at rising
  exact (last_greatest rising).2

theorem read_stored {c : Cell Message} (holds : c.Holds t n) {cutoff : Nat} {m : Message}
    (got : (c.read (some cutoff)).1 = some m) :
    ∃ e ∈ stored n t, e.value = m ∧ e.writtenAt ≤ cutoff := by
  obtain ⟨e, mem, value, early⟩ := holds.found got
  exact ⟨e, mem, value, early cutoff rfl⟩

/-- Every message that was read in a call was stored by a cutoff that the handler was given. -/
theorem traced_read (run : Traced t f) {look : Look} {m : Message}
    (mem : .read a n (some look) (some m) ∈ t) :
    look.cutoff ∈ cutoffs a.handler t ∧
      ∃ e ∈ stored n t, e.value = m ∧ e.writtenAt ≤ look.cutoff := by
  induction run with
  | fresh made r => cases mem
  | @next t s f g run step ih =>
    rw [cutoffs_append, stored_append]
    rcases List.mem_append.mp mem with old | new
    · obtain ⟨told, e, me, same⟩ := ih old
      exact ⟨List.mem_append_left _ told, e, List.mem_append_left _ me, same⟩
    · rcases step_calm (traced_wired run) step with calm | move
      · exact absurd new (calm.silent.reads a n (some look) (some m))
      · cases move with
        | read _ l cutoff found fed here told =>
          obtain ⟨rfl, rfl, rfl, same⟩ : _ ∧ _ ∧ _ ∧ _ := by simpa using List.mem_singleton.mp new
          obtain ⟨asked, rfl⟩ := told look rfl
          have last := List.mem_of_getLast? (traced_told run asked)
          obtain ⟨e, me, value, early⟩ := read_stored (traced_holds run here) same.symm
          exact ⟨List.mem_append_left _ last, e, List.mem_append_left _ me, value, early⟩
        | settle => cases List.mem_singleton.mp new
        | number | enter | done => cases new

theorem step_policy (w : f.engine.Wired) (step : Step f s g) {c : Cell Message}
    (here : g.engine.cells[n]? = some c) (bound : n < f.engine.cells.length) :
    ∃ x, f.engine.cells[n]? = some x ∧ x.policy = c.policy := by
  have policy {x c : Cell Message} (same : c.emptied = x.emptied) : x.policy = c.policy := by
    rw [← Cell.emptied_policy x, ← same, Cell.emptied_policy]
  have replaced {k : CellId} {x x' : Cell Message} (there : f.engine.cells[k]? = some x)
      (same : x'.emptied = x.emptied) (here : (f.engine.cells.set k x')[n]? = some c) :
      ∃ x, f.engine.cells[n]? = some x ∧ x.policy = c.policy := by
    rw [List.getElem?_set] at here
    split at here
    · rename_i at_n
      subst k
      rw [if_pos bound] at here
      cases here
      exact ⟨x, there, policy same⟩
    · exact ⟨c, here, rfl⟩
  rcases step_calm w step with calm | move
  · rcases calm.arranged.cells n c here with ⟨x, before, same⟩ | ⟨beyond, _⟩
    · refine ⟨x, before, ?_⟩
      rcases same with rfl | rfl
      · rfl
      · exact (Cell.cleared_policy x.slots).symm
    · exact absurd bound (Nat.not_lt.mpr beyond)
  · cases move with
    | read _ _ cutoff _ _ there => exact replaced there (Cell.read_emptied cutoff _) here
    | settle _ _ there => exact replaced there (Cell.write_emptied _ _ _) here
    | number | enter | done => exact ⟨c, here, rfl⟩

theorem latest_newest {s : Slots Message} {all : List (Entry Message)} {got : List Message}
    (filled : s.Filled all got) (latest : s.policy = .latestWins)
    (rise : (Entry.numbers all).Pairwise (· ≤ ·)) {cutoff : Nat} {m : Message}
    (read : (Cell.take (some cutoff) s).1 = some m) :
    ∀ e ∈ all, e.writtenAt ≤ cutoff → e.value.sequence ≤ m.sequence := by
  cases s with
  | ordered => cases latest
  | latest current shadow currentRead =>
    intro e mem early
    rcases List.eq_nil_or_concat' all with rfl | ⟨es, last, rfl⟩
    · cases mem
    · rw [latest_take filled] at read
      obtain ⟨rise, newest⟩ := last_greatest rise
      by_cases seen : last.writtenAt ≤ cutoff
      · rw [if_pos seen] at read
        cases read
        exact newest e mem
      · rw [if_neg seen] at read
        have older : e ∈ es := by
          rcases List.mem_append.mp mem with old | new
          · exact old
          · rw [List.mem_singleton.mp new] at early
            exact absurd early seen
        obtain ⟨x, shown, rfl⟩ := Option.map_eq_some_iff.mp read
        obtain ⟨at_end, _⟩ := Option.filter_eq_some_iff.mp shown
        obtain ⟨xs, rfl⟩ := List.getLast?_eq_some_iff.mp at_end
        exact (last_greatest rise).2 e older

theorem mem_causalReads {x : Message} (mem : x ∈ causalReads a t) :
    ∃ n look, .read a n (some look) (some x) ∈ t := by
  obtain ⟨e, me, same⟩ := List.mem_filterMap.mp mem
  cases e with
  | issued | looked | settled => cases same
  | read b n look m =>
    cases look with
    | none => cases same
    | some look =>
      simp only [Event.causal?] at same
      split at same
      · rename_i here
        subst here
        subst m
        exact ⟨n, look, me⟩
      · cases same

theorem unread_before {l : Link} (run : Traced t f) (step : Step f s g)
    (old : l ∉ f.engine.links) (new : l ∈ g.engine.links) : causalReads l.target t = [] := by
  have w := traced_wired run
  refine List.eq_nil_iff_forall_not_mem.mpr fun x mem => ?_
  obtain ⟨n, look, read⟩ := mem_causalReads mem
  obtain ⟨k, mk, target, _⟩ := traced_fed run read
  have same : k = l := (step_wired w step).target_unique (step_links w step mk) new target
  exact old (same ▸ mk)

theorem reads_newer (run : Traced t f) (sorted : (frames t).Pairwise (· < ·)) {l : Link}
    (ml : l ∈ f.engine.links) {c : Cell Message} (here : f.engine.cells[l.cell]? = some c)
    (latest : c.policy = .latestWins) {look : Look}
    (told : f.looks l.target.handler = some look) {m : Message}
    (got : (c.read (some look.cutoff)).1 = some m) :
    ∀ x ∈ causalReads l.target t, x.sequence ≤ m.sequence := by
  intro x mem
  obtain ⟨n, look', read⟩ := mem_causalReads mem
  obtain ⟨k, mk, target, rfl⟩ := traced_fed run read
  obtain rfl := (traced_wired run).target_unique mk ml target
  obtain ⟨given, e, me, rfl, early⟩ := traced_read run read
  have later := le_last (cutoffs_bounded run sorted _).1 (traced_told run told) _ given
  obtain ⟨first, ledger⟩ := traced_ledger run mk
  have rise := ledger.stored_numbers_rise.imp Nat.le_of_lt
  rcases (traced_holds run here).slots with dead | ⟨_, filled⟩
  · rw [dead.read] at got
    cases got
  · exact latest_newest filled latest rise got e me (Nat.le_trans early later)

theorem latest_reads_rise (run : Traced t f) (sorted : (frames t).Pairwise (· < ·)) {l : Link}
    (ml : l ∈ f.engine.links) {c : Cell Message} (here : f.engine.cells[l.cell]? = some c)
    (latest : c.policy = .latestWins) :
    (Message.numbers (causalReads l.target t)).Pairwise (· ≤ ·) := by
  induction run generalizing c with
  | fresh made r =>
    obtain ⟨_, _, rfl⟩ := make_blank made
    cases ml
  | @next t s f g run step ih =>
    have w := traced_wired run
    rw [causalReads_append]
    by_cases old : l ∈ f.engine.links
    · obtain ⟨x, before, policy⟩ := step_policy w step here (w.cell_bound old)
      have earlier := frames_sorted_left sorted
      have rising := ih earlier old before (policy.trans latest)
      have same (nothing : causalReads l.target s = []) : (Message.numbers
          (causalReads l.target t ++ causalReads l.target s)).Pairwise (· ≤ ·) := by
        rw [nothing, List.append_nil]
        exact rising
      rcases step_calm w step with calm | move
      · exact same (silent_causal calm.silent _)
      · cases move with
        | number | enter | done | settle => exact same rfl
        | @read a p n y look cutoff found fed there told =>
          cases look with
          | none => exact same rfl
          | some look =>
            by_cases at_a : a = l.target
            · subst a
              obtain ⟨asked, rfl⟩ := told look rfl
              obtain ⟨k, mk, target, rfl⟩ := w.input_link found fed
              obtain rfl := w.target_unique mk old target
              rw [there] at before
              cases before
              have only (m : Option Message) : causalReads k.target
                  [.read k.target k.cell (some look) m] = m.toList := by
                cases m <;> simp [causalReads, Event.causal?]
              cases got : (x.read (some look.cutoff)).1 with
              | none => simpa [only] using rising
              | some m =>
                rw [only, Option.toList_some, Message.numbers, List.map_append]
                refine List.pairwise_append.mpr ⟨rising, List.pairwise_singleton _ _, ?_⟩
                intro i mi j mj
                obtain ⟨earlier', me, rfl⟩ := List.mem_map.mp mi
                rw [List.mem_singleton.mp mj]
                exact reads_newer run earlier mk there (policy.trans latest) asked got _ me
            · exact same (by simp [causalReads, Event.causal?, at_a])
    · rw [unread_before run step old ml, silent_causal (new_calm run step old ml).1.silent]
      exact List.Pairwise.nil

/-- Cutoffs never decrease, and so reads of a latest-wins input never go back to an older message. -/
theorem reads_never_go_back (run : Traced t f) (sorted : (frames t).Pairwise (· < ·)) :
    (∀ id, (cutoffs id t).Pairwise (· ≤ ·)) ∧
    ∀ a p n c, f.engine.input? a = some p → p.cell = some n → f.engine.cells[n]? = some c →
      c.policy = .latestWins → (Message.numbers (causalReads a t)).Pairwise (· ≤ ·) := by
  refine ⟨fun id => (cutoffs_bounded run sorted id).1, ?_⟩
  intro a p n c found fed here latest
  obtain ⟨l, ml, rfl, rfl⟩ := (traced_wired run).input_link found fed
  exact latest_reads_rise run sorted ml here latest

def nextLook : Look := ⟨⟨1, 0.0, 0.0, 5⟩, 6, 6⟩

def caughtUp : Flow :=
  (((((late.got sink (some 3)).put ((late.got sink (some 3)).engine.finish sink.handler
    ⟨⟨0, 0.0, 0.0, 2⟩, 3, [], false, []⟩ none)).tell sink.handler none).ticked 1).began
      sink.handler).tell sink.handler (some nextLook) |>.got sink (some 6)

def caughtUpTrace : List Event :=
  lateTrace ++ [.read sink 0 (some lateLook) (some ((note 0).withSequence 0)),
    .issued ⟨1, 0.0, 0.0, 5⟩, .looked sink.handler nextLook,
    .read sink 0 (some nextLook) (some ((note 1).withSequence 1))]

theorem caught_up_traced : Traced caughtUpTrace caughtUp := by
  let f₁ := late.got sink (some 3)
  let f₂ := (f₁.put (f₁.engine.finish sink.handler ⟨⟨0, 0.0, 0.0, 2⟩, 3, [], false, []⟩ none)).tell
    sink.handler none
  let f₃ := f₂.ticked 1
  let f₄ := f₃.began sink.handler
  let f₅ := f₄.tell sink.handler (some nextLook)
  have finish : Step f₁ [] f₂ := .beat (.finish sink.handler _ none)
  have issue : Step f₂ [.issued ⟨1, 0.0, 0.0, 5⟩] f₃ := issue_step 1 0.0 0.0 rfl
  have take : Step f₃ [] f₄ := begin_step rfl
  have ask : Step f₄ [.looked sink.handler nextLook] f₅ :=
    .beat (.look sink.handler ⟨⟨1, 0.0, 0.0, 5⟩, 6, [], false, []⟩ rfl)
  have asked : f₅.looks sink.handler = some nextLook := tell_here _ _ _
  have read : Step f₅ [.read sink 0 (some nextLook) (some ((note 1).withSequence 1))] caughtUp :=
    .move (.read sink (some nextLook) (some 6) (c := f₅.engine.cells.get ⟨0, by decide +kernel⟩)
      rfl rfl rfl (told_last asked))
  exact (((((late_traced.next late_read).next finish).next issue).next take).next ask).next read

theorem reads_never_go_back_caught_up : Traced caughtUpTrace caughtUp ∧
    (frames caughtUpTrace).Pairwise (· < ·) ∧
    cutoffs sink.handler caughtUpTrace = [3, 6] ∧
    (cutoffs sink.handler caughtUpTrace).Pairwise (· ≤ ·) ∧
    Message.numbers (causalReads sink caughtUpTrace) = [0, 1] ∧
    (Message.numbers (causalReads sink caughtUpTrace)).Pairwise (· ≤ ·) := by
  have sorted : (frames caughtUpTrace).Pairwise (· < ·) := by decide +kernel
  obtain ⟨given, reads⟩ := reads_never_go_back caught_up_traced sorted
  exact ⟨caught_up_traced, sorted, by decide +kernel, given _, by decide +kernel,
    reads sink _ 0 (caughtUp.engine.cells.get ⟨0, by decide +kernel⟩) rfl rfl rfl rfl⟩

/-- What a handler reads in a call was written before the call began, and before any later tick was
issued that is among the latest ones. Of older ticks, and once the engine is stopped, nothing is known. -/
theorem causal_read (run : Traced t f) {look : Look} {m : Message}
    (read : Step f [.read a n (some look) (some m)] g) :
    ∃ e ∈ stored n t, e.value = m ∧ e.writtenAt ≤ look.startedAt ∧
      (f.engine.state ≠ .stopped →
        ∀ tick ∈ (issues t).drop ((issues t).length - TickHistory.size),
          look.tick.frame < tick.frame → e.writtenAt ≤ tick.issuedAt) := by
  have got : ∃ c : Cell Message, f.engine.cells[n]? = some c ∧
      f.looks a.handler = some look ∧ (c.read (some look.cutoff)).1 = some m := by
    obtain ⟨x, shown⟩ : ∃ x, x = some m := ⟨_, rfl⟩
    rw [← shown] at read
    cases read with
    | beat b => cases b
    | move move =>
      cases move with
      | read _ _ cutoff _ _ here told =>
        obtain ⟨asked, rfl⟩ := told look rfl
        exact ⟨_, here, asked, shown⟩
  obtain ⟨c, here, asked, got⟩ := got
  obtain ⟨e, me, value, early⟩ := read_stored (traced_holds run here) got
  have clocked := traced_clocked run
  obtain ⟨low, _, none⟩ := clocked.told _ look asked
  refine ⟨e, me, value, Nat.le_trans early low, ?_⟩
  intro awake tick mem later
  have known : (tick.frame, tick.issuedAt) ∈ f.engine.broadcaster.history.recent := by
    rw [clocked.memory awake, stamps, ← List.map_drop, List.length_map]
    exact List.mem_map_of_mem mem
  exact Nat.le_trans early (none _ known later)

theorem causal_read_late : ∃ e ∈ stored 0 (lateTrace ++ [.issued ⟨1, 0.0, 0.0, 5⟩]),
    e.value = (note 0).withSequence 0 ∧ e.writtenAt ≤ lateLook.startedAt ∧ e.writtenAt ≤ 5 := by
  let f := late.ticked 1
  have issue : Step late [.issued ⟨1, 0.0, 0.0, 5⟩] f := issue_step 1 0.0 0.0 rfl
  have read : Step f [.read sink 0 (some lateLook) (some ((note 0).withSequence 0))]
      (f.got sink (some 3)) :=
    .move (.read sink (some lateLook) (some 3) (c := f.engine.cells.get ⟨0, by decide +kernel⟩)
      rfl rfl rfl (told_last late_told))
  obtain ⟨e, me, value, start, next⟩ := causal_read (late_traced.next issue) read
  exact ⟨e, me, value, start, next (by decide +kernel) ⟨1, 0.0, 0.0, 5⟩ (.tail _ (.head _))
    (by decide)⟩

def beats : (count frame : Nat) → Flow → Flow
  | 0, _, f => f
  | count + 1, frame, f => beats count (frame + 1) (f.ticked frame)

def beatsTrace : (count frame : Nat) → Flow → List Event
  | 0, _, _ => []
  | count + 1, frame, f =>
    .issued ⟨frame, 0.0, 0.0, f.engine.now + 1⟩ :: beatsTrace count (frame + 1) (f.ticked frame)

theorem beats_run (count frame : Nat) (running : f.engine.state = .running) :
    Run f (beatsTrace count frame f) (beats count frame f) := by
  induction count generalizing frame f with
  | zero => exact .refl
  | succ count ih =>
    have issue : Step f _ (f.ticked frame) := issue_step frame 0.0 0.0 running
    exact (Run.single issue).trans (ih (frame + 1) running)

theorem beats_rest (count frame : Nat) (f : Flow) :
    (beats count frame f).engine.handlers = f.engine.handlers ∧
      (beats count frame f).engine.cells = f.engine.cells := by
  induction count generalizing frame f with
  | zero => exact ⟨rfl, rfl⟩
  | succ count ih => exact ih (frame + 1) (f.ticked frame)

theorem beats_stored (n : CellId) (count frame : Nat) (f : Flow) :
    stored n (beatsTrace count frame f) = [] := by
  induction count generalizing frame f with
  | zero => rfl
  | succ count ih => exact ih (frame + 1) (f.ticked frame)

theorem began_cells (id : HandlerId) (f : Flow) : (f.began id).engine.cells = f.engine.cells :=
  beginCall_cells id f.engine

attribute [irreducible] beats beatsTrace

def prompt : Flow :=
  ((((atRest (linked .latestWins).start.2).ticked 0).ticked 1).wrote source (note 0))

def forgetful : Flow := (beats 64 2 prompt).began sink.handler

def forgetfulTrace : List Event :=
  [.issued ⟨0, 0.0, 0.0, 1⟩, .issued ⟨1, 0.0, 0.0, 2⟩,
    .settled 0 ⟨(note 0).withSequence 0, 3⟩ (.ok ())] ++ beatsTrace 64 2 prompt

theorem forgetful_traced : Traced forgetfulTrace forgetful := by
  let f₀ := atRest (linked .latestWins).start.2
  let f₁ := f₀.ticked 0
  let f₂ := f₁.ticked 1
  have started : Traced [] f₀ :=
    ((source_and_sink_traced _).next (linked_step .latestWins)).next (.command .start)
  have first : Step f₀ [.issued ⟨0, 0.0, 0.0, 1⟩] f₁ := issue_step 0 0.0 0.0 rfl
  have second : Step f₁ [.issued ⟨1, 0.0, 0.0, 2⟩] f₂ := issue_step 1 0.0 0.0 rfl
  have run₂ := (started.next first).next second
  have run₃ : Traced [.issued ⟨0, 0.0, 0.0, 1⟩, .issued ⟨1, 0.0, 0.0, 2⟩,
      .settled 0 ⟨(note 0).withSequence 0, 3⟩ (.ok ())] prompt :=
    run₂.append (wrote_run (traced_wired run₂) source rfl (note 0))
  have run₄ : Traced forgetfulTrace (beats 64 2 prompt) := run₃.append (beats_run 64 2 rfl)
  have free : ((beats 64 2 prompt).engine.handler? sink.handler).bind (·.call) = none := by
    rw [handler?, (beats_rest 64 2 prompt).1]
    rfl
  have take : Step (beats 64 2 prompt) [] forgetful := begin_step free
  have run₅ := run₄.next take
  rw [List.append_nil] at run₅
  exact run₅

/-- A read may get what was written after the next tick was issued, once that tick is forgotten. -/
theorem causal_read_forgets : ¬ ∀ (t : List Event) (f g : Flow) (a : PortAddress) (n : CellId)
    (look : Look) (m : Message), Traced t f → (frames t).Pairwise (· < ·) →
    f.engine.state = .running → Step f [.read a n (some look) (some m)] g →
    ∃ e ∈ stored n t, e.value = m ∧ e.writtenAt ≤ look.startedAt ∧
      ∀ tick ∈ issues t, look.tick.frame < tick.frame → e.writtenAt ≤ tick.issuedAt := by
  intro claimed
  have known : ((forgetful.engine.handler? sink.handler).bind (·.call)).map
      (fun c => (c.tick.frame, forgetful.engine.cutoff c)) = some (0, 4) := by decide +kernel
  obtain ⟨c, current, numbers⟩ := Option.map_eq_some_iff.mp known
  obtain ⟨frame, cutoff⟩ := Prod.mk.inj numbers
  let look : Look := ⟨c.tick, c.startedAt, forgetful.engine.cutoff c⟩
  let f := forgetful.tell sink.handler (some look)
  let t := forgetfulTrace ++ [.looked sink.handler look]
  have run : Traced t f := forgetful_traced.next (.beat (.look sink.handler c current))
  have sorted : (frames t).Pairwise (· < ·) := by
    rw [frames_append, show frames [.looked sink.handler look] = [] from rfl, List.append_nil]
    decide +kernel
  have only : stored 0 t = [⟨(note 0).withSequence 0, 3⟩] := by
    simp only [t, forgetfulTrace, stored_append, beats_stored]
    rfl
  let cell : Cell Message := prompt.engine.cells.get ⟨0, by decide +kernel⟩
  have here : f.engine.cells[0]? = some cell := by
    rw [tell_engine, forgetful, began_cells, (beats_rest 64 2 prompt).2]
    rfl
  have fed : (f.engine.input? sink).bind (·.cell) = some 0 := by
    rw [tell_engine]
    decide +kernel
  obtain ⟨p, found, fed⟩ := Option.bind_eq_some_iff.mp fed
  have read : Step f [.read sink 0 (some look) (some ((note 0).withSequence 0))]
      (f.fill 0 (cell.read (some 4)).2) :=
    .move (.read sink (some look) (some 4) found fed here (by simp [f, look, cutoff]))
  have running : f.engine.state = .running := by
    rw [tell_engine]
    decide +kernel
  obtain ⟨e, me, _, _, early⟩ := claimed t f _ sink 0 look _ run sorted running read
  have late := early ⟨1, 0.0, 0.0, 2⟩ (.tail _ (.head _)) (by simp [look, frame])
  rw [only, List.mem_singleton] at me
  subst e
  exact absurd late (by decide)

end Flow

end Tickflow
