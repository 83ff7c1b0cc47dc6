import Tickflow.Proofs.Atomic
/-!
What a cutoff lets through of a latest-wins link. The cell keeps the newest message and the one before
it, so a reader finds the newest one that it may see as long as at most one later message came; when
two came, it finds nothing.
-/
namespace Tickflow

def Entry.visible (cutoff : Nat) (es : List (Entry α)) : List (Entry α) :=
  es.filter (·.writtenAt ≤ cutoff)

def Entry.hidden (cutoff : Nat) (es : List (Entry α)) : List (Entry α) :=
  es.filter (cutoff < ·.writtenAt)

theorem last_greatest {key : α → Nat} {xs : List α} {x : α}
    (rising : ((xs ++ [x]).map key).Pairwise (· ≤ ·)) :
    (xs.map key).Pairwise (· ≤ ·) ∧ ∀ y ∈ xs ++ [x], key y ≤ key x := by
  rw [List.map_append] at rising
  obtain ⟨before, _, last⟩ := List.pairwise_append.mp rising
  refine ⟨before, fun y mem => ?_⟩
  rcases List.mem_append.mp mem with old | new
  · exact last _ (List.mem_map_of_mem old) _ List.mem_cons_self
  · exact Nat.le_of_eq (congrArg key (List.mem_singleton.mp new))

section
variable {all es : List (Entry α)} {e : Entry α} {cutoff : Nat}

theorem visible_all (early : ∀ e ∈ es, e.writtenAt ≤ cutoff) :
    Entry.visible cutoff es = es ∧ Entry.hidden cutoff es = [] := by
  constructor
  · exact List.filter_eq_self.mpr fun e mem => decide_eq_true (early e mem)
  · refine List.filter_eq_nil_iff.mpr fun e mem => ?_
    have := early e mem
    simpa using this

theorem visible_concat_late (es : List (Entry α)) (late : cutoff < e.writtenAt) :
    Entry.visible cutoff (es ++ [e]) = Entry.visible cutoff es ∧
      Entry.hidden cutoff (es ++ [e]) = Entry.hidden cutoff es ++ [e] := by
  constructor
  · rw [Entry.visible, List.filter_append]
    simpa [Entry.visible] using late
  · rw [Entry.hidden, List.filter_append]
    simpa [Entry.hidden] using late

theorem latest_take {current shadow : Option (Entry α)} {currentRead : Bool} {got : List α}
    (filled : (Slots.latest current shadow currentRead).Filled (es ++ [e]) got) :
    (Cell.take (some cutoff) (.latest current shadow currentRead)).1 =
      if e.writtenAt ≤ cutoff then some e.value
      else (es.getLast?.filter (·.writtenAt ≤ cutoff)).map (·.value) := by
  obtain ⟨rfl, rfl⟩ := filled
  rw [List.getLast?_concat, List.dropLast_concat]
  by_cases seen : e.writtenAt ≤ cutoff
  · simp [Cell.take, Cell.Entry.isVisible, Option.filter, seen]
  · simp only [Cell.take, Cell.Entry.isVisible, Option.filter, seen, decide_false,
      Bool.false_eq_true, ↓reduceIte]
    rfl

theorem latest_visible {s : Slots α} {got : List α} (filled : s.Filled all got)
    (latest : s.policy = .latestWins) (rising : (all.map (·.writtenAt)).Pairwise (· ≤ ·)) :
    (Cell.take (some cutoff) s).1 =
      if (Entry.hidden cutoff all).length ≤ 1 then
        (Entry.visible cutoff all).getLast?.map (·.value) else none := by
  cases s with
  | ordered => cases latest
  | latest current shadow currentRead =>
    rcases List.eq_nil_or_concat' all with rfl | ⟨es, e, rfl⟩
    · obtain ⟨rfl, rfl⟩ := filled
      rfl
    · rw [latest_take filled]
      obtain ⟨rising, last⟩ := last_greatest rising
      by_cases seen : e.writtenAt ≤ cutoff
      · obtain ⟨shown, none⟩ :=
          visible_all fun x mem => Nat.le_trans (last x mem) seen
        simp [shown, none, seen]
      · obtain ⟨shown, away⟩ := visible_concat_late es (Nat.lt_of_not_le seen)
        rw [if_neg seen, shown, away]
        rcases List.eq_nil_or_concat' es with rfl | ⟨xs, x, rfl⟩
        · simp [Entry.visible, Entry.hidden]
        · obtain ⟨_, before⟩ := last_greatest rising
          by_cases seen' : x.writtenAt ≤ cutoff
          · obtain ⟨shown', none⟩ :=
              visible_all fun y mem => Nat.le_trans (before y mem) seen'
            simp [shown', none, seen', Option.filter]
          · obtain ⟨_, away'⟩ := visible_concat_late xs (Nat.lt_of_not_le seen')
            simp [away', seen', Option.filter]

end

namespace Flow

open Engine

variable {f g : Flow} {t : List Event}

/-- A read during a tick gets the newest message that was written by its cutoff, if at most one was
written to the link since, and nothing if more were. -/
theorem latest_read (run : Traced t f) {a : PortAddress} {n : CellId} {look : Look}
    {m : Option Message} (read : Step f [.read a n (some look) m] g) {c : Cell Message}
    (here : f.engine.cells[n]? = some c) (isOpen : c.closed = false)
    (latest : c.policy = .latestWins) :
    m = if (Entry.hidden look.cutoff (stored n t)).length ≤ 1 then
      (Entry.visible look.cutoff (stored n t)).getLast?.map (·.value) else none := by
  cases read with
  | beat b => cases b
  | move move =>
    cases move with
    | read _ _ cutoff found fed here' told =>
      rw [here] at here'
      cases here'
      rw [(told look rfl).2]
      obtain ⟨l, ml, _, rfl⟩ := (traced_wired run).input_link found fed
      obtain ⟨first, ledger⟩ := traced_ledger run ml
      exact latest_visible ((traced_holds run here).filled isOpen) latest
        ledger.stored_instants_rise

def ticked (frame : Nat) (f : Flow) : Flow := f.put (f.engine.issue frame 0.0 0.0)

def began (id : HandlerId) (f : Flow) : Flow := f.put (f.engine.beginCall id)

def lateLook : Look := ⟨⟨0, 0.0, 0.0, 2⟩, 3, 3⟩

/-- The sink took its first tick up when one message was there, and another one came before it read. -/
def late : Flow :=
  (((((atRest (linked .latestWins).start.2).wrote source (note 0)).ticked 0).began
    sink.handler).wrote source (note 1)).tell sink.handler (some lateLook)

theorem late_told : late.looks sink.handler = some lateLook := tell_here _ _ _

def lateTrace : List Event :=
  [.settled 0 ⟨(note 0).withSequence 0, 1⟩ (.ok ()), .issued ⟨0, 0.0, 0.0, 2⟩,
    .settled 0 ⟨(note 1).withSequence 1, 4⟩ (.ok ()), .looked sink.handler lateLook]

theorem late_traced : Traced lateTrace late := by
  let f₀ := atRest (linked .latestWins).start.2
  let f₁ := f₀.wrote source (note 0)
  let f₂ := f₁.ticked 0
  let f₃ := f₂.began sink.handler
  let f₄ := f₃.wrote source (note 1)
  have started : Traced [] f₀ :=
    ((source_and_sink_traced _).next (linked_step .latestWins)).next (.command .start)
  have run₁ := started.append (wrote_run (traced_wired started) source rfl (note 0))
  have issue : Step f₁ [.issued ⟨0, 0.0, 0.0, 2⟩] f₂ :=
    issue_step 0 0.0 0.0 rfl
  have take : Step f₂ [] f₃ := begin_step rfl
  have run₃ := (run₁.next issue).next take
  have run₄ := run₃.append (wrote_run (traced_wired run₃) source rfl (note 1))
  have look : Step f₄ [.looked sink.handler lateLook] late :=
    .beat (.look sink.handler ⟨⟨0, 0.0, 0.0, 2⟩, 3, [], false, []⟩ rfl)
  exact run₄.next look

theorem late_read : Step late [.read sink 0 (some lateLook) (some ((note 0).withSequence 0))]
    (late.got sink (some 3)) :=
  .move (.read sink (some lateLook) (some 3)
    (c := late.engine.cells.get ⟨0, by decide +kernel⟩) rfl rfl rfl
    (told_last late_told))

theorem latest_read_late : Traced lateTrace late ∧
    (Entry.hidden lateLook.cutoff (stored 0 lateTrace)).length = 1 ∧
    some ((note 0).withSequence 0) =
      (Entry.visible lateLook.cutoff (stored 0 lateTrace)).getLast?.map (·.value) :=
  ⟨late_traced, rfl, latest_read late_traced late_read
    (c := late.engine.cells.get ⟨0, by decide +kernel⟩) rfl rfl rfl⟩

/-- When two messages came since the cutoff, an older one that might be seen is gone. -/
theorem latest_read_forgets : ¬ ∀ (t : List Event) (f g : Flow) (a : PortAddress) (n : CellId)
    (look : Look) (m : Option Message) (c : Cell Message), Traced t f →
    Step f [.read a n (some look) m] g → f.engine.cells[n]? = some c → c.closed = false →
    c.policy = .latestWins → Entry.visible look.cutoff (stored n t) ≠ [] →
    m = (Entry.visible look.cutoff (stored n t)).getLast?.map (·.value) := by
  intro claimed
  let f := late.wrote source (note 2)
  let t := lateTrace ++ written source (note 2) late.engine
  have run : Traced t f :=
    late_traced.append (wrote_run (traced_wired late_traced) source rfl (note 2))
  have read : Step f [.read sink 0 (some lateLook) none] (f.got sink (some 3)) :=
    .move (.read sink (some lateLook) (some 3)
      (c := f.engine.cells.get ⟨0, by decide +kernel⟩) rfl rfl rfl
      (told_last late_told))
  have early : Entry.visible lateLook.cutoff (stored 0 t) = [⟨(note 0).withSequence 0, 1⟩] := rfl
  have wrong := claimed t f _ sink 0 lateLook none
    (f.engine.cells.get ⟨0, by decide +kernel⟩) run read rfl rfl rfl
  rw [early] at wrong
  cases wrong (by simp)

end Flow

end Tickflow
