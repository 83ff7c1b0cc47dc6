import Mathlib.Data.List.DropRight
import Tickflow.Proofs.Uses
import Tickflow.Proofs.Visibility
/-!
A latest-wins cell against the log of its writes. The two slots and the mark on the newest one tell of
the whole log what a reader may learn: the newest entry, the one before it, and whether a read got the
newest since it was written.
-/
namespace Tickflow

def Slots.unmarked : Slots α → Slots α
  | .latest current shadow _ => .latest current shadow false
  | .ordered capacity queue => .ordered capacity queue

namespace Cell

section
variable (us : List (Use α))

/-- What was written since the cell was last emptied; nothing counts any more once it is closed. -/
def log : List (Entry α) :=
  if us.any Use.isClose then [] else (us.rtakeWhile (!·.isClear)).filterMap Use.entry?

def unread : Bool :=
  match (log us).getLast? with
  | none => false
  | some e => (us.rtakeWhile (!·.isWrite)).all (!·.shows e)

/-- The places of the writes that replaced an entry which no read had got. -/
def overwrites : List Nat :=
  (List.range us.length).filter fun i => us[i]?.any Use.isWrite && unread (us.take i)

end

section
variable (us : List (Use α))

theorem any_close_concat (u : Use α) :
    (us ++ [u]).any Use.isClose = (us.any Use.isClose || u.isClose) := by
  rw [List.any_append, List.any_cons, List.any_nil, Bool.or_false]

theorem log_write (e : Entry α) :
    log (us ++ [.write e]) = if us.any Use.isClose then [] else log us ++ [e] := by
  simp only [log, any_close_concat, Use.isClose, Bool.or_false]
  split
  · rfl
  · rw [List.rtakeWhile_concat_pos _ _ _ rfl, List.filterMap_append]
    rfl

theorem log_read (cutoff : Option Nat) : log (us ++ [.read cutoff]) = log us := by
  simp only [log, any_close_concat, Use.isClose, Bool.or_false]
  rw [List.rtakeWhile_concat_pos _ _ _ rfl, List.filterMap_append,
    show List.filterMap Use.entry? [Use.read cutoff] = [] from rfl, List.append_nil]

theorem log_clear : log (us ++ [.clear]) = [] := by
  simp [log, Use.isClear, List.rtakeWhile_concat_neg]

theorem log_close : log (us ++ [.close]) = [] := by
  simp [log, Use.isClose]

theorem unread_write (e : Entry α) (isOpen : us.any Use.isClose = false) :
    unread (us ++ [.write e]) = true := by
  have newest : (log (us ++ [.write e])).getLast? = some e := by
    rw [log_write, isOpen]
    exact List.getLast?_concat
  rw [unread, newest]
  simp [Use.isWrite, List.rtakeWhile_concat_neg]

theorem unread_read (cutoff : Option Nat) : unread (us ++ [.read cutoff]) =
    (unread us && (log us).getLast?.any (!Entry.isVisible cutoff ·)) := by
  rw [unread, unread, log_read]
  cases (log us).getLast? with
  | none => rfl
  | some e =>
    simp only [List.rtakeWhile_concat_pos (fun u => !Use.isWrite u) us (.read cutoff) rfl,
      List.all_append]
    simp [Use.shows]

theorem unread_empty (empty : log us = []) : unread us = false := by
  rw [unread, empty]
  rfl

theorem overwrites_concat (u : Use α) : overwrites (us ++ [u]) =
    overwrites us ++ if u.isWrite && unread us then [us.length] else [] := by
  have before : ∀ i ∈ List.range us.length,
      ((us ++ [u])[i]?.any Use.isWrite && unread ((us ++ [u]).take i)) =
        (us[i]?.any Use.isWrite && unread (us.take i)) := by
    intro i mem
    have bound := List.mem_range.mp mem
    rw [List.getElem?_append_left bound, List.take_append_of_le_length (Nat.le_of_lt bound)]
  rw [overwrites, List.length_append, List.length_singleton, List.range_succ, List.filter_append,
    List.filter_congr before]
  simp only [overwrites, List.filter_cons, List.filter_nil, List.getElem?_concat_length,
    List.take_left', Option.any_some]

end

/-- The slots show the last two entries of the log, and the counts are those of the uses. -/
structure Logged (us : List (Use α)) (c : Cell α) : Prop where
  closed : c.closed = us.any Use.isClose
  slots : ∃ currentRead, c.slots =
    .latest (log us).getLast? (log us).dropLast.getLast? currentRead
  fresh : isUnread c.slots = unread us
  dropped : c.stats.droppedFrames = (overwrites us).length

theorem make_logged {label : String} {c : Cell α} (made : make .latestWins label = .ok c) :
    c.Logged [] := by
  cases made
  exact ⟨rfl, ⟨false, rfl⟩, rfl, rfl⟩

section
variable {us : List (Use α)} {c : Cell α}

theorem Logged.write (logged : c.Logged us) (e : Entry α) :
    (c.use (.write e)).Logged (us ++ [.write e]) := by
  obtain ⟨isClosed, ⟨currentRead, slots⟩, fresh, dropped⟩ := logged
  have still := (any_close_concat us (Use.write e)).trans (Bool.or_false _)
  cases shut : us.any Use.isClose with
  | true =>
    have nothing : log us = [] := by rw [log, shut, if_pos rfl]
    have nothing' : log (us ++ [.write e]) = [] := by rw [log_write, shut, if_pos rfl]
    have same : c.use (.write e) = c :=
      congrArg Prod.snd (write_closed (isClosed.trans shut) e.writtenAt e.value)
    rw [same]
    refine ⟨isClosed.trans still.symm, ⟨currentRead, ?_⟩, ?_, ?_⟩
    · rw [slots, nothing, nothing']
    · rw [fresh, unread_empty us nothing, unread_empty _ nothing']
    · rw [dropped, overwrites_concat, unread_empty us nothing]
      simp
  | false =>
    have isOpen := isClosed.trans shut
    have written : c.use (.write e) = { c with
        slots := .latest (some e) (log us).getLast? false
        stats := { c.stats with
          writes := c.stats.writes + 1
          droppedFrames := c.stats.droppedFrames + (unread us).toNat } } := by
      rw [← fresh]
      simp [Cell.use, Cell.write, isOpen, slots]
    have grown : log (us ++ [.write e]) = log us ++ [e] := by
      rw [log_write, shut]
      rfl
    rw [written]
    refine ⟨isClosed.trans still.symm, ⟨false, ?_⟩, ?_, ?_⟩
    · rw [grown, List.getLast?_concat, List.dropLast_concat]
    · rw [unread_write us e shut]
      rfl
    · rw [overwrites_concat, List.length_append, ← dropped]
      cases unread us <;> rfl

theorem Logged.read (logged : c.Logged us) (cutoff : Option Nat) :
    (c.use (.read cutoff)).Logged (us ++ [.read cutoff]) := by
  obtain ⟨isClosed, ⟨currentRead, slots⟩, fresh, dropped⟩ := logged
  have still := (any_close_concat us (Use.read cutoff)).trans (Bool.or_false _)
  refine ⟨isClosed.trans still.symm, ?_, ?_, ?_⟩
  · rw [log_read, use, (read_slots cutoff c).2.1, slots, take]
    split
    · exact ⟨true, rfl⟩
    · exact ⟨currentRead, rfl⟩
  · rw [unread_read, ← fresh, use, (read_slots cutoff c).2.1, slots, take]
    cases (log us).getLast? with
    | none => rfl
    | some e => cases seen : Entry.isVisible cutoff e <;> simp [Option.filter, seen, isUnread]
  · exact dropped.trans (by simp [overwrites_concat, Use.isWrite])

theorem Logged.emptied (logged : c.Logged us) {u : Use α} (nothing : log (us ++ [u]) = [])
    (unwritten : u.isWrite = false) :
    ∃ currentRead, c.slots.cleared = .latest (log (us ++ [u])).getLast?
        (log (us ++ [u])).dropLast.getLast? currentRead ∧
      isUnread c.slots.cleared = unread (us ++ [u]) ∧
      c.stats.droppedFrames = (overwrites (us ++ [u])).length := by
  obtain ⟨_, ⟨currentRead, slots⟩, _, dropped⟩ := logged
  rw [unread_empty _ nothing, nothing, slots, overwrites_concat, unwritten]
  exact ⟨false, rfl, rfl, by simpa using dropped⟩

theorem Logged.use (logged : c.Logged us) (u : Use α) : (c.use u).Logged (us ++ [u]) := by
  cases u with
  | write e => exact logged.write e
  | read cutoff => exact logged.read cutoff
  | clear =>
    obtain ⟨currentRead, slots, fresh, dropped⟩ := logged.emptied (log_clear us) rfl
    have still := (any_close_concat us Use.clear).trans (Bool.or_false _)
    exact ⟨logged.closed.trans still.symm, ⟨currentRead, slots⟩, fresh, dropped⟩
  | close =>
    obtain ⟨currentRead, slots, fresh, dropped⟩ := logged.emptied (log_close us) rfl
    have shut := (any_close_concat us Use.close).trans (Bool.or_true _)
    exact ⟨shut.symm, ⟨currentRead, slots⟩, fresh, dropped⟩

theorem useAll_logged {label : String} (made : make .latestWins label = .ok c)
    (us : List (Use α)) : (c.useAll us).Logged us := by
  induction us using List.reverseRecOn with
  | nil => exact make_logged made
  | append_singleton us u ih =>
    rw [useAll_concat]
    exact ih.use u

end

def unmarked (c : Cell α) : Cell α := { c with slots := c.slots.unmarked, stats := ⟨0, 0, 0, 0⟩ }

theorem take_unmarked (cutoff : Option Nat) (s : Slots α) :
    (take cutoff s.unmarked).1 = (take cutoff s).1 ∧
      (take cutoff s.unmarked).2.unmarked = (take cutoff s).2.unmarked := by
  cases s with
  | ordered capacity queue => exact ⟨rfl, rfl⟩
  | latest current shadow currentRead =>
    simp only [Slots.unmarked, take]
    cases current.filter (Entry.isVisible cutoff) <;> exact ⟨rfl, rfl⟩

theorem use_unmarked (c : Cell α) (u : Use α) :
    c.unmarked.answer u = c.answer u ∧ (c.unmarked.use u).unmarked = (c.use u).unmarked := by
  obtain ⟨label, slots, closed, stats⟩ := c
  cases u with
  | write e =>
    refine ⟨rfl, ?_⟩
    cases closed with
    | true => cases slots <;> rfl
    | false =>
      cases slots with
      | latest current shadow currentRead => rfl
      | ordered capacity queue =>
        simp only [unmarked, Slots.unmarked, use, write, Bool.false_eq_true, ↓reduceIte]
        split <;> rfl
  | read cutoff =>
    obtain ⟨value, rest⟩ := take_unmarked cutoff slots
    exact ⟨congrArg ([·]) value, by simp [unmarked, use, read, rest]⟩
  | clear => cases slots <;> exact ⟨rfl, rfl⟩
  | close => cases slots <;> exact ⟨rfl, rfl⟩

theorem answers_alike {c d : Cell α} (alike : c.unmarked = d.unmarked) (us : List (Use α)) :
    c.answers us = d.answers us := by
  induction us generalizing c d with
  | nil => rfl
  | cons u rest ih =>
    have first : c.answer u = d.answer u := by
      rw [← (use_unmarked c u).1, ← (use_unmarked d u).1, alike]
    have later : (c.use u).unmarked = (d.use u).unmarked := by
      rw [← (use_unmarked c u).2, ← (use_unmarked d u).2, alike]
    rw [answers, answers, first, ih later]

theorem latest_read_unmarked {c : Cell α} (latest : c.policy = .latestWins)
    (cutoff : Option Nat) : (c.use (.read cutoff)).unmarked = c.unmarked := by
  obtain ⟨label, slots, closed, stats⟩ := c
  cases slots with
  | ordered capacity queue => cases latest
  | latest current shadow currentRead =>
    simp only [unmarked, use, read, take]
    cases current.filter (Entry.isVisible cutoff) <;> rfl

/-- What a latest-wins cell does after any uses, told by the log of its writes. A read takes nothing
away (`kept`), and what it gets by a cutoff is the last entry that the cutoff lets through (`timely`). -/
structure FollowsLog (us : List (Use α)) (fresh : Cell α) : Prop where
  newest : ((fresh.useAll us).read none).1 = (log us).getLast?.map (·.value)
  kept : ∀ cutoff more,
    ((fresh.useAll us).use (.read cutoff)).answers more = (fresh.useAll us).answers more
  early : ∀ cutoff, ((fresh.useAll us).read (some cutoff)).1 =
    if (Entry.hidden cutoff (log us)).length ≤ 1 then
      (Entry.visible cutoff (log us)).getLast?.map (·.value) else none
  timely : ∀ cutoff value, ((fresh.useAll us).read (some cutoff)).1 = some value →
    ∃ before e after, log us = before ++ e :: after ∧ e.value = value ∧ e.writtenAt ≤ cutoff ∧
      ∀ later ∈ after, cutoff < later.writtenAt
  taken : ∀ start value, ((fresh.useAll us).write start value).1 = .ok ()
  dropped : (fresh.useAll us).stats.droppedFrames = (overwrites us).length
  reads : (fresh.useAll us).stats.reads = (fresh.answers us).countP (·.isSome)
  length : (fresh.useAll us).length = 1 ↔ log us ≠ []
  closed : ∀ before after, us = before ++ .close :: after →
    (fresh.useAll us).length = 0 ∧ (fresh.useAll us).stats = (fresh.useAll before).stats

section
variable {all : List (Entry α)} {cutoff : Nat}

theorem visible_before_hidden (rising : (all.map (·.writtenAt)).Pairwise (· ≤ ·)) :
    Entry.visible cutoff all ++ Entry.hidden cutoff all = all := by
  induction all using List.reverseRecOn with
  | nil => rfl
  | append_singleton es e ih =>
    obtain ⟨before, last⟩ := last_greatest rising
    by_cases seen : e.writtenAt ≤ cutoff
    · obtain ⟨shown, none⟩ := visible_all fun x mem => Nat.le_trans (last x mem) seen
      rw [shown, none, List.append_nil]
    · obtain ⟨shown, away⟩ := visible_concat_late es (Nat.lt_of_not_le seen)
      rw [shown, away, ← List.append_assoc, ih before]

theorem last_visible_timely (rising : (all.map (·.writtenAt)).Pairwise (· ≤ ·)) {e : Entry α}
    (last : (Entry.visible cutoff all).getLast? = some e) :
    e.writtenAt ≤ cutoff ∧ ∃ before after, all = before ++ e :: after ∧
      ∀ later ∈ after, cutoff < later.writtenAt := by
  obtain ⟨before, parts⟩ := List.getLast?_eq_some_iff.mp last
  have shown : e ∈ Entry.visible cutoff all := List.mem_of_getLast? last
  refine ⟨by simpa using (List.mem_filter.mp shown).2, before, Entry.hidden cutoff all, ?_, ?_⟩
  · rw [← List.singleton_append, ← List.append_assoc, ← parts, visible_before_hidden rising]
  · intro later mem
    simpa using (List.mem_filter.mp mem).2

end

theorem log_sublist (us : List (Use α)) : (log us).Sublist (us.filterMap Use.entry?) := by
  rw [log]
  split
  · exact List.nil_sublist _
  · exact (List.rtakeWhile_suffix _ _).sublist.filterMap _

/-- A latest-wins cell gives what the log of its writes says, after any uses whose writes come in the
order of their instants. -/
theorem latest_follows_log {label : String} {c : Cell α} (made : make .latestWins label = .ok c)
    {us : List (Use α)}
    (rising : ((us.filterMap Use.entry?).map (·.writtenAt)).Pairwise (· ≤ ·)) :
    FollowsLog us c := by
  have logged := useAll_logged made us
  obtain ⟨isClosed, ⟨currentRead, slots⟩, fresh, dropped⟩ := logged
  have latest : (c.useAll us).policy = .latestWins := by rw [policy, slots, Slots.policy]
  have sorted : ((log us).map (·.writtenAt)).Pairwise (· ≤ ·) :=
    rising.sublist ((log_sublist us).map _)
  have filled : (c.useAll us).slots.Filled (log us) [] := by
    rw [slots]
    exact ⟨rfl, rfl⟩
  have early (cutoff : Nat) : ((c.useAll us).read (some cutoff)).1 =
      if (Entry.hidden cutoff (log us)).length ≤ 1 then
        (Entry.visible cutoff (log us)).getLast?.map (·.value) else none :=
    latest_visible filled latest sorted
  refine ⟨?_, ?_, early, ?_, ?_, dropped, ?_, ?_, ?_⟩
  · rw [(read_slots none _).1, slots]
    rcases List.eq_nil_or_concat' (log us) with none | ⟨es, e, some⟩
    · rw [none]
      rfl
    · rw [some, List.getLast?_concat]
      rfl
  · exact fun cutoff more => answers_alike (latest_read_unmarked latest cutoff) more
  · intro cutoff value got
    rw [early] at got
    split at got
    · obtain ⟨e, last, rfl⟩ := Option.map_eq_some_iff.mp got
      obtain ⟨seen, before, after, parts, later⟩ := last_visible_timely sorted last
      exact ⟨before, e, after, parts, rfl, seen, later⟩
    · cases got
  · intro start value
    simp only [Cell.write, slots]
    split <;> rfl
  · rw [useAll_reads]
    cases made
    exact Nat.zero_add _
  · rw [Cell.length, slots, Slots.length]
    rcases List.eq_nil_or_concat' (log us) with none | ⟨es, e, some⟩
    · simp [none]
    · simp [some]
  · rintro before after rfl
    rw [useAll_append]
    have ended : (c.useAll before).useAll (.close :: after) = (c.useAll before).close :=
      close_useAll _ after
    rw [ended]
    exact ⟨(close_dead _).length, rfl⟩

def lateReads : List (Use Nat) :=
  [.write ⟨10, 1⟩, .write ⟨20, 3⟩, .read (some 2), .write ⟨30, 3⟩, .read none, .read (some 2),
    .write ⟨40, 5⟩]

theorem latest_follows_log_late_reads :
    (make .latestWins "eye" : Except Failure (Cell Nat)) =
        .ok (ofSlots (.latest none none false) "eye") ∧
      ((lateReads.filterMap Use.entry?).map (·.writtenAt)).Pairwise (· ≤ ·) ∧
      FollowsLog lateReads (ofSlots (.latest none none false) "eye") ∧
      overwrites lateReads = [1, 3] :=
  ⟨rfl, by decide, latest_follows_log rfl (by decide), by decide⟩

end Cell

end Tickflow
