import Mathlib.Data.List.Induction
import Tickflow.Proofs.Horizon
/-!
What a history remembers. Of the ticks recorded since it was cleared last it has the latest ones, as
many as it has room for, and it tells of the one that was recorded first among those with a greater
frame number, whichever way the numbers go.
-/
namespace Tickflow

inductive HistoryEvent where
  | recorded (tick : Tick)
  | cleared

def sinceCleared (es : List HistoryEvent) : List Tick :=
  es.foldl (fun ticks e => match e with
    | .recorded tick => ticks ++ [tick]
    | .cleared => []) []

/-- The tick stands at this place of the list, and at most 63 others come after it. -/
structure Latest (ticks : List Tick) (i : Nat) (tick : Tick) : Prop where
  here : ticks[i]? = some tick
  late : ticks.length ≤ i + 64

def Tick.stamp (tick : Tick) : Nat × Nat := (tick.frame, tick.issuedAt)

section
variable (es : List HistoryEvent) (tick : Tick)

@[simp] theorem sinceCleared_recorded :
    sinceCleared (es ++ [.recorded tick]) = sinceCleared es ++ [tick] := by
  simp [sinceCleared]

@[simp] theorem sinceCleared_cleared : sinceCleared (es ++ [.cleared]) = [] := by
  simp [sinceCleared]

theorem sinceCleared_parts : es = (sinceCleared es).map .recorded ∨
    ∃ earlier, es = earlier ++ .cleared :: (sinceCleared es).map .recorded := by
  induction es using List.reverseRecOn with
  | nil => exact .inl rfl
  | append_singleton es last ih =>
    cases last with
    | cleared =>
      rw [sinceCleared_cleared]
      exact .inr ⟨es, rfl⟩
    | recorded tick =>
      rw [sinceCleared_recorded, List.map_append, List.map_singleton]
      rcases ih with never | ⟨earlier, parts⟩
      · exact .inl (congrArg (· ++ [.recorded tick]) never)
      · refine .inr ⟨earlier, ?_⟩
        rw [← List.cons_append, ← List.append_assoc, ← parts]

end

namespace TickHistory

def after (es : List HistoryEvent) : TickHistory :=
  es.foldl (fun h e => match e with
    | .recorded tick => h.record tick.frame tick.issuedAt
    | .cleared => empty) empty

@[simp] theorem after_recorded (es : List HistoryEvent) (tick : Tick) :
    after (es ++ [.recorded tick]) = (after es).record tick.frame tick.issuedAt := by
  simp [after]

@[simp] theorem after_cleared (es : List HistoryEvent) : after (es ++ [.cleared]) = empty := by
  simp [after]

theorem after_recent (es : List HistoryEvent) : (after es).recent =
    ((sinceCleared es).map Tick.stamp).drop (((sinceCleared es).map Tick.stamp).length - size) := by
  induction es using List.reverseRecOn with
  | nil => rfl
  | append_singleton es last ih =>
    cases last with
    | cleared => simp [empty]
    | recorded tick =>
      rw [after_recorded, record_recent _ _ ih, sinceCleared_recorded, List.map_append]
      rfl

theorem after_entry (es : List HistoryEvent) (k : Nat) (x : Nat × Nat) :
    (after es).recent[k]? = some x ↔ ∃ tick,
      Latest (sinceCleared es) ((sinceCleared es).length - 64 + k) tick ∧ tick.stamp = x := by
  have room : (sinceCleared es).length ≤ (sinceCleared es).length - 64 + k + 64 := by omega
  rw [after_recent, List.getElem?_drop, List.length_map, List.getElem?_map, Option.map_eq_some_iff]
  constructor
  · rintro ⟨tick, here, rfl⟩
    exact ⟨tick, ⟨here, room⟩, rfl⟩
  · rintro ⟨tick, latest, rfl⟩
    exact ⟨tick, latest.here, rfl⟩

theorem latest_entry {es : List HistoryEvent} {i : Nat} {tick : Tick}
    (latest : Latest (sinceCleared es) i tick) :
    (after es).recent[i - ((sinceCleared es).length - 64)]? = some tick.stamp := by
  have place : (sinceCleared es).length - 64 + (i - ((sinceCleared es).length - 64)) = i := by
    have := latest.late
    omega
  rw [after_entry, place]
  exact ⟨tick, latest, rfl⟩

variable {h : TickHistory} {frame instant : Nat}

theorem issuedAfter_some_iff : h.issuedAfter frame = some instant ↔
    ∃ (k : Nat) (x : Nat × Nat), h.recent[k]? = some x ∧ frame < x.1 ∧ x.2 = instant ∧
      ∀ j < k, ∀ y : Nat × Nat, h.recent[j]? = some y → y.1 ≤ frame := by
  unfold issuedAfter
  rw [Option.map_eq_some_iff]
  constructor
  · rintro ⟨x, found, rfl⟩
    obtain ⟨greater, k, bound, here, passed⟩ := List.find?_eq_some_iff_getElem.mp found
    refine ⟨k, x, List.getElem?_eq_some_iff.mpr ⟨bound, here⟩, by simpa using greater, rfl, ?_⟩
    intro j before y there
    obtain ⟨_, rfl⟩ := List.getElem?_eq_some_iff.mp there
    simpa using passed j before
  · rintro ⟨k, x, here, greater, rfl, passed⟩
    obtain ⟨bound, here⟩ := List.getElem?_eq_some_iff.mp here
    refine ⟨x, List.find?_eq_some_iff_getElem.mpr
      ⟨by simpa using greater, k, bound, here, ?_⟩, rfl⟩
    intro j before
    simpa using passed j before _ (List.getElem?_eq_getElem (Nat.lt_trans before bound))

theorem issuedAfter_none_iff : h.issuedAfter frame = none ↔
    ∀ (k : Nat) (x : Nat × Nat), h.recent[k]? = some x → x.1 ≤ frame := by
  simp only [issuedAfter, Option.map_eq_none_iff, List.find?_eq_none, decide_eq_true_eq,
    Nat.not_lt, List.mem_iff_getElem?, forall_exists_index]
  exact forall_comm

/-- Whatever was recorded and cleared in which order: what counts is what was recorded since the
history was cleared last, and of that the last 64 ticks. The history never has more, and it tells
when the first of them with a greater frame number was issued, or that there is none. -/
theorem window_slides (es : List HistoryEvent) :
    (es = (sinceCleared es).map .recorded ∨
      ∃ earlier, es = earlier ++ .cleared :: (sinceCleared es).map .recorded) ∧
    (after es).recent.length = min 64 (sinceCleared es).length ∧
    (∀ frame instant, (after es).issuedAfter frame = some instant ↔
      ∃ i tick, Latest (sinceCleared es) i tick ∧ frame < tick.frame ∧ tick.issuedAt = instant ∧
        ∀ j < i, ∀ other, Latest (sinceCleared es) j other → other.frame ≤ frame) ∧
    ∀ frame, (after es).issuedAfter frame = none ↔
      ∀ i tick, Latest (sinceCleared es) i tick → tick.frame ≤ frame := by
  refine ⟨sinceCleared_parts es, ?_, ?_, ?_⟩
  · rw [after_recent, List.length_drop, List.length_map, size]
    omega
  · intro frame instant
    rw [issuedAfter_some_iff]
    constructor
    · rintro ⟨k, x, entry, greater, issued, passed⟩
      obtain ⟨tick, latest, rfl⟩ := (after_entry es k x).mp entry
      refine ⟨_, tick, latest, greater, issued, ?_⟩
      intro j before other there
      -- Without this bound places before the window would be taken for its first one.
      have low := there.late
      exact passed _ (by omega) _ (latest_entry there)
    · rintro ⟨i, tick, latest, greater, issued, passed⟩
      refine ⟨_, tick.stamp, latest_entry latest, greater, issued, ?_⟩
      intro j before y entry
      obtain ⟨other, there, rfl⟩ := (after_entry es j y).mp entry
      exact passed _ (by omega) other there
  · intro frame
    rw [issuedAfter_none_iff]
    constructor
    · intro none i tick latest
      exact none _ _ (latest_entry latest)
    · intro none k x entry
      obtain ⟨tick, latest, rfl⟩ := (after_entry es k x).mp entry
      exact none _ tick latest

/-- The tick that was recorded first, although the other one is nearer in its number. -/
example : (after [.recorded ⟨1, 0.0, 0.0, 10⟩, .cleared, .recorded ⟨9, 0.0, 0.0, 20⟩,
    .recorded ⟨3, 0.0, 0.0, 30⟩]).issuedAfter 0 = some 20 := rfl

end TickHistory

end Tickflow
