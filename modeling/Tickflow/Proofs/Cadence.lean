import Mathlib.Data.List.Chain
import Tickflow.Tick.Clock
/-!
How a clock keeps time. A caller may come back whenever it likes, and a call may be released later than
it meant to wake, but never earlier. The ticks then stand on a grid of whole periods that is laid anew
only when a call comes more than a period late.
-/
namespace Tickflow

/-- A call of a clock: when it was made, the place on the grid that was its turn, when it meant to wake,
when it was released, and the tick it gave. -/
structure Beat where
  called : Nat
  place : Nat
  due : Nat
  released : Nat
  tick : ClockTick

namespace Beat

def Late (period : Nat) (b : Beat) : Prop := b.place + period < b.called

instance (period : Nat) (b : Beat) : Decidable (b.Late period) :=
  inferInstanceAs (Decidable (b.place + period < b.called))

def slot (period gap : Nat) (b : Beat) : Nat :=
  if b.Late period then b.called + gap else b.place

end Beat

inductive ClockEvent where
  | beat (b : Beat)
  | reset (instant : Nat)

namespace ClockEvent

def beat? : ClockEvent → Option Beat
  | .beat b => some b
  | .reset _ => none

end ClockEvent

def beats (es : List ClockEvent) : List Beat := es.filterMap ClockEvent.beat?

def sinceReset (es : List ClockEvent) : List Beat :=
  es.foldl (fun bs e => match e with
    | .beat b => bs ++ [b]
    | .reset _ => []) []

/-- When the latest reset was, or when the clock began. -/
def countedFrom (began : Nat) (es : List ClockEvent) : Nat :=
  es.foldl (fun origin e => match e with
    | .beat _ => origin
    | .reset instant => instant) began

section
variable (es : List ClockEvent) (b : Beat) (instant began : Nat)

@[simp] theorem beats_beat : beats (es ++ [.beat b]) = beats es ++ [b] := by
  simp [beats, ClockEvent.beat?]

@[simp] theorem beats_reset : beats (es ++ [.reset instant]) = beats es := by
  simp [beats, ClockEvent.beat?]

@[simp] theorem sinceReset_beat : sinceReset (es ++ [.beat b]) = sinceReset es ++ [b] := by
  simp [sinceReset]

@[simp] theorem sinceReset_reset : sinceReset (es ++ [.reset instant]) = [] := by
  simp [sinceReset]

@[simp] theorem countedFrom_beat : countedFrom began (es ++ [.beat b]) = countedFrom began es := by
  simp [countedFrom]

@[simp] theorem countedFrom_reset : countedFrom began (es ++ [.reset instant]) = instant := by
  simp [countedFrom]

end

namespace SoftwareClock

def beat (called released : Nat) (c : SoftwareClock) : Beat where
  called
  place := c.gridPoint
  due := (c.wakeTime called).1
  released
  tick := ((c.wakeTime called).2.issue released).1

def beaten (called released : Nat) (c : SoftwareClock) : SoftwareClock :=
  ((c.wakeTime called).2.issue released).2

/-- What happened to a clock that began at `began`, and the clock and the time it is now. Time never
runs backwards, and no call is released before it is due. -/
inductive Run (start : SoftwareClock) (began : Nat) :
    List ClockEvent → SoftwareClock → Nat → Prop where
  | begin : Run start began [] start began
  | beat {es : List ClockEvent} {c : SoftwareClock} {now : Nat} (run : Run start began es c now)
      {called released : Nat} (later : now ≤ called)
      (awake : (c.wakeTime called).1 ≤ released) :
      Run start began (es ++ [.beat (c.beat called released)]) (c.beaten called released) released
  | reset {es : List ClockEvent} {c : SoftwareClock} {now : Nat} (run : Run start began es c now)
      {instant : Nat} (later : now ≤ instant) :
      Run start began (es ++ [.reset instant]) (c.reset instant) instant

theorem Run.tick {start : SoftwareClock} {began : Nat} {es : List ClockEvent} {c : SoftwareClock}
    {now : Nat} (run : Run start began es c now) {called : Nat} (later : now ≤ called) :
    Run start began (es ++ [.beat (c.beat called (c.tick called).2.1)]) (c.tick called).2.2
      (c.tick called).2.1 :=
  run.beat later le_rfl

def begun (fps : Float) (id : String) (period now : Nat) : SoftwareClock where
  fps
  id
  period
  minSleep := period / 2
  origin := now
  baseline := now
  scheduled := 0
  frame := 0
  lastTick := none

theorem make_ok_iff {fps : Float} {id : String} {now : Nat} {c : SoftwareClock} :
    make fps id now = .ok c ↔ Decimal.isFinite fps = true ∧ ¬ fps ≤ 0.0 ∧
      ∃ period, nanoseconds? (1.0 / fps) = some period ∧ c = begun fps id period now := by
  unfold make
  by_cases bad : (!Decimal.isFinite fps || decide (fps ≤ 0.0)) = true
  · rw [if_pos bad]
    simp only [Bool.or_eq_true, Bool.not_eq_true', decide_eq_true_eq] at bad
    constructor
    · intro made
      cases made
    · rintro ⟨finite, positive, _⟩
      rcases bad with endless | negative
      · rw [finite] at endless
        cases endless
      · exact absurd negative positive
  · rw [if_neg bad]
    simp only [Bool.or_eq_true, Bool.not_eq_true', decide_eq_true_eq, not_or,
      Bool.not_eq_false] at bad
    cases rounded : nanoseconds? (1.0 / fps) with
    | none => simp
    | some period => simp [bad, begun, eq_comm]

/-! One call. -/

section
variable (called : Nat) (c : SoftwareClock)

theorem wakeTime_late (late : c.gridPoint + c.period < called) : c.wakeTime called =
    (called + c.minSleep, { c with baseline := called + c.minSleep, scheduled := 0 }) :=
  if_pos late

theorem wakeTime_timely (timely : ¬ c.gridPoint + c.period < called) :
    c.wakeTime called = (max c.gridPoint (called + c.minSleep), c) :=
  if_neg timely

theorem wakeTime_waits : called + c.minSleep ≤ (c.wakeTime called).1 := by
  by_cases late : c.gridPoint + c.period < called
  · rw [wakeTime_late called c late]
  · rw [wakeTime_timely called c late]
    exact le_max_right _ _

theorem wakeTime_bounded : (c.wakeTime called).1 ≤ max c.gridPoint (called + c.minSleep) := by
  by_cases late : c.gridPoint + c.period < called
  · rw [wakeTime_late called c late]
    exact le_max_right _ _
  · rw [wakeTime_timely called c late]

theorem wakeTime_prompt (prompt : called + c.minSleep ≤ c.gridPoint) :
    (c.wakeTime called).1 = c.gridPoint := by
  have timely : ¬ c.gridPoint + c.period < called := by omega
  rw [wakeTime_timely called c timely]
  exact max_eq_left prompt

theorem wakeTime_grid (released : Nat) : (c.wakeTime called).2.gridPoint =
    (c.beat called released).slot c.period c.minSleep := by
  unfold Beat.slot
  by_cases late : c.gridPoint + c.period < called
  · rw [if_pos (show (c.beat called released).Late c.period from late),
      wakeTime_late called c late]
    simp [gridPoint, beat]
  · rw [if_neg (show ¬ (c.beat called released).Late c.period from late),
      wakeTime_timely called c late]
    rfl

theorem slot_due (released : Nat) :
    (c.beat called released).slot c.period c.minSleep ≤ (c.wakeTime called).1 := by
  unfold Beat.slot
  by_cases late : c.gridPoint + c.period < called
  · rw [if_pos (show (c.beat called released).Late c.period from late),
      wakeTime_late called c late]
    exact le_rfl
  · rw [if_neg (show ¬ (c.beat called released).Late c.period from late),
      wakeTime_timely called c late]
    exact le_max_left _ _

theorem wakeTime_rest : (c.wakeTime called).2.period = c.period ∧
    (c.wakeTime called).2.minSleep = c.minSleep ∧ (c.wakeTime called).2.origin = c.origin ∧
    (c.wakeTime called).2.frame = c.frame ∧ (c.wakeTime called).2.lastTick = c.lastTick := by
  unfold wakeTime
  split <;> exact ⟨rfl, rfl, rfl, rfl, rfl⟩

theorem beaten_grid (released : Nat) : (c.beaten called released).gridPoint =
    (c.beat called released).slot c.period c.minSleep + c.period := by
  have one_more : (c.beaten called released).gridPoint =
      (c.wakeTime called).2.gridPoint + (c.wakeTime called).2.period := by
    simp only [beaten, issue, gridPoint]
    rw [Nat.add_one_mul, Nat.add_assoc]
  rw [one_more, wakeTime_grid called c released, (wakeTime_rest called c).1]

theorem beaten_rest (released : Nat) : (c.beaten called released).period = c.period ∧
    (c.beaten called released).minSleep = c.minSleep ∧
    (c.beaten called released).origin = c.origin ∧
    (c.beaten called released).frame = c.frame + 1 ∧
    (c.beaten called released).lastTick = some released := by
  obtain ⟨period, minSleep, origin, frame, _⟩ := wakeTime_rest called c
  exact ⟨period, minSleep, origin, congrArg (· + 1) frame, rfl⟩

theorem beat_tick (released : Nat) : (c.beat called released).tick =
    ⟨c.frame, released - c.origin, released - c.lastTick.getD c.origin⟩ := by
  obtain ⟨_, _, origin, frame, lastTick⟩ := wakeTime_rest called c
  simp only [beat, issue, origin, frame, lastTick]

end

/-! Any number of calls. -/

structure Remembers (start : SoftwareClock) (began : Nat) (es : List ClockEvent) (c : SoftwareClock)
    (now : Nat) : Prop where
  period : c.period = start.period
  minSleep : c.minSleep = start.minSleep
  origin : c.origin = countedFrom began es
  past : c.origin ≤ now
  frame : c.frame = (sinceReset es).length
  lastTick : c.lastTick = (sinceReset es).getLast?.map (·.released)
  turn : c.gridPoint = ((sinceReset es).getLast?.map fun b =>
    b.slot start.period start.minSleep + start.period).getD c.origin
  released : ∀ b ∈ (sinceReset es).getLast?, b.released = now
  soon : ∀ b ∈ (beats es).getLast?,
    b.released ≤ now ∧ c.gridPoint ≤ max now (b.released + start.period)

structure Timed (start : SoftwareClock) (began : Nat) (es : List ClockEvent) : Prop where
  waits : ∀ b ∈ beats es, b.called + start.minSleep ≤ b.due ∧ b.due ≤ b.released
  prompt : ∀ b ∈ beats es, b.called + start.minSleep ≤ b.place → b.due = b.place
  late : ∀ b ∈ beats es, b.Late start.period → b.due = b.called + start.minSleep
  follows : (beats es).IsChain fun a b => a.released ≤ b.called ∧
    b.due ≤ max (a.released + start.period) (b.called + start.minSleep)
  frames : (sinceReset es).map (·.tick.frame) = List.range (sinceReset es).length
  stamps : ∀ b ∈ sinceReset es, countedFrom began es + b.tick.timestamp = b.released
  begins : ∀ b ∈ (sinceReset es).head?,
    b.place = countedFrom began es ∧ b.tick.delta = b.tick.timestamp
  grid : (sinceReset es).IsChain fun a b =>
    b.place = a.slot start.period start.minSleep + start.period
  deltas : (sinceReset es).IsChain fun a b =>
    a.tick.timestamp + b.tick.delta = b.tick.timestamp

section
variable {start c : SoftwareClock} {began now : Nat} {es : List ClockEvent}

theorem made_remembers {fps : Float} {id : String} (made : make fps id began = .ok start) :
    Remembers start began [] start began := by
  obtain ⟨_, _, period, _, rfl⟩ := make_ok_iff.mp made
  constructor <;> simp [begun, sinceReset, beats, countedFrom, gridPoint]

theorem Remembers.beat (r : Remembers start began es c now) {called released : Nat}
    (later : now ≤ called) (awake : (c.wakeTime called).1 ≤ released) :
    Remembers start began (es ++ [.beat (c.beat called released)]) (c.beaten called released)
      released := by
  obtain ⟨period, minSleep, origin, frame, lastTick⟩ := beaten_rest called c released
  have waits := wakeTime_waits called c
  have past := r.past
  have grid := beaten_grid called c released
  have slot := slot_due called c released
  rw [r.period, r.minSleep] at grid slot
  constructor
  case period => rw [period, r.period]
  case minSleep => rw [minSleep, r.minSleep]
  case origin => rw [origin, r.origin, countedFrom_beat]
  case past => omega
  case frame => rw [frame, r.frame, sinceReset_beat, List.length_append, List.length_singleton]
  case lastTick => simp [lastTick, SoftwareClock.beat]
  case turn => simp [grid]
  case released => simp [SoftwareClock.beat]
  case soon =>
    intro b last
    obtain rfl : c.beat called released = b := by simpa using last
    refine ⟨le_rfl, ?_⟩
    have same : (c.beat called released).released = released := rfl
    omega

theorem Remembers.reset (r : Remembers start began es c now) {instant : Nat}
    (later : now ≤ instant) :
    Remembers start began (es ++ [.reset instant]) (c.reset instant) instant := by
  constructor
  case period => exact r.period
  case minSleep => exact r.minSleep
  case origin => simp [SoftwareClock.reset]
  case past => exact le_rfl
  case frame => simp [SoftwareClock.reset]
  case lastTick => simp [SoftwareClock.reset]
  case turn => simp [SoftwareClock.reset, gridPoint]
  case released => simp
  case soon =>
    intro b last
    rw [beats_reset] at last
    refine ⟨(r.soon b last).1.trans later, ?_⟩
    have again : (c.reset instant).gridPoint = instant := by simp [SoftwareClock.reset, gridPoint]
    rw [again]
    exact le_max_left _ _

theorem Remembers.origin_of_none (r : Remembers start began es c now)
    (none : (sinceReset es).getLast? = none) : c.gridPoint = countedFrom began es ∧
      c.lastTick.getD c.origin = countedFrom began es := by
  rw [r.turn, r.lastTick, r.origin, none]
  exact ⟨rfl, rfl⟩

theorem Timed.beat (t : Timed start began es) (r : Remembers start began es c now)
    {called released : Nat} (later : now ≤ called) (awake : (c.wakeTime called).1 ≤ released) :
    Timed start began (es ++ [.beat (c.beat called released)]) := by
  have waits := wakeTime_waits called c
  have past := r.past
  have tick := beat_tick called c released
  rw [r.origin] at past
  constructor
  case waits =>
    simp only [beats_beat, List.forall_mem_append, List.forall_mem_singleton]
    exact ⟨t.waits, r.minSleep ▸ waits, awake⟩
  case prompt =>
    simp only [beats_beat, List.forall_mem_append, List.forall_mem_singleton]
    exact ⟨t.prompt, fun prompt => wakeTime_prompt called c (r.minSleep ▸ prompt)⟩
  case late =>
    simp only [beats_beat, List.forall_mem_append, List.forall_mem_singleton]
    refine ⟨t.late, fun late => ?_⟩
    have slow : c.gridPoint + c.period < called := r.period ▸ late
    rw [← r.minSleep]
    exact congrArg Prod.fst (wakeTime_late called c slow)
  case follows =>
    rw [beats_beat, List.isChain_append]
    refine ⟨t.follows, List.isChain_singleton _, ?_⟩
    rintro a last _ ⟨⟩
    obtain ⟨before, soon⟩ := r.soon a last
    have bounded := wakeTime_bounded called c
    rw [r.minSleep] at bounded
    refine ⟨before.trans later, ?_⟩
    change (c.wakeTime called).1 ≤ max (a.released + start.period) (called + start.minSleep)
    omega
  case frames =>
    simp only [sinceReset_beat, List.map_append, t.frames, List.map_singleton, tick, r.frame,
      List.length_append, List.length_singleton, List.range_succ]
  case stamps =>
    simp only [sinceReset_beat, countedFrom_beat, List.forall_mem_append,
      List.forall_mem_singleton]
    refine ⟨t.stamps, ?_⟩
    rw [tick, r.origin]
    change _ + (released - _) = released
    omega
  case begins =>
    intro b first
    rw [sinceReset_beat, List.head?_append] at first
    rw [countedFrom_beat]
    cases earlier : (sinceReset es).head? with
    | some a =>
      rw [earlier] at first
      cases first
      exact t.begins b earlier
    | none =>
      rw [earlier] at first
      cases first
      have nothing : (sinceReset es).getLast? = none := by
        rw [List.head?_eq_none_iff] at earlier
        rw [earlier]
        rfl
      obtain ⟨place, since⟩ := r.origin_of_none nothing
      refine ⟨place, ?_⟩
      rw [tick, since, r.origin]
  case grid =>
    rw [sinceReset_beat, List.isChain_append]
    refine ⟨t.grid, List.isChain_singleton _, ?_⟩
    rintro a last _ ⟨⟩
    have turn := r.turn
    rw [show (sinceReset es).getLast? = some a from last] at turn
    exact turn
  case deltas =>
    rw [sinceReset_beat, List.isChain_append]
    refine ⟨t.deltas, List.isChain_singleton _, ?_⟩
    rintro a last _ ⟨⟩
    have stamp := t.stamps a (List.mem_of_getLast? last)
    have at_now := r.released a last
    have lastTick := r.lastTick
    rw [show (sinceReset es).getLast? = some a from last] at lastTick
    rw [tick, lastTick, r.origin]
    change a.tick.timestamp + (released - a.released) = released - countedFrom began es
    omega

theorem Timed.reset (t : Timed start began es) (instant : Nat) :
    Timed start began (es ++ [.reset instant]) := by
  constructor
  case waits => exact (beats_reset es instant).symm ▸ t.waits
  case prompt => exact (beats_reset es instant).symm ▸ t.prompt
  case late => exact (beats_reset es instant).symm ▸ t.late
  case follows => exact (beats_reset es instant).symm ▸ t.follows
  all_goals simp

theorem grid_whole {period gap : Nat} {a b : Beat} {mid back : List Beat}
    (grid : (a :: (mid ++ b :: back)).IsChain fun a b => b.place = a.slot period gap + period)
    (timely : ∀ m ∈ mid, ¬ m.Late period) :
    b.place = a.slot period gap + (mid.length + 1) * period := by
  induction mid generalizing a with
  | nil =>
    rw [List.nil_append, List.isChain_cons_cons] at grid
    rw [grid.1, List.length_nil, Nat.zero_add, Nat.one_mul]
  | cons m mid ih =>
    rw [List.cons_append, List.isChain_cons_cons] at grid
    have here : m.slot period gap = m.place := if_neg (timely m List.mem_cons_self)
    rw [ih grid.2 fun x mem => timely x (List.mem_cons_of_mem m mem), here, grid.1,
      List.length_cons, Nat.add_one_mul (mid.length + 1)]
    omega

theorem Timed.apart (t : Timed start began es) :
    ((beats es).map (·.released)).Pairwise fun r r' => r + start.minSleep ≤ r' := by
  let : Trans (fun r r' => r + start.minSleep ≤ r') (fun r r' => r + start.minSleep ≤ r')
      (fun r r' => r + start.minSleep ≤ r') := ⟨fun {a b c} first second => by omega⟩
  rw [← List.isChain_iff_pairwise, List.isChain_map]
  refine t.follows.imp_of_mem_imp fun a b _ mem after => ?_
  obtain ⟨waits, awake⟩ := t.waits b mem
  exact (Nat.add_le_add_right after.1 _).trans (waits.trans awake)

theorem Run.remembers {fps : Float} {id : String} (made : make fps id began = .ok start)
    (run : Run start began es c now) : Remembers start began es c now ∧ Timed start began es := by
  induction run with
  | begin =>
    refine ⟨made_remembers made, ?_⟩
    constructor <;> simp [sinceReset, beats]
  | beat _ later awake ih => exact ⟨ih.1.beat later awake, ih.2.beat ih.1 later awake⟩
  | reset _ later ih => exact ⟨ih.1.reset later, ih.2.reset _⟩

end

/-- However late the calls come and however late they are released: every call waits, a tick is due at
most a period after the one before it unless its call comes too late for that, a call that comes in time
wakes at its place on the grid, and places are whole periods apart until a call comes more than a period
late, which lays the grid anew. Frames count from 0 after every reset, and times add up. -/
theorem keeps_time {fps : Float} {id : String} {began : Nat} {start : SoftwareClock}
    (made : make fps id began = .ok start) {es : List ClockEvent} {c : SoftwareClock} {now : Nat}
    (run : Run start began es c now) :
    (∀ b ∈ beats es, b.called + start.minSleep ≤ b.due ∧ b.due ≤ b.released) ∧
    ((beats es).map (·.released)).Pairwise (fun r r' => r + start.minSleep ≤ r') ∧
    (∀ front a b back, beats es = front ++ a :: b :: back →
      b.due ≤ max (a.released + start.period) (b.called + start.minSleep)) ∧
    (∀ b ∈ beats es, b.called + start.minSleep ≤ b.place → b.due = b.place) ∧
    (∀ b ∈ beats es, b.Late start.period → b.due = b.called + start.minSleep) ∧
    (∀ b ∈ (sinceReset es).head?, b.place = countedFrom began es) ∧
    (∀ front a mid b back, sinceReset es = front ++ a :: (mid ++ b :: back) →
      (∀ m ∈ mid, ¬ m.Late start.period) →
      b.place = a.slot start.period start.minSleep + (mid.length + 1) * start.period) ∧
    (sinceReset es).map (·.tick.frame) = List.range (sinceReset es).length ∧
    (∀ b ∈ sinceReset es, countedFrom began es + b.tick.timestamp = b.released) ∧
    (∀ b ∈ (sinceReset es).head?, b.tick.delta = b.tick.timestamp) ∧
    ∀ front a b back, sinceReset es = front ++ a :: b :: back →
      a.tick.timestamp + b.tick.delta = b.tick.timestamp := by
  have t := (run.remembers made).2
  refine ⟨t.waits, t.apart, ?_, t.prompt, t.late, fun b first => (t.begins b first).1, ?_, t.frames,
    t.stamps, fun b first => (t.begins b first).2, ?_⟩
  · intro front a b back parts
    have follows := t.follows
    rw [parts, List.isChain_append_cons_cons] at follows
    exact follows.2.1.2
  · intro front a mid b back parts timely
    have grid := t.grid
    rw [parts, List.isChain_append] at grid
    exact grid_whole grid.2.1 timely
  · intro front a b back parts
    have deltas := t.deltas
    rw [parts, List.isChain_append_cons_cons] at deltas
    exact deltas.2.1

def steady : SoftwareClock := begun 50.0 "software" 20000000 0

theorem steady_made : make 50.0 "software" 0 = .ok steady :=
  make_ok_iff.mpr ⟨by decide +kernel, by decide +kernel, _, by decide +kernel, rfl⟩

/-- The second call is released late, and the fourth one comes two periods after its turn. -/
def stalled : List Beat :=
  [⟨0, 0, 10000000, 10000000, ⟨0, 10000000, 10000000⟩⟩,
   ⟨12000000, 20000000, 22000000, 23000000, ⟨1, 23000000, 13000000⟩⟩,
   ⟨25000000, 40000000, 40000000, 40000000, ⟨2, 40000000, 17000000⟩⟩,
   ⟨100000000, 60000000, 110000000, 110000000, ⟨3, 110000000, 70000000⟩⟩,
   ⟨110000000, 130000000, 130000000, 130000000, ⟨4, 130000000, 20000000⟩⟩]

theorem stalled_run : ∃ c, Run steady 0 (stalled.map .beat) c 130000000 := by
  have first := (.begin : Run steady 0 [] steady 0).tick (show 0 ≤ 0 by decide)
  have second := first.beat (show 10000000 ≤ 12000000 by decide) (show _ ≤ 23000000 by decide)
  have third := second.tick (show 23000000 ≤ 25000000 by decide)
  have fourth := third.tick (show 40000000 ≤ 100000000 by decide)
  exact ⟨_, fourth.tick (show 110000000 ≤ 110000000 by decide)⟩

theorem keeps_time_stalled : make 50.0 "software" 0 = .ok steady ∧
    (∃ c, Run steady 0 (stalled.map .beat) c 130000000 ∧
      Run steady 0 (stalled.map .beat ++ [.reset 140000000]) (c.reset 140000000) 140000000) ∧
    [10000000, 23000000, 40000000, 110000000, 130000000].Pairwise
      (fun r r' => r + 10000000 ≤ r') ∧
    (110000000 : Nat) ≤ max (40000000 + 20000000) (100000000 + 10000000) ∧
    stalled.map (·.tick.frame) = [0, 1, 2, 3, 4] := by
  obtain ⟨c, run⟩ := stalled_run
  obtain ⟨_, apart, soon, _, _, _, _, frames, _⟩ := keeps_time steady_made run
  exact ⟨steady_made, ⟨c, run, run.reset (by decide)⟩, apart,
    soon (stalled.take 2) _ _ (stalled.drop 4) rfl, frames⟩

end SoftwareClock

end Tickflow
