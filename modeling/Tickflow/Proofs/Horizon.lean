import Tickflow.Proofs.Steps
/-!
Up to when a handler may read. A cutoff that was given once stays a lower bound of whatever the handler
may look up later: of the instants at which its calls began and will begin, and of those at which
later ticks were issued, as far as they are remembered. What is forgotten only raises the bound.
-/
namespace Tickflow

namespace TickHistory

/-- What was issued after `frame` and is remembered was issued at `k` or later. -/
def NoneBefore (k frame : Nat) (h : TickHistory) : Prop := ∀ x ∈ h.recent, frame < x.1 → k ≤ x.2

theorem NoneBefore.later {k frame frame' : Nat} {h : TickHistory} (none : h.NoneBefore k frame)
    (before : frame ≤ frame') : h.NoneBefore k frame' :=
  fun x mem after => none x mem (Nat.lt_of_le_of_lt before after)

theorem NoneBefore.empty (k frame : Nat) : empty.NoneBefore k frame := by
  intro x mem
  cases mem

theorem record_suffix (frame issuedAt : Nat) {h : TickHistory} {xs : List (Nat × Nat)}
    (recent : h.recent <:+ xs) : (h.record frame issuedAt).recent <:+ xs ++ [(frame, issuedAt)] := by
  obtain ⟨before, rfl⟩ := recent
  unfold record
  dsimp only
  split
  · refine ⟨before ++ h.recent.take 1, ?_⟩
    rw [← List.append_assoc, List.append_assoc before, List.take_append_drop]
  · exact ⟨before, (List.append_assoc _ _ _).symm⟩

theorem record_recent (frame issuedAt : Nat) {h : TickHistory} {xs : List (Nat × Nat)}
    (recent : h.recent = xs.drop (xs.length - size)) :
    (h.record frame issuedAt).recent =
      (xs ++ [(frame, issuedAt)]).drop ((xs ++ [(frame, issuedAt)]).length - size) := by
  have count : h.recent.length = xs.length - (xs.length - size) := by
    rw [recent, List.length_drop]
  have room : 0 < size := by decide
  unfold record
  dsimp only
  split
  · rename_i full
    rw [recent, List.drop_drop, ← List.drop_append_of_le_length (by omega)]
    congr 1
    simp only [List.length_append, List.length_singleton]
    omega
  · rename_i short
    rw [recent, ← List.drop_append_of_le_length (by omega)]
    congr 1
    simp only [List.length_append, List.length_singleton]
    omega

theorem mem_record {frame issuedAt : Nat} {h : TickHistory} {x : Nat × Nat}
    (mem : x ∈ (h.record frame issuedAt).recent) : x ∈ h.recent ∨ x = (frame, issuedAt) := by
  obtain ⟨before, same⟩ := record_suffix frame issuedAt (List.suffix_refl h.recent)
  have all : x ∈ h.recent ++ [(frame, issuedAt)] := same ▸ List.mem_append_right before mem
  simpa using all

theorem NoneBefore.record {k frame issued issuedAt : Nat} {h : TickHistory}
    (none : h.NoneBefore k frame) (after : k ≤ issuedAt) :
    (h.record issued issuedAt).NoneBefore k frame := by
  intro x mem later
  rcases mem_record mem with old | rfl
  · exact none x old later
  · exact after

end TickHistory

namespace Engine

open TickHistory

theorem cutoff_le (c : Call) (e : Engine) : e.cutoff c ≤ c.startedAt := by
  unfold cutoff
  split
  · exact Nat.min_le_right _ _
  · exact Nat.le_refl _

theorem le_cutoff {k : Nat} {c : Call} {e : Engine} (start : k ≤ c.startedAt)
    (none : e.broadcaster.history.NoneBefore k c.tick.frame) : k ≤ e.cutoff c := by
  unfold cutoff
  split
  · rename_i issued found
    obtain ⟨x, first, rfl⟩ := Option.map_eq_some_iff.mp found
    have later : c.tick.frame < x.1 := by simpa using List.find?_some first
    exact Nat.le_min.mpr ⟨none x (List.mem_of_find?_eq_some first) later, start⟩
  · exact start

theorem cutoff_none_before (c : Call) {e : Engine}
    (sorted : (e.broadcaster.history.recent.map (·.2)).Pairwise (· ≤ ·)) :
    e.broadcaster.history.NoneBefore (e.cutoff c) c.tick.frame := by
  intro x mem later
  unfold cutoff issuedAfter
  cases found : e.broadcaster.history.recent.find? fun y => decide (c.tick.frame < y.1) with
  | none =>
    have absent := List.find?_eq_none.mp found x mem
    simp [later] at absent
  | some first =>
    obtain ⟨_, before, after, parts, missed⟩ := List.find?_eq_some_iff_append.mp found
    rw [parts] at mem sorted
    refine Nat.le_trans (Nat.min_le_left _ _) ?_
    rcases List.mem_append.mp mem with early | late
    · have absent := missed x early
      simp [later] at absent
    · rcases List.mem_cons.mp late with rfl | late
      · exact Nat.le_refl _
      · rw [List.map_append, List.map_cons] at sorted
        have tail := (List.pairwise_append.mp sorted).2.1
        exact (List.pairwise_cons.mp tail).1 x.2 (List.mem_map_of_mem late)

/-- The handler `id` took `tick` from its queue and left `rest` there. If it began a call, then on
that tick. -/
structure Received (id : HandlerId) (tick : Tick) (rest : List Tick) (e e' : Engine) : Prop where
  waiting : ∃ b ∈ e.broadcaster.channels, b.name = id.text ∧ b.queue = tick :: rest
  history : e'.broadcaster.history = e.broadcaster.history
  state : e'.state = e.state
  now : e.now ≤ e'.now
  channels : ∀ b' ∈ e'.broadcaster.channels,
    (b' ∈ e.broadcaster.channels ∧ b'.name ≠ id.text) ∨ (b'.name = id.text ∧ b'.queue = rest)
  calls : ∀ h' ∈ e'.handlers, ∀ c', h'.call = some c' →
    (∃ h ∈ e.handlers, h.id = h'.id ∧ h.call = some c') ∨
      (h'.id = id ∧ c'.tick = tick ∧ c'.startedAt = e'.now)

theorem beginCall_received (id : HandlerId) (e : Engine) :
    e.beginCall id = e ∨ ∃ tick rest, Received id tick rest e (e.beginCall id) := by
  unfold beginCall
  cases found : (e.broadcaster.channel? id.text).bind (·.received) with
  | none => exact .inl rfl
  | some head =>
    obtain ⟨tick, channel⟩ := head
    obtain ⟨b, at_name, received⟩ := Option.bind_eq_some_iff.mp found
    have here : b ∈ e.broadcaster.channels ∧ b.name = id.text := key_of_find at_name
    unfold TickChannel.received at received
    split at received
    · cases received
    · rename_i first rest queue
      cases received
      right
      refine ⟨tick, rest, ?_⟩
      let channel : TickChannel := { b with queue := rest }
      let e₁ : Engine := { e with broadcaster := e.broadcaster.modify id.text fun _ => channel }
      have waiting : ∃ b ∈ e.broadcaster.channels, b.name = id.text ∧ b.queue = tick :: rest :=
        ⟨b, here.1, here.2, queue⟩
      have channels : ∀ b' ∈ e₁.broadcaster.channels,
          (b' ∈ e.broadcaster.channels ∧ b'.name ≠ id.text) ∨
            (b'.name = id.text ∧ b'.queue = rest) := by
        intro b' mem
        obtain ⟨x, mx, rfl⟩ := List.mem_map.mp mem
        split
        · exact .inr ⟨here.2, rfl⟩
        · rename_i other
          exact .inl ⟨mx, other⟩
      have dropped : Received id tick rest e e₁ := ⟨waiting, rfl, rfl, Nat.le_refl _, channels,
        fun h mem c call => .inl ⟨h, mem, rfl, call⟩⟩
      dsimp only
      split
      · exact dropped
      · split
        · refine ⟨waiting, rfl, rfl, Nat.le_succ _, channels, ?_⟩
          intro h mem c call
          obtain ⟨g, mg, rfl⟩ := List.mem_map.mp mem
          by_cases same : g.id = id
          · rw [if_pos same] at call ⊢
            cases call
            exact .inr ⟨same, rfl, rfl⟩
          · rw [if_neg same] at call ⊢
            exact .inl ⟨g, mg, rfl, call⟩
        · exact dropped

end Engine

namespace Flow

open Engine TickHistory

variable {f g : Flow} {s t : List Event}

def stamps (t : List Event) : List (Nat × Nat) := (issues t).map fun k => (k.frame, k.issuedAt)

def frames (t : List Event) : List Nat := (issues t).map (·.frame)

@[simp] theorem stamps_append (s t : List Event) : stamps (s ++ t) = stamps s ++ stamps t := by
  simp [stamps]

@[simp] theorem frames_append (s t : List Event) : frames (s ++ t) = frames s ++ frames t := by
  simp [frames]

theorem frames_stamps (t : List Event) : (stamps t).map (·.1) = frames t := by
  simp [stamps, frames]

/-- What the history has of the ticks, and how the instants of ticks, calls and cutoffs lie. -/
structure Clocked (t : List Event) (f : Flow) : Prop where
  recent : f.engine.broadcaster.history.recent <:+ stamps t
  memory : f.engine.state ≠ .stopped →
    f.engine.broadcaster.history.recent = (stamps t).drop ((stamps t).length - size)
  sorted : ((stamps t).map (·.2)).Pairwise (· ≤ ·)
  passed : ∀ x ∈ stamps t, x.2 ≤ f.engine.now
  begun : ∀ h ∈ f.engine.handlers, ∀ c, h.call = some c → c.startedAt ≤ f.engine.now
  told : ∀ id l, f.looks id = some l → l.cutoff ≤ l.startedAt ∧ l.startedAt ≤ f.engine.now ∧
    f.engine.broadcaster.history.NoneBefore l.cutoff l.tick.frame

theorem Clocked.recent_sorted (c : Clocked t f) :
    (f.engine.broadcaster.history.recent.map (·.2)).Pairwise (· ≤ ·) :=
  c.sorted.sublist (c.recent.sublist.map _)

theorem Clocked.scheduled (c : Clocked t f) (kept : Scheduled f.engine g.engine)
    (looks : ∀ id l, g.looks id = some l → f.looks id = some l) (unissued : issues s = []) :
    Clocked (t ++ s) g := by
  have same : stamps (t ++ s) = stamps t := by simp [stamps, unissued]
  refine ⟨?_, ?_, same ▸ c.sorted, ?_, ?_, ?_⟩
  · rw [same]
    rcases kept.history with history | ⟨empty, _⟩
    · rw [history]
      exact c.recent
    · rw [empty]
      exact List.nil_suffix
  · intro awake
    rw [same]
    rcases kept.history with history | ⟨_, stopped⟩
    · rw [history]
      exact c.memory fun stopped => awake (kept.stays stopped)
    · exact absurd stopped awake
  · intro x mem
    rw [same] at mem
    exact Nat.le_trans (c.passed x mem) kept.now
  · intro h mem x call
    obtain ⟨y, my, _, z, call', _, start⟩ := kept.calls h mem x call
    have := c.begun y my z call'
    have := kept.now
    omega
  · intro id l look
    obtain ⟨low, start, none⟩ := c.told id l (looks id l look)
    refine ⟨low, Nat.le_trans start kept.now, ?_⟩
    rcases kept.history with history | ⟨empty, _⟩
    · rw [history]
      exact none
    · rw [empty]
      exact .empty _ _

theorem Clocked.issue (c : Clocked t f) {frame before : Nat} {timestamp delta : Float}
    (later : f.engine.now ≤ before + 1) :
    Clocked (t ++ [.issued ⟨frame, timestamp, delta, before + 1⟩])
      (f.put ({ f.engine with now := before }.issue frame timestamp delta)) := by
  have stamped : stamps (t ++ [.issued ⟨frame, timestamp, delta, before + 1⟩]) =
      stamps t ++ [(frame, before + 1)] := by
    rw [stamps_append]
    rfl
  refine ⟨?_, ?_, ?_, ?_, ?_, ?_⟩
  · rw [stamped]
    exact record_suffix frame (before + 1) c.recent
  · intro awake
    rw [stamped]
    exact record_recent frame (before + 1) (c.memory awake)
  · rw [stamped, List.map_append]
    refine List.pairwise_append.mpr ⟨c.sorted, List.pairwise_singleton _ _, ?_⟩
    intro x mem y last
    obtain ⟨k, mk, rfl⟩ := List.mem_map.mp mem
    rw [List.mem_singleton.mp last]
    exact Nat.le_trans (c.passed k mk) later
  · intro x mem
    rw [stamped] at mem
    rcases List.mem_append.mp mem with old | new
    · exact Nat.le_trans (c.passed x old) later
    · rw [List.mem_singleton.mp new]
      exact Nat.le_refl _
  · intro h mem x call
    exact Nat.le_trans (c.begun h mem x call) later
  · intro id l look
    obtain ⟨low, start, none⟩ := c.told id l look
    have bound : l.startedAt ≤ before + 1 := Nat.le_trans start later
    exact ⟨low, bound, none.record (Nat.le_trans low bound)⟩

theorem Clocked.begin (c : Clocked t f) (id : HandlerId) {before : Nat}
    (later : f.engine.now ≤ ({ f.engine with now := before }.beginCall id).now) :
    Clocked (t ++ []) (f.put ({ f.engine with now := before }.beginCall id)) := by
  rw [List.append_nil]
  rcases beginCall_received id { f.engine with now := before } with same | ⟨tick, rest, r⟩
  · rw [same] at later ⊢
    refine ⟨c.recent, c.memory, c.sorted, ?_, ?_, ?_⟩
    · intro x mem
      exact Nat.le_trans (c.passed x mem) later
    · intro h mem x call
      exact Nat.le_trans (c.begun h mem x call) later
    · intro x l look
      obtain ⟨low, start, none⟩ := c.told x l look
      exact ⟨low, Nat.le_trans start later, none⟩
  · refine ⟨?_, ?_, c.sorted, ?_, ?_, ?_⟩
    · rw [put_engine, r.history]
      exact c.recent
    · rw [put_engine, r.history, r.state]
      exact c.memory
    · intro x mem
      exact Nat.le_trans (c.passed x mem) later
    · intro h mem x call
      rcases r.calls h mem x call with ⟨y, my, _, call'⟩ | ⟨_, _, start⟩
      · exact Nat.le_trans (c.begun y my x call') later
      · exact Nat.le_of_eq start
    · intro x l look
      obtain ⟨low, start, none⟩ := c.told x l look
      refine ⟨low, Nat.le_trans start later, ?_⟩
      rw [put_engine, r.history]
      exact none

theorem Clocked.look (c : Clocked t f) {id : HandlerId} {x : Call}
    (current : (f.engine.handler? id).bind (·.call) = some x) :
    Clocked (t ++ [.looked id ⟨x.tick, x.startedAt, f.engine.cutoff x⟩])
      (f.tell id (some ⟨x.tick, x.startedAt, f.engine.cutoff x⟩)) := by
  have same (l : Look) : stamps (t ++ [.looked id l]) = stamps t := by
    rw [stamps_append]
    exact List.append_nil _
  refine ⟨same _ ▸ c.recent, fun awake => same _ ▸ c.memory awake, same _ ▸ c.sorted,
    fun y mem => c.passed y (same _ ▸ mem), c.begun, ?_⟩
  intro y l look
  by_cases here : y = id
  · subst y
    rw [tell_looks, Function.update_self] at look
    cases look
    obtain ⟨h, found, call⟩ := Option.bind_eq_some_iff.mp current
    exact ⟨cutoff_le x f.engine, c.begun h (mem_of_handler found).1 x call,
      cutoff_none_before x c.recent_sorted⟩
  · rw [tell_looks, Function.update_of_ne here] at look
    exact c.told y l look

theorem untold {id x : HandlerId} {l : Look} (look : (f.tell id none).looks x = some l) :
    f.looks x = some l := by
  by_cases here : x = id
  · subst x
    rw [tell_looks, Function.update_self] at look
    cases look
  · rwa [tell_looks, Function.update_of_ne here] at look

theorem traced_clocked (run : Traced t f) : Clocked t f := by
  induction run with
  | fresh made r =>
    obtain ⟨_, _, rfl⟩ := make_blank made
    refine ⟨List.suffix_refl _, fun _ => rfl, List.Pairwise.nil, ?_, ?_, ?_⟩
    · intro x mem
      cases mem
    · intro h mem
      cases mem
    · intro id l look
      cases look
  | @next t s f g run step ih =>
    rcases step_steady (traced_wired run) step with steady | beat
    · exact ih.scheduled steady.scheduled (fun id l look => steady.looks ▸ look) steady.issues
    · cases beat with
      | issue frame timestamp delta before _ later => exact ih.issue later
      | begin id before _ later => exact ih.begin id later
      | look id c current => exact ih.look current
      | finish id c how =>
        exact ih.scheduled (finish_scheduled id c how f.engine) (fun _ _ => untold) rfl

end Flow

end Tickflow
