import Tickflow.Proofs.Horizon
/-!
Frames that are issued in rising order reach every handler in rising order, and then the cutoffs that it
is given never decrease.
-/
namespace Tickflow

namespace Flow

open Engine TickHistory

variable {f g : Flow} {s t : List Event} {id : HandlerId} {k : Nat}

/-- Whatever waits for a handler is later than what it works on, and all of it was issued. -/
structure Ordered (t : List Event) (f : Flow) : Prop where
  waiting : ∀ b ∈ f.engine.broadcaster.channels, ∀ q ∈ b.queue, q.frame ∈ frames t
  order : ∀ b ∈ f.engine.broadcaster.channels, (b.queue.map (·.frame)).Pairwise (· < ·)
  current : ∀ h ∈ f.engine.handlers, ∀ c, h.call = some c → c.tick.frame ∈ frames t
  ahead : ∀ h ∈ f.engine.handlers, ∀ c, h.call = some c →
    ∀ b ∈ f.engine.broadcaster.channels, b.name = h.id.text → ∀ q ∈ b.queue, c.tick.frame < q.frame

theorem Ordered.scheduled (o : Ordered t f) (kept : Scheduled f.engine g.engine) :
    Ordered (t ++ s) g := by
  have more {x : Nat} (mem : x ∈ frames t) : x ∈ frames (t ++ s) := by
    rw [frames_append]
    exact List.mem_append_left _ mem
  refine ⟨?_, ?_, ?_, ?_⟩
  · intro b mem q mq
    rcases kept.queues b mem with empty | ⟨x, mx, _, queue⟩
    · rw [empty] at mq
      cases mq
    · exact more (o.waiting x mx q (queue ▸ mq))
  · intro b mem
    rcases kept.queues b mem with empty | ⟨x, mx, _, queue⟩
    · rw [empty]
      exact List.Pairwise.nil
    · rw [← queue]
      exact o.order x mx
  · intro h mem c call
    obtain ⟨x, mx, _, y, call', tick, _⟩ := kept.calls h mem c call
    exact more (tick ▸ o.current x mx y call')
  · intro h mem c call b mb name q mq
    obtain ⟨x, mx, id, y, call', tick, _⟩ := kept.calls h mem c call
    rcases kept.queues b mb with empty | ⟨z, mz, name', queue⟩
    · rw [empty] at mq
      cases mq
    · rw [← tick]
      exact o.ahead x mx y call' z mz (by rw [name', name, id]) q (queue ▸ mq)

theorem mem_sent {depth : Nat} {tick q : Tick} {b : TickChannel}
    (mem : q ∈ (b.sent depth tick).queue) : q ∈ b.queue ∨ q = tick := by
  unfold TickChannel.sent at mem
  split at mem
  · exact .inl mem
  · split at mem
    · exact .inl mem
    · split at mem
      · exact .inl mem
      · simpa using mem

theorem sent_name (depth : Nat) (tick : Tick) (b : TickChannel) :
    (b.sent depth tick).name = b.name := by
  unfold TickChannel.sent
  split
  · rfl
  · split
    · rfl
    · split <;> rfl

theorem sent_order {depth : Nat} {tick : Tick} {b : TickChannel}
    (order : (b.queue.map (·.frame)).Pairwise (· < ·)) (last : ∀ q ∈ b.queue, q.frame < tick.frame) :
    ((b.sent depth tick).queue.map (·.frame)).Pairwise (· < ·) := by
  unfold TickChannel.sent
  split
  · exact order
  · split
    · exact order
    · split
      · exact order
      · rw [List.map_append]
        refine List.pairwise_append.mpr ⟨order, List.pairwise_singleton _ _, ?_⟩
        intro x mem y new
        obtain ⟨q, mq, rfl⟩ := List.mem_map.mp mem
        rw [List.mem_singleton.mp new]
        exact last q mq

theorem Ordered.issue (o : Ordered t f) {frame before : Nat} {timestamp delta : Float}
    (last : ∀ x ∈ frames t, x < frame) :
    Ordered (t ++ [.issued ⟨frame, timestamp, delta, before + 1⟩])
      (f.put ({ f.engine with now := before }.issue frame timestamp delta)) := by
  have all : frames (t ++ [.issued ⟨frame, timestamp, delta, before + 1⟩]) =
      frames t ++ [frame] := by
    rw [frames_append]
    rfl
  have more {x : Nat} (mem : x ∈ frames t) :
      x ∈ frames (t ++ [.issued ⟨frame, timestamp, delta, before + 1⟩]) := by
    rw [all]
    exact List.mem_append_left _ mem
  refine ⟨?_, ?_, fun h mem c call => more (o.current h mem c call), ?_⟩
  · intro b mem q mq
    obtain ⟨x, mx, rfl⟩ := List.mem_map.mp mem
    rcases mem_sent mq with old | rfl
    · exact more (o.waiting x mx q old)
    · rw [all]
      exact List.mem_append_right _ List.mem_cons_self
  · intro b mem
    obtain ⟨x, mx, rfl⟩ := List.mem_map.mp mem
    exact sent_order (o.order x mx) fun q mq => last _ (o.waiting x mx q mq)
  · intro h mem c call b mb name q mq
    obtain ⟨x, mx, rfl⟩ := List.mem_map.mp mb
    rw [sent_name] at name
    rcases mem_sent mq with old | rfl
    · exact o.ahead h mem c call x mx name q old
    · exact last _ (o.current h mem c call)

theorem Ordered.begin (o : Ordered t f) (id : HandlerId) (before : Nat) :
    Ordered (t ++ []) (f.put ({ f.engine with now := before }.beginCall id)) := by
  rw [List.append_nil]
  rcases beginCall_received id { f.engine with now := before } with same | ⟨tick, rest, r⟩
  · rw [same]
    exact ⟨o.waiting, o.order, o.current, o.ahead⟩
  · obtain ⟨x, mx, at_x, queue⟩ := r.waiting
    have sorted := o.order x mx
    rw [queue, List.map_cons, List.pairwise_cons] at sorted
    -- What is left in a queue was in the queue of the same name before.
    have old {b : TickChannel} (mb : b ∈ ({ f.engine with now := before }.beginCall
        id).broadcaster.channels) {q : Tick} (mq : q ∈ b.queue) :
        ∃ y ∈ f.engine.broadcaster.channels, y.name = b.name ∧ q ∈ y.queue := by
      rcases r.channels b mb with ⟨kept, _⟩ | ⟨name, left⟩
      · exact ⟨b, kept, rfl, mq⟩
      · rw [left] at mq
        exact ⟨x, mx, at_x.trans name.symm, queue ▸ List.mem_cons_of_mem _ mq⟩
    refine ⟨?_, ?_, ?_, ?_⟩
    · intro b mb q mq
      obtain ⟨y, my, _, mq'⟩ := old mb mq
      exact o.waiting y my q mq'
    · intro b mb
      rcases r.channels b mb with ⟨kept, _⟩ | ⟨_, left⟩
      · exact o.order b kept
      · rw [left]
        exact sorted.2
    · intro h mem c call
      rcases r.calls h mem c call with ⟨y, my, _, call'⟩ | ⟨_, tick', _⟩
      · exact o.current y my c call'
      · rw [tick']
        exact o.waiting x mx tick (queue ▸ List.mem_cons_self)
    · intro h mem c call b mb name q mq
      rcases r.calls h mem c call with ⟨y, my, id', call'⟩ | ⟨id', tick', _⟩
      · obtain ⟨z, mz, name', mq'⟩ := old mb mq
        exact o.ahead y my c call' z mz (by rw [name', name, id']) q mq'
      · rcases r.channels b mb with ⟨_, other⟩ | ⟨_, left⟩
        · exact absurd (name.trans (congrArg HandlerId.text id')) other
        · rw [left] at mq
          rw [tick']
          exact sorted.1 _ (List.mem_map_of_mem mq)

theorem frames_sorted_left (sorted : (frames (t ++ s)).Pairwise (· < ·)) :
    (frames t).Pairwise (· < ·) := by
  rw [frames_append] at sorted
  exact (List.pairwise_append.mp sorted).1

theorem frames_last {tick : Tick} (sorted : (frames (t ++ [.issued tick])).Pairwise (· < ·)) :
    ∀ x ∈ frames t, x < tick.frame := by
  rw [frames_append] at sorted
  intro x mem
  exact (List.pairwise_append.mp sorted).2.2 x mem tick.frame List.mem_cons_self

theorem traced_ordered (run : Traced t f) (sorted : (frames t).Pairwise (· < ·)) :
    Ordered t f := by
  induction run with
  | fresh made r =>
    obtain ⟨_, _, rfl⟩ := make_blank made
    refine ⟨?_, ?_, ?_, ?_⟩ <;> intro x mem <;> cases mem
  | @next t s f g run step ih =>
    have before := ih (frames_sorted_left sorted)
    rcases step_steady (traced_wired run) step with steady | beat
    · exact before.scheduled steady.scheduled
    · cases beat with
      | issue frame timestamp delta instant _ later => exact before.issue (frames_last sorted)
      | begin id instant _ later => exact before.begin id instant
      | look id c current =>
        exact before.scheduled (g := f.tell id _) (.refl f.engine)
      | finish id c how => exact before.scheduled (finish_scheduled id c how f.engine)

/-- Whatever the handler may be told from now on is not before `k`. -/
structure Bounded (id : HandlerId) (k : Nat) (f : Flow) : Prop where
  now : k ≤ f.engine.now
  calls : ∀ h ∈ f.engine.handlers, h.id = id → ∀ c, h.call = some c →
    k ≤ c.startedAt ∧ f.engine.broadcaster.history.NoneBefore k c.tick.frame
  queues : ∀ b ∈ f.engine.broadcaster.channels, b.name = id.text → ∀ q ∈ b.queue,
    f.engine.broadcaster.history.NoneBefore k q.frame

theorem Bounded.scheduled (b : Bounded id k f) (kept : Scheduled f.engine g.engine) :
    Bounded id k g := by
  have history {frame : Nat} (none : f.engine.broadcaster.history.NoneBefore k frame) :
      g.engine.broadcaster.history.NoneBefore k frame := by
    rcases kept.history with same | ⟨empty, _⟩
    · rw [same]
      exact none
    · rw [empty]
      exact .empty _ _
  refine ⟨Nat.le_trans b.now kept.now, ?_, ?_⟩
  · intro h mem at_id c call
    obtain ⟨x, mx, id', y, call', tick, start⟩ := kept.calls h mem c call
    obtain ⟨low, none⟩ := b.calls x mx (id'.trans at_id) y call'
    rw [← start, ← tick]
    exact ⟨low, history none⟩
  · intro x mem name q mq
    rcases kept.queues x mem with empty | ⟨y, my, name', queue⟩
    · rw [empty] at mq
      cases mq
    · exact history (b.queues y my (name'.trans name) q (queue ▸ mq))

theorem Bounded.issue (b : Bounded id k f) (clocked : Clocked t f) {frame before : Nat}
    {timestamp delta : Float} (later : f.engine.now ≤ before + 1)
    (last : ∀ x ∈ frames t, x < frame) :
    Bounded id k (f.put ({ f.engine with now := before }.issue frame timestamp delta)) := by
  have low : k ≤ before + 1 := Nat.le_trans b.now later
  refine ⟨low, ?_, ?_⟩
  · intro h mem at_id c call
    obtain ⟨start, none⟩ := b.calls h mem at_id c call
    exact ⟨start, none.record low⟩
  · intro x mem name q mq
    obtain ⟨y, my, rfl⟩ := List.mem_map.mp mem
    rw [sent_name] at name
    rcases mem_sent mq with old | rfl
    · exact (b.queues y my name q old).record low
    · -- Nothing that is remembered is later than the tick itself.
      intro z mz after
      rcases mem_record mz with old | rfl
      · have known : z.1 ∈ frames t := by
          rw [← frames_stamps]
          exact List.mem_map_of_mem (clocked.recent.subset old)
        have earlier := last z.1 known
        have after : frame < z.1 := after
        omega
      · exact absurd after (Nat.lt_irrefl _)

theorem Bounded.begin (b : Bounded id k f) (x : HandlerId) {before : Nat}
    (later : f.engine.now ≤ ({ f.engine with now := before }.beginCall x).now) :
    Bounded id k (f.put ({ f.engine with now := before }.beginCall x)) := by
  have low := Nat.le_trans b.now later
  rcases beginCall_received x { f.engine with now := before } with same | ⟨tick, rest, r⟩
  · rw [same] at low ⊢
    exact ⟨low, b.calls, b.queues⟩
  · obtain ⟨y, my, at_y, queue⟩ := r.waiting
    refine ⟨low, ?_, ?_⟩
    · intro h mem at_id c call
      rw [put_engine, r.history]
      rcases r.calls h mem c call with ⟨z, mz, id', call'⟩ | ⟨id', tick', start⟩
      · exact b.calls z mz (id'.trans at_id) c call'
      · rw [start, tick']
        exact ⟨low, b.queues y my (by rw [at_y, ← id', at_id]) tick (queue ▸ List.mem_cons_self)⟩
    · intro z mz name q mq
      rw [put_engine, r.history]
      rcases r.channels z mz with ⟨kept, _⟩ | ⟨name', left⟩
      · exact b.queues z kept name q mq
      · rw [left] at mq
        exact b.queues y my (at_y.trans (name'.symm.trans name)) q
          (queue ▸ List.mem_cons_of_mem _ mq)

theorem cutoff_bounded (w : f.engine.Wired) (clocked : Clocked t f) (o : Ordered t f) {c : Call}
    (current : (f.engine.handler? id).bind (·.call) = some c) :
    Bounded id (f.engine.cutoff c) f := by
  obtain ⟨h, found, call⟩ := Option.bind_eq_some_iff.mp current
  obtain ⟨mem, at_id⟩ := mem_of_handler found
  have none := cutoff_none_before c clocked.recent_sorted
  refine ⟨Nat.le_trans (cutoff_le c f.engine) (clocked.begun h mem c call), ?_, ?_⟩
  · intro x mx same c' call'
    have unique : x = h := handler_unique w.distinct.ids mx mem (same.trans at_id.symm)
    subst x
    rw [call] at call'
    cases call'
    exact ⟨cutoff_le c f.engine, none⟩
  · intro b mb name q mq
    have ahead := o.ahead h mem c call b mb (by rw [name, at_id]) q mq
    exact none.later (Nat.le_of_lt ahead)

/-- The cutoffs that a handler is given never decrease, and each bounds whatever is still to come. -/
theorem cutoffs_bounded (run : Traced t f) (sorted : (frames t).Pairwise (· < ·))
    (id : HandlerId) :
    (cutoffs id t).Pairwise (· ≤ ·) ∧ ∀ k ∈ cutoffs id t, Bounded id k f := by
  induction run with
  | fresh made r => exact ⟨List.Pairwise.nil, fun k mem => by cases mem⟩
  | @next t s f g run step ih =>
    have earlier := frames_sorted_left sorted
    obtain ⟨rising, bounds⟩ := ih earlier
    have clocked := traced_clocked run
    rcases step_steady (traced_wired run) step with steady | beat
    · rw [cutoffs_append, steady.cutoffs, List.append_nil]
      exact ⟨rising, fun k mem => (bounds k mem).scheduled steady.scheduled⟩
    · cases beat with
      | issue frame timestamp delta instant _ later =>
        rw [cutoffs_append, show cutoffs id [_] = [] from rfl, List.append_nil]
        exact ⟨rising, fun k mem => (bounds k mem).issue clocked later (frames_last sorted)⟩
      | begin x instant _ later =>
        rw [List.append_nil]
        exact ⟨rising, fun k mem => (bounds k mem).begin x later⟩
      | look x c current =>
        have same : ∀ k, Bounded id k f → Bounded id k (f.tell x
            (some ⟨c.tick, c.startedAt, f.engine.cutoff c⟩)) := fun k b => ⟨b.now, b.calls, b.queues⟩
        by_cases here : x = id
        · subst x
          have new := cutoff_bounded (traced_wired run) clocked (traced_ordered run earlier) current
          obtain ⟨h, found, call⟩ := Option.bind_eq_some_iff.mp current
          obtain ⟨mem, at_id⟩ := mem_of_handler found
          have only : cutoffs id [.looked id ⟨c.tick, c.startedAt, f.engine.cutoff c⟩] =
              [f.engine.cutoff c] := by simp [cutoffs, Event.cutoff?]
          rw [cutoffs_append, only]
          constructor
          · refine List.pairwise_append.mpr ⟨rising, List.pairwise_singleton _ _, ?_⟩
            intro k mk y last
            rw [List.mem_singleton.mp last]
            obtain ⟨start, none⟩ := (bounds k mk).calls h mem at_id c call
            exact le_cutoff start none
          · intro k mk
            rcases List.mem_append.mp mk with old | last
            · exact same k (bounds k old)
            · rw [List.mem_singleton.mp last]
              exact same _ new
        · have nothing (l : Look) : cutoffs id [.looked x l] = [] := by
            simp [cutoffs, Event.cutoff?, here]
          rw [cutoffs_append, nothing, List.append_nil]
          exact ⟨rising, fun k mem => same k (bounds k mem)⟩
      | finish x c how =>
        rw [List.append_nil]
        exact ⟨rising, fun k mem => (bounds k mem).scheduled (finish_scheduled x c how f.engine)⟩

end Flow

end Tickflow
