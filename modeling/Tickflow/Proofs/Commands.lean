import Tickflow.Proofs.Flow
import Tickflow.Proofs.Isolate
/-!
What the owner of an engine leaves alone in it while messages and ticks are on their way. Ports keep
the cells that they have, cells keep what is in them unless they are closed, and ticks stay in their
queues.
-/
namespace Tickflow

def Cell.Blank (c : Cell α) : Prop := c.slots = c.slots.cleared ∧ c.stats.droppedChunks = 0

theorem Cell.Blank.close {c : Cell α} (blank : c.Blank) : c.close.Blank :=
  ⟨(cleared_cleared c.slots).symm, blank.2⟩

namespace Engine

/-- Links and cells are only added, and cells only closed. -/
structure Arranged (e e' : Engine) : Prop where
  inputs : ∀ a p n, e.input? a = some p → p.cell = some n →
    ∃ p', e'.input? a = some p' ∧ p'.cell = some n
  outputs : ∀ a q, e.output? a = some q → ∃ q', e'.output? a = some q' ∧
    q'.nextSequence = q.nextSequence ∧ q.cells <+: q'.cells
  links : e.links ⊆ e'.links
  count : e.cells.length ≤ e'.cells.length
  cells : ∀ (n : CellId) (c' : Cell Message), e'.cells[n]? = some c' →
    (∃ c, e.cells[n]? = some c ∧ (c' = c ∨ c' = c.close)) ∨ (e.cells.length ≤ n ∧ c'.Blank)

def plugs (e : Engine) : List (HandlerId × HandlerPorts) := e.handlers.map fun h => (h.id, h.ports)

theorem input_plugs (a : PortAddress) (e : Engine) :
    e.input? a = (e.plugs.find? (·.1 == a.handler)).bind (·.2.input? a.port) := by
  rw [plugs, List.find?_map, Option.bind_map]
  rfl

theorem output_plugs (a : PortAddress) (e : Engine) :
    e.output? a = (e.plugs.find? (·.1 == a.handler)).bind (·.2.output? a.port) := by
  rw [plugs, List.find?_map, Option.bind_map]
  rfl

theorem Arranged.of_plugs {e e' : Engine} (plugs : e'.plugs = e.plugs)
    (connections : e'.connections = e.connections) (count : e.cells.length ≤ e'.cells.length)
    (cells : ∀ (n : CellId) (c' : Cell Message), e'.cells[n]? = some c' →
      ∃ c, e.cells[n]? = some c ∧ (c' = c ∨ c' = c.close)) : Arranged e e' := by
  refine ⟨?_, ?_, ?_, count, fun n c' here => .inl (cells n c' here)⟩
  · intro a p n found fed
    rw [input_plugs, ← plugs, ← input_plugs] at found
    exact ⟨p, found, fed⟩
  · intro a q found
    rw [output_plugs, ← plugs, ← output_plugs] at found
    exact ⟨q, found, rfl, List.prefix_refl _⟩
  · rw [Engine.links, Engine.links, connections]
    exact List.Subset.refl _

theorem Arranged.of_same {e e' : Engine} (plugs : e'.plugs = e.plugs)
    (connections : e'.connections = e.connections) (cells : e'.cells = e.cells) :
    Arranged e e' := by
  refine .of_plugs plugs connections (Nat.le_of_eq (by rw [cells])) ?_
  intro n c' here
  rw [cells] at here
  exact ⟨c', here, .inl rfl⟩

theorem Arranged.refl (e : Engine) : Arranged e e := .of_same rfl rfl rfl

theorem Arranged.trans {a b c : Engine} (first : Arranged a b) (second : Arranged b c) :
    Arranged a c := by
  refine ⟨?_, ?_, List.Subset.trans first.links second.links,
    Nat.le_trans first.count second.count, ?_⟩
  · intro x p n found fed
    obtain ⟨p', found', fed'⟩ := first.inputs x p n found fed
    exact second.inputs x p' n found' fed'
  · intro x q found
    obtain ⟨q', found', next', cells'⟩ := first.outputs x q found
    obtain ⟨q'', found'', next'', cells''⟩ := second.outputs x q' found'
    exact ⟨q'', found'', next''.trans next', cells'.trans cells''⟩
  · intro n z here
    rcases second.cells n z here with ⟨y, middle, late⟩ | ⟨bound, blank⟩
    · rcases first.cells n y middle with ⟨x, before, early⟩ | ⟨bound, blank⟩
      · refine .inl ⟨x, before, ?_⟩
        rcases early with rfl | rfl
        · exact late
        · rcases late with rfl | rfl
          · exact .inr rfl
          · exact .inr (close_close x)
      · refine .inr ⟨bound, ?_⟩
        rcases late with rfl | rfl
        · exact blank
        · exact blank.close
    · exact .inr ⟨Nat.le_trans first.count bound, blank⟩

/-- Time goes on, calls and queues keep their ticks, and the history is kept unless the engine has
stopped. -/
structure Scheduled (e e' : Engine) : Prop where
  now : e.now ≤ e'.now
  stays : e.state = .stopped → e'.state = .stopped
  history : e'.broadcaster.history = e.broadcaster.history ∨
    (e'.broadcaster.history = .empty ∧ e'.state = .stopped)
  calls : ∀ h' ∈ e'.handlers, ∀ c', h'.call = some c' → ∃ h ∈ e.handlers, h.id = h'.id ∧
    ∃ c, h.call = some c ∧ c.tick = c'.tick ∧ c.startedAt = c'.startedAt
  queues : ∀ b' ∈ e'.broadcaster.channels, b'.queue = [] ∨
    ∃ b ∈ e.broadcaster.channels, b.name = b'.name ∧ b.queue = b'.queue

theorem Scheduled.of_same {e e' : Engine} (now : e.now ≤ e'.now) (state : e'.state = e.state)
    (broadcaster : e'.broadcaster = e.broadcaster)
    (calls : ∀ h' ∈ e'.handlers, ∀ c', h'.call = some c' → ∃ h ∈ e.handlers, h.id = h'.id ∧
      ∃ c, h.call = some c ∧ c.tick = c'.tick ∧ c.startedAt = c'.startedAt) : Scheduled e e' := by
  refine ⟨now, fun stopped => state.trans stopped, .inl (by rw [broadcaster]), calls, ?_⟩
  intro b mem
  rw [broadcaster] at mem
  exact .inr ⟨b, mem, rfl, rfl⟩

theorem same_calls {e e' : Engine} (handlers : e'.handlers = e.handlers) :
    ∀ h' ∈ e'.handlers, ∀ c', h'.call = some c' → ∃ h ∈ e.handlers, h.id = h'.id ∧
      ∃ c, h.call = some c ∧ c.tick = c'.tick ∧ c.startedAt = c'.startedAt := by
  intro h mem c call
  rw [handlers] at mem
  exact ⟨h, mem, rfl, c, call, rfl, rfl⟩

/-! Adding handlers and connecting them. -/

theorem insert_arranged (id : HandlerId) (b : Behaviour) (isAdapter : Bool) (ports : HandlerPorts)
    (uri : Option ActorUri) (e : Engine) : Arranged e (e.insert id b isAdapter ports uri) := by
  refine ⟨?_, ?_, List.Subset.refl _, Nat.le_refl _, ?_⟩
  · intro a p n found fed
    exact ⟨p, insert_old_input found, fed⟩
  · intro a q found
    exact ⟨q, insert_old_output found, rfl, List.prefix_refl _⟩
  · intro n c here
    exact .inl ⟨c, here, .inl rfl⟩

theorem insert_scheduled (id : HandlerId) (b : Behaviour) (isAdapter : Bool) (ports : HandlerPorts)
    (uri : Option ActorUri) (e : Engine) : Scheduled e (e.insert id b isAdapter ports uri) := by
  refine .of_same (Nat.le_refl _) rfl rfl ?_
  intro h mem c call
  rw [insert_handlers] at mem
  rcases List.mem_append.mp mem with old | new
  · exact ⟨h, old, rfl, c, call, rfl, rfl⟩
  · rw [List.mem_singleton.mp new] at call
    cases call

theorem blank_slots (policy : ConsumptionPolicy) (label : String) :
    (Cell.ofSlots (policy.slots : Slots α) label).Blank := by
  cases policy <;> exact ⟨rfl, rfl⟩

theorem feeding_next (source : PortAddress) (n : CellId) (owner : HandlerId) (q : OutputPort) :
    (q.feeding source n owner).nextSequence = q.nextSequence := by
  unfold OutputPort.feeding
  split <;> rfl

theorem feeding_cells (source : PortAddress) (n : CellId) (owner : HandlerId) (q : OutputPort) :
    q.cells <+: (q.feeding source n owner).cells := by
  unfold OutputPort.feeding
  split
  · exact List.prefix_append _ _
  · exact List.prefix_refl _

theorem joined_arranged {source target : PortAddress} {p : InputPort} {e : Engine}
    (input : e.input? target = some p) (free : p.cell = none) (policy : ConsumptionPolicy) :
    Arranged e (e.joined source target policy) := by
  refine ⟨?_, ?_, List.Subset.refl _, ?_, ?_⟩
  · intro a r n found fed
    have other : target ≠ ⟨a.handler, r.name⟩ := by
      obtain ⟨_, _, _, _, name⟩ := mem_input found
      intro same
      rw [name] at same
      rw [same, found] at input
      cases input
      rw [free] at fed
      cases fed
    refine ⟨r, ?_, fed⟩
    rw [joined_input, found, Option.map_some, InputPort.fed, if_neg other]
  · intro a q found
    exact ⟨_, by rw [joined_output, found]; rfl, feeding_next _ _ _ _, feeding_cells _ _ _ _⟩
  · simp [joined]
  · intro n c here
    by_cases old : n < e.cells.length
    · exact .inl ⟨c, by rwa [joined, List.getElem?_append_left old] at here, .inl rfl⟩
    · have bound : e.cells.length ≤ n := Nat.le_of_not_lt old
      rw [joined, List.getElem?_append_right bound, List.getElem?_singleton] at here
      split at here
      · cases here
        exact .inr ⟨bound, blank_slots _ _⟩
      · cases here

theorem joined_scheduled (source target : PortAddress) (policy : ConsumptionPolicy) (e : Engine) :
    Scheduled e (e.joined source target policy) := by
  refine .of_same (Nat.le_refl _) rfl rfl ?_
  intro h mem c call
  obtain ⟨g, mg, rfl⟩ := List.mem_map.mp mem
  exact ⟨g, mg, rfl, c, call, rfl, rfl⟩

theorem noted_arranged (c : Connection) (e : Engine) : Arranged e (e.noted c) := by
  refine ⟨fun a p n found fed => ⟨p, found, fed⟩,
    fun a q found => ⟨q, found, rfl, List.prefix_refl _⟩, ?_, Nat.le_refl _,
    fun n x here => .inl ⟨x, here, .inl rfl⟩⟩
  intro l mem
  have more : (e.noted c).links = e.links ++ c.links := by simp [links, noted]
  rw [more]
  exact List.mem_append_left _ mem

theorem Scheduled.noted {e e' : Engine} (s : Scheduled e e') (c : Connection) :
    Scheduled e (e'.noted c) := ⟨s.now, s.stays, s.history, s.calls, s.queues⟩

theorem Scheduled.refl (e : Engine) : Scheduled e e :=
  .of_same (Nat.le_refl _) rfl rfl (same_calls rfl)

theorem Scheduled.trans {a b c : Engine} (first : Scheduled a b) (second : Scheduled b c) :
    Scheduled a c := by
  refine ⟨Nat.le_trans first.now second.now,
    fun stopped => second.stays (first.stays stopped), ?_, ?_, ?_⟩
  · rcases second.history with same | ended
    · rcases first.history with same' | ⟨empty, stopped⟩
      · exact .inl (same.trans same')
      · exact .inr ⟨same.trans empty, second.stays stopped⟩
    · exact .inr ended
  · intro h mem x call
    obtain ⟨g, mg, id, y, call', tick, start⟩ := second.calls h mem x call
    obtain ⟨k, mk, id', z, call'', tick', start'⟩ := first.calls g mg y call'
    exact ⟨k, mk, id'.trans id, z, call'', tick'.trans tick, start'.trans start⟩
  · intro x mem
    rcases second.queues x mem with empty | ⟨y, my, name, queue⟩
    · exact .inl empty
    · rcases first.queues y my with empty | ⟨z, mz, name', queue'⟩
      · exact .inl (queue ▸ empty)
      · exact .inr ⟨z, mz, name'.trans name, queue'.trans queue⟩

theorem connect_arranged {e : Engine} (w : e.Wired) (source target : PortAddress) :
    Arranged e (e.connectInPlace source target).2 ∧
      Scheduled e (e.connectInPlace source target).2 := by
  rcases connectable_or_refused source target e with ⟨q, p, c⟩ | ⟨f, refused⟩
  · cases common : q.spec.capabilities.intersects p.spec.capabilities with
    | true =>
      rw [connect_direct w.distinct w.capacity c common]
      exact ⟨(joined_arranged c.reached c.free _).trans (noted_arranged _ _),
        (joined_scheduled _ _ _ _).noted _⟩
    | false =>
      obtain ⟨r, _, a, _, _, free, made⟩ := connect_bridged w.distinct w.capacity c common
      rw [made]
      obtain ⟨consumer, mc, at_target, _⟩ := mem_input c.reached
      have elsewhere : a ≠ target.handler := by
        rintro rfl
        exact free (at_target ▸ List.mem_map_of_mem mc)
      let e₁ := e.insert a (r.adapter p.spec.kind e.settings.devicePoolId) true
        (r.ports a p.spec.kind) none
      let e₂ := e₁.joined source ⟨a, Route.inputPort⟩ (e.policyOf p.spec)
      have target₂ : e₂.input? target = some p := by
        rw [joined_input, show e₁.input? target = some p from insert_old_input c.reached,
          Option.map_some, fed_elsewhere elsewhere]
      have first : Arranged e e₁ := insert_arranged _ _ _ _ _ _
      have second : Arranged e₁ e₂ := joined_arranged (adapter_input free _ _ r) rfl _
      exact ⟨((first.trans second).trans (joined_arranged target₂ c.free _)).trans
          (noted_arranged _ _),
        (((insert_scheduled _ _ _ _ _ e).trans (joined_scheduled _ _ _ e₁)).trans
          (joined_scheduled _ _ _ e₂)).noted _⟩
  · rw [connect_refused refused]
    exact ⟨.refl e, .refl e⟩

/-! Starting and stopping. -/

section
variable {e e' : Engine} (same : e'.unstarted = e.unstarted)
include same

theorem unstarted_arranged (cells : ∀ (n : CellId) (c' : Cell Message), e'.cells[n]? = some c' →
    ∃ c, e.cells[n]? = some c ∧ (c' = c ∨ c' = c.close)) : Arranged e e' := by
  have look (e : Engine) : e.unstarted.plugs = e.plugs := by
    simp [plugs, unstarted, Handler.unstarted]
  have count := congrArg (fun e => e.cells.length) same
  simp only [unstarted, List.length_map] at count
  refine .of_plugs ?_ (congrArg Engine.connections same :) (by omega) cells
  rw [← look e', same, look e]

theorem unstarted_scheduled (stays : e.state = .stopped → e'.state = .stopped)
    (history : e'.broadcaster.history = e.broadcaster.history ∨
      (e'.broadcaster.history = .empty ∧ e'.state = .stopped))
    (queues : ∀ b' ∈ e'.broadcaster.channels, b'.queue = [] ∨
      ∃ b ∈ e.broadcaster.channels, b.name = b'.name ∧ b.queue = b'.queue) : Scheduled e e' := by
  have now : e'.now = e.now := (congrArg Engine.now same :)
  refine ⟨by omega, stays, history, ?_, queues⟩
  intro h mem c call
  obtain ⟨g, mg, alike⟩ := mem_of_map_eq (congrArg handlers same :) mem
  have id : g.id = h.id := (congrArg Handler.id alike :)
  have calls : g.call = h.call := (congrArg Handler.call alike :)
  exact ⟨g, mg, id, c, calls.trans call, rfl, rfl⟩

end

structure Shut (e e' : Engine) : Prop where
  cells : ∀ (n : CellId) (c' : Cell Message), e'.cells[n]? = some c' →
    ∃ c, e.cells[n]? = some c ∧ (c' = c ∨ c' = c.close)
  broadcaster : e'.broadcaster = e.broadcaster

theorem Shut.of_same {e e' : Engine} (cells : e'.cells = e.cells)
    (broadcaster : e'.broadcaster = e.broadcaster) : Shut e e' :=
  ⟨fun _ c here => ⟨c, cells ▸ here, .inl rfl⟩, broadcaster⟩

theorem Shut.trans {a b c : Engine} (first : Shut a b) (second : Shut b c) : Shut a c := by
  refine ⟨?_, second.broadcaster.trans first.broadcaster⟩
  intro n z here
  obtain ⟨y, middle, late⟩ := second.cells n z here
  obtain ⟨x, before, early⟩ := first.cells n y middle
  refine ⟨x, before, ?_⟩
  rcases early with rfl | rfl
  · exact late
  · rcases late with rfl | rfl
    · exact .inr rfl
    · exact .inr (close_close x)

theorem setState_shut (id : HandlerId) (s : LifecycleState) (e : Engine) :
    Shut e (e.setState id s) := .of_same rfl rfl

theorem report_shut (notice : Notice) (e : Engine) : Shut e (e.report notice) := .of_same rfl rfl

theorem Called.shut {e e' : Engine} (called : Called e e') : Shut e e' :=
  .of_same called.cells called.broadcaster

theorem closeInputs_shut (id : HandlerId) (e : Engine) : Shut e (e.closeInputs id) := by
  refine ⟨?_, (closeInputs_rest id e).2.2.1⟩
  intro n c here
  rw [closeInputs_cells] at here
  split at here
  · obtain ⟨x, before, rfl⟩ := Option.map_eq_some_iff.mp here
    exact ⟨x, before, .inr rfl⟩
  · exact ⟨c, here, .inl rfl⟩

theorem stopAll_shut (ids : List HandlerId) (e : Engine) : Shut e (e.stopAll ids) :=
  .of_same (stopAll_rest ids e).1 (stopAll_rest ids e).2.1

theorem disable_shut (ids started : List HandlerId) (e : Engine) :
    Shut e (disable ids started e).2 := by
  induction ids generalizing started e with
  | nil => exact .of_same rfl rfl
  | cons id rest ih =>
    simp only [disable]
    split
    · exact ih _ _
    · refine Shut.trans ?_ (ih _ _)
      have closed (e₁ : Engine) : Shut e₁ ((e₁.setState id .failed).closeInputs id) :=
        (setState_shut id .failed e₁).trans (closeInputs_shut id _)
      split
      · exact (callStop_called id e).shut.trans (closed _)
      · exact closed e

theorem startEach_shut (ids started disabled : List HandlerId) (e : Engine) :
    Shut e (startEach ids started disabled e).2.2 := by
  induction ids generalizing started disabled e with
  | nil => exact .of_same rfl rfl
  | cons id rest ih =>
    have called := (callStart_called id e).shut
    simp only [startEach]
    split
    · exact ih _ _ _
    · split
      · rename_i answer
        rw [answer] at called
        exact called.trans ((setState_shut id .started _).trans (ih _ _ _))
      · rename_i cause e₁ answer
        rw [answer] at called
        have failed : Shut e
            (((e₁.report (.startFailed id cause)).setState id .failed).callStop id) :=
          ((called.trans (report_shut _ e₁)).trans (setState_shut id .failed _)).trans
            (callStop_called id _).shut
        split
        · exact (failed.trans (report_shut _ _)).trans (stopAll_shut _ _)
        · exact ((failed.trans (closeInputs_shut id _)).trans (disable_shut _ _ _)).trans
            ((report_shut _ _).trans (ih _ _ _))

end Engine

namespace Hosted

open Engine

theorem finishStop_broadcaster (h : Hosted) : h.finishStop.engine.broadcaster =
    { h.engine.broadcaster with history := .empty } := by
  have one (id : HandlerId) (h : Hosted) :
      ((h.retire id).unname id).engine.broadcaster = h.engine.broadcaster := by
    unfold unname
    split
    · rfl
    · dsimp only
      split
      · rfl
      · split <;> rfl
  have folded (ids : List HandlerId) (h : Hosted) :
      (ids.foldl (fun h id => (h.retire id).unname id) h).engine.broadcaster =
        h.engine.broadcaster := by
    induction ids generalizing h with
    | nil => rfl
    | cons id rest ih => exact (ih _).trans (one id h)
  simp [finishStop, folded]

theorem finishStop_arranged (h : Hosted) : Arranged h.engine h.finishStop.engine ∧
    Scheduled h.engine h.finishStop.engine := by
  have same := finishStop_unstarted h
  have broadcaster := finishStop_broadcaster h
  constructor
  · refine unstarted_arranged same fun n c here => ?_
    rw [(finishStop_rest h).1] at here
    exact ⟨c, here, .inl rfl⟩
  · refine unstarted_scheduled same (fun _ => rfl) (.inr ⟨by rw [broadcaster], rfl⟩) ?_
    intro b mem
    rw [broadcaster] at mem
    exact .inr ⟨b, mem, rfl, rfl⟩

theorem start_arranged (h : Hosted) : Arranged h.engine h.start.2.engine ∧
    Scheduled h.engine h.start.2.engine := by
  by_cases idle : h.engine.state = .idle
  · obtain ⟨notices, warned⟩ := h.engine.warned_notices
    have shut : Shut h.engine (startEach h.engine.ids [] [] h.engine.warned).2.2 := by
      refine Shut.trans (.of_same ?_ ?_) (startEach_shut _ _ _ _) <;> rw [warned]
    have same : (startEach h.engine.ids [] [] h.engine.warned).2.2.unstarted =
        h.engine.unstarted := by
      rw [startEach_unstarted, warned_unstarted]
    cases went : startEach h.engine.ids [] [] h.engine.warned with
    | mk fault reached =>
      obtain ⟨started, e⟩ := reached
      rw [went] at shut same
      have stays : h.engine.state = .stopped → e.state = .stopped := by
        rw [idle]
        intro other
        cases other
      have kept : ∀ b ∈ e.broadcaster.channels, ∃ x ∈ h.engine.broadcaster.channels,
          x.name = b.name ∧ x.queue = b.queue := by
        intro b mem
        rw [shut.broadcaster] at mem
        exact ⟨b, mem, rfl, rfl⟩
      have history : e.broadcaster.history = h.engine.broadcaster.history := by
        rw [shut.broadcaster]
      cases fault with
      | none =>
        rw [start_running idle went]
        refine ⟨unstarted_arranged same shut.cells, unstarted_scheduled same ?_ (.inl ?_) ?_⟩
        · rw [idle]
          intro other
          cases other
        · have subscribed (ids : List HandlerId) (b : TickBroadcaster) :
              (ids.foldl (fun b id => b.subscribe id.text) b).history = b.history := by
            induction ids generalizing b with
            | nil => rfl
            | cons id rest ih => exact ih _
          exact (subscribed started e.broadcaster).trans history
        · intro b mem
          replace mem : b ∈ (e.subscribeAll started).broadcaster.channels := mem
          rw [subscribeAll_channels] at mem
          rcases List.mem_append.mp mem with old | new
          · exact .inr (kept b old)
          · obtain ⟨id, _, rfl⟩ := List.mem_map.mp new
            exact .inl rfl
      | some fault =>
        rw [start_failing idle went]
        have ended := finishStop_arranged { h with engine := e }
        exact ⟨(unstarted_arranged same shut.cells).trans ended.1,
          (unstarted_scheduled same stays (.inl history) fun b mem => .inr (kept b mem)).trans
            ended.2⟩
  · rw [busy_start idle]
    exact ⟨.refl _, .refl _⟩

theorem quiesce_arranged (ids : List HandlerId) (e : Engine) :
    Arranged e (e.quiesce ids) ∧ Scheduled e (e.quiesce ids) := by
  have same := quiesce_unstarted ids e
  have broadcaster : (e.quiesce ids).broadcaster = e.broadcaster.clear := by
    have marked (ids : List HandlerId) (e : Engine) :
        (ids.foldl (fun e id => e.setState id .stopping) e).broadcaster = e.broadcaster := by
      induction ids generalizing e with
      | nil => rfl
      | cons id rest ih => exact ih _
    exact congrArg TickBroadcaster.clear (marked ids e)
  constructor
  · refine unstarted_arranged same fun n c here => ?_
    rw [(quiesce_rest ids e).1] at here
    exact ⟨c, here, .inl rfl⟩
  · refine unstarted_scheduled same (fun stopped => (quiesce_rest ids e).2.2.trans stopped)
      (.inl (by rw [broadcaster]; rfl)) ?_
    intro b mem
    rw [broadcaster] at mem
    obtain ⟨x, mx, rfl⟩ := List.mem_map.mp mem
    exact .inr ⟨x, mx, rfl, rfl⟩

theorem tearDown_arranged (ids : List HandlerId) (h : Hosted) :
    Arranged h.engine (h.tearDown ids).engine ∧ Scheduled h.engine (h.tearDown ids).engine := by
  obtain ⟨notices, busy⟩ := reportBusy_notices ids h.engine
  let e := (h.engine.reportBusy ids).stopAll ids
  have same : e.unstarted = h.engine.unstarted := by
    rw [stopAll_unstarted, reportBusy_unstarted]
  have cells : e.cells = h.engine.cells := by
    rw [(stopAll_rest ids _).1, busy]
  have broadcaster : e.broadcaster = h.engine.broadcaster := by
    rw [(stopAll_rest ids _).2.1, busy]
  have state : e.state = h.engine.state := by
    rw [(stopAll_rest ids _).2.2, busy]
  have ended := finishStop_arranged { h with engine := e }
  refine ⟨(unstarted_arranged same ?_).trans ended.1,
    (unstarted_scheduled same (fun stopped => state.trans stopped)
      (.inl (by rw [broadcaster])) ?_).trans ended.2⟩
  · intro n c here
    exact ⟨c, cells ▸ here, .inl rfl⟩
  · intro b mem
    exact .inr ⟨b, broadcaster ▸ mem, rfl, rfl⟩

theorem command_wired {h h' : Hosted} (w : h.engine.Wired) (c : Command h h') :
    h'.engine.Wired := by
  cases c with
  | add id b => exact step_wired (show Step (fun _ => True) h _ from .add id b) w
  | connect source target => exact w.connect source target
  | connectTexts source target => exact w.connectTexts source target
  | start => exact wired_of_wiring (wiring_of_unstarted h.start_unstarted) w
  | stop => exact wired_of_wiring (wiring_of_unstarted h.stop_unstarted) w
  | quiesce ids => exact wired_of_wiring (wiring_of_unstarted (quiesce_unstarted ids h.engine)) w
  | tearDown ids => exact wired_of_wiring (wiring_of_unstarted (tearDown_unstarted ids h)) w
  | registry r => exact w

theorem command_arranged {h h' : Hosted} (w : h.engine.Wired) (c : Command h h') :
    Arranged h.engine h'.engine ∧ Scheduled h.engine h'.engine := by
  have nothing : Arranged h.engine h.engine ∧ Scheduled h.engine h.engine := ⟨.refl _, .refl _⟩
  cases c with
  | add id b =>
    obtain same | ⟨x, ports, uri, r, _, _, same⟩ := added_cases id b h
    · rw [same]
      exact nothing
    · rw [same]
      exact ⟨insert_arranged _ _ _ _ _ _, insert_scheduled _ _ _ _ _ _⟩
  | connect source target => exact connect_arranged w source target
  | connectTexts source target =>
    simp only [connectTexts, connectTextsInPlace]
    split
    · exact nothing
    · exact nothing
    · exact connect_arranged w _ _
  | start => exact start_arranged h
  | stop rest =>
    cases now : h.engine.state with
    | idle =>
      rw [show h.stop = h.finishStop by simp [stop, now]]
      exact finishStop_arranged h
    | running => exact absurd now rest
    | stopped =>
      rw [show h.stop = h by simp [stop, now]]
      exact nothing
  | quiesce ids => exact quiesce_arranged ids h.engine
  | tearDown ids => exact tearDown_arranged ids h
  | registry r => exact nothing

end Hosted

end Tickflow
