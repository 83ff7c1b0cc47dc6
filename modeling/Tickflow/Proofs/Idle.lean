import Tickflow.Proofs.CallLog
import Tickflow.Proofs.Wiring
/-!
An engine that is idle: nothing in it was touched yet, and only now it takes handlers and
connections.
-/
namespace Tickflow

namespace Engine

structure Untouched (e : Engine) : Prop where
  created : ∀ h ∈ e.handlers, h.state = .created
  quiet : e.Quiet
  silent : e.journal = []
  unheard : e.broadcaster.channels = []
  opened : ∀ c ∈ e.cells, c.closed = false

theorem Untouched.uncalled {e : Engine} (u : e.Untouched) (id : HandlerId) : e.callsOf id = [] := by
  simp [callsOf, calls, u.silent]

theorem blank_untouched (key : Nat) (settings : Settings) (portRange : Option PortRange) :
    (blank key settings portRange).Untouched := by
  refine ⟨?_, ?_, rfl, rfl, ?_⟩ <;> simp [blank, Quiet]

theorem Untouched.insert {e : Engine} (u : e.Untouched) (id : HandlerId) (b : Behaviour)
    (isAdapter : Bool) (ports : HandlerPorts) (uri : Option ActorUri) :
    (e.insert id b isAdapter ports uri).Untouched := by
  refine ⟨?_, ?_, u.silent, u.unheard, u.opened⟩
  · intro h mem
    rcases List.mem_append.mp mem with old | new
    · exact u.created h old
    · rw [List.mem_singleton.mp new]
  · intro h mem
    rcases List.mem_append.mp mem with old | new
    · exact u.quiet h old
    · rw [List.mem_singleton.mp new]

theorem Untouched.joined {e : Engine} (u : e.Untouched) (source target : PortAddress)
    (policy : ConsumptionPolicy) : (e.joined source target policy).Untouched := by
  refine ⟨?_, ?_, u.silent, u.unheard, ?_⟩
  · intro h mem
    obtain ⟨g, mg, rfl⟩ := List.mem_map.mp mem
    exact u.created g mg
  · intro h mem
    obtain ⟨g, mg, rfl⟩ := List.mem_map.mp mem
    exact u.quiet g mg
  · intro c mem
    rcases List.mem_append.mp mem with old | new
    · exact u.opened c old
    · rw [List.mem_singleton.mp new]
      rfl

theorem Untouched.connect {e : Engine} (u : e.Untouched) (w : e.Wired)
    (source target : PortAddress) : (e.connectInPlace source target).2.Untouched := by
  rcases connectable_or_refused source target e with ⟨q, p, c⟩ | ⟨f, refused⟩
  · cases common : q.spec.capabilities.intersects p.spec.capabilities with
    | true =>
      have joined := u.joined source target (e.policyOf p.spec)
      rw [connect_direct w.distinct w.capacity c common]
      exact ⟨joined.created, joined.quiet, joined.silent, joined.unheard, joined.opened⟩
    | false =>
      obtain ⟨r, _, a, _, _, _, made⟩ := connect_bridged w.distinct w.capacity c common
      have joined := ((u.insert a (r.adapter p.spec.kind e.settings.devicePoolId) true
        (r.ports a p.spec.kind) none).joined source ⟨a, Route.inputPort⟩
        (e.policyOf p.spec)).joined ⟨a, Route.outputPort⟩ target (e.policyOf p.spec)
      rw [made]
      exact ⟨joined.created, joined.quiet, joined.silent, joined.unheard, joined.opened⟩
  · rw [connect_refused refused]
    exact u

theorem Untouched.connectTexts {e : Engine} (u : e.Untouched) (w : e.Wired)
    (source target : String) : (e.connectTextsInPlace source target).2.Untouched := by
  unfold connectTextsInPlace
  split
  · exact u
  · exact u
  · exact u.connect w _ _

theorem Acts.untouched {e e' : Engine} (acts : Acts e e') (u : e.Untouched) : e'.Untouched := by
  have alike {h : Handler} (mem : h ∈ e'.handlers) : ∃ g ∈ e.handlers, g.unacted = h.unacted :=
    mem_of_map_eq (congrArg handlers acts.unacted :) mem
  refine ⟨?_, ?_, (congrArg journal acts.unacted :).trans u.silent,
    (congrArg (·.broadcaster.channels) acts.unacted :).trans u.unheard, ?_⟩
  · intro h mem
    obtain ⟨g, mg, same⟩ := alike mem
    rw [← show g.state = h.state from (congrArg Handler.state same :)]
    exact u.created g mg
  · intro h mem
    obtain ⟨g, mg, same⟩ := alike mem
    rw [← show g.call = h.call from (congrArg Handler.call same :)]
    exact u.quiet g mg
  · intro c mem
    obtain ⟨d, md, same⟩ := mem_of_map_eq (congrArg cells acts.unacted :) mem
    rw [← show d.closed = c.closed from (congrArg Cell.closed same :)]
    exact u.opened d md

theorem Untouched.work {e e' : Engine} (u : e.Untouched) (d : e.Distinct) (idle : e.state = .idle)
    (w : Work e e') : e'.Untouched := by
  cases w with
  | issue _ _ _ running =>
    rw [idle] at running
    cases running
  | begin id =>
    have silent : e.broadcaster.channel? id.text = none := by
      simp [TickBroadcaster.channel?, u.unheard]
    simp only [beginCall, silent, Option.bind_none]
    exact u
  | advance id c current =>
    obtain ⟨h, found, call⟩ := openCall_held current
    rw [u.quiet h (mem_of_handler found).1] at call
    cases call
  | resume id =>
    refine ⟨?_, ?_, u.silent, u.unheard, u.opened⟩
    · intro h mem
      obtain ⟨g, mg, rfl⟩ := List.mem_map.mp mem
      split <;> exact u.created g mg
    · intro h mem
      obtain ⟨g, mg, rfl⟩ := List.mem_map.mp mem
      split <;> simp [u.quiet g mg]
  | write id port m => exact (writePort_acts d id port m).untouched u
  | read id port cutoff => exact (readPort_acts id port cutoff e).untouched u

end Engine

namespace Hosted

open Engine

theorem finishStop_state (h : Hosted) : h.finishStop.engine.state = .stopped := rfl

theorem start_not_idle (h : Hosted) : h.start.2.engine.state ≠ .idle := by
  unfold start
  split
  · rename_i now
    rw [now]
    intro other
    cases other
  · rename_i now
    rw [now]
    intro other
    cases other
  · dsimp only
    split
    · intro other
      cases other
    · intro other
      cases other

theorem stop_not_idle (h : Hosted) : h.stop.engine.state ≠ .idle := by
  unfold stop
  split
  · rename_i now
    rw [now]
    intro other
    cases other
  · intro other
    cases other
  · intro other
    cases other

theorem reachable_untouched {within : Engine → Prop} {h : Hosted} (reach : Reachable within h)
    (idle : h.engine.state = .idle) : h.engine.Untouched := by
  induction reach with
  | fresh made r =>
    obtain ⟨_, _, rfl⟩ := make_blank made
    exact blank_untouched _ _ _
  | @next h h' run step ih =>
    have w := reachable_wired run
    cases step with
    | add id b =>
      obtain same | ⟨x, ports, uri, r, before, _, same⟩ := added_cases id b h
      · rw [same] at idle ⊢
        exact ih idle
      · rw [same]
        exact (ih before).insert x b false ports uri
    | connect source target =>
      have before : h.engine.state = .idle := w.connect_state source target ▸ idle
      exact (ih before).connect w source target
    | connectTexts source target =>
      have before : h.engine.state = .idle := w.connectTexts_state source target ▸ idle
      exact (ih before).connectTexts w source target
    | start => exact absurd idle h.start_not_idle
    | work step =>
      have before : h.engine.state = .idle := (work_worked w.distinct step).state ▸ idle
      exact (ih before).work w.distinct before step
    | stopIdle => exact absurd idle h.stop_not_idle
    | stop => cases idle
    | registry r => exact ih idle

theorem busy_fails {e : Engine} (busy : e.state ≠ .idle) (action : String) :
    ∃ f, e.ensureIdle action = .error f := by
  unfold ensureIdle
  cases now : e.state with
  | idle => exact absurd now busy
  | running => exact ⟨_, rfl⟩
  | stopped => exact ⟨_, rfl⟩

theorem busy_added {h : Hosted} (busy : h.engine.state ≠ .idle) (id : Option String)
    (b : Behaviour) : h.added id b = h := by
  obtain same | ⟨_, _, _, _, idle, _⟩ := added_cases id b h
  · exact same
  · exact absurd idle busy

theorem busy_connect {e : Engine} (busy : e.state ≠ .idle) (source target : PortAddress) :
    (e.connectInPlace source target).2 = e := by
  obtain ⟨f, error⟩ := busy_fails busy "connect ports"
  simp [connectInPlace, error]

theorem busy_connectTexts {e : Engine} (busy : e.state ≠ .idle) (source target : String) :
    (e.connectTextsInPlace source target).2 = e := by
  unfold connectTextsInPlace
  split
  · rfl
  · rfl
  · exact busy_connect busy _ _

theorem busy_start {h : Hosted} (busy : h.engine.state ≠ .idle) : h.start.2 = h := by
  unfold start
  cases now : h.engine.state with
  | idle => exact absurd now busy
  | running => rfl
  | stopped => rfl

end Hosted

end Tickflow
