import Tickflow.Proofs.Commands
import Tickflow.Proofs.Discipline
/-!
What a start that succeeds leaves: handlers of which nothing was counted yet, and a channel for each
of those that are active.
-/
namespace Tickflow

namespace Engine

def Uncounted (e : Engine) : Prop := ∀ h ∈ e.handlers, h.stats = ⟨0, 0, none⟩

section
variable {e e' : Engine}

theorem Uncounted.insert (u : e.Uncounted) (id : HandlerId) (b : Behaviour) (isAdapter : Bool)
    (ports : HandlerPorts) (uri : Option ActorUri) :
    (e.insert id b isAdapter ports uri).Uncounted := by
  intro h mem
  rcases List.mem_append.mp mem with old | new
  · exact u h old
  · rw [List.mem_singleton.mp new]

theorem Uncounted.joined (u : e.Uncounted) (source target : PortAddress)
    (policy : ConsumptionPolicy) : (e.joined source target policy).Uncounted := by
  intro h mem
  obtain ⟨g, mg, rfl⟩ := List.mem_map.mp mem
  exact u g mg

theorem Uncounted.connect (u : e.Uncounted) (w : e.Wired) (source target : PortAddress) :
    (e.connectInPlace source target).2.Uncounted := by
  rcases connectable_or_refused source target e with ⟨q, p, c⟩ | ⟨f, refused⟩
  · cases common : q.spec.capabilities.intersects p.spec.capabilities with
    | true =>
      rw [connect_direct w.distinct w.capacity c common]
      exact u.joined source target (e.policyOf p.spec)
    | false =>
      obtain ⟨r, _, a, _, _, _, made⟩ := connect_bridged w.distinct w.capacity c common
      rw [made]
      exact ((u.insert a (r.adapter p.spec.kind e.settings.devicePoolId) true
        (r.ports a p.spec.kind) none).joined source ⟨a, Route.inputPort⟩
        (e.policyOf p.spec)).joined ⟨a, Route.outputPort⟩ target (e.policyOf p.spec)
  · rw [connect_refused refused]
    exact u

theorem Uncounted.connectTexts (u : e.Uncounted) (w : e.Wired) (source target : String) :
    (e.connectTextsInPlace source target).2.Uncounted := by
  unfold connectTextsInPlace
  split
  · exact u
  · exact u
  · exact u.connect w _ _

theorem Uncounted.like (u : e.Uncounted) (same : ∀ h ∈ e'.handlers, ∃ g ∈ e.handlers,
    g.stats = h.stats) : e'.Uncounted := by
  intro h mem
  obtain ⟨g, mg, stats⟩ := same h mem
  rw [← stats]
  exact u g mg

theorem Acts.uncounted (acts : Acts e e') (u : e.Uncounted) : e'.Uncounted := by
  refine u.like fun h mem => ?_
  obtain ⟨g, mg, same⟩ := mem_of_map_eq (congrArg handlers acts.unacted :) mem
  exact ⟨g, mg, (congrArg Handler.stats same :)⟩

theorem Uncounted.work (u : e.Uncounted) (before : e.Untouched) (d : e.Distinct)
    (idle : e.state = .idle) (w : Work e e') : e'.Uncounted := by
  cases w with
  | issue _ _ _ running =>
    rw [idle] at running
    cases running
  | begin id =>
    have silent : e.broadcaster.channel? id.text = none := by
      simp [TickBroadcaster.channel?, before.unheard]
    simp only [beginCall, silent, Option.bind_none]
    exact u
  | advance id c current =>
    obtain ⟨h, found, call⟩ := openCall_held current
    rw [before.quiet h (mem_of_handler found).1] at call
    cases call
  | resume id =>
    refine u.like fun h mem => ?_
    obtain ⟨g, mg, rfl⟩ := List.mem_map.mp mem
    exact ⟨g, mg, by split <;> rfl⟩
  | write id port m => exact (writePort_acts d id port m).uncounted u
  | read id port cutoff => exact (readPort_acts id port cutoff e).uncounted u

end

end Engine

namespace Hosted

open Engine

theorem reachable_uncounted {within : Engine → Prop} {h : Hosted} (reach : Reachable within h)
    (idle : h.engine.state = .idle) : h.engine.Uncounted := by
  induction reach with
  | fresh made r =>
    obtain ⟨_, _, rfl⟩ := make_blank made
    intro h mem
    cases mem
  | @next h h' run step ih =>
    have w := reachable_wired run
    cases step with
    | add id b =>
      obtain same | ⟨x, ports, uri, r, before, _, same⟩ := added_cases id b h
      · rw [same] at idle ⊢
        exact ih idle
      · rw [same]
        exact (ih before).insert x b false ports uri
    | connect source target =>
      have before : h.engine.state = .idle := w.connect_state source target ▸ idle
      exact (ih before).connect w source target
    | connectTexts source target =>
      have before : h.engine.state = .idle := w.connectTexts_state source target ▸ idle
      exact (ih before).connectTexts w source target
    | start => exact absurd idle h.start_not_idle
    | work step =>
      have before : h.engine.state = .idle := (work_worked w.distinct step).state ▸ idle
      exact (ih before).work (reachable_untouched run before) w.distinct before step
    | stopIdle => exact absurd idle h.stop_not_idle
    | stop => cases idle
    | registry r => exact ih idle

theorem start_idle {h : Hosted} (ok : h.start.1 = .ok ()) : h.engine.state = .idle := by
  cases state : h.engine.state with
  | idle => rfl
  | running => simp [start, state] at ok
  | stopped => simp [start, state] at ok

theorem start_active {within : Engine → Prop} {h : Hosted} (reach : Reachable within h)
    (ok : h.start.1 = .ok ()) :
    h.start.2.engine.broadcaster.channels =
        h.start.2.engine.activeIds.map (fun id => .opened id.text) ∧
      ∀ x ∈ h.start.2.engine.handlers, x.state.isActive = true → x.state = .started := by
  have idle := start_idle ok
  have u := reachable_untouched reach idle
  cases policy : h.engine.settings.startPolicy with
  | isolate =>
    obtain ⟨started, disabled, e, same, b⟩ := start_isolating reach idle policy
    have i := begun_isolated reach idle (by rw [same]) b
    rw [same]
    refine ⟨i.subscribed, fun x mem active => ?_⟩
    rcases b.fate mem with ⟨_, state, _⟩ | ⟨_, state, _⟩
    · rw [state] at active
      cases active
    · exact state
  | rollback =>
    obtain ⟨notices, rest⟩ := h.engine.warned_notices
    have shut := (startEach_shut h.engine.ids [] [] h.engine.warned).broadcaster
    rcases startEach_rolling h.engine.ids [] (e := h.engine.warned) (by rw [rest, policy])
        (unstarted_quiet h.engine.warned_unstarted u.quiet) (fun id mem => by rwa [warned_ids])
        (fun _ mem => absurd mem List.not_mem_nil)
      with ⟨_, e, went, a⟩ | ⟨_, _, _, _, _, _, _, _, went, _⟩
    · rw [went, rest] at shut
      have handlers := a.handlers
      rw [rest] at handlers
      have ids : (h.running h.engine.ids e).engine.ids = h.engine.ids :=
        (unstarted_ids a.same).trans h.engine.warned_ids
      have all : ∀ x ∈ (h.running h.engine.ids e).engine.handlers, x.state = .started := by
        intro x mem
        rw [show (h.running h.engine.ids e).engine.handlers = _ from handlers] at mem
        obtain ⟨g, mg, rfl⟩ := List.mem_map.mp mem
        have known : g.id ∈ h.engine.ids := List.mem_map_of_mem mg
        rw [Handler.marked, if_pos known]
      have active : (h.running h.engine.ids e).engine.activeIds = h.engine.ids := by
        rw [← ids]
        refine congrArg (List.map _) (List.filter_eq_self.mpr fun x mem => ?_)
        rw [all x mem]
        rfl
      rw [start_running idle went]
      refine ⟨?_, fun x mem _ => all x mem⟩
      refine (subscribeAll_channels h.engine.ids e).trans ?_
      rw [shut, u.unheard]
      exact congrArg (List.map _) active.symm
    · rw [start_failing idle went] at ok
      cases ok

end Hosted

end Tickflow
