import Tickflow.Proofs.Isolate
import Tickflow.Proofs.Rollback
/-!
Which calls a handler receives, and in what order. How a handler stands ties its lifecycle state to
the calls that it received so far; every operation keeps that tie, whatever calls fail.
-/
namespace Tickflow

def LifecycleState.atWork (s : LifecycleState) : Prop :=
  s = .started ∨ s = .running ∨ s = .stopping

/-- State, call under way and calls received of a handler; `starts` says that its start succeeds. -/
inductive Standing (starts : Prop) : LifecycleState → Option Call → List CallKind → Prop where
  | created : Standing starts .created none []
  | working {s : LifecycleState} (now : s.atWork) (ok : starts) (n : Nat) (c : Option Call) :
      Standing starts s c (.start :: List.replicate n .process)
  | unused : Standing starts .stopped none []
  | stopped (ok : starts) (n : Nat) :
      Standing starts .stopped none (.start :: (List.replicate n .process ++ [.stop]))
  | skipped : Standing starts .failed none []
  | failed : Standing starts .failed none [.start, .stop]

/-- A start, then calls to process if it succeeded, then a stop; or only the first part of that. -/
def Disciplined (starts : Prop) (calls : List CallKind) : Prop :=
  calls = [] ∨ ∃ n, (n ≠ 0 → starts) ∧ (calls = .start :: List.replicate n .process ∨
    calls = .start :: (List.replicate n .process ++ [.stop]))

namespace Standing

variable {starts : Prop} {s : LifecycleState} {c : Option Call} {calls : List CallKind}

theorem in_call {k : Call} (st : Standing starts s (some k) calls) : s.atWork := by
  cases st with
  | working now => exact now

theorem at_work (st : Standing starts s c calls) (now : s.atWork) :
    starts ∧ ∃ n, calls = .start :: List.replicate n .process := by
  cases st with
  | working _ ok n => exact ⟨ok, n, rfl⟩
  | created => obtain other | other | other := now <;> cases other
  | unused => obtain other | other | other := now <;> cases other
  | stopped => obtain other | other | other := now <;> cases other
  | skipped => obtain other | other | other := now <;> cases other
  | failed => obtain other | other | other := now <;> cases other

theorem recalled (st : Standing starts s c calls) (now : s.atWork) (c' : Option Call) :
    Standing starts s c' calls := by
  obtain ⟨ok, n, rfl⟩ := st.at_work now
  exact .working now ok n c'

theorem processed (st : Standing starts s c calls) (now : s.atWork) :
    Standing starts (if s = .started then .running else s) none (calls ++ [.process]) := by
  obtain ⟨ok, n, rfl⟩ := st.at_work now
  have more : (.start :: List.replicate n .process) ++ [.process] =
      CallKind.start :: List.replicate (n + 1) .process := by
    rw [List.replicate_succ']
    rfl
  rw [more]
  refine .working ?_ ok (n + 1) none
  split
  · exact .inr (.inl rfl)
  · exact now

theorem stop (st : Standing starts s c calls) (now : s.atWork) :
    Standing starts .stopped none (calls ++ [.stop]) := by
  obtain ⟨ok, n, rfl⟩ := st.at_work now
  exact .stopped ok n

theorem disciplined (st : Standing starts s c calls) : Disciplined starts calls := by
  cases st with
  | created => exact .inl rfl
  | working _ ok n => exact .inr ⟨n, fun _ => ok, .inl rfl⟩
  | unused => exact .inl rfl
  | stopped ok n => exact .inr ⟨n, fun _ => ok, .inr rfl⟩
  | skipped => exact .inl rfl
  | failed => exact .inr ⟨0, fun other => absurd rfl other, .inr rfl⟩

theorem ended (st : Standing starts s c calls) (settled : s = .stopped ∨ s = .failed) :
    c = none ∧ (.stop ∈ calls ↔ .start ∈ calls) := by
  cases st with
  | created => rcases settled with other | other <;> cases other
  | working now =>
    rcases settled with rfl | rfl
    · obtain other | other | other := now <;> cases other
    · obtain other | other | other := now <;> cases other
  | unused => simp
  | stopped => simp
  | skipped => simp
  | failed => simp

end Standing

def EngineState.Suits (s : EngineState) (l : LifecycleState) : Prop :=
  match s with
  | .idle => l = .created
  | .running => l = .started ∨ l = .running ∨ l = .failed
  | .stopped => l = .stopped ∨ l = .failed

theorem suits_begun (s : EngineState) (l : LifecycleState) : s.Suits l.begun ↔ s.Suits l := by
  cases s <;> cases l <;> simp [EngineState.Suits, LifecycleState.begun]

namespace Engine

def Stands (e : Engine) (x : Handler) : Prop :=
  Standing (x.behaviour.onStart = none) x.state x.call (e.callsOf x.id)

structure Orderly (e : Engine) : Prop where
  stands : ∀ x ∈ e.handlers, e.Stands x
  suits : ∀ x ∈ e.handlers, e.state.Suits x.state

theorem Untouched.orderly {e : Engine} (u : e.Untouched) (idle : e.state = .idle) : e.Orderly := by
  constructor
  · intro x mem
    rw [Stands, u.created x mem, u.quiet x mem, u.uncalled]
    exact .created
  · intro x mem
    rw [idle]
    exact u.created x mem

/-! Work. -/

section
variable {e e' : Engine} (each : ∀ x ∈ e.handlers, e.Stands x)
include each

theorem Acts.stands (acts : Acts e e') : ∀ x ∈ e'.handlers, e'.Stands x := by
  intro x mem
  obtain ⟨g, mg, same⟩ := mem_of_map_eq (congrArg handlers acts.unacted :) mem
  have journal : e'.journal = e.journal := (congrArg Engine.journal acts.unacted :)
  have st := each g mg
  rw [Stands, show g.behaviour = x.behaviour from (congrArg Handler.behaviour same :),
    show g.state = x.state from (congrArg Handler.state same :),
    show g.call = x.call from (congrArg Handler.call same :),
    show g.id = x.id from (congrArg Handler.id same :)] at st
  rw [Stands, callsOf, calls, journal]
  exact st

theorem setCall_stands {id : HandlerId} (c : Call)
    (busy : ∀ x ∈ e.handlers, x.id = id → x.state.atWork) :
    ∀ x ∈ (e.setCall id c).handlers, (e.setCall id c).Stands x := by
  intro x mem
  obtain ⟨g, mg, rfl⟩ := List.mem_map.mp mem
  split
  · rename_i here
    exact (each g mg).recalled (busy g mg here) (some c)
  · exact each g mg

theorem finish_stands {id : HandlerId} (c : Call) (how : Option Failure)
    (busy : ∀ x ∈ e.handlers, x.id = id → x.state.atWork) :
    ∀ x ∈ (e.finish id c how).handlers, (e.finish id c how).Stands x := by
  have calls : (e.finish id c how).calls = e.calls ++ [(id, .process)] := by
    cases how <;> exact calls_record _ _ _
  intro x mem
  rw [finish_handlers] at mem
  obtain ⟨g, mg, rfl⟩ := List.mem_map.mp mem
  unfold changed
  split
  · rename_i here
    have st := (each g mg).processed (busy g mg here)
    rw [Stands, callsOf_append calls]
    simpa [here, Handler.finished] using st
  · rename_i other
    have st := each g mg
    rw [Stands] at st
    rw [Stands, callsOf_append calls]
    simpa [Ne.symm other] using st

theorem work_stands (d : e.Distinct) (w : Work e e') : ∀ x ∈ e'.handlers, e'.Stands x := by
  cases w with
  | issue => exact each
  | begin id free =>
    unfold beginCall
    split
    · exact each
    · rename_i tick channel _
      dsimp only
      split
      · exact each
      · rename_i h found
        split
        · rename_i active
          refine setCall_stands (e := { e with broadcaster := _, now := _ }) each _ ?_
          intro x mem here
          have same : x = h := handler_unique d.ids mem (mem_of_handler found).1
            (here.trans (mem_of_handler found).2.symm)
          subst x
          change h.state.atWork
          cases state : h.state <;> simp [state, LifecycleState.isActive] at active
          · exact .inl rfl
          · exact .inr (.inl rfl)
        · exact each
  | advance id c current =>
    obtain ⟨h, found, call⟩ := openCall_held current
    obtain ⟨e₁, c', acts, _, _, after⟩ := advance_cases d id c
    have stands₁ := acts.stands each
    have busy : ∀ x ∈ e₁.handlers, x.id = id → x.state.atWork := by
      intro x mem here
      obtain ⟨g, mg, same⟩ := mem_of_map_eq (congrArg handlers acts.unacted :) mem
      have id_eq : g.id = x.id := (congrArg Handler.id same :)
      have state : g.state = x.state := (congrArg Handler.state same :)
      have known : g = h := handler_unique d.ids mg (mem_of_handler found).1
        ((id_eq.trans here).trans (mem_of_handler found).2.symm)
      have st := each g mg
      rw [Stands, known, call] at st
      rw [← state, known]
      exact st.in_call
    rcases after with ⟨go, _⟩ | ⟨how, ends⟩
    · rw [go]
      exact setCall_stands stands₁ c' busy
    · rw [ends]
      exact finish_stands stands₁ c' how busy
  | resume id =>
    intro x mem
    obtain ⟨g, mg, rfl⟩ := List.mem_map.mp mem
    split
    · have st := each g mg
      cases call : g.call with
      | none =>
        rw [Stands, call] at st
        change Standing _ g.state (g.call.map _) (e.callsOf g.id)
        rw [call]
        exact st
      | some c =>
        rw [Stands, call] at st
        exact st.recalled st.in_call _
    · exact each g mg
  | write id port m => exact (writePort_acts d id port m).stands each
  | read id port cutoff => exact (readPort_acts id port cutoff e).stands each

theorem works_stands (d : e.Distinct) (w : Works e e') : ∀ x ∈ e'.handlers, e'.Stands x := by
  induction w with
  | refl => exact each
  | tail before step ih =>
    exact work_stands ih ((works_worked d before).distinct d) step

end

theorem Worked.handler {e e' : Engine} (worked : Worked e e') {x : Handler}
    (mem : x ∈ e'.handlers) :
    ∃ g ∈ e.handlers, g.id = x.id ∧ g.state.begun = x.state.begun := by
  obtain ⟨g, mg, same⟩ := mem_of_map_eq (congrArg handlers worked.unworked :) mem
  exact ⟨g, mg, (congrArg Handler.id same :), (congrArg Handler.state same :)⟩

theorem Worked.suits {e e' : Engine} (worked : Worked e e')
    (each : ∀ x ∈ e.handlers, e.state.Suits x.state) :
    ∀ x ∈ e'.handlers, e'.state.Suits x.state := by
  intro x mem
  obtain ⟨g, mg, _, begun⟩ := worked.handler mem
  rw [worked.state, ← suits_begun, ← begun, suits_begun]
  exact each g mg

theorem Orderly.work {e e' : Engine} (o : e.Orderly) (d : e.Distinct) (w : Work e e') :
    e'.Orderly :=
  ⟨work_stands o.stands d w, (work_worked d w).suits o.suits⟩

theorem calls_once {ids : List HandlerId} (distinct : ids.Nodup) (kind : CallKind) (x : HandlerId) :
    (((ids.map fun id => (id, kind)).filter (·.1 = x)).map (·.2)) =
      if x ∈ ids then [kind] else [] := by
  induction ids with
  | nil => rfl
  | cons id rest ih =>
    rw [List.nodup_cons] at distinct
    have later := ih distinct.2
    by_cases here : id = x
    · subst id
      rw [if_neg distinct.1] at later
      simp [later]
    · simp only [List.map_cons, List.mem_cons, Ne.symm here, false_or]
      rw [List.filter_cons_of_neg (by simpa using here), later]

end Engine

namespace Hosted

open Engine

theorem finishStop_orderly {h : Hosted} (each : ∀ x ∈ h.engine.handlers,
    Standing (x.behaviour.onStart = none) x.retired.state x.call (h.engine.callsOf x.id)) :
    h.finishStop.engine.Orderly := by
  have calls := (finishStop_rest h).2
  have likeness {x : Handler} (mem : x ∈ h.finishStop.engine.handlers) :
      ∃ g ∈ h.engine.handlers, g.retired = x.unnamed :=
    mem_of_map_eq (finishStop_handlers h) mem
  constructor
  · intro x mem
    obtain ⟨g, mg, same⟩ := likeness mem
    have st := each g mg
    rw [show g.behaviour = x.behaviour from (congrArg Handler.behaviour same :),
      show g.retired.state = x.state from (congrArg Handler.state same :),
      show g.call = x.call from (congrArg Handler.call same :),
      show g.id = x.id from (congrArg Handler.id same :)] at st
    rw [Stands, callsOf, calls]
    exact st
  · intro x mem
    obtain ⟨g, _, same⟩ := likeness mem
    rw [← show g.retired.state = x.state from (congrArg Handler.state same :)]
    by_cases failed : g.state = .failed
    · exact .inr (by simp [Handler.retired, failed])
    · exact .inl (by simp [Handler.retired, failed])

theorem stopIdle_orderly {h : Hosted} (u : h.engine.Untouched) : h.finishStop.engine.Orderly := by
  apply finishStop_orderly
  intro x mem
  rw [u.quiet x mem, u.uncalled]
  simp only [Handler.retired, u.created x mem]
  exact .unused

theorem start_rolling {h : Hosted} (u : h.engine.Untouched) (idle : h.engine.state = .idle)
    (rollback : h.engine.settings.startPolicy = .rollback) :
    ((∀ id ∈ h.engine.ids, ¬ h.engine.FailsStart id) ∧ ∃ e',
      h.start = (.ok (), h.running h.engine.ids e') ∧ AllStarted h.engine.ids h.engine e') ∨
    ∃ before k after cause e', h.engine.ids = before ++ k :: after ∧
      (∀ id ∈ before, ¬ h.engine.FailsStart id) ∧ h.engine.FailsStart k ∧
      h.start =
        (.error (.startFailed k.text cause), ({ h with engine := e' } : Hosted).finishStop) ∧
      RolledBack [] before k h.engine e' := by
  obtain ⟨notices, rest⟩ := h.engine.warned_notices
  have same := h.engine.warned_unstarted
  have policy : h.engine.warned.settings.startPolicy = .rollback := by
    rw [rest, rollback]
  have there : ∀ id ∈ h.engine.ids, id ∈ h.engine.warned.ids := by
    intro id mem
    rwa [warned_ids]
  rcases startEach_rolling h.engine.ids [] policy (unstarted_quiet same u.quiet) there
      (fun _ mem => absurd mem List.not_mem_nil)
    with ⟨all, e', went, a⟩ | ⟨before, k, after, cause, e', parts, all, fails, went, r⟩
  · refine .inl ⟨?_, e', start_running idle went, a.same.trans same, ?_, ?_⟩
    · intro id mem
      rw [← fails_of_unstarted same]
      exact all id mem
    · rw [a.calls, rest]
      rfl
    · rw [a.handlers, rest]
  · refine .inr ⟨before, k, after, cause, e', parts, ?_, (fails_of_unstarted same k).mp fails,
      start_failing idle went, r.same.trans same, ?_, ?_⟩
    · intro id mem
      rw [← fails_of_unstarted same]
      exact all id mem
    · rw [r.calls, rest]
      rfl
    · rw [r.handlers, rest]

theorem running_orderly {h : Hosted} {started : List HandlerId} {e : Engine}
    (each : ∀ x ∈ e.handlers, e.Stands x ∧ (x.state = .started ∨ x.state = .failed)) :
    (h.running started e).engine.Orderly := by
  refine ⟨fun x mem => (each x mem).1, fun x mem => ?_⟩
  rcases (each x mem).2 with state | state
  · exact .inl state
  · exact .inr (.inr state)

theorem all_started_orderly {h : Hosted} (w : h.engine.Wired) (u : h.engine.Untouched)
    (all : ∀ id ∈ h.engine.ids, ¬ h.engine.FailsStart id) {started : List HandlerId} {e : Engine}
    (a : AllStarted h.engine.ids h.engine e) : (h.running started e).engine.Orderly := by
  apply running_orderly
  intro x mem
  rw [a.handlers] at mem
  obtain ⟨g, mg, rfl⟩ := List.mem_map.mp mem
  have known : g.id ∈ h.engine.ids := List.mem_map_of_mem mg
  have marked : g.marked h.engine.ids .started = { g with state := .started } := if_pos known
  have starts : g.behaviour.onStart = none := by
    have harmless := all g.id known
    rwa [unstarted_fails rfl (handler_of_mem w.distinct.ids mg), not_not] at harmless
  have once : e.callsOf g.id = [.start] := by
    rw [callsOf_append a.calls, calls_once w.distinct.ids, if_pos known, u.uncalled]
    rfl
  rw [marked]
  refine ⟨?_, .inl rfl⟩
  rw [Stands, once]
  exact .working (.inl rfl) starts 0 g.call

theorem rolled_back_orderly {h : Hosted} (w : h.engine.Wired) (u : h.engine.Untouched)
    {before after : List HandlerId} {k : HandlerId} (parts : h.engine.ids = before ++ k :: after)
    (all : ∀ id ∈ before, ¬ h.engine.FailsStart id) {e : Engine}
    (r : RolledBack [] before k h.engine e) :
    ({ h with engine := e } : Hosted).finishStop.engine.Orderly := by
  have distinct : (before ++ [k]).Nodup := by
    have nodup := w.distinct.ids
    rw [parts, ← List.singleton_append, ← List.append_assoc] at nodup
    exact (List.nodup_append.mp nodup).1
  have fresh : k ∉ before := by
    intro mem
    exact (List.nodup_append.mp distinct).2.2 k mem k List.mem_cons_self rfl
  have calls (x : HandlerId) : e.callsOf x = if x ∈ before ++ [k] then [.start, .stop] else [] := by
    rw [callsOf_append r.calls, List.filter_append, List.map_append, List.nil_append,
      calls_once distinct, calls_once (List.nodup_reverse.mpr distinct), u.uncalled]
    by_cases mem : x ∈ before ++ [k]
    · rw [if_pos mem, if_pos (List.mem_reverse.mpr mem), if_pos mem]
      rfl
    · rw [if_neg mem, if_neg (mt List.mem_reverse.mp mem), if_neg mem]
      rfl
  apply finishStop_orderly
  intro x mem
  rw [show ({ h with engine := e } : Hosted).engine.handlers = _ from r.handlers] at mem
  obtain ⟨g, mg, rfl⟩ := List.mem_map.mp mem
  by_cases here : g.id = k
  · have last : ((g.marked before .started).marked [k] .failed).marked ([] ++ before) .stopped =
        { g with state := .failed } := by
      simp [Handler.marked, here, fresh]
    rw [last]
    change Standing _ .failed g.call (e.callsOf g.id)
    rw [calls, if_pos (by simp [here]), u.quiet g mg]
    exact .failed
  · by_cases early : g.id ∈ before
    · have stopped : ((g.marked before .started).marked [k] .failed).marked
          ([] ++ before) .stopped = { g with state := .stopped } := by
        simp [Handler.marked, here, early]
      have starts : g.behaviour.onStart = none := by
        have harmless := all g.id early
        rwa [unstarted_fails rfl (handler_of_mem w.distinct.ids mg), not_not] at harmless
      rw [stopped]
      change Standing _ .stopped g.call (e.callsOf g.id)
      rw [calls, if_pos (List.mem_append_left _ early), u.quiet g mg]
      exact .stopped starts 0
    · have waiting : ((g.marked before .started).marked [k] .failed).marked
          ([] ++ before) .stopped = g := by
        simp [Handler.marked, here, early]
      have silent : e.callsOf g.id = [] := by
        rw [calls, if_neg (by simp [here, early])]
      rw [waiting, silent]
      simp only [Handler.retired, u.created g mg, u.quiet g mg]
      exact .unused

theorem isolated_orderly {h : Hosted} (u : h.engine.Untouched) {started disabled : List HandlerId}
    {e : Engine} (b : Begun h.engine h.engine.ids started disabled e)
    (distinct : h.engine.ids.Nodup) : (h.running started e).engine.Orderly := by
  have ids : e.ids = h.engine.ids := unstarted_ids b.same
  apply running_orderly
  intro x mem
  have known : x.id ∈ h.engine.ids := ids ▸ List.mem_map_of_mem mem
  have quiet := unstarted_quiet b.same u.quiet x mem
  rcases b.fate mem with ⟨cut, state, _⟩ | ⟨uncut, state, _⟩
  · refine ⟨?_, .inr state⟩
    rw [Stands, state, quiet]
    by_cases tried : h.engine.Tried h.engine.ids x.id
    · rw [b.stopped x.id tried cut]
      exact .failed
    · rw [b.untried x.id tried]
      exact .skipped
  · have starts : x.behaviour.onStart = none := by
      have found := handler_of_mem (ids ▸ distinct) mem
      by_contra fails
      exact uncut ⟨x.id, known, (unstarted_fails b.same found).mpr fails, .refl⟩
    refine ⟨?_, .inl state⟩
    rw [Stands, state, quiet, b.kept x.id known uncut]
    exact .working (.inl rfl) starts 0 none

theorem start_orderly {within : Engine → Prop} {h : Hosted} (reach : Reachable within h)
    (idle : h.engine.state = .idle) : h.start.2.engine.Orderly := by
  have w := reachable_wired reach
  have u := reachable_untouched reach idle
  cases policy : h.engine.settings.startPolicy with
  | isolate =>
    obtain ⟨started, disabled, e, same, b⟩ := start_isolating reach idle policy
    rw [same]
    exact isolated_orderly u b w.distinct.ids
  | rollback =>
    rcases start_rolling u idle policy with
      ⟨all, e, same, a⟩ | ⟨before, k, after, cause, e, parts, all, _, same, r⟩
    · rw [same]
      exact all_started_orderly w u all a
    · rw [same]
      exact rolled_back_orderly w u parts all r

theorem active_sublist (e : Engine) : e.activeIds.Sublist e.ids := List.filter_sublist.map _

theorem active_iff {e : Engine} (distinct : e.ids.Nodup) {x : Handler} (mem : x ∈ e.handlers) :
    x.id ∈ e.activeIds ↔ x.state.isActive = true := by
  simp only [activeIds, List.mem_map, List.mem_filter]
  constructor
  · rintro ⟨g, ⟨mg, active⟩, same⟩
    rwa [← handler_unique distinct mg mem same]
  · intro active
    exact ⟨x, ⟨mem, active⟩, rfl⟩

theorem quiesced {e : Engine} (o : e.Orderly) (distinct : e.ids.Nodup)
    (running : e.state = .running) :
    ∀ x ∈ (e.quiesce e.activeIds).handlers, (e.quiesce e.activeIds).Stands x ∧
      ((x.id ∈ e.activeIds ∧ x.state = .stopping) ∨ (x.id ∉ e.activeIds ∧ x.state = .failed)) := by
  intro x mem
  rw [quiesce_handlers] at mem
  obtain ⟨g, mg, rfl⟩ := List.mem_map.mp mem
  have st := o.stands g mg
  have suits := o.suits g mg
  rw [running] at suits
  have calls : (e.quiesce e.activeIds).callsOf g.id = e.callsOf g.id := by
    rw [callsOf, (quiesce_rest e.activeIds e).2.1]
    rfl
  by_cases active : g.id ∈ e.activeIds
  · have now := (active_iff distinct mg).mp active
    have atWork : g.state.atWork := by
      obtain state | state | state := suits
      · exact .inl state
      · exact .inr (.inl state)
      · simp [state, LifecycleState.isActive] at now
    obtain ⟨ok, n, received⟩ := st.at_work atWork
    rw [show g.marked e.activeIds .stopping = { g with state := .stopping } from if_pos active]
    refine ⟨?_, .inl ⟨active, rfl⟩⟩
    rw [Stands, calls, received]
    exact .working (.inr (.inr rfl)) ok n g.call
  · have rest := mt (active_iff distinct mg).mpr active
    have failed : g.state = .failed := by
      obtain state | state | state := suits
      · simp [state, LifecycleState.isActive] at rest
      · simp [state, LifecycleState.isActive] at rest
      · exact state
    rw [show g.marked e.activeIds .stopping = g from if_neg active]
    refine ⟨?_, .inr ⟨active, failed⟩⟩
    rw [Stands, calls]
    exact st

theorem quiesced_ids {e₀ e : Engine} (d : e₀.Distinct) {ids : List HandlerId}
    (works : (e₀.quiesce ids).Works e) : e.ids = e₀.ids := by
  have quiet := wiring_of_unstarted (quiesce_unstarted ids e₀)
  have worked := works_worked (distinct_of_wiring d quiet) works
  exact (wiring_ids (wiring_of_unworked worked.unworked)).trans (wiring_ids quiet)

theorem tearDown_callsOf {h : Hosted} {active : List HandlerId}
    (there : ∀ id ∈ active, id ∈ h.engine.ids) (distinct : active.Nodup) (quiet : h.engine.Quiet)
    (x : HandlerId) : (h.tearDown active).engine.callsOf x =
      h.engine.callsOf x ++ if x ∈ active then [.stop] else [] := by
  rw [callsOf_append (tearDown_calls there quiet), calls_once (List.nodup_reverse.mpr distinct)]
  simp

theorem stop_orderly {h : Hosted} (o : h.engine.Orderly) (d : h.engine.Distinct)
    (running : h.engine.state = .running) {e : Engine}
    (works : (h.engine.quiesce h.engine.activeIds).Works e) (quiet : e.Quiet) :
    (({ h with engine := e } : Hosted).tearDown h.engine.activeIds).engine.Orderly := by
  have d₁ := distinct_of_wiring d
    (wiring_of_unstarted (quiesce_unstarted h.engine.activeIds h.engine))
  have before := quiesced o d.ids running
  have worked := works_worked d₁ works
  have stands := works_stands (fun x mem => (before x mem).1) d₁ works
  have states : ∀ x ∈ e.handlers, (x.id ∈ h.engine.activeIds ∧ x.state = .stopping) ∨
      (x.id ∉ h.engine.activeIds ∧ x.state = .failed) := by
    intro x mem
    obtain ⟨g, mg, id, begun⟩ := worked.handler mem
    rw [← id]
    rcases (before g mg).2 with ⟨active, state⟩ | ⟨rest, state⟩
    · refine .inl ⟨active, ?_⟩
      cases now : x.state <;> simp [state, now, LifecycleState.begun] at begun ⊢
    · refine .inr ⟨rest, ?_⟩
      cases now : x.state <;> simp [state, now, LifecycleState.begun] at begun ⊢
  have there : ∀ id ∈ h.engine.activeIds, id ∈ e.ids := by
    rw [quiesced_ids d works]
    exact fun id mem => (active_sublist h.engine).subset mem
  have calls := tearDown_callsOf (h := { h with engine := e }) there
    (d.ids.sublist (active_sublist h.engine)) quiet
  have alike {x : Handler} (mem : x ∈ (({ h with engine := e } : Hosted).tearDown
      h.engine.activeIds).engine.handlers) : ∃ g ∈ e.handlers,
        (g.marked h.engine.activeIds .stopped).retired = x.unnamed :=
    mem_of_map_eq (tearDown_handlers _ _) mem
  constructor
  · intro x mem
    obtain ⟨g, mg, same⟩ := alike mem
    have st := stands g mg
    rw [Stands, quiet g mg] at st
    rcases states g mg with ⟨active, state⟩ | ⟨rest, state⟩
    · rw [show g.marked h.engine.activeIds .stopped = { g with state := .stopped } from
        if_pos active] at same
      have ended := st.stop (state ▸ .inr (.inr rfl))
      rw [Stands, calls, ← show g.id = x.id from (congrArg Handler.id same :), if_pos active,
        ← show g.behaviour = x.behaviour from (congrArg Handler.behaviour same :),
        ← show LifecycleState.stopped = x.state from (congrArg Handler.state same :),
        ← show g.call = x.call from (congrArg Handler.call same :), quiet g mg]
      exact ended
    · rw [show g.marked h.engine.activeIds .stopped = g from if_neg rest] at same
      rw [Stands, calls, ← show g.id = x.id from (congrArg Handler.id same :), if_neg rest,
        ← show g.behaviour = x.behaviour from (congrArg Handler.behaviour same :),
        ← show g.retired.state = x.state from (congrArg Handler.state same :),
        ← show g.call = x.call from (congrArg Handler.call same :), quiet g mg, List.append_nil]
      simpa [Handler.retired, state] using st
  · intro x mem
    obtain ⟨g, mg, same⟩ := alike mem
    rw [← show (g.marked h.engine.activeIds .stopped).retired.state = x.state from
      (congrArg Handler.state same :)]
    by_cases failed : (g.marked h.engine.activeIds .stopped).state = .failed
    · exact .inr (by simp [Handler.retired, failed])
    · exact .inl (by simp [Handler.retired, failed])

theorem step_orderly {h h' : Hosted} (reach : Reachable Quiet h) (o : h.engine.Orderly)
    (step : Step Quiet h h') : h'.engine.Orderly := by
  by_cases idle' : h'.engine.state = .idle
  · exact (reachable_untouched (.next reach step) idle').orderly idle'
  have w := reachable_wired reach
  cases step with
  | add id b =>
    obtain same | ⟨_, _, _, _, idle, _, same⟩ := added_cases id b h
    · rw [same]
      exact o
    · rw [same] at idle'
      exact absurd idle idle'
  | connect source target =>
    by_cases idle : h.engine.state = .idle
    · exact absurd ((w.connect_state source target).trans idle) idle'
    · rw [show (h.connect source target).2 = h by simp [connect, busy_connect idle]]
      exact o
  | connectTexts source target =>
    by_cases idle : h.engine.state = .idle
    · exact absurd ((w.connectTexts_state source target).trans idle) idle'
    · rw [show (h.connectTexts source target).2 = h by simp [connectTexts, busy_connectTexts idle]]
      exact o
  | start =>
    by_cases idle : h.engine.state = .idle
    · exact start_orderly reach idle
    · rw [busy_start idle]
      exact o
  | work step => exact o.work w.distinct step
  | stopIdle rest =>
    cases now : h.engine.state with
    | idle =>
      rw [show h.stop = h.finishStop by simp [stop, now]]
      exact stopIdle_orderly (reachable_untouched reach now)
    | running => exact absurd now rest
    | stopped =>
      rw [show h.stop = h by simp [stop, now]]
      exact o
  | stop running works quiet => exact stop_orderly o w.distinct running works quiet
  | registry r => exact o

theorem reachable_orderly {h : Hosted} (reach : Reachable Quiet h) : h.engine.Orderly := by
  induction reach with
  | fresh made r =>
    obtain ⟨_, _, rfl⟩ := make_blank made
    exact (blank_untouched _ _ _).orderly rfl
  | next run step ih => exact step_orderly run ih step

def Moves (s s' : EngineState) : Prop :=
  s' = s ∨ (s = .idle ∧ s' = .running) ∨ (s = .idle ∧ s' = .stopped) ∨
    (s = .running ∧ s' = .stopped)

theorem start_moves (h : Hosted) : Moves h.engine.state h.start.2.engine.state := by
  unfold start
  cases now : h.engine.state with
  | running => exact .inl now
  | stopped => exact .inl now
  | idle =>
    dsimp only
    split
    · exact .inr (.inr (.inl ⟨rfl, rfl⟩))
    · exact .inr (.inl ⟨rfl, rfl⟩)

theorem step_moves {within : Engine → Prop} {h h' : Hosted} (w : h.engine.Wired)
    (step : Step within h h') : Moves h.engine.state h'.engine.state := by
  cases step with
  | add id b =>
    obtain same | ⟨_, _, _, _, idle, _, same⟩ := added_cases id b h
    · exact .inl (by rw [same])
    · exact .inl (by rw [same]; rfl)
  | connect source target => exact .inl (w.connect_state source target)
  | connectTexts source target => exact .inl (w.connectTexts_state source target)
  | start => exact start_moves h
  | work step => exact .inl (work_worked w.distinct step).state
  | stopIdle rest =>
    cases now : h.engine.state with
    | idle => exact .inr (.inr (.inl ⟨rfl, by simp [stop, now, finishStop_state]⟩))
    | running => exact absurd now rest
    | stopped => exact .inl (by simp [stop, now])
  | stop running => exact .inr (.inr (.inr ⟨running, rfl⟩))
  | registry r => exact .inl rfl

theorem first_unique {P : α → Prop} {a b a' b' : List α} {x x' : α}
    (same : a ++ x :: b = a' ++ x' :: b') (before : ∀ y ∈ a, ¬ P y) (here : P x)
    (before' : ∀ y ∈ a', ¬ P y) (here' : P x') : a = a' ∧ x = x' := by
  induction a generalizing a' with
  | nil =>
    cases a' with
    | nil => exact ⟨rfl, (List.cons.inj same).1⟩
    | cons y rest =>
      have first := (List.cons.inj same).1
      exact absurd (first ▸ here) (before' y List.mem_cons_self)
  | cons z rest ih =>
    cases a' with
    | nil =>
      have first := (List.cons.inj same).1
      exact absurd (first ▸ here') (before z List.mem_cons_self)
    | cons y rest' =>
      obtain ⟨rfl, later⟩ := List.cons.inj same
      obtain ⟨rfl, last⟩ := ih later (fun y mem => before y (List.mem_cons_of_mem _ mem))
        fun y mem => before' y (List.mem_cons_of_mem _ mem)
      exact ⟨rfl, last⟩

theorem rollback_calls {within : Engine → Prop} {h : Hosted} (reach : Reachable within h)
    (idle : h.engine.state = .idle) (rollback : h.engine.settings.startPolicy = .rollback)
    {before after : List Handler} {k : Handler} (parts : h.engine.handlers = before ++ k :: after)
    (starts : ∀ x ∈ before, x.behaviour.onStart = none) (fails : k.behaviour.onStart ≠ none) :
    (∃ cause, h.start.1 = .error (.startFailed k.id.text cause)) ∧
      h.start.2.engine.state = .stopped ∧
      h.start.2.engine.calls = ((before ++ [k]).map fun x => (x.id, .start)) ++
        (before ++ [k]).reverse.map fun x => (x.id, .stop) := by
  have w := reachable_wired reach
  have u := reachable_untouched reach idle
  have mem {x : Handler} (among : x ∈ before ++ [k]) : x ∈ h.engine.handlers := by
    rw [parts]
    simp only [List.mem_append, List.mem_cons, List.not_mem_nil, or_false] at among ⊢
    rcases among with early | here
    · exact .inl early
    · exact .inr (.inl here)
  have fails_iff {x : Handler} (among : x ∈ before ++ [k]) :
      h.engine.FailsStart x.id ↔ x.behaviour.onStart ≠ none :=
    unstarted_fails rfl (handler_of_mem w.distinct.ids (mem among))
  have last : k ∈ before ++ [k] := List.mem_append_right _ List.mem_cons_self
  have broken := (fails_iff last).mpr fails
  have ids : h.engine.ids = before.map (·.id) ++ k.id :: after.map (·.id) := by
    rw [Engine.ids, parts]
    simp
  have harmless : ∀ id ∈ before.map (·.id), ¬ h.engine.FailsStart id := by
    intro id mem
    obtain ⟨x, mx, rfl⟩ := List.mem_map.mp mem
    rw [fails_iff (List.mem_append_left _ mx), not_not]
    exact starts x mx
  rcases start_rolling u idle rollback with
    ⟨all, _⟩ | ⟨before', k', after', cause, e, parts', all, fails', same, r⟩
  · exact absurd broken (all k.id (List.mem_map_of_mem (mem last)))
  · obtain ⟨rfl, rfl⟩ := first_unique (ids.symm.trans parts') harmless broken all fails'
    rw [same]
    refine ⟨⟨cause, rfl⟩, rfl, ?_⟩
    have silent : h.engine.calls = [] := by simp [calls, u.silent]
    rw [(finishStop_rest _).2]
    refine r.calls.trans ?_
    rw [silent]
    simp [Function.comp_def]

theorem busy_refuses {h : Hosted} (busy : h.engine.state ≠ .idle) :
    (∀ id b, (∃ f, h.addHandler id b = .error f) ∧ h.added id b = h) ∧
    (∀ source target, ∃ f, h.connect source target = (.error f, h)) ∧
    ∀ source target, ∃ f, h.connectTexts source target = (.error f, h) := by
  obtain ⟨f, error⟩ := busy_fails busy "add a handler"
  obtain ⟨g, error'⟩ := busy_fails busy "connect ports"
  have refused (source target : PortAddress) :
      h.engine.connectInPlace source target = (.error (.fault g), h.engine) := by
    simp [connectInPlace, error']
  refine ⟨fun id b => ⟨⟨f, ?_⟩, busy_added busy id b⟩, fun source target => ⟨.fault g, ?_⟩, ?_⟩
  · simp [addHandler, error, bind, Except.bind]
  · simp [connect, refused]
  · intro source target
    unfold connectTexts connectTextsInPlace
    split
    · exact ⟨_, rfl⟩
    · exact ⟨_, rfl⟩
    · exact ⟨.fault g, by simp [refused]⟩

/-- Handlers are called in order: at any time between the operations of an engine's owner, however
the calls go. -/
theorem call_discipline {h : Hosted} (reach : Reachable Quiet h) :
    (∀ x ∈ h.engine.handlers, Disciplined (x.behaviour.onStart = none) (h.engine.callsOf x.id) ∧
      (x.call ≠ none → x.behaviour.onStart = none ∧
        ∃ n, h.engine.callsOf x.id = .start :: List.replicate n .process)) ∧
    (h.engine.state = .stopped → ∀ x ∈ h.engine.handlers,
      (x.state = .stopped ∨ x.state = .failed) ∧ x.call = none ∧
        (.stop ∈ h.engine.callsOf x.id ↔ .start ∈ h.engine.callsOf x.id)) ∧
    (h.engine.state = .running → ∀ e, (h.engine.quiesce h.engine.activeIds).Works e → e.Quiet →
      (({ h with engine := e } : Hosted).tearDown h.engine.activeIds).engine.calls =
          e.calls ++ h.engine.activeIds.reverse.map (fun id => (id, .stop)) ∧
        h.engine.activeIds.Sublist h.engine.ids) ∧
    (h.engine.state = .idle → h.engine.settings.startPolicy = .rollback →
      ∀ before k after, h.engine.handlers = before ++ k :: after →
        (∀ x ∈ before, x.behaviour.onStart = none) → k.behaviour.onStart ≠ none →
        (∃ cause, h.start.1 = .error (.startFailed k.id.text cause)) ∧
          h.start.2.engine.state = .stopped ∧
          h.start.2.engine.calls = ((before ++ [k]).map fun x => (x.id, .start)) ++
            (before ++ [k]).reverse.map fun x => (x.id, .stop)) ∧
    (∀ h', Step Quiet h h' → Moves h.engine.state h'.engine.state) ∧
    (h.engine.state ≠ .idle →
      (∀ id b, (∃ f, h.addHandler id b = .error f) ∧ h.added id b = h) ∧
      (∀ source target, ∃ f, h.connect source target = (.error f, h)) ∧
      ∀ source target, ∃ f, h.connectTexts source target = (.error f, h)) := by
  have w := reachable_wired reach
  have o := reachable_orderly reach
  refine ⟨?_, ?_, ?_, ?_, fun h' step => step_moves w step, busy_refuses⟩
  · intro x mem
    refine ⟨(o.stands x mem).disciplined, fun called => ?_⟩
    obtain ⟨c, call⟩ := Option.ne_none_iff_exists'.mp called
    have st := o.stands x mem
    rw [Stands, call] at st
    exact st.at_work st.in_call
  · intro stopped x mem
    have settled := o.suits x mem
    rw [stopped] at settled
    exact ⟨settled, (o.stands x mem).ended settled⟩
  · intro running e works quiet
    refine ⟨?_, active_sublist h.engine⟩
    refine tearDown_calls (h := { h with engine := e }) ?_ quiet
    intro id mem
    rw [quiesced_ids w.distinct works]
    exact (active_sublist h.engine).subset mem
  · intro idle rollback before k after parts starts fails
    exact rollback_calls reach idle rollback parts starts fails

theorem call_discipline_brittle :
    let finished := brittle.start.2.stop
    Reachable Quiet finished ∧ finished.engine.state = .stopped ∧
    (∀ x ∈ finished.engine.handlers, .stop ∈ finished.engine.callsOf x.id ↔
      .start ∈ finished.engine.callsOf x.id) ∧
    finished.engine.calls = [(⟨"wrapper", by decide⟩, .start), (⟨"source", by decide⟩, .start),
      (⟨"source", by decide⟩, .stop), (⟨"wrapper", by decide⟩, .stop)] := by
  intro finished
  have quiet : (brittle.start.2.engine.quiesce brittle.start.2.engine.activeIds).Quiet := by
    have free : ((brittle.start.2.engine.quiesce brittle.start.2.engine.activeIds).handlers.all
        fun x => x.call.isNone) = true := by decide +kernel
    intro x mem
    simpa using List.all_eq_true.mp free x mem
  have reach : Reachable Quiet finished :=
    (brittle_reachable.next .start).next (stop_step _ fun _ => quiet)
  have stopped : finished.engine.state = .stopped := by decide +kernel
  obtain ⟨_, ended, _⟩ := call_discipline reach
  exact ⟨reach, stopped, fun x mem => (ended stopped x mem).2.2, by decide +kernel⟩

end Hosted

end Tickflow
