import Tickflow.Proofs.Idle
/-!
What stays as it is in an engine that was started: dead links stay dead, open ones stay open, and a
handler that failed is never called again.
-/
namespace Tickflow

namespace Engine

def Out (id : HandlerId) (e : Engine) : Prop :=
  ∀ h ∈ e.handlers, h.id = id → h.state = .failed ∧ h.call = none

def StayOut (e e' : Engine) : Prop :=
  ∀ id, e.Out id → e'.Out id ∧ e'.callsOf id = e.callsOf id

theorem StayOut.refl (e : Engine) : StayOut e e := fun _ out => ⟨out, rfl⟩

theorem StayOut.trans {a b c : Engine} (first : StayOut a b) (second : StayOut b c) :
    StayOut a c := by
  intro id out
  obtain ⟨out₁, calls₁⟩ := first id out
  obtain ⟨out₂, calls₂⟩ := second id out₁
  exact ⟨out₂, calls₂.trans calls₁⟩

theorem out_of_unacted {e e' : Engine} (same : e'.unacted = e.unacted) {id : HandlerId}
    (out : e.Out id) : e'.Out id := by
  intro h mem at_id
  obtain ⟨g, mg, alike⟩ := mem_of_map_eq (congrArg handlers same :) mem
  rw [← show g.state = h.state from (congrArg Handler.state alike :),
    ← show g.call = h.call from (congrArg Handler.call alike :)]
  exact out g mg ((congrArg Handler.id alike :).trans at_id)

theorem Acts.stay_out {e e' : Engine} (acts : Acts e e') : StayOut e e' := by
  intro id out
  have journal : e'.journal = e.journal := (congrArg Engine.journal acts.unacted :)
  exact ⟨out_of_unacted acts.unacted out, by rw [callsOf, calls, journal]; rfl⟩

theorem modify_stay_out {f : Handler → Handler} {id : HandlerId} {e : Engine}
    (keeps : ∀ h, (f h).id = h.id) (busy : ¬ e.Out id) : StayOut e (e.modify id f) := by
  intro x out
  have other : id ≠ x := by
    rintro rfl
    exact busy out
  refine ⟨?_, rfl⟩
  intro h mem at_x
  rw [handlers_modify] at mem
  obtain ⟨g, mg, rfl⟩ := List.mem_map.mp mem
  rw [changed_id keeps] at at_x
  rw [changed, if_neg (at_x ▸ Ne.symm other)]
  exact out g mg at_x

theorem record_stay_out {id : HandlerId} (event : JournalEvent) {e : Engine}
    (busy : ¬ e.Out id) : StayOut e (e.record id event) := by
  intro x out
  refine ⟨out, callsOf_elsewhere (calls_record id event e) ?_⟩
  rintro rfl
  exact busy out

theorem finish_stay_out {id : HandlerId} (c : Call) (how : Option Failure) {e : Engine}
    (busy : ¬ e.Out id) : StayOut e (e.finish id c how) := by
  have noted := record_stay_out (.processed c.tick.frame c.events) busy
  cases how with
  | none => exact noted.trans (modify_stay_out (fun _ => rfl) busy)
  | some failure => exact noted.trans (modify_stay_out (fun _ => rfl) busy)

theorem beginCall_stay_out (id : HandlerId) (e : Engine) : StayOut e (e.beginCall id) := by
  unfold beginCall
  split
  · exact .refl e
  · dsimp only
    split
    · exact .refl e
    · split
      · rename_i h found active
        have busy : ¬ e.Out id := by
          intro out
          have known := mem_of_handler found
          simp [(out h known.1 known.2).1, LifecycleState.isActive] at active
        exact modify_stay_out (e := { e with broadcaster := _, now := _ }) (fun _ => rfl) busy
      · exact .refl e

theorem work_stay_out {e e' : Engine} (d : e.Distinct) (w : Work e e') : StayOut e e' := by
  cases w with
  | issue => exact .refl e
  | begin id => exact beginCall_stay_out id e
  | advance id c current =>
    obtain ⟨h, found, call⟩ := openCall_held current
    have busy : ¬ e.Out id := by
      intro out
      have known := mem_of_handler found
      rw [(out h known.1 known.2).2] at call
      cases call
    obtain ⟨e₁, c', acts, _, _, after⟩ := advance_cases d id c
    have busy₁ : ¬ e₁.Out id := mt (out_of_unacted acts.unacted.symm) busy
    refine acts.stay_out.trans ?_
    rcases after with ⟨go, _⟩ | ⟨how, ends⟩
    · rw [go]
      exact modify_stay_out (fun _ => rfl) busy₁
    · rw [ends]
      exact finish_stay_out c' how busy₁
  | resume id =>
    intro x out
    refine ⟨?_, rfl⟩
    intro h mem at_x
    obtain ⟨g, mg, rfl⟩ := List.mem_map.mp mem
    split at at_x
    · have rest := out g mg at_x
      rw [if_pos (by assumption)]
      exact ⟨rest.1, by simp [rest.2]⟩
    · rw [if_neg (by assumption)]
      exact out g mg at_x
  | write id port m => exact (writePort_acts d id port m).stay_out
  | read id port cutoff => exact (readPort_acts id port cutoff e).stay_out

theorem works_stay_out {e e' : Engine} (d : e.Distinct) (w : Works e e') : StayOut e e' := by
  induction w with
  | refl => exact .refl e
  | tail before step ih => exact ih.trans (work_stay_out ((works_worked d before).distinct d) step)

theorem Out.inactive {e : Engine} {id : HandlerId} (out : e.Out id) : id ∉ e.activeIds := by
  intro mem
  obtain ⟨h, among, at_id⟩ := List.mem_map.mp mem
  obtain ⟨mh, active⟩ := List.mem_filter.mp among
  simp [(out h mh at_id).1, LifecycleState.isActive] at active

theorem quiesce_stay_out (e : Engine) : StayOut e (e.quiesce e.activeIds) := by
  intro id out
  refine ⟨?_, by rw [callsOf, (quiesce_rest _ _).2.1]; rfl⟩
  intro h mem at_id
  rw [quiesce_handlers] at mem
  obtain ⟨g, mg, rfl⟩ := List.mem_map.mp mem
  rw [marked_id] at at_id
  rw [Handler.marked, if_neg (at_id ▸ out.inactive)]
  exact out g mg at_id

end Engine

namespace Hosted

open Engine

theorem tearDown_out {active : List HandlerId} {id : HandlerId} {h : Hosted}
    (out : h.engine.Out id) (away : id ∉ active) : (h.tearDown active).engine.Out id ∧
      (h.tearDown active).engine.callsOf id = h.engine.callsOf id := by
  refine ⟨?_, tearDown_elsewhere away h⟩
  intro x mem at_id
  obtain ⟨g, mg, same⟩ := mem_of_map_eq (tearDown_handlers active h) mem
  have known : (g.marked active .stopped).id = x.id := (congrArg Handler.id same :)
  rw [marked_id, at_id] at known
  rw [Handler.marked, if_neg (known ▸ away)] at same
  obtain ⟨failed, free⟩ := out g mg known
  rw [← show g.retired.state = x.state from (congrArg Handler.state same :),
    ← show g.call = x.call from (congrArg Handler.call same :)]
  exact ⟨by simp [Handler.retired, failed], free⟩

/-- No cell is opened or closed, those that are dead stay so, and so do handlers that failed. -/
structure Kept (h h' : Hosted) : Prop where
  busy : h'.engine.state ≠ .idle
  dead : DeadStay h.engine.cells h'.engine.cells
  closed : h'.engine.cells.map (·.closed) = h.engine.cells.map (·.closed)
  out : StayOut h.engine h'.engine

theorem Kept.trans {a b c : Hosted} (first : Kept a b) (second : Kept b c) : Kept a c :=
  ⟨second.busy, dead_stay_trans first.dead second.dead, second.closed.trans first.closed,
    first.out.trans second.out⟩

theorem kept_of_cells {h h' : Hosted} (busy : h'.engine.state ≠ .idle)
    (same : h'.engine.cells = h.engine.cells) (out : StayOut h.engine h'.engine) : Kept h h' := by
  refine ⟨busy, ?_, congrArg _ same, out⟩
  rw [same]
  exact dead_stay_refl _

theorem works_kept {h : Hosted} {e : Engine} (d : h.engine.Distinct)
    (busy : h.engine.state ≠ .idle) (works : h.engine.Works e) : Kept h { h with engine := e } := by
  have worked := works_worked d works
  refine ⟨?_, worked.dead, ?_, works_stay_out d works⟩
  · rw [worked.state]
    exact busy
  · have closed := congrArg (fun e => e.cells.map Cell.closed) worked.unworked
    simp only [unworked, List.map_map] at closed
    exact closed

theorem step_kept {within : Engine → Prop} {h h' : Hosted} (d : h.engine.Distinct)
    (busy : h.engine.state ≠ .idle) (step : Step within h h') : Kept h h' := by
  have refl : Kept h h := kept_of_cells busy rfl (.refl _)
  cases step with
  | add id b =>
    rw [busy_added busy]
    exact refl
  | connect source target =>
    rw [show (h.connect source target).2 = h by simp [connect, busy_connect busy]]
    exact refl
  | connectTexts source target =>
    rw [show (h.connectTexts source target).2 = h by simp [connectTexts, busy_connectTexts busy]]
    exact refl
  | start =>
    rw [busy_start busy]
    exact refl
  | work w => exact works_kept d busy (.single w)
  | stopIdle rest =>
    cases now : h.engine.state with
    | idle => exact absurd now busy
    | running => exact absurd now rest
    | stopped =>
      rw [show h.stop = h by simp [stop, now]]
      exact refl
  | @stop e _ works =>
    let h₁ : Hosted := { h with engine := h.engine.quiesce h.engine.activeIds }
    have quiesced := quiesce_rest h.engine.activeIds h.engine
    have distinct := distinct_of_wiring d
      (wiring_of_unstarted (quiesce_unstarted h.engine.activeIds h.engine))
    have first : Kept h h₁ :=
      kept_of_cells (quiesced.2.2 ▸ busy) quiesced.1 (quiesce_stay_out h.engine)
    have second : Kept h₁ { h₁ with engine := e } := works_kept distinct first.busy works
    have before := first.trans second
    have cells := tearDown_cells h.engine.activeIds { h with engine := e }
    refine ⟨?_, ?_, ?_, ?_⟩
    · intro other
      cases other
    · rw [cells]
      exact before.dead
    · rw [cells]
      exact before.closed
    · intro id out
      obtain ⟨out₁, calls₁⟩ := before.out id out
      obtain ⟨out₂, calls₂⟩ := tearDown_out (h := { h with engine := e }) out₁ out.inactive
      exact ⟨out₂, calls₂.trans calls₁⟩
  | registry r => exact kept_of_cells busy rfl (.refl _)

theorem run_kept {within : Engine → Prop} {h h' : Hosted} (reach : Reachable within h)
    (busy : h.engine.state ≠ .idle) (run : Run within h h') : Kept h h' := by
  induction run with
  | refl => exact kept_of_cells busy rfl (.refl _)
  | tail before step ih =>
    have w := reachable_wired (reachable_run reach before)
    exact ih.trans (step_kept w.distinct ih.busy step)

end Hosted

end Tickflow
