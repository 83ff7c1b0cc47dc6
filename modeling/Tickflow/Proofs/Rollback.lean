import Tickflow.Proofs.Starting
/-!
Starting under the policy that takes a failed start back. Handlers start one after the other, and at
the first failure those that were started are stopped, the last one first.
-/
namespace Tickflow

namespace Engine

theorem fails_of_unstarted {e e' : Engine} (same : e'.unstarted = e.unstarted) (id : HandlerId) :
    e'.FailsStart id ↔ e.FailsStart id := by
  constructor
  · rintro ⟨h, found, fails⟩
    exact (unstarted_fails same found).mpr fails
  · rintro ⟨h, found, fails⟩
    exact (unstarted_fails same.symm found).mpr fails

theorem startEach_rollback {id : HandlerId} {rest started disabled : List HandlerId} {e : Engine}
    {cause : Fault} (rollback : e.settings.startPolicy = .rollback) (skip : id ∉ disabled)
    (fault : (e.callStart id).1 = some cause) :
    startEach (id :: rest) started disabled e = (some (.startFailed id.text cause), [],
      ((e.brokenOff id cause).report (.rollingBack started.length)).stopAll started) := by
  have settings : (e.brokenOff id cause).settings = e.settings :=
    (congrArg Engine.settings (brokenOff_unstarted id cause e) :)
  rw [startEach, if_neg (by simpa using skip)]
  unfold brokenOff at settings ⊢
  generalize e.callStart id = answer at fault settings ⊢
  obtain ⟨_, e₁⟩ := answer
  cases fault
  dsimp only at settings ⊢
  rw [settings, rollback]

structure AllStarted (ids : List HandlerId) (e e' : Engine) : Prop where
  same : e'.unstarted = e.unstarted
  calls : e'.calls = e.calls ++ ids.map fun id => (id, .start)
  handlers : e'.handlers = e.handlers.map (·.marked ids .started)

/-- After `before`, the handler `k` failed to start, and all that were started are stopped. -/
structure RolledBack (started before : List HandlerId) (k : HandlerId) (e e' : Engine) : Prop where
  same : e'.unstarted = e.unstarted
  calls : e'.calls = e.calls ++ ((before ++ [k]).map (fun id => (id, .start)) ++
    (started ++ before ++ [k]).reverse.map fun id => (id, .stop))
  handlers : e'.handlers = e.handlers.map fun x =>
    ((x.marked before .started).marked [k] .failed).marked (started ++ before) .stopped

section
variable {e e₁ e' : Engine} {id : HandlerId} {h : Handler}

theorem started_one (found : e.handler? id = some h) :
    AllStarted [id] e ((e.callStart id).2.setState id .started) := by
  have called := callStart_called id e
  refine ⟨(setState_unstarted _ _ _).trans called.unstarted, callStart_calls found, ?_⟩
  rw [handlers_setState, called.handlers]

theorem AllStarted.trans {first second : List HandlerId} (a : AllStarted first e e₁)
    (b : AllStarted second e₁ e') : AllStarted (first ++ second) e e' := by
  refine ⟨b.same.trans a.same, ?_, ?_⟩
  · rw [b.calls, a.calls]
    simp
  · rw [b.handlers, a.handlers, List.map_map]
    apply List.map_congr_left
    intro x _
    exact marked_marked first second .started x

theorem AllStarted.rolledBack {started first before : List HandlerId} {k : HandlerId}
    (a : AllStarted first e e₁) (r : RolledBack (started ++ first) before k e₁ e') :
    RolledBack started (first ++ before) k e e' := by
  refine ⟨r.same.trans a.same, ?_, ?_⟩
  · rw [r.calls, a.calls]
    simp
  · rw [r.handlers, a.handlers, List.map_map]
    apply List.map_congr_left
    intro x _
    rw [Function.comp_apply, marked_marked, List.append_assoc]

theorem rolledBack_first {started : List HandlerId} (found : e.handler? id = some h)
    (quiet : e.Quiet) (behind : ∀ x ∈ started, x ∈ e.ids) (cause : Fault) :
    RolledBack started [] id e
      (((e.brokenOff id cause).report (.rollingBack started.length)).stopAll started) := by
  let e₁ := (e.brokenOff id cause).report (.rollingBack started.length)
  have same₁ : e₁.unstarted = e.unstarted := brokenOff_unstarted id cause e
  have quiet₁ := unstarted_quiet same₁ quiet
  have behind₁ : ∀ x ∈ started, x ∈ e₁.ids := by
    intro x mem
    rw [unstarted_ids same₁]
    exact behind x mem
  have calls₁ : e₁.calls = e.calls ++ [(id, .start), (id, .stop)] :=
    brokenOff_calls found (quiet h (mem_of_handler found).1) cause
  have handlers₁ : e₁.handlers = e.handlers.map (·.marked [id] .failed) :=
    brokenOff_handlers id cause e
  refine ⟨(stopAll_unstarted _ _).trans same₁, ?_, ?_⟩
  · rw [stopAll_calls behind₁ fun x mem _ => quiet₁ x mem, calls₁]
    simp
  · rw [stopAll_handlers, handlers₁, List.map_map]
    simp [Handler.marked]

end

theorem startEach_rolling (todo started : List HandlerId) {e : Engine}
    (rollback : e.settings.startPolicy = .rollback) (quiet : e.Quiet)
    (there : ∀ id ∈ todo, id ∈ e.ids) (behind : ∀ id ∈ started, id ∈ e.ids) :
    ((∀ id ∈ todo, ¬ e.FailsStart id) ∧ ∃ e',
      startEach todo started [] e = (none, started ++ todo, e') ∧ AllStarted todo e e') ∨
    ∃ before k after cause e', todo = before ++ k :: after ∧ (∀ id ∈ before, ¬ e.FailsStart id) ∧
      e.FailsStart k ∧ startEach todo started [] e = (some (.startFailed k.text cause), [], e') ∧
      RolledBack started before k e e' := by
  induction todo generalizing started e with
  | nil =>
    refine .inl ⟨fun _ mem => absurd mem List.not_mem_nil, e, ?_, rfl, ?_, ?_⟩
    · simp [startEach]
    · simp
    · simp [Handler.marked]
  | cons id rest ih =>
    obtain ⟨h, _, _, found⟩ := handler_of_id_mem (there id List.mem_cons_self)
    cases answer : (e.callStart id).1 with
    | none =>
      have starts : ¬ e.FailsStart id := fun fails => (callStart_fails rfl found).mp fails answer
      let e₁ := (e.callStart id).2.setState id .started
      have one : AllStarted [id] e e₁ := started_one found
      have ids₁ : e₁.ids = e.ids := unstarted_ids one.same
      have rollback₁ : e₁.settings.startPolicy = .rollback := by
        rw [show e₁.settings = e.settings from (congrArg Engine.settings one.same :), rollback]
      have there₁ : ∀ x ∈ rest, x ∈ e₁.ids := by
        intro x mem
        rw [ids₁]
        exact there x (List.mem_cons_of_mem _ mem)
      have behind₁ : ∀ x ∈ started ++ [id], x ∈ e₁.ids := by
        intro x mem
        rw [ids₁]
        rcases List.mem_append.mp mem with old | new
        · exact behind x old
        · exact List.mem_singleton.mp new ▸ there id List.mem_cons_self
      have harmless {ids : List HandlerId} (all : ∀ x ∈ ids, ¬ e₁.FailsStart x) :
          ∀ x ∈ id :: ids, ¬ e.FailsStart x := by
        intro x mem
        rcases List.mem_cons.mp mem with rfl | later
        · exact starts
        · rw [← fails_of_unstarted one.same]
          exact all x later
      rw [startEach_succeed List.not_mem_nil answer]
      rcases ih (started ++ [id]) rollback₁ (unstarted_quiet one.same quiet) there₁ behind₁
        with ⟨all, e', went, a⟩ | ⟨before, k, after, cause, e', parts, all, fails, went, r⟩
      · refine .inl ⟨harmless all, e', ?_, one.trans a⟩
        rw [went, List.append_assoc]
        rfl
      · refine .inr ⟨id :: before, k, after, cause, e', ?_, harmless all,
          (fails_of_unstarted one.same k).mp fails, went, one.rolledBack r⟩
        rw [parts]
        rfl
    | some cause =>
      have fails : e.FailsStart id := (callStart_fails rfl found).mpr (by simp [answer])
      exact .inr ⟨[], id, rest, cause, _, rfl, fun _ mem => absurd mem List.not_mem_nil, fails,
        startEach_rollback rollback List.not_mem_nil answer,
        rolledBack_first found quiet behind cause⟩

end Engine

end Tickflow
