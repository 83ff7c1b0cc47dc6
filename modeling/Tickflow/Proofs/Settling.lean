import Tickflow.Engine.Ticking
import Tickflow.Proofs.Idle
/-!
Letting the handlers catch up is work like any other: whatever order the scheduler takes, it goes on
by single steps. It comes to rest when every call that is still under way is held. So an engine that
is only used through its operations is one of the engines that steps lead to.
-/
namespace Tickflow

namespace Engine

def OpenOnly (id : HandlerId) (e : Engine) : Prop :=
  ∀ h ∈ e.handlers, h.id ≠ id → ∀ c, h.call = some c → c.held = true

def Settled (e : Engine) : Prop := ∀ h ∈ e.handlers, ∀ c, h.call = some c → c.held = true

variable {e e' : Engine} {id : HandlerId}

theorem Quiet.settled (quiet : e.Quiet) : e.Settled := by
  intro h mem c call
  rw [quiet h mem] at call
  cases call

theorem Settled.open_only (settled : e.Settled) (id : HandlerId) : e.OpenOnly id :=
  fun h mem _ => settled h mem

theorem OpenOnly.settled (alone : e.OpenOnly id) (d : e.Distinct) (closed : e.openCall? id = none) :
    e.Settled := by
  intro h mem c call
  by_cases here : h.id = id
  · have found := handler_of_mem d.ids mem
    rw [here] at found
    simpa [openCall?, found, call] using closed
  · exact alone h mem here c call

theorem OpenOnly.modify {f : Handler → Handler} (keeps : ∀ h, (f h).id = h.id)
    (alone : e.OpenOnly id) : (e.modify id f).OpenOnly id := by
  intro h mem other c call
  rw [handlers_modify] at mem
  obtain ⟨g, mg, rfl⟩ := List.mem_map.mp mem
  rw [changed_id keeps] at other
  rw [changed, if_neg other] at call
  exact alone g mg other c call

theorem Acts.open_only (acts : Acts e e') (alone : e.OpenOnly id) : e'.OpenOnly id := by
  intro h mem other c call
  obtain ⟨g, mg, same⟩ := mem_of_map_eq (congrArg handlers acts.unacted :) mem
  have at_id : g.id = h.id := (congrArg Handler.id same :)
  have in_call : g.call = h.call := (congrArg Handler.call same :)
  exact alone g mg (at_id ▸ other) c (in_call ▸ call)

theorem OpenOnly.advance (alone : e.OpenOnly id) (d : e.Distinct) (c : Call) :
    (e.advance id c).OpenOnly id := by
  obtain ⟨e₁, c', acts, _, _, ⟨go, _⟩ | ⟨how, ends⟩⟩ := advance_cases d id c
  · rw [go]
    exact (acts.open_only alone).modify fun _ => rfl
  · rw [ends]
    have noted := acts.open_only alone
    cases how with
    | none => exact noted.modify fun _ => rfl
    | some failure => exact noted.modify fun _ => rfl

theorem openCall_setCall {c c' : Call} (now : (e.setCall id c).openCall? id = some c') :
    c' = c := by
  obtain ⟨h, found, call⟩ := openCall_held now
  obtain ⟨mem, at_id⟩ := mem_of_handler found
  obtain ⟨g, _, rfl⟩ := List.mem_map.mp mem
  by_cases here : g.id = id
  · simpa [here] using call.symm
  · simp [here] at at_id

theorem openCall_finish (c : Call) (how : Option Failure) :
    (e.finish id c how).openCall? id = none := by
  cases now : (e.finish id c how).openCall? id with
  | none => rfl
  | some c' =>
    obtain ⟨h, found, call⟩ := openCall_held now
    obtain ⟨mem, at_id⟩ := mem_of_handler found
    rw [finish_handlers] at mem
    obtain ⟨g, _, rfl⟩ := List.mem_map.mp mem
    by_cases here : g.id = id
    · simp [changed, here, Handler.finished] at call
    · simp [changed, here] at at_id

theorem runCall_works (steps : Nat) (d : e.Distinct) (alone : e.OpenOnly id)
    (enough : ∀ c, e.openCall? id = some c → c.rest.length < steps) :
    e.Works (e.runCall id steps) ∧ (e.runCall id steps).Settled := by
  induction steps generalizing e with
  | zero =>
    refine ⟨.refl, alone.settled d ?_⟩
    cases now : e.openCall? id with
    | none => rfl
    | some c => exact absurd (enough c now) (Nat.not_lt_zero _)
  | succ steps ih =>
    cases now : e.openCall? id with
    | none =>
      simp only [runCall, now]
      exact ⟨.refl, alone.settled d now⟩
    | some c =>
      simp only [runCall, now]
      have step : Work e (e.advance id c) := .advance id c now
      have d' := (work_worked d step).distinct d
      have short := enough c now
      obtain ⟨works, settled⟩ := ih d' (alone.advance d c) (by
        intro c' later
        obtain ⟨e₁, c₁, _, _, _, ⟨go, s, parts⟩ | ⟨how, ends⟩⟩ := advance_cases d id c
        · rw [go] at later
          rw [openCall_setCall later]
          rw [parts, List.length_cons] at short
          omega
        · rw [ends, openCall_finish] at later
          cases later)
      exact ⟨.head step works, settled⟩

theorem runOpen_works (d : e.Distinct) (alone : e.OpenOnly id) :
    e.Works (e.runOpen id) ∧ (e.runOpen id).Settled := by
  cases now : e.openCall? id with
  | none =>
    simp only [runOpen, now]
    exact ⟨.refl, alone.settled d now⟩
  | some c =>
    simp only [runOpen, now]
    refine runCall_works _ d alone ?_
    intro c' now'
    rw [now] at now'
    cases now'
    omega

theorem OpenOnly.beginCall (alone : e.OpenOnly id) : (e.beginCall id).OpenOnly id := by
  unfold Engine.beginCall
  split
  · exact alone
  · dsimp only
    split
    · exact alone
    · split
      · exact OpenOnly.modify (e := { e with broadcaster := _, now := _ }) (fun _ => rfl) alone
      · exact alone

theorem drain_works (ticks : Nat) (d : e.Distinct) (settled : e.Settled) :
    e.Works (e.drain id ticks) ∧ (e.drain id ticks).Settled := by
  induction ticks generalizing e with
  | zero => exact ⟨.refl, settled⟩
  | succ ticks ih =>
    unfold drain
    split
    · exact ⟨.refl, settled⟩
    · rename_i held
      have free : (e.handler? id).bind (·.call) = none := by
        cases now : (e.handler? id).bind (·.call) with
        | none => rfl
        | some c =>
          obtain ⟨h, found, call⟩ := Option.bind_eq_some_iff.mp now
          have stuck := settled h (mem_of_handler found).1 c call
          simp [isHeld, now, stuck] at held
      have step : Work e (e.beginCall id) := .begin id free
      have d₁ := (work_worked d step).distinct d
      obtain ⟨works, settled₁⟩ := runOpen_works d₁ (settled.open_only id).beginCall
      have d₂ := (works_worked d₁ works).distinct d₁
      obtain ⟨later, settled₂⟩ := ih d₂ settled₁
      exact ⟨.head step (works.trans later), settled₂⟩

theorem catchUp_works (id : HandlerId) (d : e.Distinct) (settled : e.Settled) :
    e.Works (e.catchUp id) ∧ (e.catchUp id).Settled :=
  drain_works (e.waiting id) d settled

theorem takeTurns_works (ids : List HandlerId) (d : e.Distinct) (settled : e.Settled) :
    e.Works (e.takeTurns ids) ∧ (e.takeTurns ids).Settled := by
  induction ids generalizing e with
  | nil => exact ⟨.refl, settled⟩
  | cons id rest ih =>
    obtain ⟨works, settled₁⟩ := catchUp_works id d settled
    unfold takeTurns
    dsimp only
    split
    · exact ⟨works, settled₁⟩
    · obtain ⟨later, settled₂⟩ := ih ((works_worked d works).distinct d) settled₁
      exact ⟨works.trans later, settled₂⟩

theorem settle_works (d : e.Distinct) (settled : e.Settled) :
    e.Works e.settle ∧ e.settle.Settled := by
  have each (ids : List HandlerId) {e : Engine} (d : e.Distinct) (settled : e.Settled) :
      e.Works (ids.foldl (fun e id => e.catchUp id) e) ∧
        (ids.foldl (fun e id => e.catchUp id) e).Settled := by
    induction ids generalizing e with
    | nil => exact ⟨.refl, settled⟩
    | cons id rest ih =>
      obtain ⟨works, settled₁⟩ := catchUp_works id d settled
      obtain ⟨later, settled₂⟩ := ih ((works_worked d works).distinct d) settled₁
      exact ⟨works.trans later, settled₂⟩
  obtain ⟨works, settled₁⟩ := takeTurns_works (e.idsOf .cooperative) d settled
  obtain ⟨later, settled₂⟩ := each _ ((works_worked d works).distinct d) settled₁
  exact ⟨works.trans later, settled₂⟩

theorem beat_works (d : e.Distinct) (settled : e.Settled) (running : e.state = .running)
    (frame : Nat) (timestamp delta : Float) :
    e.Works (e.beat frame timestamp delta).2 ∧ (e.beat frame timestamp delta).2.Settled := by
  have step : Work e (e.issue frame timestamp delta) := .issue frame timestamp delta running
  obtain ⟨works, settled'⟩ := settle_works ((work_worked d step).distinct d) (show _ from settled)
  exact ⟨.head step works, settled'⟩

theorem release_works (d : e.Distinct) (settled : e.Settled) (id : HandlerId) :
    e.Works (e.release id) ∧ (e.release id).Settled := by
  unfold release
  split
  · have step : Work e (e.resume id) := .resume id
    have d₁ := (work_worked d step).distinct d
    have alone : (e.resume id).OpenOnly id := (settled.open_only id).modify fun _ => rfl
    obtain ⟨works₁, settled₁⟩ := runOpen_works d₁ alone
    have d₂ := (works_worked d₁ works₁).distinct d₁
    obtain ⟨works₂, settled₂⟩ := catchUp_works id d₂ settled₁
    have works := Relation.ReflTransGen.head step (works₁.trans works₂)
    dsimp only
    split
    · obtain ⟨works₃, settled₃⟩ := takeTurns_works _ ((works_worked d works).distinct d) settled₂
      exact ⟨works.trans works₃, settled₃⟩
    · exact ⟨works, settled₂⟩
  · exact ⟨.refl, settled⟩

theorem settled_of_unstarted (same : e'.unstarted = e.unstarted) (settled : e.Settled) :
    e'.Settled := by
  intro h mem c call
  obtain ⟨g, mg, alike⟩ := mem_of_map_eq (congrArg handlers same :) mem
  have in_call : g.call = h.call := (congrArg Handler.call alike :)
  exact settled g mg c (in_call ▸ call)

theorem Acts.settled (acts : Acts e e') (settled : e.Settled) : e'.Settled := by
  intro h mem c call
  obtain ⟨g, mg, alike⟩ := mem_of_map_eq (congrArg handlers acts.unacted :) mem
  have in_call : g.call = h.call := (congrArg Handler.call alike :)
  exact settled g mg c (in_call ▸ call)

end Engine

namespace Hosted

open Engine

/-- What is asked of an engine, with all that its handlers do about it at once. -/
inductive Operation (h : Hosted) : Hosted → Prop where
  | add (id : Option String) (b : Behaviour) : Operation h (h.added id b)
  | connect (source target : PortAddress) : Operation h (h.connect source target).2
  | connectTexts (source target : String) : Operation h (h.connectTexts source target).2
  | start : Operation h h.start.2
  | beat (running : h.engine.state = .running) (frame : Nat) (timestamp delta : Float) :
      Operation h { h with engine := (h.engine.beat frame timestamp delta).2 }
  | release (id : HandlerId) : Operation h { h with engine := h.engine.release id }
  | write (id : HandlerId) (port : String) (m : Message) :
      Operation h { h with engine := (h.engine.writePort id port m).2 }
  | read (id : HandlerId) (port : String) :
      Operation h { h with engine := (h.engine.readPort id port none).2 }
  | stop : Operation h h.stop
  | registry (r : Option ActorRegistry) : Operation h { h with registry := r }

theorem works_run {within : Engine → Prop} {h : Hosted} {e : Engine} (works : h.engine.Works e) :
    Run within h { h with engine := e } := by
  induction works with
  | refl => exact .refl
  | tail _ step ih => exact ih.tail (.work step)

theorem operation_run {h h' : Hosted} (reach : Reachable (fun _ => True) h)
    (settled : h.engine.Settled) (op : Operation h h') :
    Run (fun _ => True) h h' ∧ h'.engine.Settled := by
  have w := reachable_wired reach
  have idle_settled {h' : Hosted} (step : Step (fun _ => True) h h')
      (idle : h'.engine.state = .idle) : h'.engine.Settled :=
    (reachable_untouched (.next reach step) idle).quiet.settled
  cases op with
  | add id b =>
    have step : Step (fun _ => True) h (h.added id b) := .add id b
    refine ⟨.single step, ?_⟩
    obtain same | ⟨_, _, _, _, idle, _, same⟩ := added_cases id b h
    · rw [same]
      exact settled
    · exact idle_settled step (by rw [same]; exact idle)
  | connect source target =>
    have step : Step (fun _ => True) h (h.connect source target).2 := .connect source target
    refine ⟨.single step, ?_⟩
    by_cases idle : h.engine.state = .idle
    · exact idle_settled step ((w.connect_state source target).trans idle)
    · rw [show (h.connect source target).2 = h by simp [connect, busy_connect idle]]
      exact settled
  | connectTexts source target =>
    have step : Step (fun _ => True) h (h.connectTexts source target).2 :=
      .connectTexts source target
    refine ⟨.single step, ?_⟩
    by_cases idle : h.engine.state = .idle
    · exact idle_settled step ((w.connectTexts_state source target).trans idle)
    · rw [show (h.connectTexts source target).2 = h by
        simp [connectTexts, busy_connectTexts idle]]
      exact settled
  | start => exact ⟨.single .start, settled_of_unstarted (start_unstarted h) settled⟩
  | beat running frame timestamp delta =>
    obtain ⟨works, rest⟩ := beat_works w.distinct settled running frame timestamp delta
    exact ⟨works_run works, rest⟩
  | release id =>
    obtain ⟨works, rest⟩ := release_works w.distinct settled id
    exact ⟨works_run works, rest⟩
  | write id port m =>
    have acts := writePort_acts w.distinct id port m
    exact ⟨.single (.work (.write id port m)), acts.settled settled⟩
  | read id port =>
    have acts := readPort_acts id port none h.engine
    exact ⟨.single (.work (.read id port none)), acts.settled settled⟩
  | stop =>
    exact ⟨.single (stop_step h fun _ => trivial), settled_of_unstarted (stop_unstarted h) settled⟩
  | registry r => exact ⟨.single (.registry r), settled⟩

/-- Whatever sequence of operations an engine went through, steps lead there. -/
theorem operations_reachable {h h' : Hosted} (reach : Reachable (fun _ => True) h)
    (settled : h.engine.Settled) (ops : Relation.ReflTransGen Operation h h') :
    Reachable (fun _ => True) h' ∧ h'.engine.Settled := by
  induction ops with
  | refl => exact ⟨reach, settled⟩
  | tail _ op ih =>
    obtain ⟨run, rest⟩ := operation_run ih.1 ih.2 op
    exact ⟨reachable_run ih.1 run, rest⟩

end Hosted

end Tickflow
