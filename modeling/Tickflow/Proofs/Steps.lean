import Tickflow.Proofs.Commands
/-!
What one step of a flow can do, said twice: for the messages on their way, and for the ticks. Most
kinds of steps are alike in both respects, so each view has few cases.
-/
namespace Tickflow

namespace Engine

theorem issue_arranged (frame : Nat) (timestamp delta : Float) (e : Engine) :
    Arranged e (e.issue frame timestamp delta) := .of_same rfl rfl rfl

theorem modify_plugs {f : Handler → Handler} (id : HandlerId) (e : Engine)
    (keeps : ∀ h, (f h).id = h.id ∧ (f h).ports = h.ports) : (e.modify id f).plugs = e.plugs :=
  map_modify fun h _ _ => by rw [(keeps h).1, (keeps h).2]

theorem beginCall_arranged (id : HandlerId) (e : Engine) : Arranged e (e.beginCall id) := by
  unfold beginCall
  split
  · exact .refl e
  · dsimp only
    split
    · exact .of_same rfl rfl rfl
    · split
      · exact .of_same (modify_plugs id _ fun _ => ⟨rfl, rfl⟩) rfl rfl
      · exact .of_same rfl rfl rfl

theorem beginCall_cells (id : HandlerId) (e : Engine) : (e.beginCall id).cells = e.cells := by
  unfold beginCall
  split
  · rfl
  · dsimp only
    split
    · rfl
    · split <;> rfl

theorem finish_arranged (id : HandlerId) (c : Call) (how : Option Failure) (e : Engine) :
    Arranged e (e.finish id c how) := by
  refine .of_same ?_ ?_ ?_
  · refine (modify_plugs id _ ?_).trans ?_
    · exact fun _ => ⟨rfl, rfl⟩
    · cases how <;> rfl
  · cases how <;> rfl
  · cases how <;> rfl

theorem finish_scheduled (id : HandlerId) (c : Call) (how : Option Failure) (e : Engine) :
    Scheduled e (e.finish id c how) := by
  refine .of_same ?_ ?_ ?_ ?_
  · cases how <;> exact Nat.le_refl _
  · cases how <;> rfl
  · cases how <;> rfl
  · intro h mem c' call
    rw [finish_handlers] at mem
    obtain ⟨g, mg, rfl⟩ := List.mem_map.mp mem
    unfold changed at call ⊢
    split at call
    · cases call
    · rename_i other
      rw [if_neg other]
      exact ⟨g, mg, rfl, c', call, rfl, rfl⟩

section
variable {e e' : Engine} (same : e'.still = e.still)
include same

theorem still_arranged : Arranged e e' := by
  have look (e : Engine) : e.still.plugs = e.plugs := by
    simp [plugs, still, Handler.still]
  refine .of_same ?_ (congrArg Engine.connections same :) (congrArg Engine.cells same :)
  rw [← look e', same, look e]

theorem still_scheduled (later : e.now ≤ e'.now) : Scheduled e e' := by
  refine .of_same later (congrArg Engine.state same :) (congrArg Engine.broadcaster same :) ?_
  intro h mem c call
  obtain ⟨g, mg, alike⟩ := mem_of_map_eq (congrArg handlers same :) mem
  have calls := (congrArg Handler.call alike :)
  simp only [Handler.still, call, Option.map_some] at calls
  obtain ⟨x, found, both⟩ := Option.map_eq_some_iff.mp calls
  exact ⟨g, mg, (congrArg Handler.id alike :), x, found, (congrArg Call.tick both :),
    (congrArg Call.startedAt both :)⟩

theorem still_wiring : e'.wiring = e.wiring := by
  have look (e : Engine) : e.still.wiring = e.wiring := by
    simp only [wiring, still, List.map_map]
    rfl
  rw [← look e', same, look e]

end

/-! Numbering a message. -/

theorem handler_modify {f : Handler → Handler} (keeps : ∀ h, (f h).id = h.id) (id x : HandlerId)
    (e : Engine) : (e.modify id f).handler? x = (e.handler? x).map (changed id f) :=
  find_handler_map (changed_id keeps id) e.handlers x

theorem modify_own {f : Handler → Handler} (keeps : ∀ h, (f h).id = h.id) (id : HandlerId)
    (e : Engine) : (e.modify id f).handler? id = (e.handler? id).map f := by
  rw [handler_modify keeps]
  refine Option.map_congr fun h found => if_pos ?_
  exact (mem_of_handler found).2

theorem modify_other {f : Handler → Handler} (keeps : ∀ h, (f h).id = h.id) {id x : HandlerId}
    (other : id ≠ x) (e : Engine) : (e.modify id f).handler? x = e.handler? x := by
  rw [handler_modify keeps]
  refine (Option.map_congr fun h found => if_neg ?_).trans Option.map_id'
  rw [(mem_of_handler found).2]
  exact Ne.symm other

end Engine

namespace HandlerPorts

theorem setOutput_output (ports : HandlerPorts) (r : OutputPort) (name : String) :
    (ports.setOutput r).output? name =
      (ports.output? name).map fun p => if p.name = r.name then r else p := by
  have keeps (p : OutputPort) : (if p.name = r.name then r else p).name = p.name := by
    split
    · rename_i same
      exact same.symm
    · rfl
  exact find_map_of_key keeps _ _

end HandlerPorts

namespace Engine

section
variable {a b : PortAddress} {q : OutputPort} {e : Engine} (found : e.output? a = some q)
include found

theorem counted_here :
    (e.counted a q).output? a = some { q with nextSequence := q.nextSequence + 1 } := by
  obtain ⟨h, at_id, at_name⟩ := Option.bind_eq_some_iff.mp found
  rw [output?, counted, handler_modify (by exact fun _ => rfl), at_id, Option.map_some,
    Option.bind_some, changed, if_pos (mem_of_handler at_id).2, HandlerPorts.setOutput_output,
    at_name]
  exact congrArg some (if_pos rfl)

theorem counted_elsewhere (other : b ≠ a) : (e.counted a q).output? b = e.output? b := by
  obtain ⟨_, _, _, _, name⟩ := mem_output found
  unfold output?
  rw [counted, handler_modify (by exact fun _ => rfl)]
  cases at_id : e.handler? b.handler with
  | none => rfl
  | some h =>
    rw [Option.map_some, Option.bind_some, Option.bind_some]
    unfold changed
    split
    · rename_i here
      rw [(mem_of_handler at_id).2] at here
      rw [HandlerPorts.setOutput_output]
      cases at_name : h.ports.output? b.port with
      | none => rfl
      | some p =>
        have port := (key_of_find at_name).2
        refine congrArg some (if_neg ?_)
        intro same
        have same : p.name = q.name := same
        apply other
        cases b
        cases a
        simp_all
    · rfl

end

theorem counted_wiring {a : PortAddress} {q : OutputPort} {e : Engine} (w : e.Wired)
    (found : e.output? a = some q) : (e.counted a q).wiring = e.wiring := by
  refine wiring_of_unworked (unworked_of_unacted (unacted_modify ?_))
  intro h mem at_id
  have here : h.ports.output? q.name = some q := by
    obtain ⟨x, at_x, at_name⟩ := Option.bind_eq_some_iff.mp found
    have same : h = x := handler_unique w.distinct.ids mem (mem_of_handler at_x).1
      (at_id.trans (mem_of_handler at_x).2.symm)
    rw [same, (key_of_find at_name).2]
    exact at_name
  have unused := setOutput_unused (w.distinct.ports h mem) here
    (r := { q with nextSequence := q.nextSequence + 1 }) rfl
  simp only [Handler.unacted]
  rw [unused]
  rfl

theorem counted_scheduled (a : PortAddress) (q : OutputPort) (e : Engine) :
    Scheduled e (e.counted a q) := by
  refine .of_same (Nat.le_refl _) rfl rfl ?_
  intro h mem c call
  obtain ⟨g, mg, rfl⟩ := List.mem_map.mp mem
  dsimp only at call ⊢
  split at call <;> split <;> exact ⟨g, mg, rfl, c, call, rfl, rfl⟩

end Engine

namespace Flow

open Engine

variable {f g : Flow} {s t : List Event}

structure Silent (s : List Event) : Prop where
  outcomes : ∀ n, outcomes n s = []
  taken : ∀ n, taken n s = []
  reads : ∀ a n look m, Event.read a n look m ∉ s

theorem silent_nil : Silent [] := ⟨fun _ => rfl, fun _ => rfl, by simp⟩

structure Calm (f : Flow) (s : List Event) (g : Flow) : Prop where
  arranged : Arranged f.engine g.engine
  parcels : g.parcels = f.parcels
  silent : Silent s

theorem beat_calm (b : Beat f s g) : Calm f s g := by
  cases b with
  | issue =>
    refine ⟨.trans ?_ (issue_arranged _ _ _ _), rfl, fun _ => rfl, fun _ => rfl, by simp⟩
    exact .of_same rfl rfl rfl
  | begin =>
    refine ⟨.trans ?_ (beginCall_arranged _ _), rfl, silent_nil⟩
    exact .of_same rfl rfl rfl
  | look => exact ⟨.refl _, rfl, fun _ => rfl, fun _ => rfl, by simp⟩
  | finish id c how => exact ⟨finish_arranged id c how f.engine, rfl, silent_nil⟩

theorem step_calm (w : f.engine.Wired) (step : Step f s g) : Calm f s g ∨ Move f s g := by
  cases step with
  | command c => exact .inl ⟨(Hosted.command_arranged w c).1, rfl, silent_nil⟩
  | beat b => exact .inl (beat_calm b)
  | move m => exact .inr m
  | still same => exact .inl ⟨still_arranged same, rfl, silent_nil⟩

structure Steady (f : Flow) (s : List Event) (g : Flow) : Prop where
  scheduled : Scheduled f.engine g.engine
  looks : g.looks = f.looks
  issues : issues s = []
  cutoffs : ∀ id, cutoffs id s = []

theorem move_steady (m : Move f s g) : Steady f s g := by
  have kept (e : Engine) (now : f.engine.now ≤ e.now) (state : e.state = f.engine.state)
      (broadcaster : e.broadcaster = f.engine.broadcaster)
      (handlers : e.handlers = f.engine.handlers) : Scheduled f.engine e :=
    .of_same now state broadcaster (same_calls handlers)
  cases m with
  | read => exact ⟨kept _ (Nat.le_refl _) rfl rfl rfl, rfl, rfl, fun _ => rfl⟩
  | number source => exact ⟨counted_scheduled source _ f.engine, rfl, rfl, fun _ => rfl⟩
  | enter source start held later => exact ⟨kept _ later rfl rfl rfl, rfl, rfl, fun _ => rfl⟩
  | settle => exact ⟨kept _ (Nat.le_refl _) rfl rfl rfl, rfl, rfl, fun _ => rfl⟩
  | done => exact ⟨.refl _, rfl, rfl, fun _ => rfl⟩

theorem step_steady (w : f.engine.Wired) (step : Step f s g) : Steady f s g ∨ Beat f s g := by
  cases step with
  | command c => exact .inl ⟨(Hosted.command_arranged w c).2, rfl, rfl, fun _ => rfl⟩
  | beat b => exact .inr b
  | move m => exact .inl (move_steady m)
  | still same later => exact .inl ⟨still_scheduled same later, rfl, rfl, fun _ => rfl⟩

theorem fill_wiring {n : CellId} {c c' : Cell Message} (here : f.engine.cells[n]? = some c)
    (same : c'.emptied = c.emptied) : (f.fill n c').engine.wiring = f.engine.wiring := by
  refine wiring_of_unworked (unworked_of_unacted ?_)
  have cells := map_set_same here same
  simp only [fill, put_engine, unacted, cells]

theorem beat_wiring (b : Beat f s g) : g.engine.wiring = f.engine.wiring := by
  have worked {e e' : Engine} (same : Worked e e') : e'.wiring = e.wiring :=
    wiring_of_unworked same.unworked
  cases b with
  | issue => rfl
  | begin id before => exact worked (e := { f.engine with now := before }) (beginCall_worked id _)
  | look => rfl
  | finish id c how => exact worked (finish_worked id c how f.engine)

theorem move_wiring (w : f.engine.Wired) (m : Move f s g) :
    g.engine.wiring = f.engine.wiring := by
  cases m with
  | read _ _ cutoff _ _ here => exact fill_wiring here (Cell.read_emptied cutoff _)
  | number source m found => exact counted_wiring w found
  | enter => rfl
  | settle _ _ here => exact fill_wiring here (Cell.write_emptied _ _ _)
  | done => rfl

theorem step_wiring (w : f.engine.Wired) (step : Step f s g) :
    f.host.Command g.host ∨ g.engine.wiring = f.engine.wiring := by
  cases step with
  | command c => exact .inl c
  | beat b => exact .inr (beat_wiring b)
  | move m => exact .inr (move_wiring w m)
  | still same => exact .inr (still_wiring same)

theorem step_wired (w : f.engine.Wired) (step : Step f s g) : g.engine.Wired := by
  rcases step_wiring w step with command | same
  · exact Hosted.command_wired w command
  · exact wired_of_wiring same w

theorem traced_wired (run : Traced t f) : f.engine.Wired := by
  induction run with
  | fresh made r =>
    obtain ⟨valid, _, rfl⟩ := make_blank made
    exact blank_wired valid
  | next _ step ih => exact step_wired ih step

end Flow

end Tickflow
