import Tickflow.Proofs.Frame
/-!
The calls that handlers received, and what the steps of starting and stopping do to them, to the
states of handlers and to cells.
-/
namespace Tickflow

inductive CallKind where
  | start
  | process
  | stop
  deriving DecidableEq, Repr

def JournalEvent.kind : JournalEvent → CallKind
  | .started .. => .start
  | .stopped => .stop
  | .processed .. => .process

def Handler.marked (ids : List HandlerId) (s : LifecycleState) (h : Handler) : Handler :=
  if h.id ∈ ids then { h with state := s } else h

@[simp] theorem marked_id (ids : List HandlerId) (s : LifecycleState) (h : Handler) :
    (h.marked ids s).id = h.id := by
  unfold Handler.marked
  split <;> rfl

theorem marked_marked (first second : List HandlerId) (s : LifecycleState) (h : Handler) :
    (h.marked first s).marked second s = h.marked (first ++ second) s := by
  unfold Handler.marked
  by_cases here : h.id ∈ first <;> by_cases there : h.id ∈ second <;> simp [here, there]

namespace Engine

def calls (e : Engine) : List (HandlerId × CallKind) :=
  e.journal.map fun entry => (entry.handler, entry.event.kind)

def callsOf (id : HandlerId) (e : Engine) : List CallKind :=
  (e.calls.filter (·.1 = id)).map (·.2)

theorem calls_record (id : HandlerId) (event : JournalEvent) (e : Engine) :
    (e.record id event).calls = e.calls ++ [(id, event.kind)] := by
  simp [calls, record]

theorem callsOf_append {e e' : Engine} {more : List (HandlerId × CallKind)}
    (appended : e'.calls = e.calls ++ more) (id : HandlerId) :
    e'.callsOf id = e.callsOf id ++ (more.filter (·.1 = id)).map (·.2) := by
  simp [callsOf, appended]

theorem handlers_setState (id : HandlerId) (s : LifecycleState) (e : Engine) :
    (e.setState id s).handlers = e.handlers.map (·.marked [id] s) := by
  simp [setState, handlers_modify, changed, Handler.marked]

theorem mem_marked {ids : List HandlerId} {s : LifecycleState} {e e' : Engine}
    (handlers : e'.handlers = e.handlers.map (·.marked ids s)) {h : Handler}
    (mem : h ∈ e'.handlers) : (h.id ∈ ids ∧ h.state = s) ∨ (h.id ∉ ids ∧ h ∈ e.handlers) := by
  rw [handlers] at mem
  obtain ⟨x, mx, rfl⟩ := List.mem_map.mp mem
  rw [marked_id]
  by_cases here : x.id ∈ ids
  · exact .inl ⟨here, by simp only [Handler.marked, if_pos here]⟩
  · exact .inr ⟨here, by simpa only [Handler.marked, if_neg here] using mx⟩

/-! One call of a handler. -/

structure Called (e e' : Engine) : Prop where
  handlers : e'.handlers = e.handlers
  cells : e'.cells = e.cells
  unstarted : e'.unstarted = e.unstarted
  broadcaster : e'.broadcaster = e.broadcaster
  state : e'.state = e.state

theorem callStart_called (id : HandlerId) (e : Engine) : Called e (e.callStart id).2 := by
  refine ⟨?_, ?_, callStart_unstarted id e, ?_, ?_⟩ <;> unfold callStart <;> split <;> rfl

theorem callStop_called (id : HandlerId) (e : Engine) : Called e (e.callStop id) := by
  refine ⟨?_, ?_, callStop_unstarted id e, ?_, ?_⟩ <;> unfold callStop <;> split <;> try rfl
  all_goals
    split
    · rfl
    · dsimp only
      split <;> rfl

theorem callStart_calls {e : Engine} {id : HandlerId} {h : Handler}
    (found : e.handler? id = some h) : (e.callStart id).2.calls = e.calls ++ [(id, .start)] := by
  simp only [callStart, found]
  exact calls_record _ _ _

theorem callStart_fault {e : Engine} {id : HandlerId} {h : Handler}
    (found : e.handler? id = some h) :
    (e.callStart id).1 = none ↔ h.behaviour.onStart = none := by
  simp only [callStart, found]
  cases h.behaviour.onStart with
  | none => simp
  | some how => cases how <;> simp

theorem callStop_calls {e : Engine} {id : HandlerId} {h : Handler}
    (found : e.handler? id = some h) (free : h.call = none) :
    (e.callStop id).calls = e.calls ++ [(id, .stop)] := by
  simp only [callStop, found, free, Option.isSome_none, Bool.false_eq_true, ↓reduceIte]
  split
  · exact calls_record _ _ _
  · exact calls_record _ _ _

/-! Stopping several handlers. -/

theorem stopAll_handlers (ids : List HandlerId) (e : Engine) :
    (e.stopAll ids).handlers = e.handlers.map (·.marked ids .stopped) := by
  induction ids with
  | nil => simp [stopAll, Handler.marked]
  | cons id rest ih =>
    change ((((e.stopAll rest).callStop id).setState id .stopped)).handlers = _
    rw [handlers_setState, (callStop_called id _).handlers, ih, List.map_map]
    apply List.map_congr_left
    intro h _
    rw [Function.comp_apply, marked_marked]
    simp [Handler.marked, or_comm]

theorem stopAll_rest (ids : List HandlerId) (e : Engine) :
    (e.stopAll ids).cells = e.cells ∧ (e.stopAll ids).broadcaster = e.broadcaster ∧
      (e.stopAll ids).state = e.state := by
  induction ids with
  | nil => exact ⟨rfl, rfl, rfl⟩
  | cons id rest ih =>
    have called := callStop_called id (e.stopAll rest)
    exact ⟨called.cells.trans ih.1, called.broadcaster.trans ih.2.1, called.state.trans ih.2.2⟩

theorem marked_call (ids : List HandlerId) (s : LifecycleState) (h : Handler) :
    (h.marked ids s).call = h.call := by
  unfold Handler.marked
  split <;> rfl

theorem stopAll_calls {ids : List HandlerId} {e : Engine} (there : ∀ id ∈ ids, id ∈ e.ids)
    (quiet : ∀ h ∈ e.handlers, h.id ∈ ids → h.call = none) :
    (e.stopAll ids).calls = e.calls ++ ids.reverse.map fun id => (id, .stop) := by
  induction ids with
  | nil => simp [stopAll]
  | cons id rest ih =>
    have later := ih (fun x mem => there x (List.mem_cons_of_mem _ mem))
      fun h mh mem => quiet h mh (List.mem_cons_of_mem _ mem)
    obtain ⟨h, mh, at_id, found⟩ := handler_of_id_mem (there id List.mem_cons_self)
    have found' : (e.stopAll rest).handler? id = some (h.marked rest .stopped) := by
      rw [handler?, stopAll_handlers, find_handler_map (marked_id rest .stopped),
        show e.handlers.find? _ = _ from found]
      rfl
    have free : (h.marked rest .stopped).call = none := by
      rw [marked_call]
      exact quiet h mh (at_id ▸ List.mem_cons_self)
    have stopped := callStop_calls found' free
    change ((e.stopAll rest).callStop id).calls = _
    rw [stopped, later]
    simp

theorem callsOf_elsewhere {e e' : Engine} {id x : HandlerId} {kind : CallKind}
    (appended : e'.calls = e.calls ++ [(id, kind)]) (other : id ≠ x) :
    e'.callsOf x = e.callsOf x := by
  rw [callsOf_append appended]
  simp [other]

theorem callStop_elsewhere {id x : HandlerId} (other : id ≠ x) (e : Engine) :
    (e.callStop id).callsOf x = e.callsOf x := by
  cases found : e.handler? id with
  | none => simp only [callStop, found]
  | some h =>
    cases call : h.call with
    | none => exact callsOf_elsewhere (callStop_calls found call) other
    | some c =>
      simp only [callStop, found, call, Option.isSome_some, ↓reduceIte]
      rfl

theorem stopAll_elsewhere {ids : List HandlerId} {x : HandlerId} (other : x ∉ ids) (e : Engine) :
    (e.stopAll ids).callsOf x = e.callsOf x := by
  induction ids with
  | nil => rfl
  | cons id rest ih =>
    rw [List.mem_cons, not_or] at other
    exact (callStop_elsewhere (Ne.symm other.1) _).trans (ih other.2)

/-! Closing cells. -/

def feeding (id : HandlerId) (e : Engine) : List CellId :=
  ((e.handler? id).map fun h => h.ports.inputs.filterMap (·.cell)).getD []

theorem close_close (c : Cell α) : c.close.close = c.close := by
  simp [Cell.close, Cell.clear, Cell.cleared_cleared]

theorem foldl_close (ns : List CellId) (cells : CellStore) (n : CellId) :
    (ns.foldl (fun cells c => cells.modify c Cell.close) cells)[n]? =
      if n ∈ ns then (cells[n]?).map Cell.close else cells[n]? := by
  induction ns generalizing cells with
  | nil => simp
  | cons m rest ih =>
    rw [List.foldl_cons, ih, List.getElem?_modify]
    by_cases here : m = n
    · subst m
      simp [Function.comp_def, close_close]
    · have other : n ∈ m :: rest ↔ n ∈ rest := by simp [Ne.symm here]
      simp [here, other]

theorem closeInputs_cells (id : HandlerId) (e : Engine) (n : CellId) :
    (e.closeInputs id).cells[n]? =
      if n ∈ e.feeding id then (e.cells[n]?).map Cell.close else e.cells[n]? := by
  unfold closeInputs feeding
  cases found : e.handler? id with
  | none => simp
  | some h => exact foldl_close _ _ _

theorem closeInputs_rest (id : HandlerId) (e : Engine) :
    (e.closeInputs id).handlers = e.handlers ∧ (e.closeInputs id).calls = e.calls ∧
      (e.closeInputs id).broadcaster = e.broadcaster ∧ (e.closeInputs id).state = e.state := by
  unfold closeInputs
  split <;> exact ⟨rfl, rfl, rfl, rfl⟩

/-! Ending a run. -/

theorem reportEach_notices (notice : HandlerId → Notice) (ids : List HandlerId) (e : Engine) :
    ∃ notices, ids.foldl (fun e id => e.report (notice id)) e = { e with notices } := by
  induction ids generalizing e with
  | nil => exact ⟨e.notices, rfl⟩
  | cons id rest ih => exact ih (e.report (notice id))

theorem reportBusy_notices (ids : List HandlerId) (e : Engine) :
    ∃ notices, e.reportBusy ids = { e with notices } := by
  simp only [reportBusy]
  split
  · exact reportEach_notices _ _ _
  · exact reportEach_notices _ _ _

theorem quiesce_handlers (ids : List HandlerId) (e : Engine) :
    (e.quiesce ids).handlers = e.handlers.map (·.marked ids .stopping) := by
  have marked (ids : List HandlerId) (e : Engine) :
      (ids.foldl (fun e id => e.setState id .stopping) e).handlers =
        e.handlers.map (·.marked ids .stopping) := by
    induction ids generalizing e with
    | nil => simp [Handler.marked]
    | cons id rest ih =>
      rw [List.foldl_cons, ih, handlers_setState, List.map_map]
      apply List.map_congr_left
      intro h _
      exact marked_marked [id] rest .stopping h
  exact marked ids e

theorem quiesce_rest (ids : List HandlerId) (e : Engine) :
    (e.quiesce ids).cells = e.cells ∧ (e.quiesce ids).calls = e.calls ∧
      (e.quiesce ids).state = e.state := by
  have folded (ids : List HandlerId) (e : Engine) :
      (ids.foldl (fun e id => e.setState id .stopping) e).cells = e.cells ∧
        (ids.foldl (fun e id => e.setState id .stopping) e).calls = e.calls ∧
        (ids.foldl (fun e id => e.setState id .stopping) e).state = e.state := by
    induction ids generalizing e with
    | nil => exact ⟨rfl, rfl, rfl⟩
    | cons id rest ih => exact ih (e.setState id .stopping)
  exact folded ids e

end Engine

def Handler.unnamed (h : Handler) : Handler := { h with uri := none }

def Handler.retired (h : Handler) : Handler :=
  { h with state := if h.state = .failed then .failed else .stopped, uri := none }

theorem retired_retired (h : Handler) : h.retired.retired = h.retired := by
  unfold Handler.retired
  by_cases failed : h.state = .failed <;> simp [failed]

namespace Hosted

open Engine

theorem retire_handlers (id : HandlerId) (h : Hosted) :
    ((h.retire id).unname id).engine.handlers.map Handler.unnamed =
      h.engine.handlers.map fun x => if x.id = id then x.retired else x.unnamed := by
  have unnamed : ((h.retire id).unname id).engine.handlers.map Handler.unnamed =
      (h.retire id).engine.handlers.map Handler.unnamed := by
    have same (e : Engine) : (e.modify id fun x => { x with uri := none }).handlers.map
        Handler.unnamed = e.handlers.map Handler.unnamed := map_modify fun _ _ _ => rfl
    unfold unname
    split
    · rfl
    · dsimp only
      split
      · exact same _
      · split <;> exact same _
  rw [unnamed]
  simp only [retire, handlers_modify, List.map_map, List.map_inj_left, Function.comp_apply]
  intro x _
  unfold changed
  split <;> rfl

theorem retireAll_handlers (ids : List HandlerId) (h : Hosted) :
    (ids.foldl (fun h id => (h.retire id).unname id) h).engine.handlers.map Handler.unnamed =
      h.engine.handlers.map fun x => if x.id ∈ ids then x.retired else x.unnamed := by
  induction ids generalizing h with
  | nil => simp
  | cons id rest ih =>
    have split (e : Engine) : (e.handlers.map fun x =>
        if x.id ∈ rest then x.retired else x.unnamed) =
        (e.handlers.map Handler.unnamed).map fun x => if x.id ∈ rest then x.retired else x := by
      rw [List.map_map]
      rfl
    rw [List.foldl_cons, ih, split, retire_handlers]
    simp only [List.map_map, List.map_inj_left, Function.comp_apply, List.mem_cons]
    intro x _
    by_cases here : x.id = id <;> by_cases there : x.id ∈ rest
    · rw [if_pos here, if_pos (show x.retired.id ∈ rest from there), if_pos (.inl here),
        retired_retired]
    · rw [if_pos here, if_neg (show x.retired.id ∉ rest from there), if_pos (.inl here)]
    · rw [if_neg here, if_pos (show x.unnamed.id ∈ rest from there), if_pos (.inr there)]
      rfl
    · rw [if_neg here, if_neg (show x.unnamed.id ∉ rest from there),
        if_neg (not_or.mpr ⟨here, there⟩)]

theorem finishStop_handlers (h : Hosted) : h.finishStop.engine.handlers.map Handler.unnamed =
    h.engine.handlers.map Handler.retired := by
  refine (retireAll_handlers h.engine.ids h).trans (List.map_congr_left fun x mem => ?_)
  have known : x.id ∈ h.engine.ids := List.mem_map_of_mem mem
  rw [if_pos known]

theorem unname_rest (id : HandlerId) (h : Hosted) :
    (h.unname id).engine.cells = h.engine.cells ∧ (h.unname id).engine.calls = h.engine.calls := by
  unfold unname
  split
  · exact ⟨rfl, rfl⟩
  · dsimp only
    split
    · exact ⟨rfl, rfl⟩
    · split <;> exact ⟨rfl, rfl⟩

theorem finishStop_rest (h : Hosted) : h.finishStop.engine.cells = h.engine.cells ∧
    h.finishStop.engine.calls = h.engine.calls := by
  have folded (ids : List HandlerId) (h : Hosted) :
      (ids.foldl (fun h id => (h.retire id).unname id) h).engine.cells = h.engine.cells ∧
        (ids.foldl (fun h id => (h.retire id).unname id) h).engine.calls = h.engine.calls := by
    induction ids generalizing h with
    | nil => exact ⟨rfl, rfl⟩
    | cons id rest ih =>
      have one := unname_rest id (h.retire id)
      have more := ih ((h.retire id).unname id)
      exact ⟨more.1.trans one.1, more.2.trans one.2⟩
  exact folded h.engine.ids h

theorem tearDown_handlers (active : List HandlerId) (h : Hosted) :
    (h.tearDown active).engine.handlers.map Handler.unnamed =
      h.engine.handlers.map fun x => (x.marked active .stopped).retired := by
  obtain ⟨notices, busy⟩ := reportBusy_notices active h.engine
  have all := finishStop_handlers { h with engine := (h.engine.reportBusy active).stopAll active }
  refine all.trans ?_
  rw [stopAll_handlers, busy, List.map_map]
  rfl

theorem tearDown_cells (active : List HandlerId) (h : Hosted) :
    (h.tearDown active).engine.cells = h.engine.cells := by
  obtain ⟨notices, busy⟩ := reportBusy_notices active h.engine
  have all := finishStop_rest { h with engine := (h.engine.reportBusy active).stopAll active }
  rw [tearDown, all.1, (stopAll_rest active _).1, busy]

theorem tearDown_calls {active : List HandlerId} {h : Hosted}
    (there : ∀ id ∈ active, id ∈ h.engine.ids) (quiet : h.engine.Quiet) :
    (h.tearDown active).engine.calls =
      h.engine.calls ++ active.reverse.map fun id => (id, .stop) := by
  obtain ⟨notices, busy⟩ := reportBusy_notices active h.engine
  have all := finishStop_rest { h with engine := (h.engine.reportBusy active).stopAll active }
  have stopped := stopAll_calls (e := { h.engine with notices }) there fun x mem _ => quiet x mem
  rw [tearDown, all.2, busy, stopped]
  rfl

theorem tearDown_elsewhere {active : List HandlerId} {x : HandlerId} (other : x ∉ active)
    (h : Hosted) : (h.tearDown active).engine.callsOf x = h.engine.callsOf x := by
  obtain ⟨notices, busy⟩ := reportBusy_notices active h.engine
  have all := finishStop_rest { h with engine := (h.engine.reportBusy active).stopAll active }
  rw [callsOf, tearDown, all.2]
  refine (stopAll_elsewhere other _).trans ?_
  rw [busy]
  rfl

end Hosted

end Tickflow
