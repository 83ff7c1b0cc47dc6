import Tickflow.Proofs.Cells
/-!
What the operations of an engine leave alone. Each kind of operation has an erasure: the engine less
what the operation may change. That an operation keeps to it is then an equation, and equations
compose. The erasures widen from actions over all other work to starting and stopping; how the
handlers are wired is what is left at the end.
-/
namespace Tickflow

def LifecycleState.begun : LifecycleState → LifecycleState
  | .running => .started
  | s => s

namespace Handler

/-- The handler less what its actions change. -/
def unacted (h : Handler) : Handler :=
  { h with bridged := none, ports := ⟨h.ports.inputs, h.ports.outputs.map OutputPort.unused⟩ }

def unworked (h : Handler) : Handler :=
  { h.unacted with state := h.state.begun, stats := ⟨0, 0, none⟩, call := none }

def finished (c : Call) (how : Option Failure) (h : Handler) : Handler :=
  { h with
    call := none
    stats := {
      processed := h.stats.processed + 1
      errors := h.stats.errors + how.toList.length
      lastFrame := HandlerStats.kept c.tick.frame }
    state := if h.state = .started then .running else h.state }

def unstarted (h : Handler) : Handler := { h with state := .created, uri := none }

def wiring (h : Handler) : Handler := h.unworked.unstarted

end Handler

namespace Engine

def unacted (e : Engine) : Engine :=
  { e with
    handlers := e.handlers.map Handler.unacted, cells := e.cells.map Cell.emptied
    pool := .make 0, now := 0 }

def unworked (e : Engine) : Engine :=
  { e with
    handlers := e.handlers.map Handler.unworked, cells := e.cells.map Cell.emptied
    pool := .make 0, now := 0, broadcaster := .make 0, nextFrame := 0, notices := []
    journal := [] }

def unstarted (e : Engine) : Engine :=
  { e with
    handlers := e.handlers.map Handler.unstarted
    cells := e.cells.map fun c => { c.emptied with closed := false }
    broadcaster := .make 0, state := .idle, notices := [], journal := [] }

def wiring (e : Engine) : Engine :=
  { e with
    handlers := e.handlers.map Handler.wiring
    cells := e.cells.map fun c => { c.emptied with closed := false }
    pool := .make 0, now := 0, broadcaster := .make 0, nextFrame := 0, portRange := none
    state := .idle, notices := [], journal := [] }

end Engine

theorem emptied_emptied (c : Cell α) : c.emptied.emptied = c.emptied := by
  simp [Cell.emptied, Cell.cleared_cleared]

theorem unused_unused (q : OutputPort) : q.unused.unused = q.unused := rfl

namespace Handler

theorem unworked_unacted (h : Handler) : h.unacted.unworked = h.unworked := by
  simp [unacted, unworked, Function.comp_def, unused_unused]

theorem wiring_unworked (h : Handler) : h.unworked.wiring = h.wiring := by
  simp [unacted, unworked, wiring, unstarted, Function.comp_def, unused_unused]

theorem wiring_unstarted (h : Handler) : h.unstarted.wiring = h.wiring := rfl

end Handler

namespace Engine

theorem unworked_unacted (e : Engine) : e.unacted.unworked = e.unworked := by
  simp [unacted, unworked, Handler.unworked_unacted, emptied_emptied]

theorem wiring_unworked (e : Engine) : e.unworked.wiring = e.wiring := by
  simp [unworked, wiring, Handler.wiring_unworked, emptied_emptied]

theorem wiring_unstarted (e : Engine) : e.unstarted.wiring = e.wiring := by
  simp [unstarted, wiring, Handler.wiring_unstarted, Cell.emptied, Cell.cleared_cleared]

theorem unworked_of_unacted {a b : Engine} (same : b.unacted = a.unacted) :
    b.unworked = a.unworked := by
  rw [← unworked_unacted, same, unworked_unacted]

theorem wiring_of_unworked {a b : Engine} (same : b.unworked = a.unworked) :
    b.wiring = a.wiring := by
  rw [← wiring_unworked, same, wiring_unworked]

theorem wiring_of_unstarted {a b : Engine} (same : b.unstarted = a.unstarted) :
    b.wiring = a.wiring := by
  rw [← wiring_unstarted, same, wiring_unstarted]

/-! Actions. -/

theorem unacted_modify {f : Handler → Handler} {id : HandlerId} {e : Engine}
    (keeps : ∀ h ∈ e.handlers, h.id = id → (f h).unacted = h.unacted) :
    (e.modify id f).unacted = e.unacted := by
  simp only [unacted, map_modify keeps]
  rfl

theorem distinct_wiring (e : Engine) : e.wiring.Distinct ↔ e.Distinct := by
  have inputs (h : Handler) : h.wiring.ports.inputs = h.ports.inputs := rfl
  have outputs (h : Handler) :
      h.wiring.ports.outputs.map (·.name) = h.ports.outputs.map (·.name) := by
    change (h.ports.outputs.map OutputPort.unused).map OutputPort.name = _
    rw [List.map_map]
    rfl
  have ports (h : Handler) : h.wiring.ports.Distinct ↔ h.ports.Distinct := by
    constructor
    · intro d
      exact ⟨d.inputs, outputs h ▸ d.outputs⟩
    · intro d
      exact ⟨d.inputs, (outputs h).symm ▸ d.outputs⟩
  have ids : e.wiring.ids = e.ids := by
    simp [Engine.ids, wiring, Handler.wiring, Handler.unworked, Handler.unacted,
      Handler.unstarted, Function.comp_def]
  constructor
  · intro d
    refine ⟨ids ▸ d.ids, fun h mem => (ports h).mp (d.ports h.wiring ?_)⟩
    exact List.mem_map_of_mem mem
  · intro d
    refine ⟨ids.symm ▸ d.ids, fun h mem => ?_⟩
    obtain ⟨x, mx, rfl⟩ := List.mem_map.mp mem
    exact (ports x).mpr (d.ports x mx)

theorem distinct_of_wiring {a b : Engine} (d : a.Distinct) (same : b.wiring = a.wiring) :
    b.Distinct := by
  rw [← distinct_wiring, same, distinct_wiring]
  exact d

theorem setOutput_unused {ports : HandlerPorts} (distinct : ports.Distinct) {q r : OutputPort}
    (found : ports.output? q.name = some q) (same : r.unused = q.unused) :
    (ports.setOutput r).outputs.map OutputPort.unused = ports.outputs.map OutputPort.unused := by
  have name : r.name = q.name := show r.unused.name = q.unused.name by rw [same]
  simp only [HandlerPorts.setOutput, List.map_map, List.map_inj_left, Function.comp_apply]
  intro p mem
  split
  · rename_i at_name
    have self := HandlerPorts.output_of_mem distinct mem
    rw [at_name, name, found] at self
    rw [same, Option.some.inj self]
  · rfl

structure Acts (e e' : Engine) : Prop where
  unacted : e'.unacted = e.unacted
  dead : DeadStay e.cells e'.cells

theorem Acts.refl (e : Engine) : Acts e e := ⟨rfl, dead_stay_refl _⟩

theorem Acts.trans {a b c : Engine} (first : Acts a b) (second : Acts b c) : Acts a c :=
  ⟨second.unacted.trans first.unacted, dead_stay_trans first.dead second.dead⟩

theorem Acts.distinct {a b : Engine} (acts : Acts a b) (d : a.Distinct) : b.Distinct :=
  distinct_of_wiring d (wiring_of_unworked (unworked_of_unacted acts.unacted))

theorem Acts.handler {g : Handler → Option α} (blind : ∀ h, g h.unacted = g h) {e e' : Engine}
    (acts : Acts e e') (id : HandlerId) : (e'.handler? id).bind g = (e.handler? id).bind g := by
  have look (e : Engine) : (e.unacted.handler? id).bind g = (e.handler? id).bind g := by
    have found : e.unacted.handler? id = (e.handler? id).map Handler.unacted :=
      find_handler_map (by exact fun _ => rfl) e.handlers id
    rw [found, Option.bind_map]
    exact Option.bind_congr fun h _ => blind h
  rw [← look e', acts.unacted, look e]

theorem readPort_acts (id : HandlerId) (port : String) (cutoff : Option Nat) (e : Engine) :
    Acts e (e.readPort id port cutoff).2 := by
  unfold readPort
  split
  · exact .refl e
  · exact ⟨by simp only [unacted, input_read_emptied], input_read_dead _ _ _⟩

theorem writePort_acts {e : Engine} (d : e.Distinct) (id : HandlerId) (port : String)
    (m : Message) : Acts e (e.writePort id port m).2 := by
  unfold writePort
  split
  · exact .refl e
  · rename_i q found
    obtain ⟨h, at_id, at_name⟩ := Option.bind_eq_some_iff.mp found
    have name := (key_of_find at_name).2
    have unused := output_write_unused (e.now + 1) m q e.cells
    refine ⟨?_, output_write_dead _ _ _ _⟩
    rw [unacted_modify]
    · simp only [unacted, output_write_emptied]
    · intro x mem at_x
      have same : x = h :=
        handler_unique d.ids mem (mem_of_handler at_id).1 (at_x.trans (mem_of_handler at_id).2.symm)
      subst x
      simp only [Handler.unacted]
      rw [setOutput_unused (d.ports h mem) (by rw [name]; exact at_name) unused]
      rfl

theorem writeNoted_acts {e : Engine} (d : e.Distinct) (id : HandlerId) (port : String)
    (m : Message) (event : CallEvent) : Acts e (e.writeNoted id port m event).2 := by
  have written := writePort_acts d id port m
  unfold writeNoted
  split <;> rename_i result <;> rw [result] at written <;> exact written

theorem bridge_acts {e : Engine} (d : e.Distinct) (id : HandlerId) (c : Call)
    (source target : String) (location : Location) :
    Acts e (e.bridge id c source target location).2 := by
  have taken := readPort_acts id source (some (e.cutoff c)) e
  unfold bridge
  split <;> rename_i result <;> rw [result] at taken
  · exact taken
  · exact taken
  · rename_i e₁
    split
    · exact taken
    · rename_i m _
      let e₂ := e₁.modify id fun h => { h with bridged := some m.sequence }
      have noted : Acts e₁ e₂ := ⟨unacted_modify fun _ _ _ => rfl, dead_stay_refl _⟩
      have filled : Acts e₂ (e₂.frozen m.bytes).2 := ⟨rfl, dead_stay_refl _⟩
      have kept := taken.trans (noted.trans filled)
      exact kept.trans (writeNoted_acts (kept.distinct d) id target _ _)

theorem fillBuffer_acts {e : Engine} (d : e.Distinct) (id : HandlerId) (c : Call) (length : Nat)
    (byte : UInt8) (port : Option String) : Acts e (e.fillBuffer id c length byte port).2.2 := by
  unfold fillBuffer
  cases port with
  | none => exact ⟨rfl, dead_stay_refl _⟩
  | some port =>
    dsimp only
    generalize ((e.pool.acquire length).2.freeze ((e.pool.acquire length).1.filled byte)) = frozen
    have kept : Acts e { e with pool := frozen.2 } := ⟨rfl, dead_stay_refl _⟩
    have written := writePort_acts (kept.distinct d) id port
      (Message.ofHost .data frozen.1 c.tick.timestamp)
    split <;> rename_i result <;> rw [result] at written <;> exact kept.trans written

theorem act_acts {e : Engine} (d : e.Distinct) (id : HandlerId) (c : Call) (a : Action) :
    Acts e (e.act id c a).2.2 := by
  cases a with
  | noteTick => exact .refl e
  | read port =>
    have taken := readPort_acts id port (some (e.cutoff c)) e
    simp only [act]
    split <;> rename_i result <;> rw [result] at taken <;> exact taken
  | readNow port =>
    have taken := readPort_acts id port none e
    simp only [act]
    split <;> rename_i result <;> rw [result] at taken <;> exact taken
  | write port m => exact writeNoted_acts d _ _ _ _
  | stamp port => exact writeNoted_acts d _ _ _ _
  | capture port => exact writeNoted_acts d _ _ _ _
  | forward source target =>
    have taken := readPort_acts id source (some (e.cutoff c)) e
    simp only [act]
    split <;> rename_i result <;> rw [result] at taken
    · exact taken
    · exact taken
    · exact taken.trans (writeNoted_acts (taken.distinct d) _ _ _ _)
  | buffer length byte port => exact fillBuffer_acts d _ _ _ _ _
  | bridge source target location => exact bridge_acts d _ _ _ _ _
  | fail how => exact .refl e
  | hold => exact .refl e

theorem advance_cases {e : Engine} (d : e.Distinct) (id : HandlerId) (c : Call) :
    ∃ e₁ c', Acts e e₁ ∧ c'.tick = c.tick ∧ c'.startedAt = c.startedAt ∧
      ((e.advance id c = e₁.setCall id c' ∧ ∃ s, c.rest = s :: c'.rest) ∨
        ∃ how, e.advance id c = e₁.finish id c' how) := by
  obtain ⟨tick, startedAt, rest, held, events⟩ := c
  cases rest with
  | nil => exact ⟨e, _, .refl e, rfl, rfl, .inr ⟨none, rfl⟩⟩
  | cons s rest =>
    obtain ⟨action, soft⟩ := s
    have acts := act_acts d id ⟨tick, startedAt, ⟨action, soft⟩ :: rest, held, events⟩ action
    unfold advance
    split
    · rename_i empty
      cases empty
    · rename_i stays
      obtain ⟨⟨rfl, rfl⟩, rfl⟩ : (action = .hold ∧ soft = _) ∧ rest = _ := by simpa using stays
      exact ⟨e, ⟨tick, startedAt, rest, true, events⟩, .refl e, rfl, rfl, .inl ⟨rfl, _, rfl⟩⟩
    · rename_i more _ stays
      obtain ⟨⟨rfl, rfl⟩, rfl⟩ : (action = _ ∧ soft = _) ∧ rest = _ := by simpa using stays
      dsimp only
      split
      · exact ⟨_, _, acts, rfl, rfl, .inl ⟨rfl, _, rfl⟩⟩
      · exact ⟨_, _, acts, rfl, rfl, .inr ⟨_, rfl⟩⟩
      · split
        · exact ⟨_, _, acts, rfl, rfl, .inl ⟨rfl, _, rfl⟩⟩
        · exact ⟨_, _, acts, rfl, rfl, .inr ⟨_, rfl⟩⟩

/-! All work. -/

structure Worked (e e' : Engine) : Prop where
  unworked : e'.unworked = e.unworked
  dead : DeadStay e.cells e'.cells

theorem Worked.refl (e : Engine) : Worked e e := ⟨rfl, dead_stay_refl _⟩

theorem Worked.trans {a b c : Engine} (first : Worked a b) (second : Worked b c) : Worked a c :=
  ⟨second.unworked.trans first.unworked, dead_stay_trans first.dead second.dead⟩

theorem Worked.distinct {a b : Engine} (worked : Worked a b) (d : a.Distinct) : b.Distinct :=
  distinct_of_wiring d (wiring_of_unworked worked.unworked)

theorem Worked.state {e e' : Engine} (worked : Worked e e') : e'.state = e.state :=
  (congrArg Engine.state worked.unworked :)

theorem Acts.worked {a b : Engine} (acts : Acts a b) : Worked a b :=
  ⟨unworked_of_unacted acts.unacted, acts.dead⟩

theorem modify_worked {f : Handler → Handler} {id : HandlerId} {e : Engine}
    (keeps : ∀ h ∈ e.handlers, h.id = id → (f h).unworked = h.unworked) :
    Worked e (e.modify id f) := by
  refine ⟨?_, dead_stay_refl _⟩
  simp only [unworked, map_modify keeps]
  rfl

theorem setCall_worked (id : HandlerId) (c : Call) (e : Engine) : Worked e (e.setCall id c) :=
  modify_worked fun _ _ _ => rfl

theorem openCall_held {e : Engine} {id : HandlerId} {c : Call} (current : e.openCall? id = some c) :
    ∃ h, e.handler? id = some h ∧ h.call = some c := by
  obtain ⟨called, _⟩ := Option.filter_eq_some_iff.mp current
  exact Option.bind_eq_some_iff.mp called

theorem finish_handlers (id : HandlerId) (c : Call) (how : Option Failure) (e : Engine) :
    (e.finish id c how).handlers = e.handlers.map (changed id (Handler.finished c how)) := by
  cases how <;> rfl

theorem finish_worked (id : HandlerId) (c : Call) (how : Option Failure) (e : Engine) :
    Worked e (e.finish id c how) := by
  refine Worked.trans ?_ (modify_worked ?_)
  · cases how <;> exact ⟨rfl, dead_stay_refl _⟩
  · intro h _ _
    cases state : h.state <;> simp [Handler.unworked, Handler.unacted, LifecycleState.begun, state]

theorem beginCall_worked (id : HandlerId) (e : Engine) : Worked e (e.beginCall id) := by
  unfold beginCall
  split
  · exact .refl e
  · dsimp only
    split
    · exact ⟨rfl, dead_stay_refl _⟩
    · split
      · refine Worked.trans ?_ (setCall_worked id _ _)
        exact ⟨rfl, dead_stay_refl _⟩
      · exact ⟨rfl, dead_stay_refl _⟩

theorem work_worked {e e' : Engine} (d : e.Distinct) (w : Work e e') : Worked e e' := by
  cases w with
  | issue => exact ⟨rfl, dead_stay_refl _⟩
  | begin id => exact beginCall_worked id e
  | advance id c =>
    obtain ⟨e₁, c', acts, _, _, ⟨go, _⟩ | ⟨how, ends⟩⟩ := advance_cases d id c
    · exact go ▸ acts.worked.trans (setCall_worked id c' e₁)
    · exact ends ▸ acts.worked.trans (finish_worked id c' how e₁)
  | resume => exact modify_worked fun _ _ _ => rfl
  | write id port m => exact (writePort_acts d id port m).worked
  | read id port cutoff => exact (readPort_acts id port cutoff e).worked

theorem works_worked {e e' : Engine} (d : e.Distinct) (w : Works e e') : Worked e e' := by
  induction w with
  | refl => exact .refl e
  | tail _ step ih =>
    exact ih.trans (work_worked (ih.distinct d) step)

/-! Starting and stopping. -/

theorem unstarted_modify {f : Handler → Handler} {id : HandlerId} {e : Engine}
    (keeps : ∀ h ∈ e.handlers, h.id = id → (f h).unstarted = h.unstarted) :
    (e.modify id f).unstarted = e.unstarted := by
  simp only [unstarted, map_modify keeps]
  rfl

@[simp] theorem setState_unstarted (id : HandlerId) (s : LifecycleState) (e : Engine) :
    (e.setState id s).unstarted = e.unstarted := unstarted_modify fun _ _ _ => rfl

@[simp] theorem report_unstarted (n : Notice) (e : Engine) :
    (e.report n).unstarted = e.unstarted := rfl

@[simp] theorem callStart_unstarted (id : HandlerId) (e : Engine) :
    (e.callStart id).2.unstarted = e.unstarted := by
  unfold callStart
  split <;> rfl

@[simp] theorem callStop_unstarted (id : HandlerId) (e : Engine) :
    (e.callStop id).unstarted = e.unstarted := by
  unfold callStop
  split
  · rfl
  · split
    · rfl
    · dsimp only
      split <;> rfl

@[simp] theorem stopAll_unstarted (ids : List HandlerId) (e : Engine) :
    (e.stopAll ids).unstarted = e.unstarted := by
  unfold stopAll
  induction ids with
  | nil => rfl
  | cons id rest ih => simp [ih]

theorem map_modify_same {f : α → α} {g : α → β} (keeps : ∀ x, g (f x) = g x) (xs : List α)
    (i : Nat) : (xs.modify i f).map g = xs.map g := by
  apply List.ext_getElem?
  intro j
  simp only [List.getElem?_map, List.getElem?_modify]
  cases xs[j]? with
  | none => rfl
  | some x =>
    simp only [Option.map_eq_map, Option.map_some]
    split
    · rw [keeps]
    · rfl

@[simp] theorem closeInputs_unstarted (id : HandlerId) (e : Engine) :
    (e.closeInputs id).unstarted = e.unstarted := by
  have closed (feeding : List CellId) (cells : CellStore) :
      (feeding.foldl (fun cells c => cells.modify c Cell.close) cells).map
        (fun c => { c.emptied with closed := false }) =
      cells.map fun c => { c.emptied with closed := false } := by
    induction feeding generalizing cells with
    | nil => rfl
    | cons c rest ih =>
      rw [List.foldl_cons, ih]
      exact map_modify_same Cell.close_emptied cells c
  unfold closeInputs
  split
  · rfl
  · simp only [unstarted, closed]

@[simp] theorem disable_unstarted (ids started : List HandlerId) (e : Engine) :
    (disable ids started e).2.unstarted = e.unstarted := by
  induction ids generalizing started e with
  | nil => rfl
  | cons id rest ih =>
    simp only [disable]
    split
    · exact ih _ _
    · rw [ih]
      split <;> simp

@[simp] theorem startEach_unstarted (ids started disabled : List HandlerId) (e : Engine) :
    (startEach ids started disabled e).2.2.unstarted = e.unstarted := by
  induction ids generalizing started disabled e with
  | nil => rfl
  | cons id rest ih =>
    have called := callStart_unstarted id e
    simp only [startEach]
    split
    · exact ih _ _ _
    · split
      · rename_i answer
        rw [answer] at called
        rw [ih, setState_unstarted]
        exact called
      · rename_i answer
        rw [answer] at called
        split <;> simp [ih, called]

theorem quiesce_unstarted (ids : List HandlerId) (e : Engine) :
    (e.quiesce ids).unstarted = e.unstarted := by
  have marked (e : Engine) :
      (ids.foldl (fun e id => e.setState id .stopping) e).unstarted = e.unstarted := by
    induction ids generalizing e with
    | nil => rfl
    | cons id rest ih => rw [List.foldl_cons, ih, setState_unstarted]
  exact marked e

theorem reportEach_unstarted (notice : HandlerId → Notice) (ids : List HandlerId) (e : Engine) :
    (ids.foldl (fun e id => e.report (notice id)) e).unstarted = e.unstarted := by
  induction ids generalizing e with
  | nil => rfl
  | cons id rest ih => rw [List.foldl_cons, ih, report_unstarted]

@[simp] theorem reportBusy_unstarted (ids : List HandlerId) (e : Engine) :
    (e.reportBusy ids).unstarted = e.unstarted := by
  simp only [reportBusy]
  split
  · rw [reportEach_unstarted, report_unstarted]
  · rw [reportEach_unstarted]

/-- The engine at the beginning of a start, with a feedback loop reported. -/
def warned (e : Engine) : Engine :=
  if e.graph.hasCycle then e.report .feedbackLoop else e

theorem warned_notices (e : Engine) : ∃ notices, e.warned = { e with notices := notices } := by
  unfold warned
  split
  · exact ⟨_, rfl⟩
  · exact ⟨e.notices, rfl⟩

@[simp] theorem warned_unstarted (e : Engine) : e.warned.unstarted = e.unstarted := by
  obtain ⟨notices, same⟩ := e.warned_notices
  rw [same]
  rfl

theorem warned_ids (e : Engine) : e.warned.ids = e.ids := by
  obtain ⟨notices, same⟩ := e.warned_notices
  rw [same]
  rfl

end Engine

namespace Hosted

open Engine

theorem retire_unstarted (id : HandlerId) (h : Hosted) :
    (h.retire id).engine.unstarted = h.engine.unstarted := unstarted_modify fun _ _ _ => rfl

theorem unname_unstarted (id : HandlerId) (h : Hosted) :
    (h.unname id).engine.unstarted = h.engine.unstarted := by
  have unnamed : (h.engine.modify id fun x => { x with uri := none }).unstarted =
      h.engine.unstarted := unstarted_modify fun _ _ _ => rfl
  unfold unname
  split
  · rfl
  · dsimp only
    split
    · exact unnamed
    · split <;> simp [unnamed]

theorem retireAll_unstarted (ids : List HandlerId) (h : Hosted) :
    (ids.foldl (fun h id => (h.retire id).unname id) h).engine.unstarted = h.engine.unstarted := by
  induction ids generalizing h with
  | nil => rfl
  | cons id rest ih => rw [List.foldl_cons, ih, unname_unstarted, retire_unstarted]

@[simp] theorem finishStop_unstarted (h : Hosted) :
    h.finishStop.engine.unstarted = h.engine.unstarted :=
  retireAll_unstarted h.engine.ids h

def running (started : List HandlerId) (e : Engine) (h : Hosted) : Hosted :=
  { h with engine := { e.subscribeAll started with state := .running } }

section
variable {h : Hosted} {started : List HandlerId} {e : Engine}

theorem start_running (idle : h.engine.state = .idle)
    (went : startEach h.engine.ids [] [] h.engine.warned = (none, started, e)) :
    h.start = (.ok (), h.running started e) := by
  rw [← warned_ids] at went
  unfold warned at went
  simp only [start, idle, went]
  rfl

theorem start_failing {fault : Fault} (idle : h.engine.state = .idle)
    (went : startEach h.engine.ids [] [] h.engine.warned = (some fault, started, e)) :
    h.start = (.error fault, ({ h with engine := e } : Hosted).finishStop) := by
  rw [← warned_ids] at went
  unfold warned at went
  simp only [start, idle, went]

end

theorem start_unstarted (h : Hosted) : h.start.2.engine.unstarted = h.engine.unstarted := by
  cases state : h.engine.state with
  | idle =>
    have each := startEach_unstarted h.engine.ids [] [] h.engine.warned
    rw [warned_unstarted] at each
    cases went : startEach h.engine.ids [] [] h.engine.warned with
    | mk fault reached =>
      obtain ⟨started, e⟩ := reached
      rw [went] at each
      cases fault with
      | none =>
        rw [start_running state went]
        exact each
      | some fault =>
        rw [start_failing state went, finishStop_unstarted]
        exact each
  | running => simp only [start, state]
  | stopped => simp only [start, state]

theorem tearDown_unstarted (active : List HandlerId) (h : Hosted) :
    (h.tearDown active).engine.unstarted = h.engine.unstarted := by
  simp [tearDown]

theorem stop_unstarted (h : Hosted) : h.stop.engine.unstarted = h.engine.unstarted := by
  unfold stop
  split
  · rfl
  · exact finishStop_unstarted h
  · exact (tearDown_unstarted _ _).trans (quiesce_unstarted _ _)

end Hosted

end Tickflow
