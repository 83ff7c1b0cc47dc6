import Tickflow.Proofs.CallLog
import Tickflow.Proofs.Graph
import Tickflow.Proofs.Wiring
/-!
Starting under the policy that isolates failures. What is known of the handlers dealt with so far is
said in terms of one set: those that some failure among them leads to.
-/
namespace Tickflow

namespace Engine

section
variable {e e' : Engine} (same : e'.unstarted = e.unstarted)
include same

theorem unstarted_handler {id : HandlerId} {h : Handler} (found : e.handler? id = some h) :
    ∃ h', e'.handler? id = some h' ∧ h'.unstarted = h.unstarted := by
  have look (e : Engine) : e.unstarted.handler? id = (e.handler? id).map Handler.unstarted :=
    find_handler_map (f := Handler.unstarted) (fun _ => rfl) e.handlers id
  have both := look e'
  rw [same, look e, found] at both
  obtain ⟨h', found', alike⟩ := Option.map_eq_some_iff.mp both.symm
  exact ⟨h', found', alike⟩

theorem unstarted_ids : e'.ids = e.ids := by
  have look (e : Engine) : e.unstarted.ids = e.ids := by
    simp [ids, unstarted, Handler.unstarted, Function.comp_def]
  rw [← look e', same, look e]

theorem unstarted_feeding (id : HandlerId) : e'.feeding id = e.feeding id := by
  have look (e : Engine) : e.unstarted.feeding id = e.feeding id := by
    unfold feeding
    rw [show e.unstarted.handler? id = (e.handler? id).map Handler.unstarted from
      find_handler_map (f := Handler.unstarted) (fun _ => rfl) e.handlers id]
    cases e.handler? id <;> rfl
  rw [← look e', same, look e]

theorem unstarted_quiet (quiet : e.Quiet) : e'.Quiet := by
  intro h mem
  obtain ⟨g, mg, alike⟩ := mem_of_map_eq (congrArg handlers same :) mem
  have call : g.call = h.call := (congrArg Handler.call alike :)
  rw [← call]
  exact quiet g mg

end

/-! Disabling what was reached from a failure. -/

structure Disabled (ids started : List HandlerId) (e : Engine) (started' : List HandlerId)
    (e' : Engine) : Prop where
  same : e'.unstarted = e.unstarted
  left : ∀ x, x ∈ started' ↔ x ∈ started ∧ x ∉ ids
  order : started'.Sublist started
  handlers : e'.handlers = e.handlers.map (·.marked ids .failed)
  cells : ∀ n, e'.cells[n]? =
    if ∃ x ∈ ids, n ∈ e.feeding x then (e.cells[n]?).map Cell.close else e.cells[n]?
  calls : ∀ x, e'.callsOf x = e.callsOf x ++ if x ∈ ids ∧ x ∈ started then [.stop] else []
  broadcaster : e'.broadcaster = e.broadcaster

theorem close_twice {P Q : Prop} [Decidable P] [Decidable Q] (c : Option (Cell α)) :
    (if Q then (if P then c.map Cell.close else c).map Cell.close
      else if P then c.map Cell.close else c) = if P ∨ Q then c.map Cell.close else c := by
  by_cases first : P <;> by_cases second : Q <;>
    simp [first, second, Function.comp_def, close_close]

theorem Disabled.trans {xs ys started₀ started₁ started₂ : List HandlerId} {e₀ e₁ e₂ : Engine}
    (a : Disabled xs started₀ e₀ started₁ e₁) (b : Disabled ys started₁ e₁ started₂ e₂) :
    Disabled (xs ++ ys) started₀ e₀ started₂ e₂ := by
  refine ⟨b.same.trans a.same, ?_, b.order.trans a.order, ?_, ?_, ?_,
    b.broadcaster.trans a.broadcaster⟩
  · intro x
    rw [b.left, a.left]
    simp [and_assoc]
  · rw [b.handlers, a.handlers, List.map_map]
    apply List.map_congr_left
    intro g _
    exact marked_marked xs ys .failed g
  · intro n
    have fed (x : HandlerId) : e₁.feeding x = e₀.feeding x := unstarted_feeding a.same x
    rw [b.cells, a.cells]
    simp only [fed, close_twice, List.mem_append, or_and_right, exists_or]
  · intro x
    rw [b.calls, a.calls, List.append_assoc]
    congr 1
    by_cases first : x ∈ xs <;> by_cases second : x ∈ ys <;> simp [a.left, first, second]

def disabledOne (id : HandlerId) (started : List HandlerId) (e : Engine) : Engine :=
  ((if started.contains id then e.callStop id else e).setState id .failed).closeInputs id

theorem disabledOne_disabled {id : HandlerId} (started : List HandlerId) {e : Engine} {h : Handler}
    (found : e.handler? id = some h) (free : h.call = none) :
    Disabled [id] started e (started.filter (· != id)) (e.disabledOne id started) := by
  unfold disabledOne
  generalize asked : (if started.contains id then e.callStop id else e) = e₁
  have called : Called e e₁ := by
    rw [← asked]
    split
    · exact callStop_called id e
    · exact ⟨rfl, rfl, rfl, rfl, rfl⟩
  have calls₁ (x : HandlerId) : e₁.callsOf x =
      e.callsOf x ++ if x = id ∧ x ∈ started then [.stop] else [] := by
    rw [← asked]
    by_cases was : id ∈ started
    · rw [if_pos (by simpa using was), callsOf_append (callStop_calls found free)]
      by_cases here : x = id
      · simp [here, was]
      · simp [here, Ne.symm here]
    · have neither : ¬ (x = id ∧ x ∈ started) := fun both => was (both.1 ▸ both.2)
      rw [if_neg (by simpa using was), if_neg neither, List.append_nil]
  have frame : (e₁.setState id .failed).unstarted = e.unstarted :=
    (setState_unstarted _ _ _).trans called.unstarted
  have closed := closeInputs_rest id (e₁.setState id .failed)
  refine ⟨(closeInputs_unstarted _ _).trans frame, ?_, List.filter_sublist, ?_, ?_, ?_,
    closed.2.2.1.trans called.broadcaster⟩
  · simp
  · rw [closed.1, handlers_setState, called.handlers]
  · intro n
    rw [closeInputs_cells, unstarted_feeding frame]
    change (if n ∈ e.feeding id then (e₁.cells[n]?).map Cell.close else e₁.cells[n]?) = _
    rw [called.cells]
    simp
  · intro x
    rw [callsOf, closed.2.1]
    refine (calls₁ x).trans ?_
    simp

theorem disable_disabled (ids started : List HandlerId) {e : Engine}
    (there : ∀ id ∈ ids, id ∈ e.ids) (quiet : e.Quiet) :
    Disabled ids started e (disable ids started e).1 (disable ids started e).2 := by
  induction ids generalizing started e with
  | nil =>
    refine ⟨rfl, by simp [disable], .refl _, ?_, by simp [disable], by simp [disable], rfl⟩
    simp [disable, Handler.marked]
  | cons id rest ih =>
    obtain ⟨h, mh, _, found⟩ := handler_of_id_mem (there id List.mem_cons_self)
    have known : (!e.ids.contains id) = false := by simpa using there id List.mem_cons_self
    have one := disabledOne_disabled started found (quiet h mh)
    have there' : ∀ x ∈ rest, x ∈ (e.disabledOne id started).ids := by
      rw [unstarted_ids one.same]
      intro x mem
      exact there x (List.mem_cons_of_mem _ mem)
    have unfolded : disable (id :: rest) started e =
        disable rest (started.filter (· != id)) (e.disabledOne id started) := by
      simp only [disable, known, Bool.false_eq_true, ↓reduceIte]
      rfl
    rw [unfolded]
    exact one.trans (ih _ there' (unstarted_quiet one.same quiet))

def brokenOff (id : HandlerId) (cause : Fault) (e : Engine) : Engine :=
  (((e.callStart id).2.report (.startFailed id cause)).setState id .failed).callStop id

def failed (id : HandlerId) (cause : Fault) (e : Engine) : Engine :=
  (e.brokenOff id cause).closeInputs id

theorem brokenOff_unstarted (id : HandlerId) (cause : Fault) (e : Engine) :
    (e.brokenOff id cause).unstarted = e.unstarted := by
  simp [brokenOff]

theorem brokenOff_handlers (id : HandlerId) (cause : Fault) (e : Engine) :
    (e.brokenOff id cause).handlers = e.handlers.map (·.marked [id] .failed) := by
  rw [brokenOff, (callStop_called id _).handlers, handlers_setState]
  exact congrArg _ (callStart_called id e).handlers

theorem brokenOff_calls {e : Engine} {id : HandlerId} {h : Handler}
    (found : e.handler? id = some h) (free : h.call = none) (cause : Fault) :
    (e.brokenOff id cause).calls = e.calls ++ [(id, .start), (id, .stop)] := by
  let e₁ := ((e.callStart id).2.report (.startFailed id cause)).setState id .failed
  have found₁ : e₁.handler? id = some (h.marked [id] .failed) := by
    rw [handler?, handlers_setState,
      show ((e.callStart id).2.report (.startFailed id cause)).handlers = e.handlers from
        (callStart_called id e).handlers,
      find_handler_map (marked_id [id] .failed), show e.handlers.find? _ = _ from found]
    rfl
  have started : e₁.calls = e.calls ++ [(id, .start)] := callStart_calls found
  rw [brokenOff, callStop_calls found₁ ((marked_call _ _ _).trans free), started]
  simp

theorem brokenOff_rest (id : HandlerId) (cause : Fault) (e : Engine) :
    (e.brokenOff id cause).cells = e.cells ∧
      (e.brokenOff id cause).broadcaster = e.broadcaster := by
  have started := callStart_called id e
  have stopped := callStop_called id
    (((e.callStart id).2.report (.startFailed id cause)).setState id .failed)
  exact ⟨stopped.cells.trans started.cells, stopped.broadcaster.trans started.broadcaster⟩

theorem failed_unstarted (id : HandlerId) (cause : Fault) (e : Engine) :
    (e.failed id cause).unstarted = e.unstarted := by
  rw [failed, closeInputs_unstarted, brokenOff_unstarted]

/-! One step of starting. -/

section
variable {id : HandlerId} {rest started disabled : List HandlerId} {e : Engine}

theorem startEach_skip (skip : id ∈ disabled) :
    startEach (id :: rest) started disabled e = startEach rest started disabled e := by
  rw [startEach, if_pos (by simpa using skip)]

theorem startEach_succeed (skip : id ∉ disabled) (ok : (e.callStart id).1 = none) :
    startEach (id :: rest) started disabled e =
      startEach rest (started ++ [id]) disabled ((e.callStart id).2.setState id .started) := by
  rw [startEach, if_neg (by simpa using skip)]
  generalize e.callStart id = answer at ok ⊢
  obtain ⟨fault, e₁⟩ := answer
  cases ok
  rfl

theorem startEach_isolate {cause : Fault} (isolate : e.settings.startPolicy = .isolate)
    (skip : id ∉ disabled) (fault : (e.callStart id).1 = some cause) :
    startEach (id :: rest) started disabled e =
      startEach rest (disable (e.graph.downstreamOf id) started (e.failed id cause)).1
        (disabled ++ e.graph.downstreamOf id)
        ((disable (e.graph.downstreamOf id) started (e.failed id cause)).2.report
          (.disabled id (e.graph.downstreamOf id).length)) := by
  have same := brokenOff_unstarted id cause e
  have graph : (e.brokenOff id cause).graph = e.graph := (congrArg Engine.graph same :)
  have settings : (e.brokenOff id cause).settings = e.settings :=
    (congrArg Engine.settings same :)
  rw [startEach, if_neg (by simpa using skip)]
  unfold failed
  unfold brokenOff at graph settings ⊢
  generalize e.callStart id = answer at fault graph settings ⊢
  obtain ⟨_, e₁⟩ := answer
  cases fault
  dsimp only at graph settings ⊢
  rw [settings, isolate, graph]

end

/-- What becomes of an engine when the handler `id` fails to start with `ids` downstream of it. -/
structure FailedStart (id : HandlerId) (ids started : List HandlerId) (e : Engine)
    (started' : List HandlerId) (e' : Engine) : Prop where
  same : e'.unstarted = e.unstarted
  left : ∀ x, x ∈ started' ↔ x ∈ started ∧ x ∉ ids
  order : started'.Sublist started
  handlers : e'.handlers = e.handlers.map (·.marked (id :: ids) .failed)
  cells : ∀ n, e'.cells[n]? =
    if ∃ x ∈ id :: ids, n ∈ e.feeding x then (e.cells[n]?).map Cell.close else e.cells[n]?
  calls : ∀ x, e'.callsOf x = e.callsOf x ++ (if x = id then [.start, .stop] else []) ++
    if x ∈ ids ∧ x ∈ started then [.stop] else []
  broadcaster : e'.broadcaster = e.broadcaster

theorem failed_disabled {ids : List HandlerId} (started : List HandlerId) {e : Engine}
    {id : HandlerId} {h : Handler} (found : e.handler? id = some h)
    (there : ∀ x ∈ ids, x ∈ e.ids) (quiet : e.Quiet) (cause : Fault) :
    FailedStart id ids started e (disable ids started (e.failed id cause)).1
      (disable ids started (e.failed id cause)).2 := by
  have frame := failed_unstarted id cause e
  have there' : ∀ x ∈ ids, x ∈ (e.failed id cause).ids := by
    rw [unstarted_ids frame]
    exact there
  have d := disable_disabled ids started there' (unstarted_quiet frame quiet)
  have rest := closeInputs_rest id (e.brokenOff id cause)
  have broken := brokenOff_rest id cause e
  refine ⟨d.same.trans frame, d.left, d.order, ?_, ?_, ?_,
    (d.broadcaster.trans rest.2.2.1).trans broken.2⟩
  · rw [d.handlers, failed, rest.1, brokenOff_handlers, List.map_map]
    apply List.map_congr_left
    intro g _
    exact marked_marked [id] ids .failed g
  · intro n
    have fed (x : HandlerId) : (e.failed id cause).feeding x = e.feeding x :=
      unstarted_feeding frame x
    have cells : (e.failed id cause).cells[n]? =
        if n ∈ e.feeding id then (e.cells[n]?).map Cell.close else e.cells[n]? := by
      rw [failed, closeInputs_cells, unstarted_feeding (brokenOff_unstarted id cause e), broken.1]
    rw [d.cells, cells]
    simp only [fed, close_twice, List.mem_cons, exists_eq_or_imp]
  · intro x
    have calls : (e.failed id cause).calls = e.calls ++ [(id, .start), (id, .stop)] := by
      rw [failed, rest.2.1, brokenOff_calls found (quiet h (mem_of_handler found).1)]
    rw [d.calls, callsOf_append calls]
    congr 2
    by_cases here : x = id
    · simp [here]
    · simp [here, Ne.symm here]

/-! Failures and what they lead to. -/

theorem Wired.within {e : Engine} (w : e.Wired) : e.graph.Within := by
  intro edge mem
  rw [w.edges] at mem
  obtain ⟨c, mc, me⟩ := List.mem_flatMap.mp mem
  obtain ⟨l, ml, rfl⟩ := List.mem_map.mp me
  exact (w.ends_in_graph (List.mem_flatMap.mpr ⟨c, mc, ml⟩)).2

theorem Wired.edge_iff {e : Engine} (w : e.Wired) {x y : HandlerId} :
    e.graph.Edge x y ↔ ∃ l ∈ e.links, l.source.handler = x ∧ l.target.handler = y := by
  simp only [HandlerGraph.Edge, w.edges, Connection.edges, links, List.mem_flatMap, List.mem_map]
  constructor
  · rintro ⟨_, ⟨c, mc, l, ml, rfl⟩, source, target⟩
    exact ⟨l, ⟨c, mc, ml⟩, source, target⟩
  · rintro ⟨l, ⟨c, mc, ml⟩, source, target⟩
    exact ⟨_, ⟨c, mc, l, ml, rfl⟩, source, target⟩

def FailsStart (e : Engine) (id : HandlerId) : Prop :=
  ∃ h, e.handler? id = some h ∧ h.behaviour.onStart ≠ none

abbrev Leads (e : Engine) : HandlerId → HandlerId → Prop := Relation.ReflTransGen e.graph.Edge

def Cut (done : List HandlerId) (e : Engine) (x : HandlerId) : Prop :=
  ∃ f ∈ done, e.FailsStart f ∧ e.Leads f x

/-- When its turn came, no failure had led to the handler. -/
def Tried (done : List HandlerId) (e : Engine) (x : HandlerId) : Prop :=
  ∃ before after, done = before ++ x :: after ∧ ¬ e.Cut before x

section
variable {e : Engine} {done : List HandlerId} {id x : HandlerId}

theorem cut_append : e.Cut (done ++ [id]) x ↔ e.Cut done x ∨ (e.FailsStart id ∧ e.Leads id x) := by
  constructor
  · rintro ⟨f, mem, fails, leads⟩
    rcases List.mem_append.mp mem with old | new
    · exact .inl ⟨f, old, fails, leads⟩
    · rw [List.mem_singleton.mp new] at fails leads
      exact .inr ⟨fails, leads⟩
  · rintro (⟨f, mem, fails, leads⟩ | ⟨fails, leads⟩)
    · exact ⟨f, List.mem_append_left _ mem, fails, leads⟩
    · exact ⟨id, List.mem_append_right _ List.mem_cons_self, fails, leads⟩

theorem cut_leads {y : HandlerId} (cut : e.Cut done x) (leads : e.Leads x y) : e.Cut done y := by
  obtain ⟨f, mem, fails, path⟩ := cut
  exact ⟨f, mem, fails, path.trans leads⟩

theorem cut_same (harmless : e.Cut done id ∨ ¬ e.FailsStart id) :
    e.Cut (done ++ [id]) x ↔ e.Cut done x := by
  rw [cut_append]
  constructor
  · rintro (cut | ⟨fails, leads⟩)
    · exact cut
    · rcases harmless with cut | starts
      · exact cut_leads cut leads
      · exact absurd fails starts
  · exact .inl

theorem tried_mem (tried : e.Tried done x) : x ∈ done := by
  obtain ⟨before, after, rfl, _⟩ := tried
  simp

theorem tried_of_uncut (mem : x ∈ done) (uncut : ¬ e.Cut done x) : e.Tried done x := by
  obtain ⟨before, after, rfl⟩ := List.append_of_mem mem
  refine ⟨before, after, rfl, ?_⟩
  rintro ⟨f, mf, fails, leads⟩
  exact uncut ⟨f, List.mem_append_left _ mf, fails, leads⟩

theorem tried_append : e.Tried (done ++ [id]) x ↔ e.Tried done x ∨ (x = id ∧ ¬ e.Cut done id) := by
  constructor
  · rintro ⟨before, after, parts, uncut⟩
    rcases List.eq_nil_or_concat after with rfl | ⟨rest, last, rfl⟩
    · obtain ⟨rfl, same⟩ := List.append_inj' parts rfl
      cases same
      exact .inr ⟨rfl, uncut⟩
    · rw [List.concat_eq_append, ← List.cons_append, ← List.append_assoc] at parts
      obtain ⟨rfl, _⟩ := List.append_inj' parts rfl
      exact .inl ⟨before, rest, rfl, uncut⟩
  · rintro (⟨before, after, rfl, uncut⟩ | ⟨rfl, uncut⟩)
    · exact ⟨before, after ++ [id], by simp, uncut⟩
    · exact ⟨done, [], rfl, uncut⟩

theorem tried_after (uncut : ¬ e.Cut done id) :
    e.Tried (done ++ [id]) x ↔ e.Tried done x ∨ x = id := by
  rw [tried_append]
  simp [uncut]

end

/-- What is so once the handlers `done` were dealt with, beginning with the engine `e₀`. -/
structure Begun (e₀ : Engine) (done started disabled : List HandlerId) (e : Engine) : Prop where
  same : e.unstarted = e₀.unstarted
  order : started.Sublist done
  started : ∀ x, x ∈ started ↔ x ∈ done ∧ ¬ e₀.Cut done x
  disabled : ∀ x, x ∉ done → (x ∈ disabled ↔ e₀.Cut done x)
  failed : ∀ h ∈ e.handlers, e₀.Cut done h.id → h.state = .failed
  active : ∀ h ∈ e.handlers, h.id ∈ done → ¬ e₀.Cut done h.id → h.state = .started
  waiting : ∀ h ∈ e.handlers, h.id ∉ done → ¬ e₀.Cut done h.id → h.state = .created
  closed : ∀ n, (∃ x, e₀.Cut done x ∧ n ∈ e₀.feeding x) →
    e.cells[n]? = (e₀.cells[n]?).map Cell.close
  opened : ∀ n, (¬ ∃ x, e₀.Cut done x ∧ n ∈ e₀.feeding x) → e.cells[n]? = e₀.cells[n]?
  untried : ∀ x, ¬ e₀.Tried done x → e.callsOf x = []
  stopped : ∀ x, e₀.Tried done x → e₀.Cut done x → e.callsOf x = [.start, .stop]
  kept : ∀ x ∈ done, ¬ e₀.Cut done x → e.callsOf x = [.start]
  broadcaster : e.broadcaster = e₀.broadcaster

section
variable {e₀ e : Engine} {done started disabled : List HandlerId} {id : HandlerId}
  (b : Begun e₀ done started disabled e)
include b

theorem Begun.uncalled (fresh : id ∉ done) : e.callsOf id = [] :=
  b.untried id fun tried => fresh (tried_mem tried)

theorem Begun.skip (cut : e₀.Cut done id) : Begun e₀ (done ++ [id]) started disabled e := by
  have same (x : HandlerId) : e₀.Cut (done ++ [id]) x ↔ e₀.Cut done x := cut_same (.inl cut)
  have tried (x : HandlerId) : e₀.Tried (done ++ [id]) x ↔ e₀.Tried done x := by
    rw [tried_append]
    simp [cut]
  have uncut {x : HandlerId} (mem : x ∈ done ++ [id]) (un : ¬ e₀.Cut done x) : x ∈ done := by
    rcases List.mem_append.mp mem with old | new
    · exact old
    · rw [List.mem_singleton.mp new] at un
      exact absurd cut un
  refine ⟨b.same, b.order.trans (List.sublist_append_left _ _),
    ?_, ?_, ?_, ?_, ?_, ?_, ?_, ?_, ?_, ?_, b.broadcaster⟩ <;> simp only [same, tried]
  · intro x
    rw [b.started]
    constructor
    · rintro ⟨mem, un⟩
      exact ⟨List.mem_append_left _ mem, un⟩
    · rintro ⟨mem, un⟩
      exact ⟨uncut mem un, un⟩
  · intro x absent
    exact b.disabled x fun mem => absent (List.mem_append_left _ mem)
  · exact b.failed
  · intro h mh mem un
    exact b.active h mh (uncut mem un) un
  · intro h mh absent
    exact b.waiting h mh fun mem => absent (List.mem_append_left _ mem)
  · exact b.closed
  · exact b.opened
  · exact b.untried
  · exact b.stopped
  · intro x mem un
    exact b.kept x (uncut mem un) un

theorem Begun.succeed {h : Handler} (found : e.handler? id = some h) (fresh : id ∉ done)
    (uncut : ¬ e₀.Cut done id) (starts : ¬ e₀.FailsStart id) :
    Begun e₀ (done ++ [id]) (started ++ [id]) disabled
      ((e.callStart id).2.setState id .started) := by
  have same (x : HandlerId) : e₀.Cut (done ++ [id]) x ↔ e₀.Cut done x := cut_same (.inr starts)
  have called := callStart_called id e
  have handlers : ((e.callStart id).2.setState id .started).handlers =
      e.handlers.map (·.marked [id] .started) := by
    rw [handlers_setState, called.handlers]
  have calls (x : HandlerId) : ((e.callStart id).2.setState id .started).callsOf x =
      e.callsOf x ++ if x = id then [.start] else [] := by
    have noted : ((e.callStart id).2.setState id .started).calls = e.calls ++ [(id, .start)] :=
      callStart_calls found
    rw [callsOf_append noted]
    by_cases here : x = id
    · simp [here]
    · simp [here, Ne.symm here]
  have frame : ((e.callStart id).2.setState id .started).unstarted = e₀.unstarted := by
    rw [setState_unstarted, callStart_unstarted, b.same]
  refine ⟨frame, b.order.append (.refl _), ?_, ?_, ?_, ?_, ?_, ?_, ?_, ?_, ?_, ?_,
    called.broadcaster.trans b.broadcaster⟩ <;> simp only [same, tried_after uncut]
  · intro x
    simp only [List.mem_append, List.mem_singleton, b.started]
    constructor
    · rintro (⟨mem, un⟩ | rfl)
      · exact ⟨.inl mem, un⟩
      · exact ⟨.inr rfl, uncut⟩
    · rintro ⟨mem | rfl, un⟩
      · exact .inl ⟨mem, un⟩
      · exact .inr rfl
  · intro x absent
    exact b.disabled x fun mem => absent (List.mem_append_left _ mem)
  · intro g mem cut
    rcases mem_marked handlers mem with ⟨here, _⟩ | ⟨_, old⟩
    · exact absurd (List.mem_singleton.mp here ▸ cut) uncut
    · exact b.failed g old cut
  · intro g mem among un
    rcases mem_marked handlers mem with ⟨_, state⟩ | ⟨other, old⟩
    · exact state
    · exact b.active g old ((List.mem_append.mp among).resolve_right other) un
  · intro g mem absent un
    rcases mem_marked handlers mem with ⟨here, _⟩ | ⟨_, old⟩
    · exact absurd (List.mem_append_right _ here) absent
    · exact b.waiting g old (fun mem => absent (List.mem_append_left _ mem)) un
  · intro n
    change _ → (e.callStart id).2.cells[n]? = _
    rw [called.cells]
    exact b.closed n
  · intro n
    change _ → (e.callStart id).2.cells[n]? = _
    rw [called.cells]
    exact b.opened n
  · intro x un
    rw [not_or] at un
    rw [calls, b.untried x un.1, if_neg un.2]
    rfl
  · rintro x (t | rfl) cut
    · have other : x ≠ id := by
        rintro rfl
        exact uncut cut
      rw [calls, b.stopped x t cut, if_neg other]
      rfl
    · exact absurd cut uncut
  · intro x mem un
    by_cases here : x = id
    · rw [calls, if_pos here, here, b.uncalled fresh]
      rfl
    · rw [calls, if_neg here, b.kept x (by simpa [here] using mem) un]
      rfl

theorem Begun.failed_calls (fresh : id ∉ done) {ids started' : List HandlerId} {e' : Engine}
    (f : FailedStart id ids started e started' e') (apart : id ∉ ids) (x : HandlerId) :
    (¬ e₀.Tried done x → x ≠ id → e'.callsOf x = []) ∧
    (e₀.Tried done x → e₀.Cut done x ∨ x ∈ ids → e'.callsOf x = [.start, .stop]) ∧
    (x = id → e'.callsOf x = [.start, .stop]) ∧
    (x ∈ done → ¬ e₀.Cut done x → x ∉ ids → e'.callsOf x = [.start]) := by
  refine ⟨?_, ?_, ?_, ?_⟩
  · intro un away
    have never : x ∉ started := by
      rw [b.started]
      intro both
      exact un (tried_of_uncut both.1 both.2)
    rw [f.calls, b.untried x un, if_neg away, if_neg fun both => never both.2]
    rfl
  · intro t reached
    have away : x ≠ id := fun same => fresh (same ▸ tried_mem t)
    by_cases before : e₀.Cut done x
    · have never : x ∉ started := by
        rw [b.started]
        intro both
        exact both.2 before
      rw [f.calls, b.stopped x t before, if_neg away, if_neg fun both => never both.2]
      rfl
    · have here : x ∈ ids := reached.resolve_left before
      have was : x ∈ started := (b.started x).mpr ⟨tried_mem t, before⟩
      rw [f.calls, b.kept x (tried_mem t) before, if_neg away, if_pos ⟨here, was⟩]
      rfl
  · rintro rfl
    rw [f.calls, b.uncalled fresh, if_pos rfl, if_neg fun both => apart both.1]
    rfl
  · intro mem un other
    have away : x ≠ id := fun same => fresh (same ▸ mem)
    rw [f.calls, b.kept x mem un, if_neg away, if_neg fun both => other both.1]
    rfl

theorem Begun.fail (w : e₀.Wired) (fresh : id ∉ done) (uncut : ¬ e₀.Cut done id)
    (fails : e₀.FailsStart id) {started' : List HandlerId} {e' : Engine}
    (f : FailedStart id (e₀.graph.downstreamOf id) started e started' e') :
    Begun e₀ (done ++ [id]) started' (disabled ++ e₀.graph.downstreamOf id) e' := by
  have node : id ∈ e₀.graph.nodes := by
    obtain ⟨g, at_id, _⟩ := fails
    obtain ⟨mem, rfl⟩ := mem_of_handler at_id
    rw [w.nodes]
    exact List.mem_map_of_mem mem
  have leads (x : HandlerId) : e₀.Leads id x ↔ x ∈ id :: e₀.graph.downstreamOf id := by
    rw [List.mem_cons, HandlerGraph.mem_downstream w.within node]
    constructor
    · intro path
      by_cases here : x = id
      · exact .inl here
      · exact .inr ⟨here, path⟩
    · rintro (rfl | ⟨_, path⟩)
      · exact .refl
      · exact path
  have apart : id ∉ e₀.graph.downstreamOf id := by
    rw [HandlerGraph.mem_downstream w.within node]
    intro both
    exact both.1 rfl
  generalize e₀.graph.downstreamOf id = downstream at *
  have cut (x : HandlerId) : e₀.Cut (done ++ [id]) x ↔ e₀.Cut done x ∨ x ∈ id :: downstream := by
    rw [cut_append, leads]
    simp [fails]
  have fed (x : HandlerId) : e.feeding x = e₀.feeding x := unstarted_feeding b.same x
  have calls := b.failed_calls fresh f apart
  refine ⟨f.same.trans b.same, (f.order.trans b.order).trans (List.sublist_append_left _ _),
    ?_, ?_, ?_, ?_, ?_, ?_, ?_, ?_, ?_, ?_, f.broadcaster.trans b.broadcaster⟩ <;>
    simp only [cut, tried_after uncut, not_or]
  · intro x
    rw [f.left, b.started]
    simp only [List.mem_append, List.mem_cons, List.not_mem_nil, or_false, not_or]
    constructor
    · rintro ⟨⟨mem, un⟩, other⟩
      exact ⟨.inl mem, un, fun same => fresh (same ▸ mem), other⟩
    · rintro ⟨mem, un, away, other⟩
      exact ⟨⟨mem.resolve_right away, un⟩, other⟩
  · intro x absent
    rw [List.mem_append, b.disabled x fun mem => absent (List.mem_append_left _ mem)]
    have away : x ≠ id := fun same => absent (same ▸ List.mem_append_right _ List.mem_cons_self)
    simp [away]
  · intro g mem cut
    rcases mem_marked f.handlers mem with ⟨_, state⟩ | ⟨other, old⟩
    · exact state
    · exact b.failed g old (cut.resolve_right other)
  · rintro g mem among ⟨un, other⟩
    rcases mem_marked f.handlers mem with ⟨here, _⟩ | ⟨_, old⟩
    · exact absurd here other
    · refine b.active g old ?_ un
      rcases List.mem_append.mp among with old | new
      · exact old
      · exact absurd (List.mem_singleton.mp new ▸ List.mem_cons_self) other
  · rintro g mem absent ⟨un, other⟩
    rcases mem_marked f.handlers mem with ⟨here, _⟩ | ⟨_, old⟩
    · exact absurd here other
    · exact b.waiting g old (fun mem => absent (List.mem_append_left _ mem)) un
  · rintro n ⟨x, reached, feeds⟩
    rw [f.cells]
    by_cases before : ∃ x, e₀.Cut done x ∧ n ∈ e₀.feeding x
    · rw [b.closed n before]
      split <;> simp [Function.comp_def, close_close]
    · have now : ∃ x ∈ id :: downstream, n ∈ e.feeding x := by
        rcases reached with cut | mem
        · exact absurd ⟨x, cut, feeds⟩ before
        · exact ⟨x, mem, fed x ▸ feeds⟩
      rw [if_pos now, b.opened n before]
  · intro n away
    have before : ¬ ∃ x, e₀.Cut done x ∧ n ∈ e₀.feeding x := by
      rintro ⟨x, cut, feeds⟩
      exact away ⟨x, .inl cut, feeds⟩
    have now : ¬ ∃ x ∈ id :: downstream, n ∈ e.feeding x := by
      rintro ⟨x, mem, feeds⟩
      exact away ⟨x, .inr mem, fed x ▸ feeds⟩
    rw [f.cells, if_neg now, b.opened n before]
  · intro x un
    exact (calls x).1 un.1 un.2
  · rintro x (t | here) reached
    · have away : x ≠ id := fun same => fresh (same ▸ tried_mem t)
      exact (calls x).2.1 t (by simpa [away] using reached)
    · exact (calls x).2.2.1 here
  · rintro x mem ⟨un, other⟩
    rw [List.mem_cons, not_or] at other
    exact (calls x).2.2.2 (by simpa [other.1] using mem) un other.2

end

theorem unstarted_fails {e e' : Engine} (same : e'.unstarted = e.unstarted) {id : HandlerId}
    {h : Handler} (found : e'.handler? id = some h) :
    e.FailsStart id ↔ h.behaviour.onStart ≠ none := by
  obtain ⟨g, at_id, alike⟩ := unstarted_handler same.symm found
  have behaviour : g.behaviour = h.behaviour := (congrArg Handler.behaviour alike :)
  constructor
  · rintro ⟨x, at_x, fails⟩
    rw [at_id] at at_x
    cases at_x
    exact behaviour ▸ fails
  · intro fails
    exact ⟨g, at_id, behaviour ▸ fails⟩

theorem callStart_fails {e e₀ : Engine} (same : e.unstarted = e₀.unstarted) {id : HandlerId}
    {h : Handler} (found : e.handler? id = some h) :
    e₀.FailsStart id ↔ (e.callStart id).1 ≠ none := by
  rw [unstarted_fails same found]
  exact not_congr (callStart_fault found).symm

theorem startEach_begun {e₀ : Engine} (w : e₀.Wired) (quiet : e₀.Quiet)
    (isolate : e₀.settings.startPolicy = .isolate) (todo done : List HandlerId)
    (parts : e₀.ids = done ++ todo) {started disabled : List HandlerId} {e : Engine}
    (b : Begun e₀ done started disabled e) :
    ∃ started' disabled' e', startEach todo started disabled e = (none, started', e') ∧
      Begun e₀ e₀.ids started' disabled' e' := by
  induction todo generalizing done started disabled e with
  | nil =>
    rw [List.append_nil] at parts
    exact ⟨started, disabled, e, rfl, parts ▸ b⟩
  | cons id rest ih =>
    have parts' : e₀.ids = (done ++ [id]) ++ rest := by simpa using parts
    have fresh : id ∉ done := by
      have distinct := w.distinct.ids
      rw [parts, List.nodup_append] at distinct
      intro mem
      exact distinct.2.2 id mem id List.mem_cons_self rfl
    have known : id ∈ e.ids := by
      rw [unstarted_ids b.same, parts]
      simp
    obtain ⟨h, _, _, found⟩ := handler_of_id_mem known
    by_cases skip : id ∈ disabled
    · rw [startEach_skip skip]
      exact ih (done ++ [id]) parts' (b.skip ((b.disabled id fresh).mp skip))
    · have uncut : ¬ e₀.Cut done id := fun cut => skip ((b.disabled id fresh).mpr cut)
      cases answer : (e.callStart id).1 with
      | none =>
        have starts : ¬ e₀.FailsStart id := fun fails =>
          (callStart_fails b.same found).mp fails answer
        rw [startEach_succeed skip answer]
        exact ih (done ++ [id]) parts' (b.succeed found fresh uncut starts)
      | some cause =>
        have fails : e₀.FailsStart id := (callStart_fails b.same found).mpr (by simp [answer])
        have graph : e.graph = e₀.graph := (congrArg Engine.graph b.same :)
        have policy : e.settings.startPolicy = .isolate := by
          rw [show e.settings = e₀.settings from (congrArg Engine.settings b.same :), isolate]
        have there : ∀ x ∈ e₀.graph.downstreamOf id, x ∈ e.ids := by
          rw [unstarted_ids b.same, ← w.nodes]
          intro x mem
          exact HandlerGraph.downstream_node w.within mem
        have f := failed_disabled started found there (unstarted_quiet b.same quiet) cause
        rw [startEach_isolate policy skip answer, graph]
        exact ih (done ++ [id]) parts' (b.fail w fresh uncut fails
          ⟨f.same, f.left, f.order, f.handlers, f.cells, f.calls, f.broadcaster⟩)

end Engine

end Tickflow
