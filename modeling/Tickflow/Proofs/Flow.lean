import Mathlib.Logic.Function.Basic
import Tickflow.Proofs.Frame
/-!
Runs in fine steps. A write passes the cells of its port one after another and may wait at each of
them; a read takes its cutoff first and turns to the cell later; a stop waits between its two halves.
All of this may come in any order, except that an output has one writer at a time. A trace says what
was issued, looked up, stored and read on the way.
-/
namespace Tickflow

namespace Hosted

inductive Command (h : Hosted) : Hosted → Prop where
  | add (id : Option String) (b : Behaviour) : Command h (h.added id b)
  | connect (source target : PortAddress) : Command h (h.connect source target).2
  | connectTexts (source target : String) : Command h (h.connectTexts source target).2
  | start : Command h h.start.2
  | stop (rest : h.engine.state ≠ .running) : Command h h.stop
  | quiesce (ids : List HandlerId) (running : h.engine.state = .running) :
      Command h { h with engine := h.engine.quiesce ids }
  | tearDown (ids : List HandlerId) (running : h.engine.state = .running) :
      Command h (h.tearDown ids)
  | registry (r : Option ActorRegistry) : Command h { h with registry := r }

end Hosted

def Handler.still (h : Handler) : Handler :=
  { h with
    bridged := none, stats := ⟨0, 0, none⟩, state := h.state.begun
    call := h.call.map fun c => { c with rest := [], held := false, events := [] } }

/-- The engine less the time and what nobody but its owner and single handlers will see. -/
def Engine.still (e : Engine) : Engine :=
  { e with
    handlers := e.handlers.map Handler.still
    pool := .make 0, now := 0, notices := [], journal := [] }

def Engine.counted (a : PortAddress) (q : OutputPort) (e : Engine) : Engine :=
  e.modify a.handler fun h =>
    { h with ports := h.ports.setOutput { q with nextSequence := q.nextSequence + 1 } }

/-- A cutoff that a handler was given, and the call in which it was. -/
structure Look where
  tick : Tick
  startedAt : Nat
  cutoff : Nat
  deriving DecidableEq, Repr

/-- A write that is under way: the numbered message, the cells that it has not passed, and the instant
at which the write into the first of them began, if it has begun. -/
structure Parcel where
  message : Message
  rest : List CellId
  began : Option Nat
  deriving DecidableEq, Repr

inductive Event where
  | issued (tick : Tick)
  | looked (id : HandlerId) (look : Look)
  /-- A read of an input that has a cell. One through the context of a call comes with the cutoff
  that it was given. -/
  | read (target : PortAddress) (cell : CellId) (look : Option Look) (message : Option Message)
  /-- How the write of one message into one cell ended. -/
  | settled (cell : CellId) (entry : Entry Message) (result : Except Fault Unit)

/-- An engine with the writes that are under way in it, by their outputs, and the cutoff that each
handler was given last. -/
structure Flow where
  host : Hosted
  parcels : PortAddress → Option Parcel
  looks : HandlerId → Option Look

namespace Flow

def engine (f : Flow) : Engine := f.host.engine

def put (e : Engine) (f : Flow) : Flow := { f with host := { f.host with engine := e } }

def carry (source : PortAddress) (p : Option Parcel) (f : Flow) : Flow :=
  { f with parcels := Function.update f.parcels source p }

def tell (id : HandlerId) (look : Option Look) (f : Flow) : Flow :=
  { f with looks := Function.update f.looks id look }

def fill (n : CellId) (c : Cell Message) (f : Flow) : Flow :=
  f.put { f.engine with cells := f.engine.cells.set n c }

def numbered (a : PortAddress) (q : OutputPort) (m : Message) (f : Flow) : Flow :=
  (f.put (f.engine.counted a q)).carry a (some ⟨m.withSequence q.nextSequence, q.cells, none⟩)

/-- What becomes of ticks. The instant of an event is not before that of any earlier one, but it may
be the same. -/
inductive Beat (f : Flow) : List Event → Flow → Prop where
  | issue (frame : Nat) (timestamp delta : Float) (before : Nat)
      (running : f.engine.state = .running) (later : f.engine.now ≤ before + 1) :
      Beat f [.issued ⟨frame, timestamp, delta, before + 1⟩]
        (f.put ({ f.engine with now := before }.issue frame timestamp delta))
  | begin (id : HandlerId) (before : Nat) (free : (f.engine.handler? id).bind (·.call) = none)
      (later : f.engine.now ≤ ({ f.engine with now := before }.beginCall id).now) :
      Beat f [] (f.put ({ f.engine with now := before }.beginCall id))
  | look (id : HandlerId) (c : Call) (current : (f.engine.handler? id).bind (·.call) = some c) :
      Beat f [.looked id ⟨c.tick, c.startedAt, f.engine.cutoff c⟩]
        (f.tell id (some ⟨c.tick, c.startedAt, f.engine.cutoff c⟩))
  | finish (id : HandlerId) (c : Call) (how : Option Failure) :
      Beat f [] ((f.put (f.engine.finish id c how)).tell id none)

/-- What becomes of messages. A read through the context of a call has the cutoff that the handler
looked up last. -/
inductive Move (f : Flow) : List Event → Flow → Prop where
  | read (target : PortAddress) {p : InputPort} {n : CellId} {c : Cell Message}
      (look : Option Look) (cutoff : Option Nat) (found : f.engine.input? target = some p)
      (fed : p.cell = some n) (here : f.engine.cells[n]? = some c)
      (told : ∀ l, look = some l → f.looks target.handler = some l ∧ cutoff = some l.cutoff) :
      Move f [.read target n look (c.read cutoff).1] (f.fill n (c.read cutoff).2)
  | number (source : PortAddress) {q : OutputPort} (m : Message)
      (found : f.engine.output? source = some q) (accepted : q.check m = .ok ())
      (free : f.parcels source = none) :
      Move f [] ((f.put (f.engine.counted source q)).carry source
        (some ⟨m.withSequence q.nextSequence, q.cells, none⟩))
  | enter (source : PortAddress) {m : Message} {rest : List CellId} (start : Nat)
      (held : f.parcels source = some ⟨m, rest, none⟩) (later : f.engine.now ≤ start) :
      Move f [] ((f.put { f.engine with now := start }).carry source (some ⟨m, rest, some start⟩))
  /-- Idealised: whether the cell is closed is asked as the message is put in. A cell that keeps the
  latest only is asked before the instant is taken, so its closing is before or after a whole write. -/
  | settle (source : PortAddress) {m : Message} {n : CellId} {rest : List CellId} {start : Nat}
      {c : Cell Message} (held : f.parcels source = some ⟨m, n :: rest, some start⟩)
      (here : f.engine.cells[n]? = some c) :
      Move f [.settled n ⟨m, start⟩ (c.write start m).1]
        ((f.fill n (c.write start m).2).carry source (some ⟨m, rest, none⟩))
  | done (source : PortAddress) {m : Message} (held : f.parcels source = some ⟨m, [], none⟩) :
      Move f [] (f.carry source none)

inductive Step (f : Flow) : List Event → Flow → Prop where
  | command {h : Hosted} (c : f.host.Command h) : Step f [] { f with host := h }
  | beat {s : List Event} {g : Flow} (b : Beat f s g) : Step f s g
  | move {s : List Event} {g : Flow} (m : Move f s g) : Step f s g
  | still {e : Engine} (same : e.still = f.engine.still) (later : f.engine.now ≤ e.now) :
      Step f [] (f.put e)

inductive Run (f : Flow) : List Event → Flow → Prop where
  | refl : Run f [] f
  | tail {t s : List Event} {g h : Flow} (run : Run f t g) (step : Step g s h) : Run f (t ++ s) h

def atRest (h : Hosted) : Flow := ⟨h, fun _ => none, fun _ => none⟩

inductive Traced : List Event → Flow → Prop where
  | fresh {key : Nat} {settings : Settings} {fps : Float} {e : Engine}
      (made : Engine.make key settings fps = .ok e) (r : Option ActorRegistry) :
      Traced [] (atRest ⟨e, r⟩)
  | next {t s : List Event} {f g : Flow} (run : Traced t f) (step : Step f s g) :
      Traced (t ++ s) g

theorem Run.single {f g : Flow} {s : List Event} (step : Step f s g) : Run f s g :=
  .tail .refl step

theorem Run.trans {f g h : Flow} {s t : List Event} (first : Run f s g) (second : Run g t h) :
    Run f (s ++ t) h := by
  induction second with
  | refl => simpa using first
  | tail _ step ih =>
    rw [← List.append_assoc]
    exact ih.tail step

theorem Traced.append {f g : Flow} {s t : List Event} (first : Traced s f) (second : Run f t g) :
    Traced (s ++ t) g := by
  induction second with
  | refl => simpa using first
  | tail _ step ih =>
    rw [← List.append_assoc]
    exact ih.next step

section
variable (f : Flow)

@[simp] theorem put_engine (e : Engine) : (f.put e).engine = e := rfl
@[simp] theorem put_parcels (e : Engine) : (f.put e).parcels = f.parcels := rfl
@[simp] theorem put_looks (e : Engine) : (f.put e).looks = f.looks := rfl
@[simp] theorem carry_engine (a : PortAddress) (p : Option Parcel) :
    (f.carry a p).engine = f.engine := rfl
@[simp] theorem carry_parcels (a : PortAddress) (p : Option Parcel) :
    (f.carry a p).parcels = Function.update f.parcels a p := rfl
@[simp] theorem tell_engine (id : HandlerId) (l : Option Look) :
    (f.tell id l).engine = f.engine := rfl
@[simp] theorem tell_looks (id : HandlerId) (l : Option Look) :
    (f.tell id l).looks = Function.update f.looks id l := rfl
@[simp] theorem fill_parcels (n : CellId) (c : Cell Message) :
    (f.fill n c).parcels = f.parcels := rfl
@[simp] theorem fill_cells (n : CellId) (c : Cell Message) :
    (f.fill n c).engine.cells = f.engine.cells.set n c := rfl

theorem tell_here (id : HandlerId) (l : Option Look) : (f.tell id l).looks id = l := by
  rw [tell_looks, Function.update_self]

end

end Flow

/-! What a trace tells. -/

namespace Event

def tick? : Event → Option Tick
  | .issued tick => some tick
  | _ => none

def cutoff? (id : HandlerId) : Event → Option Nat
  | .looked x look => if x = id then some look.cutoff else none
  | _ => none

def outcome? (n : CellId) : Event → Option (Entry Message × Except Fault Unit)
  | .settled m entry result => if m = n then some (entry, result) else none
  | _ => none

def taken? (n : CellId) : Event → Option Message
  | .read _ m _ message => if m = n then message else none
  | _ => none

def causal? (target : PortAddress) : Event → Option Message
  | .read a _ (some _) message => if a = target then message else none
  | _ => none

end Event

def issues (t : List Event) : List Tick := t.filterMap Event.tick?

def cutoffs (id : HandlerId) (t : List Event) : List Nat := t.filterMap (Event.cutoff? id)

def outcomes (n : CellId) (t : List Event) : List (Entry Message × Except Fault Unit) :=
  t.filterMap (Event.outcome? n)

def stored (n : CellId) (t : List Event) : List (Entry Message) :=
  ((outcomes n t).filter (·.2.isOk)).map (·.1)

def refused (n : CellId) (t : List Event) : List (Entry Message) :=
  ((outcomes n t).filter (!·.2.isOk)).map (·.1)

def taken (n : CellId) (t : List Event) : List Message := t.filterMap (Event.taken? n)

def causalReads (target : PortAddress) (t : List Event) : List Message :=
  t.filterMap (Event.causal? target)

section
variable (s t : List Event)

@[simp] theorem issues_append : issues (s ++ t) = issues s ++ issues t := List.filterMap_append
@[simp] theorem cutoffs_append (id : HandlerId) :
    cutoffs id (s ++ t) = cutoffs id s ++ cutoffs id t := List.filterMap_append
@[simp] theorem outcomes_append (n : CellId) :
    outcomes n (s ++ t) = outcomes n s ++ outcomes n t := List.filterMap_append
@[simp] theorem taken_append (n : CellId) : taken n (s ++ t) = taken n s ++ taken n t :=
  List.filterMap_append
@[simp] theorem causalReads_append (a : PortAddress) :
    causalReads a (s ++ t) = causalReads a s ++ causalReads a t := List.filterMap_append
@[simp] theorem stored_append (n : CellId) : stored n (s ++ t) = stored n s ++ stored n t := by
  simp [stored]
@[simp] theorem refused_append (n : CellId) : refused n (s ++ t) = refused n s ++ refused n t := by
  simp [refused]

end

end Tickflow
