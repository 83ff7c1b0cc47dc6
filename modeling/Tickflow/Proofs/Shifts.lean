import Tickflow.Proofs.Course
import Tickflow.Proofs.Steps
import Tickflow.Proofs.Tasks
/-!
A handler at work, as its script says and in fine steps: between any two of them others may act. What
others do leaves its desk alone, and that is all that is asked of them.
-/
namespace Tickflow

/-- Where a handler is in its work: between two actions or two calls, amid an action of which this is
left, before a read for which the cutoff was looked up, or in a write of which this came so far. -/
inductive Place where
  | between
  | amid (task : Task)
  | reading (port : String) (look : Look) (next : Except Fault (Option Message) → Task)
  | writing (port : String) (result : Except Fault Unit) (next : Except Fault Unit → Task)

namespace Engine

def remembered (id : HandlerId) (e : Engine) : Option Nat := (e.handler? id).bind (·.bridged)

def noting (id : HandlerId) (number : Nat) (e : Engine) : Engine :=
  e.modify id fun h => { h with bridged := some number }

def refusal? (a : PortAddress) (m : Message) (e : Engine) : Option Fault :=
  match e.output? a with
  | none => some (portFault a.handler a.port)
  | some q => match q.check m with
    | .error f => some f
    | .ok () => none

theorem readPort_missing {a : PortAddress} {e : Engine} (missing : e.input? a = none)
    (cutoff : Option Nat) : e.readPort a.handler a.port cutoff =
      (.error (portFault a.handler a.port), e) := by
  unfold readPort
  rw [show (e.handler? a.handler).bind (·.ports.input? a.port) = none from missing]

theorem readPort_found {a : PortAddress} {p : InputPort} {e : Engine}
    (found : e.input? a = some p) (cutoff : Option Nat) :
    e.readPort a.handler a.port cutoff =
      (.ok (p.read cutoff e.cells).1, { e with cells := (p.read cutoff e.cells).2 }) := by
  unfold readPort
  rw [show (e.handler? a.handler).bind (·.ports.input? a.port) = some p from found]

theorem readPort_handlers (id : HandlerId) (port : String) (cutoff : Option Nat) (e : Engine) :
    (e.readPort id port cutoff).2.handlers = e.handlers := by
  unfold readPort
  split <;> rfl

theorem still_modify {f : Handler → Handler} (keeps : ∀ h, (f h).still = h.still)
    (id : HandlerId) (e : Engine) : (e.modify id f).still = e.still := by
  simp only [Engine.still, map_modify fun h _ _ => keeps h]
  rfl

theorem setCall_still {c c' : Call} {id : HandlerId} {e : Engine} (d : e.Distinct)
    (current : (e.handler? id).bind (·.call) = some c) (tick : c'.tick = c.tick)
    (start : c'.startedAt = c.startedAt) : (e.setCall id c').still = e.still := by
  have keeps : ∀ h ∈ e.handlers, h.id = id →
      ({ h with call := some c' } : Handler).still = h.still := by
    intro h mem at_id
    obtain ⟨x, found, call⟩ := Option.bind_eq_some_iff.mp current
    have same : h = x := handler_unique d.ids mem (mem_of_handler found).1
      (at_id.trans (mem_of_handler found).2.symm)
    subst h
    simp [Handler.still, call, tick, start]
  simp only [Engine.still, setCall, map_modify keeps]
  rfl

end Engine

namespace Flow

open Engine

/-- What nobody but the handler itself changes. -/
structure Desk where
  call : Option Call
  remembered : Option Nat
  look : Option Look
  parcels : String → Option Parcel

def desk (id : HandlerId) (f : Flow) : Desk where
  call := (f.engine.handler? id).bind (·.call)
  remembered := f.engine.remembered id
  look := f.looks id
  parcels port := f.parcels ⟨id, port⟩

def seen (a : PortAddress) (look : Option Look) (cutoff : Option Nat) (e : Engine) : List Event :=
  match e.input? a with
  | none => []
  | some p => match p.cell with
    | none => []
    | some n => match e.cells[n]? with
      | none => []
      | some c => [.read a n look (c.read cutoff).1]

def got (a : PortAddress) (cutoff : Option Nat) (f : Flow) : Flow :=
  f.put (f.engine.readPort a.handler a.port cutoff).2

/-- A step of the handler in its work. It says how a call ended, if one did with the step. -/
inductive Own (id : HandlerId) (f : Flow) :
    Place → List Event → Option (Option Failure) → Flow → Place → Prop where
  | begin (before : Nat) (free : (f.desk id).call = none)
      (later : f.engine.now ≤ ({ f.engine with now := before }.beginCall id).now) :
      Own id f .between [] none (f.put ({ f.engine with now := before }.beginCall id)) .between
  | rest (c : Call) (current : f.engine.openCall? id = some c) (done : c.rest = []) :
      Own id f .between [] (some none) ((f.put (f.engine.finish id c none)).tell id none) .between
  | hold (c : Call) {soft : Bool} {rest : List Tickflow.Step}
      (current : f.engine.openCall? id = some c) (next : c.rest = ⟨.hold, soft⟩ :: rest) :
      Own id f .between [] none (f.put (f.engine.setCall id { c with rest, held := true })) .between
  | take (c : Call) {s : Tickflow.Step} {rest : List Tickflow.Step}
      (current : f.engine.openCall? id = some c) (next : c.rest = s :: rest)
      (acts : s.action ≠ .hold) : Own id f .between [] none f (.amid (s.action.task c))
  | goes {noted : List CallEvent} {result : Except Failure (List CallEvent)} (c : Call)
      {s : Tickflow.Step} {rest : List Tickflow.Step} {c' : Call}
      (current : (f.desk id).call = some c) (next : c.rest = s :: rest)
      (judged : ({ c with rest } : Call).judged s.soft noted result = (c', none)) :
      Own id f (.amid (.ended noted result)) [] none (f.put (f.engine.setCall id c')) .between
  | ends {noted : List CallEvent} {result : Except Failure (List CallEvent)} (c : Call)
      {s : Tickflow.Step} {rest : List Tickflow.Step} {c' : Call} {how : Option Failure}
      (current : (f.desk id).call = some c) (next : c.rest = s :: rest)
      (judged : ({ c with rest } : Call).judged s.soft noted result = (c', some how)) :
      Own id f (.amid (.ended noted result)) [] (some how)
        ((f.put (f.engine.finish id c' how)).tell id none) .between
  | look (next : Nat → Task) (c : Call) (current : (f.desk id).call = some c) :
      Own id f (.amid (.look next)) [.looked id ⟨c.tick, c.startedAt, f.engine.cutoff c⟩] none
        (f.tell id (some ⟨c.tick, c.startedAt, f.engine.cutoff c⟩))
        (.amid (next (f.engine.cutoff c)))
  | see {port : String} {next : Except Fault (Option Message) → Task} (c : Call)
      (current : (f.desk id).call = some c) :
      Own id f (.amid (.see port next)) [.looked id ⟨c.tick, c.startedAt, f.engine.cutoff c⟩] none
        (f.tell id (some ⟨c.tick, c.startedAt, f.engine.cutoff c⟩))
        (.reading port ⟨c.tick, c.startedAt, f.engine.cutoff c⟩ next)
  | saw {port : String} {look : Look} {next : Except Fault (Option Message) → Task}
      (asked : (f.desk id).look = some look) :
      Own id f (.reading port look next)
        (seen ⟨id, port⟩ (some look) (some look.cutoff) f.engine) none
        (f.got ⟨id, port⟩ (some look.cutoff))
        (.amid (next (f.engine.readPort id port (some look.cutoff)).1))
  | read (port : String) (next : Except Fault (Option Message) → Task) :
      Own id f (.amid (.read port next)) (seen ⟨id, port⟩ none none f.engine) none
        (f.got ⟨id, port⟩ none) (.amid (next (f.engine.readPort id port none).1))
  | ask (next : Option Nat → Task) :
      Own id f (.amid (.ask next)) [] none f (.amid (next (f.engine.remembered id)))
  | note (number : Nat) (next : Task) :
      Own id f (.amid (.note number next)) [] none (f.put (f.engine.noting id number)) (.amid next)
  | acquire (length : Nat) (next : Lease → Task) :
      Own id f (.amid (.acquire length next)) [] none
        (f.put { f.engine with pool := (f.engine.pool.acquire length).2 })
        (.amid (next (f.engine.pool.acquire length).1))
  | release (lease : Lease) (next : Task) :
      Own id f (.amid (.release lease next)) [] none
        (f.put { f.engine with pool := f.engine.pool.release lease }) (.amid next)
  | freeze (lease : Lease) (next : List UInt8 → Task) :
      Own id f (.amid (.freeze lease next)) [] none
        (f.put { f.engine with pool := (f.engine.pool.freeze lease).2 })
        (.amid (next (f.engine.pool.freeze lease).1))
  | refuse {port : String} {m : Message} {next : Except Fault Unit → Task} {fault : Fault}
      (refused : f.engine.refusal? ⟨id, port⟩ m = some fault) :
      Own id f (.amid (.write port m next)) [] none f (.amid (next (.error fault)))
  | number {port : String} {m : Message} {next : Except Fault Unit → Task} {q : OutputPort}
      (found : f.engine.output? ⟨id, port⟩ = some q) (accepted : q.check m = .ok ())
      (free : (f.desk id).parcels port = none) :
      Own id f (.amid (.write port m next)) [] none (f.numbered ⟨id, port⟩ q m)
        (.writing port (.ok ()) next)
  | enter {port : String} {result : Except Fault Unit} {next : Except Fault Unit → Task}
      {m : Message} {rest : List CellId} (start : Nat)
      (held : (f.desk id).parcels port = some ⟨m, rest, none⟩) (later : f.engine.now ≤ start) :
      Own id f (.writing port result next) [] none
        ((f.put { f.engine with now := start }).carry ⟨id, port⟩ (some ⟨m, rest, some start⟩))
        (.writing port result next)
  | settle {port : String} {result : Except Fault Unit} {next : Except Fault Unit → Task}
      {m : Message} {n : CellId} {rest : List CellId} {start : Nat} {cell : Cell Message}
      (held : (f.desk id).parcels port = some ⟨m, n :: rest, some start⟩)
      (here : f.engine.cells[n]? = some cell) :
      Own id f (.writing port result next) [.settled n ⟨m, start⟩ (cell.write start m).1] none
        ((f.fill n (cell.write start m).2).carry ⟨id, port⟩ (some ⟨m, rest, none⟩))
        (.writing port (result.bind fun _ => (cell.write start m).1) next)
  | done {port : String} {result : Except Fault Unit} {next : Except Fault Unit → Task}
      {m : Message} (held : (f.desk id).parcels port = some ⟨m, [], none⟩) :
      Own id f (.writing port result next) [] none (f.carry ⟨id, port⟩ none) (.amid (next result))

/-- A step in which the handler has no part. -/
structure Aside (id : HandlerId) (f : Flow) (s : List Event) (g : Flow) : Prop where
  step : Step f s g
  desk : g.desk id = f.desk id
  unread : ∀ port n look x, .read ⟨id, port⟩ n look x ∉ s

/-- The work of a handler, with what others do meanwhile, and how its calls ended. -/
inductive Shift (id : HandlerId) (f : Flow) (p : Place) :
    List Event → List (Option Failure) → Flow → Place → Prop where
  | refl : Shift id f p [] [] f p
  | own {t s : List Event} {ends : List (Option Failure)} {how : Option (Option Failure)}
      {g h : Flow} {p' p'' : Place} (run : Shift id f p t ends g p')
      (step : Own id g p' s how h p'') : Shift id f p (t ++ s) (ends ++ how.toList) h p''
  | aside {t s : List Event} {ends : List (Option Failure)} {g h : Flow} {p' : Place}
      (run : Shift id f p t ends g p') (step : Aside id g s h) : Shift id f p (t ++ s) ends h p'

variable {f g h : Flow} {s t : List Event} {id x : HandlerId} {p p' p'' : Place}
  {ends ends' : List (Option Failure)} {how : Option (Option Failure)}

theorem Shift.trans (first : Shift id f p s ends g p') (second : Shift id g p' t ends' h p'') :
    Shift id f p (s ++ t) (ends ++ ends') h p'' := by
  induction second with
  | refl => simpa using first
  | own _ step ih =>
    rw [← List.append_assoc, ← List.append_assoc]
    exact ih.own step
  | aside _ step ih =>
    rw [← List.append_assoc]
    exact ih.aside step

/-! A step of a handler is one of the steps that a flow may take, or nothing that others can see. -/

theorem got_step (a : PortAddress) (look : Option Look) {cutoff : Option Nat}
    (told : ∀ l, look = some l → f.looks a.handler = some l ∧ cutoff = some l.cutoff) :
    (seen a look cutoff f.engine = [] ∧ f.got a cutoff = f) ∨
      Step f (seen a look cutoff f.engine) (f.got a cutoff) := by
  unfold got
  cases found : f.engine.input? a with
  | none =>
    simp only [seen, found, readPort_missing found]
    exact .inl ⟨trivial, rfl⟩
  | some p =>
    rw [readPort_found found]
    cases fed : p.cell with
    | none =>
      simp only [seen, found, fed, InputPort.read]
      exact .inl ⟨trivial, rfl⟩
    | some n =>
      cases here : f.engine.cells[n]? with
      | none =>
        simp only [seen, found, fed, here, InputPort.read]
        exact .inl ⟨trivial, rfl⟩
      | some c =>
        simp only [seen, found, fed, here, InputPort.read]
        exact .inr (.move (.read a look cutoff found fed here told))

theorem judged_call {soft : Bool} {noted : List CallEvent} {c c' : Call}
    {result : Except Failure (List CallEvent)}
    (judged : c.judged soft noted result = (c', how)) :
    c'.tick = c.tick ∧ c'.startedAt = c.startedAt ∧ c'.rest = c.rest := by
  unfold Call.judged at judged
  dsimp only at judged
  split at judged <;> cases judged <;> exact ⟨rfl, rfl, rfl⟩

theorem openCall_call {c : Call} (current : f.engine.openCall? id = some c) :
    (f.desk id).call = some c := (Option.filter_eq_some_iff.mp current).1

theorem Own.step (own : Own id f p s how g p') (d : f.engine.Distinct) :
    (s = [] ∧ g = f) ∨ Step f s g := by
  cases own with
  | begin before free later => exact .inr (.beat (.begin id before free later))
  | rest c => exact .inr (.beat (.finish id c none))
  | hold c current =>
    exact .inr (.still (setCall_still d (openCall_call current) rfl rfl) (Nat.le_refl _))
  | take | ask | refuse => exact .inl ⟨rfl, rfl⟩
  | goes c current _ judged =>
    obtain ⟨tick, start, _⟩ := judged_call judged
    exact .inr (.still (setCall_still d current tick start) (Nat.le_refl _))
  | @ends _ _ _ _ _ c' how => exact .inr (.beat (.finish id c' how))
  | look _ c current => exact .inr (.beat (.look id c current))
  | see c current => exact .inr (.beat (.look id c current))
  | @saw port look _ asked =>
    refine got_step ⟨id, port⟩ (some look) fun l same => ?_
    cases same
    exact ⟨asked, rfl⟩
  | read port => exact got_step ⟨id, port⟩ none (by simp)
  | note => exact .inr (.still (still_modify (by exact fun _ => rfl) id _) (Nat.le_refl _))
  | acquire | release | freeze => exact .inr (.still rfl (Nat.le_refl _))
  | @number port m _ q found accepted free =>
    exact .inr (.move (.number ⟨id, port⟩ m found accepted free))
  | @enter port _ _ _ _ start held later => exact .inr (.move (.enter ⟨id, port⟩ start held later))
  | @settle port _ _ _ _ _ _ _ held here => exact .inr (.move (.settle ⟨id, port⟩ held here))
  | @done port _ _ _ held => exact .inr (.move (.done ⟨id, port⟩ held))

theorem Own.run (own : Own id f p s how g p') (d : f.engine.Distinct) : Run f s g := by
  rcases own.step d with ⟨rfl, rfl⟩ | step
  · exact .refl
  · exact .single step

theorem run_wired (w : f.engine.Wired) (run : Run f t g) : g.engine.Wired := by
  induction run with
  | refl => exact w
  | tail _ step ih => exact step_wired ih step

theorem Shift.run (shift : Shift id f p t ends g p') (w : f.engine.Wired) : Run f t g := by
  induction shift with
  | refl => exact .refl
  | own _ own ih => exact ih.trans (own.run (run_wired w ih).distinct)
  | aside _ aside ih => exact ih.tail aside.step

/-! What others do. -/

theorem desk_same (handler : g.engine.handler? id = f.engine.handler? id)
    (look : g.looks id = f.looks id) (parcels : ∀ port, g.parcels ⟨id, port⟩ = f.parcels ⟨id, port⟩) :
    g.desk id = f.desk id := by
  simp only [desk, remembered, handler, look, parcels]

theorem finish_other (other : x ≠ id) (c : Call) (how : Option Failure) (e : Engine) :
    (e.finish x c how).handler? id = e.handler? id := by
  refine (modify_other ?_ other _).trans ?_
  · exact fun _ => rfl
  · cases how <;> rfl

theorem beginCall_other (other : x ≠ id) (e : Engine) :
    (e.beginCall x).handler? id = e.handler? id := by
  rcases beginCall_cases x e with same | ⟨_, _, _, _, _, ⟨_, same⟩ | ⟨_, _, _, same⟩⟩
  · rw [same]
  · rw [same]
    rfl
  · rw [same]
    exact modify_other (by exact fun _ => rfl) other _

theorem carry_other (other : x ≠ id) (port : String) (parcel : Option Parcel) (f : Flow)
    (port' : String) : (f.carry ⟨x, port⟩ parcel).parcels ⟨id, port'⟩ = f.parcels ⟨id, port'⟩ := by
  refine Function.update_of_ne ?_ _ _
  intro same
  exact other (congrArg PortAddress.handler same).symm

theorem tell_other (other : x ≠ id) (look : Option Look) (f : Flow) :
    (f.tell x look).looks id = f.looks id := Function.update_of_ne (Ne.symm other) _ _

theorem got_desk (a : PortAddress) (cutoff : Option Nat) (f : Flow) (id : HandlerId) :
    (f.got a cutoff).desk id = f.desk id :=
  desk_same (congrArg (List.find? _) (readPort_handlers a.handler a.port cutoff f.engine)) rfl
    fun _ => rfl

theorem mem_seen {a : PortAddress} {look : Option Look} {cutoff : Option Nat} {e : Engine}
    {event : Event} (mem : event ∈ seen a look cutoff e) : ∃ n x, event = .read a n look x := by
  unfold seen at mem
  repeat' split at mem
  · cases mem
  · cases mem
  · cases mem
  · exact ⟨_, _, List.mem_singleton.mp mem⟩

theorem Own.other (own : Own x f p s how g p') (other : x ≠ id) : g.desk id = f.desk id := by
  have modified {e : Engine} {k : Handler → Handler} (keeps : ∀ h, (k h).id = h.id) :
      (e.modify x k).handler? id = e.handler? id := modify_other keeps other e
  cases own with
  | begin => exact desk_same (beginCall_other other _) rfl fun _ => rfl
  | rest => exact desk_same (finish_other other _ _ _) (tell_other other _ _) fun _ => rfl
  | ends => exact desk_same (finish_other other _ _ _) (tell_other other _ _) fun _ => rfl
  | hold | goes | note => exact desk_same (modified (by exact fun _ => rfl)) rfl fun _ => rfl
  | take | ask | refuse | acquire | release | freeze => rfl
  | look | see => exact desk_same rfl (tell_other other _ _) fun _ => rfl
  | saw | read => exact got_desk _ _ _ _
  | number =>
    exact desk_same (modified (by exact fun _ => rfl)) rfl (carry_other other _ _ _)
  | enter | settle | done => exact desk_same rfl rfl (carry_other other _ _ _)

theorem Own.unread (own : Own x f p s how g p') (other : x ≠ id) (port : String) (n : CellId)
    (look : Option Look) (m : Option Message) : .read ⟨id, port⟩ n look m ∉ s := by
  intro mem
  have away {look' : Option Look} {cutoff : Option Nat} {port' : String}
      (shown : .read ⟨id, port⟩ n look m ∈ seen ⟨x, port'⟩ look' cutoff f.engine) : False := by
    obtain ⟨_, _, same⟩ := mem_seen shown
    cases same
    exact other rfl
  cases own with
  | saw | read => exact away mem
  | _ => simp at mem

theorem Own.aside (own : Own x f p s how g p') (d : f.engine.Distinct) (other : x ≠ id)
    (q : Place) : Shift id f q s [] g q := by
  rcases own.step d with ⟨rfl, rfl⟩ | step
  · exact .refl
  · exact Shift.refl.aside ⟨step, own.other other, own.unread other⟩

/-- A stretch of the work of one handler, in which all the others stay where they are. -/
structure Stretch (id : HandlerId) (f : Flow) (p : Place) (t : List Event)
    (ends : List (Option Failure)) (g : Flow) (p' : Place) : Prop where
  own : Shift id f p t ends g p'
  others : ∀ x, id ≠ x → ∀ q, Shift x f q t [] g q

theorem Stretch.refl : Stretch id f p [] [] f p := ⟨.refl, fun _ _ _ => .refl⟩

theorem Stretch.trans (first : Stretch id f p s ends g p')
    (second : Stretch id g p' t ends' h p'') : Stretch id f p (s ++ t) (ends ++ ends') h p'' :=
  ⟨first.own.trans second.own,
    fun x other q => (first.others x other q).trans (second.others x other q)⟩

theorem Own.stretch (own : Own id f p s how g p') (d : f.engine.Distinct) :
    Stretch id f p s how.toList g p' :=
  ⟨Shift.refl.own own, fun _ other q => own.aside d other q⟩

theorem Stretch.wired (stretch : Stretch id f p t ends g p') (w : f.engine.Wired) :
    g.engine.Wired := run_wired w (stretch.own.run w)

theorem wait_stretch {now : Nat} (later : f.engine.now ≤ now) :
    Stretch id f p [] [] (f.put { f.engine with now }) p := by
  have aside (x : HandlerId) : Aside x f [] (f.put { f.engine with now }) :=
    ⟨.still rfl later, rfl, by simp⟩
  exact ⟨Shift.refl.aside (aside id), fun x _ _ => Shift.refl.aside (aside x)⟩

end Flow

end Tickflow
