import Tickflow.Proofs.Atomic
import Tickflow.Proofs.Relay
/-!
An adapter takes what comes to it, notes its number and passes it on, since its script says so. How far
it came is told by its place in the script. What it has in hand and what is on its desk agree with
this, and they still do after each step of its own, whatever others do in between.
-/
namespace Tickflow

namespace Route

theorem known_cases {r : Route} (known : r ∈ all) : r = hostToDevice ∨ r = deviceToHost := by
  simpa [all] using known

theorem destination_declared {r : Route} (known : r ∈ all) (pool : Nat) :
    r.output.intersects (r.destination pool).capability = true := by
  rcases known_cases known with rfl | rfl <;> rfl

/-- What an adapter does in each of its calls. -/
def script (pool : Nat) (r : Route) : List Step :=
  [⟨.bridge inputPort outputPort (r.destination pool), false⟩]

theorem adapter_process (kind : PayloadKind) (pool : Nat) (r : Route) (frame : Nat) :
    (r.adapter kind pool).process frame = r.script pool := rfl

end Route

namespace Engine

variable {e : Engine} {a : HandlerId}

theorem write_faults {cell : Cell α} {start : Nat} {value : α} {x : Fault}
    (failed : (cell.write start value).1 = .error x) : x = .bufferFull cell.label := by
  cases closed : cell.closed with
  | true =>
    rw [write_closed closed] at failed
    cases failed
  | false =>
    rcases write_open closed start value with ⟨ok, _⟩ | ⟨error, _⟩
    · rw [ok] at failed
      cases failed
    · rw [error] at failed
      cases failed
      rfl

theorem bridged_fresh (free : a ∉ e.ids) (source target : PortAddress) (r : Route)
    (kind : PayloadKind) (policy : ConsumptionPolicy) :
    ∃ h, (e.bridged source target a r kind policy).handler? a = some h ∧
      h.bridged = none ∧ h.call = none := by
  rw [bridged, handler_joined, handler_joined, insert_new free]
  exact ⟨_, rfl, rfl, rfl⟩

end Engine

namespace Flow

open Engine

variable {f g : Flow} {s t : List Event} {c : Connection} {a : HandlerId} {r : Route} {k : Hand}
  {p p' : Place} {how : Option (Option Failure)} {ends : List (Option Failure)}

theorem Relayed.fed (run : Relayed c a r t f k) : ∃ m n,
    c.links = [⟨c.source, a.inlet, m⟩, ⟨a.outlet, c.target, n⟩] ∧
      ∃ p, ∃ cell : Cell Message, f.engine.input? a.inlet = some p ∧ p.cell = some m ∧
        f.engine.cells[m]? = some cell := by
  obtain ⟨_, m, n, links⟩ := run.stands.1.through
  have ml : ⟨c.source, a.inlet, m⟩ ∈ f.engine.links := by
    apply run.stands.2
    rw [links]
    exact List.mem_cons_self
  obtain ⟨p, found, fed⟩ := run.wired.link_input ml
  obtain ⟨_, _, cell, here⟩ := run.wired.link_carried ml
  exact ⟨m, n, links, p, cell, found, fed, here⟩

theorem Relayed.kinds (run : Relayed c a r t f k) {l : Link} (ml : l ∈ c.links)
    (starts : l.source = c.source) {m : Message} (mem : m ∈ f.sent l t) : m.kind = c.kind := by
  obtain ⟨bridges, stands⟩ := run.stands
  obtain ⟨q, found, declared⟩ := traced_declared run.traced (stands l ml) m mem
  obtain ⟨q', source, kind, _⟩ := bridges.source
  rw [starts, source] at found
  cases found
  exact declared.1.trans kind

theorem Relayed.accepts (run : Relayed c a r t f k) {m : Message} (kind : m.kind = c.kind) :
    ∃ q, f.engine.output? a.outlet = some q ∧ q.check (r.moved f.devicePool m) = .ok () := by
  obtain ⟨bridges, _⟩ := run.stands
  obtain ⟨q, leaves, spec⟩ := bridges.output
  refine ⟨q, leaves, OutputPort.check_iff.mpr ?_⟩
  rw [spec]
  exact ⟨kind, Route.destination_declared bridges.known _⟩

theorem Relayed.reads (run : Relayed c a r t f k) {l : Link} {cell : Cell Message}
    (here : f.engine.cells[l.cell]? = some cell) {cutoff : Option Nat} {m : Message}
    (got : (cell.read cutoff).1 = some m) : m ∈ f.sent l t := by
  obtain ⟨e, me, rfl, _⟩ := (traced_holds run.traced here).found got
  exact stored_sent me f

/-! The places of an adapter. -/

/-- The handler is in a call, and all of its script is before it. -/
def Desk.Acting (script : List Tickflow.Step) (d : Desk) : Prop :=
  ∃ c, d.call = some c ∧ c.rest = script

/-- The adapter is done with all that it took, and knows what it took last. -/
structure Desk.Clear (d : Desk) (k : Hand) : Prop where
  empty : k.held = none
  free : d.parcels Route.outputPort = none
  knows : d.remembered = k.noted

/-- The adapter took the message and did not begin to write it. -/
structure Desk.Holds (kind : PayloadKind) (d : Desk) (k : Hand) (m : Message) : Prop where
  kind : m.kind = kind
  held : k.held = some m
  noted : k.noted = some m.sequence
  free : d.parcels Route.outputPort = none

theorem Desk.Clear.same {d d' : Desk} (clear : d.Clear k) (parcels : d'.parcels = d.parcels)
    (remembered : d'.remembered = d.remembered) : d'.Clear k :=
  ⟨clear.empty, parcels ▸ clear.free, remembered.trans clear.knows⟩

theorem Desk.Holds.same {kind : PayloadKind} {d d' : Desk} {m : Message}
    (holds : d.Holds kind k m) (parcels : d'.parcels = d.parcels) : d'.Holds kind k m :=
  ⟨holds.kind, holds.held, holds.noted, parcels ▸ holds.free⟩

def Delivered (result : Except Fault Unit) : Prop :=
  result = .ok () ∨ ∃ label, result = .error (.bufferFull label)

def Harmless (how : Option Failure) : Prop :=
  how = none ∨ ∃ label, how = some (.fault (.bufferFull label))

/-- What an adapter has in hand and on its desk, by its place. -/
inductive Stance (kind : PayloadKind) (r : Route) (pool : Nat) (d : Desk) (k : Hand) :
    Place → Prop where
  | between (clear : d.Clear k)
      (script : ∀ c, d.call = some c → c.rest = r.script pool ∨ c.rest = []) :
      Stance kind r pool d k .between
  | looking (acting : d.Acting (r.script pool)) (clear : d.Clear k) : Stance kind r pool d k
      (.amid (.see Route.inputPort (.bridges Route.outputPort (r.destination pool))))
  | reading (look : Look) (acting : d.Acting (r.script pool)) (clear : d.Clear k) :
      Stance kind r pool d k
        (.reading Route.inputPort look (.bridges Route.outputPort (r.destination pool)))
  | again (m : Message) (acting : d.Acting (r.script pool)) (clear : d.Clear k)
      (same : d.remembered = some m.sequence) : Stance kind r pool d k
        (.amid (.bridges Route.outputPort (r.destination pool) (.ok (some m))))
  | took (m : Message) (acting : d.Acting (r.script pool)) (holds : d.Holds kind k m)
      (new : d.remembered ≠ some m.sequence) : Stance kind r pool d k
        (.amid (.bridges Route.outputPort (r.destination pool) (.ok (some m))))
  | noting (m : Message) (acting : d.Acting (r.script pool)) (holds : d.Holds kind k m) :
      Stance kind r pool d k
        (.amid (.note m.sequence (.moves Route.outputPort (r.destination pool) m)))
  | moving (m : Message) (acting : d.Acting (r.script pool)) (holds : d.Holds kind k m)
      (knows : d.remembered = k.noted) : Stance kind r pool d k
        (.amid (.moves Route.outputPort (r.destination pool) m))
  | filling (m : Message) (lease : Lease) (acting : d.Acting (r.script pool))
      (holds : d.Holds kind k m) (knows : d.remembered = k.noted) : Stance kind r pool d k
        (.amid (.freeze (lease.holding m.bytes) fun bytes => .write Route.outputPort
          (m.relocated (r.destination pool) bytes) (.written (.wrote Route.outputPort))))
  | giving (m : Message) (acting : d.Acting (r.script pool)) (holds : d.Holds kind k m)
      (knows : d.remembered = k.noted) : Stance kind r pool d k
        (.amid (.write Route.outputPort (r.moved pool m) (.written (.wrote Route.outputPort))))
  | writing (result : Except Fault Unit) (acting : d.Acting (r.script pool))
      (empty : k.held = none) (knows : d.remembered = k.noted) (delivered : Delivered result) :
      Stance kind r pool d k
        (.writing Route.outputPort result (.written (.wrote Route.outputPort)))
  | ended (result : Except Failure (List CallEvent)) (acting : d.Acting (r.script pool))
      (clear : d.Clear k)
      (harmless : ∀ how, result = .error how → Harmless (some how)) :
      Stance kind r pool d k (.amid (.ended [] result))

/-- The adapter came to the place `p`, and has in hand what it should have there. -/
def Engaged (c : Connection) (a : HandlerId) (r : Route) (t : List Event) (f : Flow) (p : Place) :
    Prop :=
  ∃ k, Relayed c a r t f k ∧ Stance c.kind r f.devicePool (f.desk a) k p

theorem unnumbered_kept (w : f.engine.Wired) (step : Step f s g) {b : PortAddress}
    (kept : f.parcels b = none → g.parcels b = none) : Unnumbered b f g := by
  rcases step_numbers w step b with unnumbered | ⟨q, m, _, _, free, _, rfl⟩
  · exact unnumbered
  · have none := kept free
    rw [numbered, carry_parcels, Function.update_self] at none
    cases none

theorem Own.pool (own : Own a f p s how g p') (w : f.engine.Wired) :
    g.devicePool = f.devicePool := by
  rcases own.step w.distinct with ⟨_, rfl⟩ | step
  · rfl
  · exact step_pool w step

theorem Relayed.beside (run : Relayed c a r t f k) (own : Own a f p s how g p')
    (unread : ∀ n look x, .read a.inlet n look x ∉ s)
    (kept : f.parcels a.outlet = none → g.parcels a.outlet = none) :
    Relayed c a r (t ++ s) g k := by
  rcases own.step run.wired.distinct with ⟨rfl, rfl⟩ | step
  · rwa [List.append_nil]
  · exact run.aside step unread (unnumbered_kept run.wired step kept)

theorem modify_bind {α : Type} {h : Handler → Handler} (keeps : ∀ x, (h x).id = x.id)
    (id : HandlerId) (look : Handler → Option α) (e : Engine) :
    ((e.modify id h).handler? id).bind look = (e.handler? id).bind fun x => look (h x) := by
  rw [modify_own keeps, Option.bind_map]
  rfl

theorem Relayed.looking (run : Relayed c a r t f k)
    (acting : (f.desk a).Acting (r.script f.devicePool)) (clear : (f.desk a).Clear k)
    (own : Own a f (.amid (.see Route.inputPort
      (.bridges Route.outputPort (r.destination f.devicePool)))) s how g p') :
    Engaged c a r (t ++ s) g p' := by
  have on (unread) (kept) := run.beside own unread kept
  cases own with
  | see call current =>
    exact ⟨k, on (by simp) fun free => free,
      .reading _ acting (clear.same rfl rfl)⟩

theorem Relayed.shows (run : Relayed c a r t f k) (look : Option Look) (cutoff : Option Nat) :
    ∃ n x, seen ⟨a, Route.inputPort⟩ look cutoff f.engine = [.read a.inlet n look x] ∧
      (f.engine.readPort a Route.inputPort cutoff).1 = .ok x ∧
      ∀ m, x = some m → m.kind = c.kind := by
  obtain ⟨m, n, links, p, cell, found, fed, here⟩ := run.fed
  have found : f.engine.input? ⟨a, Route.inputPort⟩ = some p := found
  refine ⟨m, (cell.read cutoff).1, ?_, ?_, ?_⟩
  · simp only [seen, found, fed, here]
    rfl
  · have read := readPort_found found cutoff
    simp only at read
    simp only [read, InputPort.read, fed, here]
  · intro x got
    exact run.kinds (links ▸ List.mem_cons_self) rfl
      (run.reads (l := ⟨c.source, a.inlet, m⟩) here got)

theorem Relayed.reading (run : Relayed c a r t f k) {look : Look}
    (acting : (f.desk a).Acting (r.script f.devicePool)) (clear : (f.desk a).Clear k)
    (own : Own a f (.reading Route.inputPort look
      (.bridges Route.outputPort (r.destination f.devicePool))) s how g p') :
    Engaged c a r (t ++ s) g p' := by
  have steps := own.step run.wired.distinct
  have pool := own.pool run.wired
  cases own with
  | saw asked =>
    have desk := got_desk ⟨a, Route.inputPort⟩ (some look.cutoff) f a
    obtain ⟨n, x, shown, read, kind⟩ := run.shows (some look) (some look.cutoff)
    rw [shown] at steps ⊢
    rw [read]
    have step := steps.resolve_left fun nothing => List.cons_ne_nil _ _ nothing.1
    refine ⟨_, run.take clear.empty step, ?_⟩
    rw [pool, desk]
    cases x with
    | none => exact .ended _ acting clear fun _ failed => nomatch failed
    | some m =>
      by_cases same : k.noted = some m.sequence
      · rw [Hand.took_same same]
        exact .again m acting clear (clear.knows.trans same)
      · rw [Hand.took_new same]
        exact .took m acting ⟨kind m rfl, rfl, rfl, clear.free⟩ (clear.knows ▸ same)

theorem Relayed.again (run : Relayed c a r t f k) {m : Message}
    (acting : (f.desk a).Acting (r.script f.devicePool)) (clear : (f.desk a).Clear k)
    (same : (f.desk a).remembered = some m.sequence)
    (own : Own a f (.amid (.bridges Route.outputPort (r.destination f.devicePool)
      (.ok (some m)))) s how g p') : Engaged c a r (t ++ s) g p' := by
  cases own with
  | ask =>
    rw [List.append_nil]
    dsimp only
    rw [if_pos (show f.engine.remembered a = _ from same)]
    exact ⟨k, run, .ended _ acting clear fun _ failed => nomatch failed⟩

theorem Relayed.took (run : Relayed c a r t f k) {m : Message}
    (acting : (f.desk a).Acting (r.script f.devicePool)) (holds : (f.desk a).Holds c.kind k m)
    (new : (f.desk a).remembered ≠ some m.sequence)
    (own : Own a f (.amid (.bridges Route.outputPort (r.destination f.devicePool)
      (.ok (some m)))) s how g p') : Engaged c a r (t ++ s) g p' := by
  cases own with
  | ask =>
    rw [List.append_nil]
    dsimp only
    rw [if_neg (show f.engine.remembered a ≠ _ from new)]
    exact ⟨k, run, .noting m acting holds⟩

theorem Relayed.noting (run : Relayed c a r t f k) {m : Message}
    (acting : (f.desk a).Acting (r.script f.devicePool)) (holds : (f.desk a).Holds c.kind k m)
    (own : Own a f (.amid (.note m.sequence (.moves Route.outputPort (r.destination f.devicePool) m)))
      s how g p') : Engaged c a r (t ++ s) g p' := by
  have on (unread) (kept) := run.beside own unread kept
  obtain ⟨h, at_a, _⟩ := run.stands.1.worker
  cases own with
  | note =>
    have modified {α : Type} (look : Handler → Option α) := modify_bind
      (h := fun x => { x with bridged := some m.sequence }) (by exact fun _ => rfl) a look f.engine
    refine ⟨k, on (by simp) fun free => free,
      .moving m ?_ (holds.same rfl) ?_⟩
    · obtain ⟨call, current, rest⟩ := acting
      exact ⟨call, (modified _).trans current, rest⟩
    · refine ((modified _).trans ?_).trans holds.noted.symm
      rw [at_a]
      rfl

theorem Relayed.moving (run : Relayed c a r t f k) {m : Message}
    (acting : (f.desk a).Acting (r.script f.devicePool)) (holds : (f.desk a).Holds c.kind k m)
    (knows : (f.desk a).remembered = k.noted)
    (own : Own a f (.amid (.moves Route.outputPort (r.destination f.devicePool) m)) s how g p') :
    Engaged c a r (t ++ s) g p' := by
  have on (unread) (kept) := run.beside own unread kept
  cases own with
  | acquire =>
    exact ⟨k, on (by simp) fun free => free,
      .filling m _ acting (holds.same rfl) knows⟩

theorem Relayed.filling (run : Relayed c a r t f k) {m : Message} {lease : Lease}
    (acting : (f.desk a).Acting (r.script f.devicePool)) (holds : (f.desk a).Holds c.kind k m)
    (knows : (f.desk a).remembered = k.noted)
    (own : Own a f (.amid (.freeze (lease.holding m.bytes) fun bytes => .write Route.outputPort
      (m.relocated (r.destination f.devicePool) bytes) (.written (.wrote Route.outputPort))))
      s how g p') : Engaged c a r (t ++ s) g p' := by
  have on (unread) (kept) := run.beside own unread kept
  cases own with
  | freeze =>
    exact ⟨k, on (by simp) fun free => free,
      .giving m acting (holds.same rfl) knows⟩

theorem Relayed.giving (run : Relayed c a r t f k) {m : Message}
    (acting : (f.desk a).Acting (r.script f.devicePool)) (holds : (f.desk a).Holds c.kind k m)
    (knows : (f.desk a).remembered = k.noted)
    (own : Own a f (.amid (.write Route.outputPort (r.moved f.devicePool m)
      (.written (.wrote Route.outputPort)))) s how g p') : Engaged c a r (t ++ s) g p' := by
  obtain ⟨q, leaves, accepted⟩ := run.accepts holds.kind
  cases own with
  | refuse refused =>
    simp only [refusal?] at refused
    rw [show f.engine.output? ⟨a, Route.outputPort⟩ = some q from leaves] at refused
    simp only [accepted] at refused
    cases refused
  | @number _ _ _ q' found accepted' free =>
    rw [List.append_nil]
    let next : OutputPort := { q' with nextSequence := q'.nextSequence + 1 }
    have modified {α : Type} (look : Handler → Option α) := modify_bind
      (h := fun x => { x with ports := x.ports.setOutput next }) (by exact fun _ => rfl) a look f.engine
    refine ⟨_, run.give holds.held found accepted' free, .writing _ ?_ rfl ?_ (.inl rfl)⟩
    · obtain ⟨call, current, rest⟩ := acting
      exact ⟨call, (modified _).trans current, rest⟩
    · exact (modified _).trans knows

theorem write_delivers {cell : Cell Message} {start : Nat} {m : Message} :
    Delivered (cell.write start m).1 := by
  cases result : (cell.write start m).1 with
  | ok _ => exact .inl rfl
  | error x =>
    rw [write_faults result]
    exact .inr ⟨cell.label, rfl⟩

theorem Delivered.bind {first second : Except Fault Unit} (delivered : Delivered first)
    (more : Delivered second) : Delivered (first.bind fun _ => second) := by
  rcases delivered with rfl | ⟨label, rfl⟩
  · exact more
  · exact .inr ⟨label, rfl⟩

theorem Relayed.writing (run : Relayed c a r t f k) {result : Except Fault Unit}
    (acting : (f.desk a).Acting (r.script f.devicePool)) (empty : k.held = none)
    (knows : (f.desk a).remembered = k.noted) (delivered : Delivered result)
    (own : Own a f (.writing Route.outputPort result (.written (.wrote Route.outputPort)))
      s how g p') : Engaged c a r (t ++ s) g p' := by
  have on (unread) {parcel : Parcel} (held : (f.desk a).parcels Route.outputPort = some parcel) :=
    run.beside own unread fun free => nomatch held.symm.trans free
  cases own with
  | enter start held later =>
    exact ⟨k, on (by simp) held, .writing _ acting empty knows delivered⟩
  | settle held here =>
    exact ⟨k, on (by simp) held,
      .writing _ acting empty knows (delivered.bind write_delivers)⟩
  | done held =>
    refine ⟨k, on (by simp) held, ?_⟩
    have clear : ((f.carry ⟨a, Route.outputPort⟩ none).desk a).Clear k :=
      ⟨empty, Function.update_self _ _ _, knows⟩
    rcases delivered with rfl | ⟨label, rfl⟩
    · exact .ended _ acting clear fun _ failed => nomatch failed
    · refine .ended _ acting clear fun how failed => .inr ⟨label, ?_⟩
      cases failed
      rfl

theorem finish_bind {α : Type} (id : HandlerId) (c : Call) (how : Option Failure)
    (look : Handler → Option α) (e : Engine) :
    ((e.finish id c how).handler? id).bind look =
      (e.handler? id).bind fun x => look (x.finished c how) := by
  cases how <;> exact modify_bind (by exact fun _ => rfl) id look _

theorem setCall_desk (id : HandlerId) (c : Call) (e : Engine) :
    (e.setCall id c).remembered id = e.remembered id ∧
    ∀ c', ((e.setCall id c).handler? id).bind (·.call) = some c' → c' = c := by
  have modified {α : Type} (look : Handler → Option α) := modify_bind
    (h := fun x => { x with call := some c }) (by exact fun _ => rfl) id look e
  refine ⟨modified _, fun c' current => ?_⟩
  obtain ⟨_, _, same⟩ := Option.bind_eq_some_iff.mp ((modified _).symm.trans current)
  exact (Option.some.inj same).symm

theorem finish_desk (id : HandlerId) (c : Call) (how : Option Failure) (e : Engine) :
    (e.finish id c how).remembered id = e.remembered id ∧
    ∀ c', ((e.finish id c how).handler? id).bind (·.call) ≠ some c' := by
  refine ⟨finish_bind id c how _ e, fun c' current => ?_⟩
  obtain ⟨_, _, none⟩ := Option.bind_eq_some_iff.mp ((finish_bind id c how _ e).symm.trans current)
  cases none

theorem beginCall_desk (id : HandlerId) (e : Engine) :
    (e.beginCall id).remembered id = e.remembered id ∧
    ∀ c, ((e.beginCall id).handler? id).bind (·.call) = some c →
      (e.handler? id).bind (·.call) = some c ∨
        ∃ h, e.handler? id = some h ∧ c.rest = h.behaviour.process c.tick.frame := by
  rcases beginCall_cases id e with same | ⟨_, tick, _, _, _, ⟨_, same⟩ | ⟨h, here, _, same⟩⟩
  · rw [same]
    exact ⟨rfl, fun _ current => .inl current⟩
  · rw [same]
    exact ⟨rfl, fun _ current => .inl current⟩
  · rw [same]
    refine ⟨(setCall_desk id _ _).1, fun c current => .inr ⟨h, here, ?_⟩⟩
    rw [(setCall_desk id _ _).2 c current]

theorem judged_ends {soft : Bool} {noted : List CallEvent} {c c' : Call}
    {result : Except Failure (List CallEvent)} {how : Option Failure}
    (judged : c.judged soft noted result = (c', some how)) :
    ∃ x, result = .error x ∧ how = some x := by
  unfold Call.judged at judged
  dsimp only at judged
  split at judged
  · cases judged
  · cases judged
    exact ⟨_, rfl, rfl⟩
  · split at judged <;> cases judged
    exact ⟨_, rfl, rfl⟩

theorem Relayed.ended (run : Relayed c a r t f k) {result : Except Failure (List CallEvent)}
    (acting : (f.desk a).Acting (r.script f.devicePool)) (clear : (f.desk a).Clear k)
    (own : Own a f (.amid (.ended [] result)) s how g p') : Engaged c a r (t ++ s) g p' := by
  have on (unread) (kept) := run.beside own unread kept
  have pool := own.pool run.wired
  obtain ⟨c₀, current₀, script⟩ := acting
  cases own with
  | @goes _ _ _ s' rest c' current next judged =>
    cases current₀.symm.trans current
    have desk := setCall_desk a c' f.engine
    refine ⟨k, on (by simp) fun free => free,
      .between (clear.same rfl desk.1) fun c₁ called => .inr ?_⟩
    have last : s' :: rest = r.script f.devicePool := next.symm.trans script
    rw [desk.2 c₁ called, (judged_call judged).2.2]
    exact (List.cons.inj last).2
  | @ends _ _ _ _ _ c' how current next judged =>
    have desk := finish_desk a c' how f.engine
    exact ⟨k, on (by simp) fun free => free,
      .between (clear.same rfl desk.1)
        fun c₁ called => absurd called (desk.2 c₁)⟩

theorem Relayed.between (run : Relayed c a r t f k) (clear : (f.desk a).Clear k)
    (script : ∀ c, (f.desk a).call = some c → c.rest = r.script f.devicePool ∨ c.rest = [])
    (own : Own a f .between s how g p') : Engaged c a r (t ++ s) g p' := by
  have on (unread) (kept) := run.beside own unread kept
  have pool := own.pool run.wired
  cases own with
  | begin before free later =>
    have desk := beginCall_desk a { f.engine with now := before }
    obtain ⟨h, at_a, does⟩ := run.stands.1.worker
    refine ⟨k, on (by simp) fun free => free,
      .between (clear.same rfl desk.1) fun c₁ called => .inl ?_⟩
    rcases desk.2 c₁ called with busy | ⟨h', here, rest⟩
    · exact nomatch free.symm.trans busy
    · cases at_a.symm.trans here
      rw [rest, does, pool]
      exact Route.adapter_process _ _ _ _
  | rest c₁ current done =>
    have desk := finish_desk a c₁ none f.engine
    exact ⟨k, on (by simp) fun free => free,
      .between (clear.same rfl desk.1)
        fun c₁ called => absurd called (desk.2 c₁)⟩
  | hold c₁ current next =>
    rcases script c₁ (openCall_call current) with all | none
    · cases next.symm.trans all
    · cases next.symm.trans none
  | take c₁ current next acts =>
    rw [List.append_nil]
    rcases script c₁ (openCall_call current) with all | none
    · cases next.symm.trans all
      exact ⟨k, run, .looking ⟨c₁, openCall_call current, all⟩ clear⟩
    · cases next.symm.trans none

theorem Engaged.own (engaged : Engaged c a r t f p) (own : Own a f p s how g p') :
    Engaged c a r (t ++ s) g p' ∧ ∀ x, how = some x → Harmless x := by
  obtain ⟨k, run, stance⟩ := engaged
  cases stance with
  | between clear script =>
    refine ⟨run.between clear script own, ?_⟩
    cases own <;> intro x last <;> cases last
    exact .inl rfl
  | looking acting clear => exact ⟨run.looking acting clear own, by cases own; simp⟩
  | reading look acting clear => exact ⟨run.reading acting clear own, by cases own; simp⟩
  | again m acting clear same => exact ⟨run.again acting clear same own, by cases own; simp⟩
  | took m acting holds new => exact ⟨run.took acting holds new own, by cases own; simp⟩
  | noting m acting holds => exact ⟨run.noting acting holds own, by cases own; simp⟩
  | moving m acting holds knows => exact ⟨run.moving acting holds knows own, by cases own; simp⟩
  | filling m lease acting holds knows =>
    exact ⟨run.filling acting holds knows own, by cases own; simp⟩
  | giving m acting holds knows =>
    exact ⟨run.giving acting holds knows own, by cases own <;> simp⟩
  | writing result acting empty knows delivered =>
    exact ⟨run.writing acting empty knows delivered own, by cases own <;> simp⟩
  | ended result acting clear harmless =>
    refine ⟨run.ended acting clear own, ?_⟩
    cases own with
    | goes => simp
    | @ends _ _ _ _ _ _ how current next judged =>
      intro x last
      obtain ⟨failure, failed, rfl⟩ := judged_ends judged
      rw [← Option.some.inj last]
      exact harmless failure failed

theorem Engaged.aside (engaged : Engaged c a r t f p) (aside : Aside a f s g) :
    Engaged c a r (t ++ s) g p := by
  obtain ⟨k, run, stance⟩ := engaged
  obtain ⟨step, desk, unread⟩ := aside
  have kept : g.parcels a.outlet = f.parcels a.outlet :=
    congrFun (congrArg Desk.parcels desk) Route.outputPort
  have unnumbered := unnumbered_kept run.wired step fun free => kept.trans free
  refine ⟨k, run.aside step (unread Route.inputPort) unnumbered, ?_⟩
  rw [step_pool run.wired step, desk]
  exact stance

/-- Through all of a shift the adapter keeps to its script, and no call ends but in order or because a
queue is full. -/
theorem Engaged.shift (engaged : Engaged c a r t f p) (shift : Shift a f p s ends g p') :
    Engaged c a r (t ++ s) g p' ∧ ∀ how ∈ ends, Harmless how := by
  induction shift with
  | refl => exact ⟨by rwa [List.append_nil], by simp⟩
  | own _ own ih =>
    obtain ⟨before, fine⟩ := ih
    obtain ⟨after, last⟩ := before.own own
    rw [← List.append_assoc]
    refine ⟨after, fun how mem => ?_⟩
    rcases List.mem_append.mp mem with old | new
    · exact fine how old
    · exact last how (Option.mem_toList.mp new)
  | aside _ aside ih =>
    rw [← List.append_assoc]
    exact ⟨ih.1.aside aside, ih.2⟩

/-! The first moment of a connection. -/

theorem unheld (run : Traced t f) (absent : a ∉ f.engine.ids) (port : String) :
    f.parcels ⟨a, port⟩ = none := by
  cases held : f.parcels ⟨a, port⟩ with
  | none => rfl
  | some p =>
    obtain ⟨q, found, _⟩ := traced_underway run _ p held
    obtain ⟨h, at_a, _⟩ := Option.bind_eq_some_iff.mp found
    rw [handler_none_iff.mpr absent] at at_a
    cases at_a

theorem connect_opens (before : Traced t f) (source target : PortAddress)
    (old : c ∉ f.engine.connections)
    (new : c ∈ (f.engine.connectInPlace source target).2.connections)
    (adapter : c.adapter = some a) :
    ∃ r, Engaged c a r t { f with host := (f.host.connect source target).2 } .between := by
  have w := traced_wired before
  let g : Flow := { f with host := (f.host.connect source target).2 }
  have step : Step f [] g := .command (.connect source target)
  obtain ⟨r, bridges⟩ := traced_routed (before.next step) c new a adapter
  rcases connectable_or_refused source target f.engine with ⟨q, p, met⟩ | ⟨x, refused⟩
  · cases common : q.spec.capabilities.intersects p.spec.capabilities with
    | true =>
      rw [connect_direct w.distinct w.capacity met common] at new
      rcases List.mem_append.mp new with earlier | last
      · exact absurd earlier old
      · rw [List.mem_singleton.mp last] at adapter
        cases adapter
    | false =>
      obtain ⟨r', _, a', _, _, free, made⟩ := connect_bridged w.distinct w.capacity met common
      have linked := new
      rw [made] at linked
      have last := (List.mem_append.mp linked).resolve_left old
      have same := congrArg Connection.links (List.mem_singleton.mp last)
      have alike := congrArg Connection.adapter (List.mem_singleton.mp last)
      obtain rfl := Option.some.inj (adapter.symm.trans alike)
      have unlinked (l : Link) (ml : l ∈ c.links) : l ∉ f.engine.links := by
        intro mem
        have bound := w.cell_bound mem
        rcases List.mem_pair.mp (same ▸ ml) with rfl | rfl
        · exact Nat.lt_irrefl _ bound
        · exact Nat.not_lt.mpr (Nat.le_succ _) bound
      have opened := Relayed.made before step unlinked new bridges
      rw [List.append_nil] at opened
      obtain ⟨h, fresh, bridged, call⟩ := bridged_fresh free source target r' p.spec.kind
        (f.engine.policyOf p.spec)
      have here : g.engine.handler? a = some h := by
        change (f.engine.connectInPlace source target).2.handler? a = some h
        rw [made]
        exact fresh
      have looked {α : Type} (look : Handler → Option α) :
          (g.engine.handler? a).bind look = look h := by
        rw [here]
        rfl
      refine ⟨r, .empty, opened, .between ⟨rfl, unheld before free _, ?_⟩ fun c called => ?_⟩
      · exact (looked _).trans bridged
      · exact nomatch called.symm.trans ((looked _).trans call)
  · rw [connect_refused refused] at new
    exact absurd new old

theorem step_connects (w : f.engine.Wired) (step : Step f s g) (old : c ∉ f.engine.connections)
    (new : c ∈ g.engine.connections) :
    s = [] ∧ ∃ source target, g = { f with host := (f.host.connect source target).2 } := by
  have kept {e : Engine} (same : e.wiring = f.engine.wiring) (here : c ∈ e.connections) : False :=
    old ((congrArg Engine.connections same :) ▸ here)
  have unstarted {e : Engine} (same : e.unstarted = f.engine.unstarted) : c ∉ e.connections :=
    kept (wiring_of_unstarted same)
  cases step with
  | beat b => exact (kept (beat_wiring b) new).elim
  | move m => exact (kept (move_wiring w m) new).elim
  | still same => exact (kept (still_wiring same) new).elim
  | command command =>
    refine ⟨rfl, ?_⟩
    cases command with
    | connect source target => exact ⟨source, target, rfl⟩
    | connectTexts source target =>
      simp only [engine, Hosted.connectTexts, connectTextsInPlace] at new ⊢
      split at new
      · exact absurd new old
      · exact absurd new old
      · exact ⟨_, _, rfl⟩
    | add id b =>
      rcases Hosted.added_cases id b f.host with same | ⟨_, _, _, _, _, _, same⟩
      · simp only [engine, same] at new
        exact absurd new old
      · simp only [engine, same] at new
        exact absurd new old
    | start => exact absurd new (unstarted f.host.start_unstarted)
    | stop => exact absurd new (unstarted f.host.stop_unstarted)
    | quiesce ids => exact absurd new (unstarted (quiesce_unstarted ids f.engine))
    | tearDown ids => exact absurd new (unstarted (Hosted.tearDown_unstarted ids f.host))
    | registry => exact absurd new old

theorem Engaged.opens (before : Traced t f) (step : Step f s g) (old : c ∉ f.engine.connections)
    (new : c ∈ g.engine.connections) (adapter : c.adapter = some a) :
    ∃ r, Engaged c a r (t ++ s) g .between := by
  obtain ⟨rfl, source, target, rfl⟩ := step_connects (traced_wired before) step old new
  rw [List.append_nil]
  exact connect_opens before source target old new adapter

end Flow

end Tickflow
