import Tickflow.Proofs.Horizon
import Tickflow.Proofs.Ledger
import Tickflow.Proofs.Shifts
/-!
The operations of an engine are flows in which nothing comes between the fine steps of one operation.
So what holds of all flows holds of every engine that its operations lead to, and what an engine does
for a handler in a call is the work of this handler.
-/
namespace Tickflow

namespace HandlerPorts

theorem setOutput_self {ports : HandlerPorts} (distinct : ports.Distinct) {q : OutputPort}
    (found : ports.output? q.name = some q) : ports.setOutput q = ports := by
  have same : ports.outputs.map (fun p => if p.name = q.name then q else p) = ports.outputs := by
    refine (List.map_congr_left ?_).trans (List.map_id _)
    intro p mem
    split
    · rename_i name
      have self := output_of_mem distinct mem
      rw [name, found] at self
      exact Option.some.inj self
    · rfl
  simp only [setOutput, same]

end HandlerPorts

theorem OutputPort.deliver_here {start : Nat} {m : Message} {n : CellId} {rest : List CellId}
    {store : CellStore} {cell : Cell Message} (here : store[n]? = some cell) :
    let later := deliver start m rest (store.set n (cell.write start m).2)
    deliver start m (n :: rest) store =
      ((cell.write start m).1.bind fun _ => later.1, later.2) := by
  simp only [deliver, here]
  cases (cell.write start m).1 <;> rfl

namespace Engine

theorem modify_same {f : Handler → Handler} {id : HandlerId} {e : Engine}
    (keeps : ∀ h ∈ e.handlers, h.id = id → f h = h) : e.modify id f = e := by
  have same := map_modify (g := fun h => h) keeps
  rw [List.map_id', List.map_id'] at same
  exact congrArg (fun handlers => { e with handlers }) same

theorem setOutput_same {a : PortAddress} {q : OutputPort} {e : Engine} (d : e.Distinct)
    (found : e.output? a = some q) :
    (e.modify a.handler fun h => { h with ports := h.ports.setOutput q }) = e := by
  obtain ⟨x, at_x, at_name⟩ := Option.bind_eq_some_iff.mp found
  apply modify_same
  intro h mem at_id
  have same : h = x := handler_unique d.ids mem (mem_of_handler at_x).1
    (at_id.trans (mem_of_handler at_x).2.symm)
  subst h
  rw [← (key_of_find at_name).2] at at_name
  rw [HandlerPorts.setOutput_self (d.ports x mem) at_name]

theorem writePort_missing {a : PortAddress} {e : Engine} (missing : e.output? a = none)
    (m : Message) : e.writePort a.handler a.port m =
      (.error (portFault a.handler a.port), e) := by
  unfold writePort
  rw [show (e.handler? a.handler).bind (·.ports.output? a.port) = none from missing]

theorem writePort_found {a : PortAddress} {q : OutputPort} {e : Engine}
    (found : e.output? a = some q) (m : Message) :
    e.writePort a.handler a.port m = ((q.write (e.now + 1) m e.cells).1,
      { e with now := e.now + 1, cells := (q.write (e.now + 1) m e.cells).2.2 }.modify a.handler
        fun h => { h with ports := h.ports.setOutput (q.write (e.now + 1) m e.cells).2.1 }) := by
  unfold writePort
  rw [show (e.handler? a.handler).bind (·.ports.output? a.port) = some q from found]

theorem Acts.current {e e' : Engine} {id : HandlerId} {c : Call} (acts : Acts e e')
    (current : (e.handler? id).bind (·.call) = some c) :
    (e'.handler? id).bind (·.call) = some c :=
  (acts.handler (fun _ => rfl) id).trans current

end Engine

namespace Flow

open Engine

variable {f g : Flow} {s t : List Event} {e e' : Engine} {id : HandlerId} {p p' q : Place}
  {ends ends' : List (Option Failure)}

/-! What a handler does in a row. -/

def delivered (start : Nat) (m : Message) : List CellId → CellStore → List Event
  | [], _ => []
  | n :: rest, store =>
    match store[n]? with
    | none => delivered start m rest store
    | some c => .settled n ⟨m, start⟩ (c.write start m).1 ::
        delivered start m rest (store.set n (c.write start m).2)

theorem deliver_stretch {port : String} {m : Message} {cells : List CellId}
    (next : Except Fault Unit → Task) (w : f.engine.Wired)
    (held : f.parcels ⟨id, port⟩ = some ⟨m, cells, none⟩)
    (inside : ∀ n ∈ cells, n < f.engine.cells.length) (result : Except Fault Unit) :
    let sent := OutputPort.deliver f.engine.now m cells f.engine.cells
    Stretch id f (.writing port result next) (delivered f.engine.now m cells f.engine.cells) []
      ((f.put { f.engine with cells := sent.2 }).carry ⟨id, port⟩ (some ⟨m, [], none⟩))
      (.writing port (result.bind fun _ => sent.1) next) := by
  intro sent
  induction cells generalizing f result with
  | nil =>
    have same : f.carry ⟨id, port⟩ (some ⟨m, [], none⟩) = f := by
      simp only [carry, ← held, Function.update_eq_self]
    have kept : (result.bind fun _ => .ok ()) = result := by
      cases result <;> rfl
    change Stretch id f _ [] [] (f.carry ⟨id, port⟩ (some ⟨m, [], none⟩))
      (.writing port (result.bind fun _ => .ok ()) next)
    rw [same, kept]
    exact .refl
  | cons n rest ih =>
    have bound := inside n List.mem_cons_self
    obtain ⟨c, here⟩ : ∃ c, f.engine.cells[n]? = some c :=
      ⟨f.engine.cells[n], List.getElem?_eq_getElem bound⟩
    let f₁ := (f.put { f.engine with now := f.engine.now }).carry ⟨id, port⟩
      (some ⟨m, n :: rest, some f.engine.now⟩)
    let f₂ := (f₁.fill n (c.write f.engine.now m).2).carry ⟨id, port⟩ (some ⟨m, rest, none⟩)
    let result₂ := result.bind fun _ => (c.write f.engine.now m).1
    have enter : Own id f (.writing port result next) [] none f₁ (.writing port result next) :=
      .enter f.engine.now held (Nat.le_refl _)
    have settle : Own id f₁ (.writing port result next)
        [.settled n ⟨m, f.engine.now⟩ (c.write f.engine.now m).1] none f₂
        (.writing port result₂ next) :=
      .settle (Function.update_self _ _ _) here
    have entered := enter.stretch w.distinct
    have w₁ := entered.wired w
    have settled := settle.stretch w₁.distinct
    have inside₂ : ∀ k ∈ rest, k < f₂.engine.cells.length := by
      intro k mem
      change k < (f.engine.cells.set n _).length
      rw [List.length_set]
      exact inside k (List.mem_cons_of_mem _ mem)
    have later := ih (f := f₂) (settled.wired w₁) (Function.update_self _ _ _) inside₂ result₂
    have all := (entered.trans settled).trans later
    have both (r : Except Fault Unit) : (result₂.bind fun _ => r) =
        result.bind fun _ => (c.write f.engine.now m).1.bind fun _ => r := by
      cases result <;> rfl
    rw [both] at all
    simp only [sent, delivered, OutputPort.deliver_here here, here]
    simpa [f₁, f₂, carry, put, fill, engine] using all

def written (a : PortAddress) (m : Message) (e : Engine) : List Event :=
  match e.output? a with
  | none => []
  | some q => match q.check m with
    | .error _ => []
    | .ok () => delivered (e.now + 1) (m.withSequence q.nextSequence) q.cells e.cells

def wrote (a : PortAddress) (m : Message) (f : Flow) : Flow :=
  f.put (f.engine.writePort a.handler a.port m).2

theorem write_stretch (w : f.engine.Wired) (port : String) (free : f.parcels ⟨id, port⟩ = none)
    (m : Message) (next : Except Fault Unit → Task) :
    Stretch id f (.amid (.write port m next)) (written ⟨id, port⟩ m f.engine) []
      (f.wrote ⟨id, port⟩ m) (.amid (next (f.engine.writePort id port m).1)) := by
  unfold wrote
  cases found : f.engine.output? ⟨id, port⟩ with
  | none =>
    have refused : f.engine.refusal? ⟨id, port⟩ m = some (portFault id port) := by
      simp only [refusal?, found]
    simp only [writePort_missing found, written, found]
    exact (Own.refuse refused).stretch w.distinct
  | some q =>
    let f₁ := f.put { f.engine with now := f.engine.now + 1 }
    have waits : Stretch id f (.amid (.write port m next)) [] [] f₁ (.amid (.write port m next)) :=
      wait_stretch (Nat.le_succ _)
    have found₁ : f₁.engine.output? ⟨id, port⟩ = some q := found
    have w₁ := waits.wired w
    cases checked : q.check m with
    | error fault =>
      have refused : f₁.engine.refusal? ⟨id, port⟩ m = some fault := by
        simp only [refusal?, found₁, checked]
      have kept : (f₁.engine.modify id fun h => { h with ports := h.ports.setOutput q }) = f₁.engine :=
        setOutput_same (a := ⟨id, port⟩) ⟨w.distinct.ids, w.distinct.ports⟩ found
      have all : Stretch id f (.amid (.write port m next)) [] [] (f.put f₁.engine)
          (.amid (next (.error fault))) := waits.trans ((Own.refuse refused).stretch w₁.distinct)
      rw [← kept] at all
      simp only [writePort_found found, written, found, checked, OutputPort.write]
      exact all
    | ok _ =>
      let f₂ := f₁.numbered ⟨id, port⟩ q m
      have numbers : Own id f₁ (.amid (.write port m next)) [] none f₂ (.writing port (.ok ()) next) :=
        .number found₁ checked free
      have given := numbers.stretch w₁.distinct
      have inside : ∀ n ∈ q.cells, n < f₂.engine.cells.length := by
        intro n mem
        obtain ⟨l, ml, _, rfl⟩ := w.output_link found mem
        exact w.cell_bound ml
      have delivers := deliver_stretch next (given.wired w₁)
        (Function.update_self _ _ _) inside (.ok ())
      let number := m.withSequence q.nextSequence
      let sent := OutputPort.deliver f₂.engine.now number q.cells f₂.engine.cells
      let f₃ := (f₂.put { f₂.engine with cells := sent.2 }).carry ⟨id, port⟩ (some ⟨number, [], none⟩)
      have leaves : Own id f₃ (.writing port sent.1 next) [] none (f₃.carry ⟨id, port⟩ none)
          (.amid (next sent.1)) := .done (Function.update_self _ _ _)
      have w₃ : f₃.engine.Wired := delivers.wired (given.wired w₁)
      have all := ((waits.trans given).trans delivers).trans (leaves.stretch w₃.distinct)
      have parcels (p : Option Parcel) :
          Function.update (Function.update f₂.parcels ⟨id, port⟩ p) ⟨id, port⟩ none = f.parcels := by
        simp only [f₂, numbered, carry_parcels, Function.update_idem]
        rw [← free]
        exact Function.update_eq_self _ _
      have kept (e : Engine) (p : Option Parcel) :
          ((f₂.put e).carry ⟨id, port⟩ p).carry ⟨id, port⟩ none = f.put e := by
        simp only [carry, put, parcels]
        rfl
      rw [kept, List.append_nil] at all
      simp only [writePort_found found, written, found, checked, OutputPort.write]
      exact all

theorem wrote_run (w : f.engine.Wired) (a : PortAddress) (free : f.parcels a = none)
    (m : Message) : Run f (written a m f.engine) (f.wrote a m) :=
  (write_stretch w a.port free m fun _ => .ended [] (.ok [])).own.run w

theorem got_run (a : PortAddress) (look : Option Look) {cutoff : Option Nat}
    (told : ∀ l, look = some l → f.looks a.handler = some l ∧ cutoff = some l.cutoff) :
    Run f (seen a look cutoff f.engine) (f.got a cutoff) := by
  rcases got_step a look told with ⟨nothing, same⟩ | step
  · rw [nothing, same]
    exact .refl
  · exact .single step

theorem told_last {look : Look} (asked : f.looks id = some look) :
    ∀ l, some look = some l → f.looks id = some l ∧ some look.cutoff = some l.cutoff := by
  intro l same
  cases same
  exact ⟨asked, rfl⟩

theorem mem_delivered {start : Nat} {m : Message} {cells : List CellId} {store : CellStore}
    {x : Event} (mem : x ∈ delivered start m cells store) :
    ∃ n entry result, x = .settled n entry result := by
  induction cells generalizing store with
  | nil => cases mem
  | cons n rest ih =>
    unfold delivered at mem
    split at mem
    · exact ih mem
    · rcases List.mem_cons.mp mem with rfl | later
      · exact ⟨_, _, _, rfl⟩
      · exact ih later

theorem written_issues (b : PortAddress) (m : Message) (e : Engine) :
    issues (written b m e) = [] := by
  refine List.filterMap_eq_nil_iff.mpr fun x mem => ?_
  unfold written at mem
  repeat' split at mem
  · cases mem
  · cases mem
  · obtain ⟨_, _, _, rfl⟩ := mem_delivered mem
    rfl

theorem seen_issues (a : PortAddress) (look : Option Look) (cutoff : Option Nat) (e : Engine) :
    issues (seen a look cutoff e) = [] := by
  refine List.filterMap_eq_nil_iff.mpr fun x mem => ?_
  obtain ⟨_, _, rfl⟩ := mem_seen mem
  rfl

/-- The handler comes to the place `q`, with nothing in between and no tick issued, and then the engine
is `e`. -/
def Straight (id : HandlerId) (f : Flow) (p : Place) (ends : List (Option Failure)) (e : Engine)
    (q : Place) : Prop :=
  ∃ t looks, Stretch id f p t ends ⟨{ f.host with engine := e }, f.parcels, looks⟩ q ∧ issues t = []

theorem Straight.refl : Straight id f p [] f.engine p := ⟨[], f.looks, .refl, rfl⟩

theorem Straight.after {looks : HandlerId → Option Look} {e₁ : Engine}
    (first : Stretch id f p t ends ⟨{ f.host with engine := e₁ }, f.parcels, looks⟩ p')
    (quiet : issues t = [])
    (second : Straight id ⟨{ f.host with engine := e₁ }, f.parcels, looks⟩ p' ends' e q) :
    Straight id f p (ends ++ ends') e q := by
  obtain ⟨t', looks', stretch, quiet'⟩ := second
  exact ⟨_, looks', first.trans stretch, by rw [issues_append, quiet, quiet']; rfl⟩

theorem task_straight {k : Task} (w : f.engine.Wired) {c : Call}
    (current : (f.desk id).call = some c) (free : ∀ port, f.parcels ⟨id, port⟩ = none) :
    let left := k.run id c f.engine
    Straight id f (.amid k) [] left.2.2 (.amid (.ended left.1 left.2.1)) := by
  intro left
  have step {f g : Flow} {k k' : Task} {s : List Event} (w : f.engine.Wired)
      (own : Own id f (.amid k) s none g (.amid k')) :
      Stretch id f (.amid k) s [] g (.amid k') := own.stretch w.distinct
  induction k generalizing f with
  | ended => exact .refl
  | look next ih =>
    have asks := step w (.look next c current)
    exact .after asks rfl (ih _ (asks.wired w) current free)
  | see port next ih =>
    let look : Look := ⟨c.tick, c.startedAt, f.engine.cutoff c⟩
    let f₁ := f.tell id (some look)
    have asks : Own id f (.amid (.see port next)) [.looked id look] none f₁ (.reading port look next) :=
      .see c current
    have sees : Own id f₁ (.reading port look next) _ none (f₁.got ⟨id, port⟩ (some look.cutoff)) _ :=
      .saw (tell_here f id (some look))
    have both := (asks.stretch w.distinct).trans (sees.stretch w.distinct)
    have kept := got_desk ⟨id, port⟩ (some look.cutoff) f₁ id
    exact .after both (seen_issues _ _ _ _)
      (ih _ (both.wired w) ((congrArg Desk.call kept).trans current) free)
  | read port next ih =>
    have reads := step w (.read port next)
    have kept := got_desk ⟨id, port⟩ none f id
    exact .after reads (seen_issues _ _ _ _)
      (ih _ (reads.wired w) ((congrArg Desk.call kept).trans current) free)
  | ask next ih => exact .after (step w (.ask next)) rfl (ih _ w current free)
  | note number next ih =>
    have notes := step w (.note number next)
    have acts : Acts f.engine (f.engine.noting id number) :=
      ⟨unacted_modify fun _ _ _ => rfl, dead_stay_refl _⟩
    exact .after notes rfl (ih (notes.wired w) (acts.current current) free)
  | acquire length next ih =>
    have takes := step w (.acquire length next)
    exact .after takes rfl (ih _ (takes.wired w) current free)
  | release lease next ih =>
    have gives := step w (.release lease next)
    exact .after gives rfl (ih (gives.wired w) current free)
  | freeze lease next ih =>
    have keeps := step w (.freeze lease next)
    exact .after keeps rfl (ih _ (keeps.wired w) current free)
  | write port m next ih =>
    have writes := write_stretch w port (free port) m next
    have acts := writePort_acts w.distinct id port m
    exact .after writes (written_issues _ _ _) (ih _ (writes.wired w) (acts.current current) free)

/-- What the engine does for a handler in a step of a call is the work of the handler. -/
theorem advance_straight (w : f.engine.Wired) {c : Call} (current : f.engine.openCall? id = some c)
    (free : ∀ port, f.parcels ⟨id, port⟩ = none) :
    Straight id f .between (f.engine.outcome id c).toList (f.engine.advance id c) .between := by
  have called := openCall_call current
  rw [advance_verdict]
  cases next : c.rest with
  | nil =>
    simp only [outcome, verdict, acted, next]
    exact ⟨_, _, (Own.rest c current next).stretch w.distinct, rfl⟩
  | cons s rest =>
    by_cases stays : s.action = .hold
    · obtain ⟨action, soft⟩ := s
      subst stays
      simp only [outcome, verdict, acted, next]
      exact ⟨_, _, (Own.hold c current next).stretch w.distinct, rfl⟩
    · have takes := (Own.take c current next stays).stretch w.distinct
      obtain ⟨t, looks, acts, quiet⟩ := task_straight (k := s.action.task c) w called free
      have kept := act_acts w.distinct id c s.action
      rw [act_task] at kept
      have judged : f.engine.verdict id c = ({ c with rest } : Call).judged s.soft
          (f.engine.act id c s.action).1 (f.engine.act id c s.action).2.1 := by
        simp only [verdict, next, if_neg stays]
      have acted : f.engine.acted id c = (f.engine.act id c s.action).2.2 := by
        simp only [acted, next]
      rw [outcome, acted, judged, act_task]
      generalize (s.action.task c).run id c f.engine = left at acts kept ⊢
      let f₁ : Flow := ⟨{ f.host with engine := left.2.2 }, f.parcels, looks⟩
      have acting : Stretch id f .between t [] f₁ (.amid (.ended left.1 left.2.1)) := takes.trans acts
      have w₁ := acting.wired w
      have called₁ : (f₁.desk id).call = some c := kept.current called
      cases told : ({ c with rest } : Call).judged s.soft left.1 left.2.1 with
      | mk c' how =>
        cases how with
        | none =>
          have goes := (Own.goes c called₁ next told).stretch w₁.distinct
          exact .after acting quiet ⟨_, _, goes, rfl⟩
        | some how =>
          have ends := (Own.ends c called₁ next told).stretch w₁.distinct
          exact .after acting quiet ⟨_, _, ends, rfl⟩

theorem issue_step (frame : Nat) (timestamp delta : Float) (running : f.engine.state = .running) :
    Step f [.issued ⟨frame, timestamp, delta, f.engine.now + 1⟩]
      (f.put (f.engine.issue frame timestamp delta)) :=
  .beat (.issue frame timestamp delta f.engine.now running (Nat.le_succ _))

theorem beginCall_later (id : HandlerId) (e : Engine) : e.now ≤ (e.beginCall id).now := by
  rcases beginCall_received id e with same | ⟨_, _, r⟩
  · exact Nat.le_of_eq (congrArg Engine.now same.symm)
  · exact r.now

theorem begin_step (free : (f.engine.handler? id).bind (·.call) = none) :
    Step f [] (f.put (f.engine.beginCall id)) :=
  .beat (.begin id f.engine.now free (beginCall_later id f.engine))

/-- Wherever no write is under way, the one engine becomes the other, and none is under way then. -/
def Unbroken (e e' : Engine) : Prop :=
  e.Wired → ∀ f : Flow, f.engine = e → (∀ a, f.parcels a = none) →
    ∃ t looks, Run f t ⟨{ f.host with engine := e' }, f.parcels, looks⟩

theorem work_unbroken (work : e.Work e') : Unbroken e e' := by
  rintro w f rfl free
  cases work with
  | issue frame timestamp delta running =>
    exact ⟨_, f.looks, .single (issue_step frame timestamp delta running)⟩
  | begin id idle => exact ⟨_, f.looks, .single (begin_step idle)⟩
  | advance id c current =>
    obtain ⟨t, looks, stretch, _⟩ := advance_straight w current fun port => free ⟨id, port⟩
    exact ⟨t, looks, stretch.own.run w⟩
  | resume id =>
    refine ⟨[], f.looks, .single (.still (still_modify ?_ id f.engine) (Nat.le_refl _))⟩
    intro h
    simp [Handler.still, Function.comp_def]
  | write id port m => exact ⟨_, f.looks, wrote_run w ⟨id, port⟩ (free _) m⟩
  | read id port cutoff => exact ⟨_, f.looks, got_run ⟨id, port⟩ none (by simp)⟩

theorem works_unbroken (works : e.Works e') : Unbroken e e' := by
  induction works with
  | refl =>
    rintro _ f rfl _
    exact ⟨[], f.looks, .refl⟩
  | tail _ work ih =>
    intro w f at_e free
    obtain ⟨s, looks, run⟩ := ih w f at_e free
    obtain ⟨t, looks', run'⟩ := work_unbroken work (run_wired (at_e ▸ w) run)
      ⟨{ f.host with engine := _ }, f.parcels, looks⟩ rfl free
    exact ⟨s ++ t, looks', run.trans run'⟩

/-- An engine that its operations lead to is reached by a flow that left no write under way. -/
theorem reachable_traced {within : Engine → Prop} {h : Hosted} (reach : h.Reachable within) :
    ∃ t looks, Traced t ⟨h, fun _ => none, looks⟩ := by
  induction reach with
  | fresh made r => exact ⟨[], _, .fresh made r⟩
  | @next h h' _ step ih =>
    obtain ⟨t, looks, run⟩ := ih
    have w : h.engine.Wired := traced_wired run
    have commanded {k : Hosted} (c : h.Command k) : ∃ t looks, Traced t ⟨k, fun _ => none, looks⟩ :=
      ⟨_, looks, run.next (.command c)⟩
    cases step with
    | add id b => exact commanded (.add id b)
    | connect source target => exact commanded (.connect source target)
    | connectTexts source target => exact commanded (.connectTexts source target)
    | start => exact commanded .start
    | stopIdle rest => exact commanded (.stop rest)
    | registry r => exact commanded (.registry r)
    | work work =>
      obtain ⟨s, looks', more⟩ := work_unbroken work w ⟨h, fun _ => none, looks⟩ rfl fun _ => rfl
      exact ⟨t ++ s, looks', run.append more⟩
    | @stop e running works _ =>
      have quiet := run.next (.command (.quiesce h.engine.activeIds running))
      have w' : (h.engine.quiesce h.engine.activeIds).Wired := traced_wired quiet
      obtain ⟨s, looks', more⟩ := works_unbroken works w'
        ⟨{ h with engine := h.engine.quiesce h.engine.activeIds }, fun _ => none, looks⟩ rfl
        fun _ => rfl
      have awake : e.state = .running := by
        rw [(works_worked w'.distinct works).state, (quiesce_rest _ h.engine).2.2]
        exact running
      exact ⟨_, looks', (quiet.append more).next (.command (.tearDown _ awake))⟩

def bare : Hosted := ⟨.blank 0 (Settings.default.withFps 30.0) none, none⟩

theorem bare_traced : Traced [] (atRest bare) :=
  .fresh (show make 0 .default 30.0 = .ok _ from rfl) none

theorem added_traced {h : Hosted} (run : Traced [] (atRest h)) (id : String) (b : Behaviour) :
    Traced [] (atRest (h.added (some id) b)) :=
  run.next (.command (.add (some id) b))

def sourceAndSink (policy : ConsumptionPolicy) : Hosted :=
  (bare.added (some "source") (.plain "Source" [.output "out" .data] [])).added (some "sink")
    (.plain "Sink" [{ PortSpec.input "in" .data with policy := some policy }] [])

theorem source_valid : isIdText "source".toList = true := by decide

def source : PortAddress := ⟨⟨"source", source_valid⟩, "out"⟩
def sink : PortAddress := ⟨⟨"sink", by decide⟩, "in"⟩

theorem source_and_sink_traced (policy : ConsumptionPolicy) :
    Traced [] (atRest (sourceAndSink policy)) :=
  added_traced (added_traced bare_traced _ _) _ _

def linked (policy : ConsumptionPolicy) : Hosted :=
  ((sourceAndSink policy).connect source sink).2

theorem linked_step (policy : ConsumptionPolicy) :
    Step (atRest (sourceAndSink policy)) [] (atRest (linked policy)) :=
  .command (.connect source sink)

def note (byte : UInt8) : Message := .ofHost .data [byte] 0.0

end Flow

end Tickflow
