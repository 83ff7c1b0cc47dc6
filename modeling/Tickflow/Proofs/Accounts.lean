import Tickflow.Proofs.Course
import Tickflow.Proofs.Cutoffs
import Tickflow.Proofs.Outset
import Tickflow.Proofs.Subscribers
/-!
What is told of a handler's work is true. Along any course every tick that was issued since the
start was worked on, is being worked on, waits, or was missed, and the numbers that are kept are
those of the calls, whichever of these failed. A handler that is marked as stopping begins no call.
-/
namespace Tickflow

/-- What is kept of a handler's work, and the tick it is at work on. -/
structure Tally where
  state : LifecycleState
  stats : HandlerStats
  current : Option Tick
  deriving DecidableEq, Repr

def Handler.tally (h : Handler) : Tally := ⟨h.state, h.stats, h.call.map (·.tick)⟩

def Tally.finished (tick : Tick) (how : Option Failure) (y : Tally) : Tally where
  state := if y.state = .started then .running else y.state
  stats := ⟨y.stats.processed + 1, y.stats.errors + how.toList.length, HandlerStats.kept tick.frame⟩
  current := none

theorem kept_below {frame : Nat} (bound : frame < 18446744073709551615) :
    HandlerStats.kept frame = some frame := by
  simp [HandlerStats.kept, Nat.mod_eq_of_lt (show frame + 1 < 18446744073709551616 by omega)]

namespace Engine

def tally (id : HandlerId) (e : Engine) : Option Tally := (e.handler? id).map Handler.tally

/-- What a handler and its channel tell of the ticks issued and of the calls that ended. -/
structure Books (issued : List Tick) (ended : List Ending) (y : Tally) (c : TickChannel) :
    Prop where
  attached : c.attached = true
  listening : c.listening = true
  order : (ended.map (·.tick) ++ (y.current.toList ++ c.queue)).Sublist issued
  total : ended.length + y.current.toList.length + c.queue.length + c.missed = issued.length
  processed : y.stats.processed = ended.length
  errors : y.stats.errors = (ended.filter (·.failure.isSome)).length
  last : y.stats.lastFrame = ended.getLast?.bind fun k => HandlerStats.kept k.tick.frame
  state : y.state = if ended = [] then .started else .running

section
variable {issued : List Tick} {ended : List Ending} {y : Tally} {c : TickChannel}

theorem books_opened (name : String) :
    Books [] [] ⟨.started, ⟨0, 0, none⟩, none⟩ (.opened name) :=
  ⟨rfl, rfl, .refl _, rfl, rfl, rfl, rfl, rfl⟩

theorem Books.sent (b : Books issued ended y c) (depth : Nat) (tick : Tick) :
    Books (issued ++ [tick]) ended y (c.sent depth tick) := by
  have total := b.total
  rcases TickChannel.sent_cases b.attached b.listening depth tick with ⟨_, missed⟩ | ⟨_, queued⟩
  · rw [missed]
    refine ⟨b.attached, b.listening, b.order.trans (List.sublist_append_left _ _), ?_, b.processed,
      b.errors, b.last, b.state⟩
    simp only [List.length_append, List.length_singleton]
    omega
  · rw [queued]
    refine ⟨b.attached, b.listening, ?_, ?_, b.processed, b.errors, b.last, b.state⟩
    · simpa using b.order.append_right [tick]
    · simp only [List.length_append, List.length_singleton]
      omega

theorem Books.begun {tick : Tick} {rest : List Tick} (b : Books issued ended y c)
    (free : y.current = none) (queue : c.queue = tick :: rest) :
    Books issued ended { y with current := some tick } { c with queue := rest } := by
  have order := b.order
  have total := b.total
  rw [free, queue] at order total
  refine ⟨b.attached, b.listening, order, ?_, b.processed, b.errors, b.last, b.state⟩
  simp only [Option.toList_none, List.length_nil, List.length_cons] at total
  simp only [Option.toList_some, List.length_singleton]
  omega

theorem Books.finished {tick : Tick} (b : Books issued ended y c) (here : y.current = some tick)
    (how : Option Failure) : Books issued (ended ++ [⟨tick, how⟩]) (y.finished tick how) c := by
  have order := b.order
  have total := b.total
  rw [here] at order total
  refine ⟨b.attached, b.listening, ?_, ?_, ?_, ?_, ?_, ?_⟩
  · simpa [Tally.finished] using order
  · simpa [Tally.finished] using total
  · simp [Tally.finished, b.processed]
  · cases how <;> simp [Tally.finished, b.errors]
  · simp [Tally.finished]
  · have state := b.state
    by_cases first : ended = []
    · simp [Tally.finished, state, first]
    · simp [Tally.finished, state, first]

end

/-! What a step does to the tally of a handler and to its channel. -/

section
variable {e e' : Engine} {id x : HandlerId}

theorem tally_modify {f : Handler → Handler} {g : Tally → Tally} (keeps : ∀ h, (f h).id = h.id)
    (counts : ∀ h, (f h).tally = g h.tally) (x id : HandlerId) (e : Engine) :
    (e.modify x f).tally id = (e.tally id).map fun y => if id = x then g y else y := by
  by_cases own : id = x
  · subst own
    rw [tally, modify_own keeps, tally, Option.map_map, Option.map_map]
    exact congrArg (Option.map · _) (funext fun h => (counts h).trans (if_pos rfl).symm)
  · simp only [tally, modify_other keeps (Ne.symm own), if_neg own, Option.map_id']

theorem tally_same {f : Handler → Handler} (keeps : ∀ h, (f h).id = h.id)
    (counts : ∀ h, (f h).tally = h.tally) (x id : HandlerId) (e : Engine) :
    (e.modify x f).tally id = e.tally id := by
  rw [tally_modify (g := fun y => y) keeps counts]
  simp

theorem Acts.tally (acts : Acts e e') (id : HandlerId) : e'.tally id = e.tally id := by
  rw [Engine.tally, Engine.tally, Option.map_eq_bind, Option.map_eq_bind]
  exact acts.handler (fun _ => rfl) id

theorem tally_setCall (x : HandlerId) (c : Call) (id : HandlerId) (e : Engine) :
    (e.setCall x c).tally id =
      (e.tally id).map fun y => if id = x then { y with current := some c.tick } else y :=
  tally_modify (by exact fun _ => rfl) (by exact fun _ => rfl) x id e

theorem tally_halt (x id : HandlerId) (e : Engine) : (e.setState x .stopping).tally id =
    (e.tally id).map fun y => if id = x then { y with state := .stopping } else y :=
  tally_modify (by exact fun _ => rfl) (by exact fun _ => rfl) x id e

theorem tally_finish (x : HandlerId) (c : Call) (how : Option Failure) (id : HandlerId)
    (e : Engine) : (e.finish x c how).tally id =
      (e.tally id).map fun y => if id = x then y.finished c.tick how else y := by
  refine (tally_modify (g := Tally.finished c.tick how) ?_ ?_ x id _).trans ?_
  · exact fun _ => rfl
  · exact fun _ => rfl
  · cases how <;> rfl

theorem tally_current {c : Call} {y : Tally} (current : e.openCall? x = some c)
    (told : e.tally x = some y) : y.current = some c.tick := by
  obtain ⟨h, found, call⟩ := openCall_held current
  rw [tally, found] at told
  cases told
  simp [Handler.tally, call]

theorem tally_advance (d : e.Distinct) {c : Call} (current : e.openCall? x = some c)
    (id : HandlerId) : (e.advance x c).tally id = (e.tally id).map fun y =>
      if id = x then (e.outcome x c).elim y (y.finished c.tick) else y := by
  have same : (e.acted x c).tally id = e.tally id := (acted_acts d x c).tally id
  have tick := (verdict_call x c e).1
  rw [advance_verdict]
  cases e.outcome x c with
  | none =>
    dsimp only
    rw [tally_setCall, same, tick]
    cases told : e.tally id with
    | none => rfl
    | some y =>
      by_cases own : id = x
      · subst own
        simp [← tally_current current told]
      · simp [own]
  | some how =>
    dsimp only
    rw [tally_finish, same, tick]
    rfl

theorem advance_broadcaster (d : e.Distinct) (x : HandlerId) (c : Call) :
    (e.advance x c).broadcaster = e.broadcaster := by
  have acted : (e.acted x c).broadcaster = e.broadcaster :=
    (congrArg Engine.broadcaster (acted_acts d x c).unacted :)
  rw [advance_verdict]
  cases e.outcome x c with
  | none => exact acted
  | some how => cases how <;> exact acted

theorem channel_sent (tick : Tick) (b : TickBroadcaster) (name : String) :
    (b.broadcast tick).2.channel? name = (b.channel? name).map (·.sent b.depth tick) :=
  find_map_of_key (fun c => Flow.sent_name b.depth tick c) b.channels name

theorem channel_taken {c : TickChannel} (same : c.name = x.text) (id : HandlerId) (e : Engine) :
    (e.taken x c).broadcaster.channel? id.text =
      (e.broadcaster.channel? id.text).map fun d => if id = x then c else d := by
  have keeps (d : TickChannel) : (if d.name = x.text then c else d).name = d.name := by
    split
    · rename_i here
      rw [same, here]
    · rfl
  refine (find_map_of_key keeps e.broadcaster.channels id.text).trans ?_
  change (e.broadcaster.channel? id.text).map _ = _
  cases found : e.broadcaster.channel? id.text with
  | none => rfl
  | some d =>
    have name : d.name = x.text ↔ id = x := by
      rw [(key_of_find found).2, HandlerId.mk.injEq]
    simp only [Option.map_some, name]

theorem does_distinct (d : e.Distinct) {k : Deed} (step : Does e k e') : e'.Distinct := by
  cases step with
  | issue frame timestamp delta running => exact ⟨d.ids, d.ports⟩
  | plan id process =>
    refine ⟨?_, fun h mem => ?_⟩
    · rw [show (e.planned id process).ids = e.ids from map_modify fun _ _ _ => rfl]
      exact d.ids
    · obtain ⟨g, mg, rfl⟩ := List.mem_map.mp mem
      split <;> exact d.ports g mg
  | begin id free => exact (beginCall_worked id e).distinct d
  | advance id c current => exact (work_worked d (.advance id c current)).distinct d
  | resume id => exact (work_worked d (.resume id)).distinct d
  | write id port m => exact (writePort_acts d id port m).distinct d
  | read id port cutoff => exact (readPort_acts id port cutoff e).distinct d
  | halt id => exact distinct_of_wiring d (wiring_of_unstarted (setState_unstarted id _ e))
  | close => exact ⟨d.ids, d.ports⟩

end

def Accounted (id : HandlerId) (t : List Deed) (e : Engine) : Prop :=
  ∃ y c, e.tally id = some y ∧ e.broadcaster.channel? id.text = some c ∧
    Books (ticks t) (endings id t) y c

section
variable {e e' : Engine} {id : HandlerId} {t : List Deed} {k : Deed}

theorem Accounted.silent (a : Accounted id t e) (tick : k.tick? = none)
    (ending : k.ending? id = none) (told : e'.tally id = e.tally id)
    (channel : e'.broadcaster.channel? id.text = e.broadcaster.channel? id.text) :
    Accounted id (t ++ [k]) e' := by
  obtain ⟨y, c, tally, here, books⟩ := a
  refine ⟨y, c, told.trans tally, channel.trans here, ?_⟩
  rw [ticks_snoc, endings_snoc, tick, ending]
  simpa using books

theorem Accounted.begin (a : Accounted id t e) {x : HandlerId}
    (free : (e.handler? x).bind (·.call) = none) :
    Accounted id (t ++ [.begun x]) (e.beginCall x) := by
  rcases beginCall_cases x e with same | ⟨c, tick, rest, here, queue, begun⟩
  · rw [same]
    exact a.silent rfl rfl rfl rfl
  have channel := channel_taken (show ({ c with queue := rest } : TickChannel).name = x.text from
    (key_of_find here).2) id e
  by_cases own : id = x
  · subst own
    obtain ⟨y, c', tally, here', books⟩ := a
    cases here.symm.trans here'
    obtain ⟨h, found, rfl⟩ := Option.map_eq_some_iff.mp tally
    rcases begun with ⟨idle, _⟩ | ⟨_, _, _, begun⟩
    · have idle := idle h found
      rw [show h.state = _ from books.state] at idle
      split at idle <;> cases idle
    · have none : h.tally.current = none := by
        rw [found] at free
        simpa [Handler.tally] using free
      rw [begun]
      refine ⟨{ h.tally with current := some tick }, { c with queue := rest }, ?_, ?_, ?_⟩
      · refine (tally_setCall _ _ _ _).trans ?_
        change (e.tally id).map _ = _
        simp [tally]
      · exact channel.trans (by simp [here])
      · rw [ticks_snoc, endings_snoc]
        simpa [Deed.tick?, Deed.ending?] using books.begun none queue
  · have elsewhere : (e.taken x { c with queue := rest }).broadcaster.channel? id.text =
        e.broadcaster.channel? id.text := by simpa [own] using channel
    rcases begun with ⟨_, begun⟩ | ⟨_, _, _, begun⟩
    · rw [begun]
      exact a.silent rfl rfl rfl elsewhere
    · rw [begun]
      refine a.silent rfl rfl ((tally_setCall _ _ _ _).trans ?_) elsewhere
      change (e.tally id).map _ = _
      simp [own]

theorem Accounted.advance (a : Accounted id t e) (d : e.Distinct) {x : HandlerId} {c : Call}
    (current : e.openCall? x = some c) :
    Accounted id (t ++ [.stepped x (c.rest.head?.map (·.action))
      ((e.outcome x c).map (⟨c.tick, ·⟩))]) (e.advance x c) := by
  obtain ⟨y, b, tally, here, books⟩ := a
  refine ⟨_, b, by rw [tally_advance d current, tally]; rfl, ?_, ?_⟩
  · rw [advance_broadcaster d, here]
  · rw [ticks_snoc, endings_snoc]
    by_cases own : id = x
    · subst own
      cases ends : e.outcome id c with
      | none => simpa [Deed.tick?, Deed.ending?] using books
      | some how =>
        simpa [Deed.tick?, Deed.ending?] using books.finished (tally_current current tally) how
    · simpa [Deed.tick?, Deed.ending?, own, Ne.symm own] using books

theorem Accounted.step (a : Accounted id t e) (d : e.Distinct) (step : Does e k e')
    (going : k.stops = false) : Accounted id (t ++ [k]) e' := by
  have acts {e' : Engine} (acts : Acts e e') (tick : k.tick? = none)
      (ending : k.ending? id = none) : Accounted id (t ++ [k]) e' :=
    a.silent tick ending (acts.tally id)
      (congrArg (fun e => e.broadcaster.channel? id.text) acts.unacted :)
  cases step with
  | issue frame timestamp delta running =>
    obtain ⟨y, c, tally, here, books⟩ := a
    refine ⟨y, _, tally, (channel_sent _ e.broadcaster id.text).trans (by rw [here]; rfl), ?_⟩
    rw [ticks_snoc, endings_snoc]
    simpa [Deed.tick?, Deed.ending?] using books.sent e.broadcaster.depth _
  | plan x process =>
    refine a.silent rfl rfl (tally_same ?_ ?_ x id e) rfl <;> exact fun _ => rfl
  | begin x free => exact a.begin free
  | advance x c current => exact a.advance d current
  | resume x =>
    refine a.silent rfl rfl (tally_same ?_ ?_ x id e) rfl
    · exact fun _ => rfl
    · exact fun h => by cases call : h.call <;> simp [Handler.tally, call]
  | write x port m => exact acts (writePort_acts d x port m) rfl rfl
  | read x port cutoff => exact acts (readPort_acts x port cutoff e) rfl rfl
  | halt x => cases going
  | close => cases going

theorem course_distinct (d : e.Distinct) (course : Course e t e') : e'.Distinct := by
  induction course with
  | refl => exact d
  | tail _ step ih => exact does_distinct ih step

theorem Accounted.course (a : Accounted id [] e) (d : e.Distinct) (course : Course e t e')
    (going : ∀ k ∈ t, k.stops = false) : Accounted id t e' := by
  induction course with
  | refl => exact a
  | tail first step ih =>
    have before := ih fun k mem => going k (List.mem_append_left _ mem)
    exact before.step (course_distinct d first) step (going _ (by simp))

structure Balanced (id : HandlerId) (t : List Deed) (x : Handler) (e : Engine) : Prop where
  total : x.call = none →
    x.stats.processed + e.missed id + e.waiting id = (ticks t).length
  processed : x.stats.processed = (endings id t).length
  errors : x.stats.errors = ((endings id t).filter (·.failure.isSome)).length
  last : (∀ k ∈ ticks t, k.frame < 18446744073709551615) →
    x.stats.lastFrame = (endings id t).getLast?.map (·.tick.frame)
  order : ((endings id t).map (·.tick)).Sublist (ticks t)
  rising : ((ticks t).map (·.frame)).Pairwise (· < ·) →
    ((endings id t).map (·.tick.frame)).Pairwise (· < ·)
  state : x.state = if endings id t = [] then .started else .running

theorem Accounted.balanced (a : Accounted id t e) :
    ∃ x, e.handler? id = some x ∧ Balanced id t x e := by
  obtain ⟨y, c, tally, here, books⟩ := a
  obtain ⟨x, found, rfl⟩ := Option.map_eq_some_iff.mp tally
  have order : ((endings id t).map (·.tick)).Sublist (ticks t) :=
    (List.sublist_append_left _ _).trans books.order
  refine ⟨x, found, ?_, books.processed, books.errors, ?_, order, ?_, books.state⟩
  · intro free
    have total := books.total
    have processed : x.stats.processed = _ := books.processed
    simp only [Handler.tally, free, Option.map_none, Option.toList_none, List.length_nil] at total
    simp only [missed, waiting, here, Option.map_some, Option.getD_some]
    omega
  · intro bound
    refine books.last.trans ?_
    cases latest : (endings id t).getLast? with
    | none => rfl
    | some k =>
      have mem := order.subset (List.mem_map_of_mem (List.mem_of_getLast? latest))
      exact kept_below (bound _ mem)
  · intro rising
    simpa [Function.comp_def] using rising.sublist (order.map (·.frame))

/-! A handler that is marked as stopping. -/

def Resting (id : HandlerId) (y : Tally) (e : Engine) : Prop :=
  e.tally id = some y ∧ y.state.isActive = false

theorem Resting.same {y : Tally} (r : Resting id y e) (told : e'.tally id = e.tally id)
    (ending : k.ending? id = none) : ∃ y', Resting id y' e' ∧
      (k.ending? id).toList.map (·.tick) ++ y'.current.toList = y.current.toList :=
  ⟨y, ⟨told.trans r.1, r.2⟩, by rw [ending]; rfl⟩

theorem Resting.step {y : Tally} (r : Resting id y e) (d : e.Distinct) (step : Does e k e') :
    ∃ y', Resting id y' e' ∧
      (k.ending? id).toList.map (·.tick) ++ y'.current.toList = y.current.toList := by
  cases step with
  | issue => exact r.same rfl rfl
  | plan x process =>
    refine r.same (tally_same ?_ ?_ x id e) rfl <;> exact fun _ => rfl
  | begin x free =>
    refine r.same ?_ rfl
    rcases beginCall_cases x e with
      same | ⟨c, tick, rest, _, _, ⟨_, same⟩ | ⟨h, found, active, begun⟩⟩
    · rw [same]
    · rw [same]
      rfl
    · rw [begun]
      refine (tally_setCall _ _ _ _).trans ?_
      change (e.tally id).map _ = _
      by_cases own : id = x
      · subst own
        have told := r.1
        rw [tally, found] at told
        cases told
        cases active.symm.trans r.2
      · simp [own]
  | advance x c current =>
    by_cases own : id = x
    · subst own
      have busy := tally_current current r.1
      have told := tally_advance d current id
      rw [r.1, Option.map_some, if_pos rfl] at told
      cases ends : e.outcome id c with
      | none =>
        rw [ends] at told
        exact ⟨y, ⟨told, r.2⟩, by simp [Deed.ending?]⟩
      | some how =>
        rw [ends] at told
        refine ⟨_, ⟨told, ?_⟩, by simp [Deed.ending?, Tally.finished, busy]⟩
        have waiting : y.state ≠ .started := by
          intro started
          have idle := r.2
          rw [started] at idle
          cases idle
        simpa [Tally.finished, waiting] using r.2
    · refine r.same ?_ (if_neg (Ne.symm own))
      rw [tally_advance d current]
      simp [own]
  | resume x =>
    refine r.same (tally_same ?_ ?_ x id e) rfl
    · exact fun _ => rfl
    · exact fun h => by cases call : h.call <;> simp [Handler.tally, call]
  | write x port m => exact r.same ((writePort_acts d x port m).tally id) rfl
  | read x port cutoff => exact r.same ((readPort_acts x port cutoff e).tally id) rfl
  | halt x =>
    have told := tally_halt x id e
    rw [r.1] at told
    refine ⟨_, ⟨told, ?_⟩, ?_⟩
    · split
      · rfl
      · exact r.2
    · split <;> rfl
  | close => exact r.same rfl rfl

/-- Once it is marked, a handler works on nothing but the tick that it is at work on. -/
theorem Resting.course {y : Tally} (r : Resting id y e) (d : e.Distinct) (course : Course e t e') :
    ∃ y', Resting id y' e' ∧
      (endings id t).map (·.tick) ++ y'.current.toList = y.current.toList := by
  induction course with
  | refl => exact ⟨y, r, rfl⟩
  | @tail t k e₁ e₂ first step ih =>
    obtain ⟨y₁, r₁, before⟩ := ih
    obtain ⟨y₂, r₂, after⟩ := r₁.step (course_distinct d first) step
    refine ⟨y₂, r₂, ?_⟩
    rw [endings_snoc, List.map_append, List.append_assoc, after, before]

/-- Along the course, which ends in `f`, the handler works on no tick but the one that it was at
work on before. -/
def Finishing (x : Handler) (s : List Deed) (f : Engine) : Prop :=
  ∃ y, f.handler? x.id = some y ∧
    (endings x.id s).map (·.tick) ++ (y.call.map (·.tick)).toList = (x.call.map (·.tick)).toList

theorem Resting.finishing {x : Handler} {y : Tally} (r : Resting x.id y e)
    (current : y.current = x.tally.current) (d : e.Distinct) (course : Course e t e') :
    Finishing x t e' := by
  obtain ⟨z, after, worked⟩ := r.course d course
  obtain ⟨g, found, rfl⟩ := Option.map_eq_some_iff.mp after.1
  exact ⟨g, found, worked.trans (by rw [current]; rfl)⟩

theorem resting_halted {y : Tally} (told : e.tally id = some y) :
    ∃ y', Resting id y' (e.setState id .stopping) ∧ y'.current = y.current := by
  have marked := tally_halt id id e
  rw [told, Option.map_some, if_pos rfl] at marked
  exact ⟨_, ⟨marked, rfl⟩, rfl⟩

theorem resting_quiesce {y : Tally} (d : e.Distinct) (told : e.tally id = some y) :
    ∃ y', Resting id y' (e.quiesce e.activeIds) ∧ y'.current = y.current := by
  obtain ⟨h, found, rfl⟩ := Option.map_eq_some_iff.mp told
  have marked : (e.quiesce e.activeIds).handler? id = some (h.marked e.activeIds .stopping) := by
    rw [handler?, quiesce_handlers, find_map_of_key (marked_id _ _)]
    exact congrArg (Option.map _) found
  refine ⟨(h.marked e.activeIds .stopping).tally, ⟨by rw [tally, marked]; rfl, ?_⟩, ?_⟩
  · unfold Handler.marked
    split
    · rfl
    · rename_i idle
      rw [Hosted.active_iff d.ids (mem_of_handler found).1] at idle
      exact Bool.eq_false_iff.mpr idle
  · unfold Handler.marked
    split <;> rfl

end

end Engine

namespace Hosted

open Engine

theorem start_accounted {within : Engine → Prop} {h : Hosted} (reach : Reachable within h)
    (ok : h.start.1 = .ok ()) {x : Handler} (mem : x ∈ h.start.2.engine.handlers)
    (active : x.state.isActive = true) : Accounted x.id [] h.start.2.engine := by
  have idle := start_idle ok
  have d := (reachable_wired (reach.next .start)).distinct
  obtain ⟨channels, started⟩ := start_active reach ok
  obtain ⟨g, mg, same⟩ := mem_of_map_eq (congrArg handlers h.start_unstarted :) mem
  have stats : x.stats = ⟨0, 0, none⟩ := by
    rw [← show g.stats = x.stats from (congrArg Handler.stats same :)]
    exact reachable_uncounted reach idle g mg
  have free : x.call = none := by
    rw [← show g.call = x.call from (congrArg Handler.call same :)]
    exact (reachable_untouched reach idle).quiet g mg
  refine ⟨_, .opened x.id.text, ?_, ?_, books_opened x.id.text⟩
  · rw [tally, handler_of_mem d.ids mem, Option.map_some, Handler.tally, started x mem active,
      stats, free]
    rfl
  · have among : TickChannel.opened x.id.text ∈ h.start.2.engine.broadcaster.channels := by
      rw [channels]
      exact List.mem_map_of_mem ((active_iff d.ids mem).mpr active)
    cases found : h.start.2.engine.broadcaster.channel? x.id.text with
    | none =>
      have other := List.find?_eq_none.mp found _ among
      simp [TickChannel.opened] at other
    | some c =>
      obtain ⟨mc, name⟩ := key_of_find found
      rw [channels] at mc
      obtain ⟨y, _, rfl⟩ := List.mem_map.mp mc
      exact congrArg some (congrArg TickChannel.opened name)

end Hosted

end Tickflow
