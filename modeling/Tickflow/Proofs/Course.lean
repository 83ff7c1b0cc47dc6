import Tickflow.Proofs.Frame
/-!
What happens between two operations of the owner of an engine, step by step and each with a name:
ticks are issued, calls begin, take their next action and end, and a stop marks one handler after
another. What a handler will do in its next call is up to it, so its script may change at any time.
-/
namespace Tickflow

def Action.outward : Action → Bool
  | .noteTick | .fail _ | .hold => false
  | _ => true

/-- The call after an action with the result, and how the call ends with it, if it does: in order,
or with a failure. -/
def Call.judged (soft : Bool) (noted : List CallEvent) (result : Except Failure (List CallEvent))
    (c : Call) : Call × Option (Option Failure) :=
  let events := c.events ++ noted
  match result with
  | .ok more => ({ c with events := events ++ more }, none)
  | .error (.panic text) => ({ c with events := events ++ [.panicked] }, some (some (.panic text)))
  | .error (.fault f) =>
    ({ c with events := events ++ [.failed f] }, if soft then none else some (some (.fault f)))

namespace Engine

def verdict (id : HandlerId) (c : Call) (e : Engine) : Call × Option (Option Failure) :=
  match c.rest with
  | [] => (c, some none)
  | s :: rest =>
    if s.action = .hold then ({ c with rest, held := true }, none)
    else ({ c with rest } : Call).judged s.soft (e.act id c s.action).1 (e.act id c s.action).2.1

def outcome (id : HandlerId) (c : Call) (e : Engine) : Option (Option Failure) :=
  (e.verdict id c).2

def acted (id : HandlerId) (c : Call) (e : Engine) : Engine :=
  match c.rest with
  | [] => e
  | s :: _ => (e.act id c s.action).2.2

def planned (id : HandlerId) (process : Nat → List Step) (e : Engine) : Engine :=
  e.modify id fun h => { h with behaviour := { h.behaviour with process } }

def closed (e : Engine) : Engine := { e with broadcaster := e.broadcaster.clear }

structure Ending where
  tick : Tick
  failure : Option Failure
  deriving DecidableEq, Repr

inductive Deed where
  | issued (tick : Tick)
  | planned (id : HandlerId) (process : Nat → List Step)
  | begun (id : HandlerId)
  /-- A call took its next action, if it had one, and may have ended with it. -/
  | stepped (id : HandlerId) (action : Option Action) (ending : Option Ending)
  | resumed (id : HandlerId)
  | wrote (id : HandlerId) (port : String) (m : Message)
  | looked (id : HandlerId) (port : String) (cutoff : Option Nat)
  | halted (id : HandlerId)
  | closed

inductive Does (e : Engine) : Deed → Engine → Prop where
  | issue (frame : Nat) (timestamp delta : Float) (running : e.state = .running) :
      Does e (.issued ⟨frame, timestamp, delta, e.now + 1⟩) (e.issue frame timestamp delta)
  | plan (id : HandlerId) (process : Nat → List Step) :
      Does e (.planned id process) (e.planned id process)
  | begin (id : HandlerId) (free : (e.handler? id).bind (·.call) = none) :
      Does e (.begun id) (e.beginCall id)
  | advance (id : HandlerId) (c : Call) (current : e.openCall? id = some c) :
      Does e (.stepped id (c.rest.head?.map (·.action)) ((e.outcome id c).map (⟨c.tick, ·⟩)))
        (e.advance id c)
  | resume (id : HandlerId) : Does e (.resumed id) (e.resume id)
  | write (id : HandlerId) (port : String) (m : Message) :
      Does e (.wrote id port m) (e.writePort id port m).2
  | read (id : HandlerId) (port : String) (cutoff : Option Nat) :
      Does e (.looked id port cutoff) (e.readPort id port cutoff).2
  | halt (id : HandlerId) : Does e (.halted id) (e.setState id .stopping)
  | close : Does e .closed e.closed

inductive Course (e : Engine) : List Deed → Engine → Prop where
  | refl : Course e [] e
  | tail {t : List Deed} {d : Deed} {e₁ e₂ : Engine} (first : Course e t e₁)
      (step : Does e₁ d e₂) : Course e (t ++ [d]) e₂

namespace Deed

def tick? : Deed → Option Tick
  | .issued tick => some tick
  | _ => none

def ending? (id : HandlerId) : Deed → Option Ending
  | .stepped x _ ending => if x = id then ending else none
  | _ => none

def stops : Deed → Bool
  | .halted _ | .closed => true
  | _ => false

end Deed

def ticks (t : List Deed) : List Tick := t.filterMap Deed.tick?

def endings (id : HandlerId) (t : List Deed) : List Ending := t.filterMap (Deed.ending? id)

section
variable (id : HandlerId) (t : List Deed) (d : Deed)

theorem ticks_snoc : ticks (t ++ [d]) = ticks t ++ d.tick?.toList := by
  rw [ticks, List.filterMap_append]
  cases told : d.tick? <;> simp [ticks, told]

theorem endings_snoc : endings id (t ++ [d]) = endings id t ++ (d.ending? id).toList := by
  rw [endings, List.filterMap_append]
  cases told : d.ending? id <;> simp [endings, told]

end

theorem Course.single {e e' : Engine} {d : Deed} (step : Does e d e') : Course e [d] e' :=
  .tail .refl step

theorem Course.trans {e e₁ e₂ : Engine} {s t : List Deed} (first : Course e s e₁)
    (second : Course e₁ t e₂) : Course e (s ++ t) e₂ := by
  induction second with
  | refl => simpa using first
  | tail _ step ih =>
    rw [← List.append_assoc]
    exact ih.tail step

/-- All work between two operations of the owner is a course without a stop. -/
theorem works_course {e e' : Engine} (w : Works e e') :
    ∃ t, Course e t e' ∧ ∀ d ∈ t, d.stops = false := by
  induction w with
  | refl => exact ⟨[], .refl, by simp⟩
  | @tail e₁ e₂ _ step ih =>
    obtain ⟨t, course, free⟩ := ih
    have more {d : Deed} (next : Does e₁ d e₂) (harmless : d.stops = false) :
        ∃ t, Course e t e₂ ∧ ∀ d ∈ t, d.stops = false := by
      refine ⟨t ++ [d], course.tail next, fun k mem => ?_⟩
      rcases List.mem_append.mp mem with old | new
      · exact free k old
      · rwa [List.mem_singleton.mp new]
    cases step with
    | issue frame timestamp delta running => exact more (.issue frame timestamp delta running) rfl
    | begin id free => exact more (.begin id free) rfl
    | advance id c current => exact more (.advance id c current) rfl
    | resume id => exact more (.resume id) rfl
    | write id port m => exact more (.write id port m) rfl
    | read id port cutoff => exact more (.read id port cutoff) rfl

/-- A stop begins by marking the handlers one after another, and then no more ticks are sent. -/
theorem quiesce_course (ids : List HandlerId) (e : Engine) :
    Course e (ids.map .halted ++ [.closed]) (e.quiesce ids) := by
  refine .tail ?_ .close
  induction ids generalizing e with
  | nil => exact .refl
  | cons id rest ih => exact (Course.single (.halt id)).trans (ih (e.setState id .stopping))

theorem advance_verdict (id : HandlerId) (c : Call) (e : Engine) :
    e.advance id c = match e.outcome id c with
      | none => (e.acted id c).setCall id (e.verdict id c).1
      | some how => (e.acted id c).finish id (e.verdict id c).1 how := by
  obtain ⟨tick, startedAt, rest, held, events⟩ := c
  cases rest with
  | nil => rfl
  | cons s rest =>
    obtain ⟨action, soft⟩ := s
    unfold advance
    split
    · rename_i empty
      cases empty
    · rename_i stays
      obtain ⟨⟨rfl, rfl⟩, rfl⟩ : (action = .hold ∧ soft = _) ∧ rest = _ := by simpa using stays
      rfl
    · rename_i goes next
      obtain ⟨⟨rfl, rfl⟩, rfl⟩ : (action = _ ∧ soft = _) ∧ rest = _ := by simpa using next
      have judged : e.verdict id ⟨tick, startedAt, ⟨action, soft⟩ :: rest, held, events⟩ = _ :=
        if_neg goes
      simp only [outcome, judged, acted]
      generalize e.act id ⟨tick, startedAt, ⟨action, soft⟩ :: rest, held, events⟩ action = r
      obtain ⟨noted, result, e₁⟩ := r
      cases result with
      | ok more => rfl
      | error how =>
        cases how with
        | panic text => rfl
        | fault f => cases soft <;> rfl

theorem verdict_call (id : HandlerId) (c : Call) (e : Engine) :
    (e.verdict id c).1.tick = c.tick ∧ (e.verdict id c).1.startedAt = c.startedAt := by
  unfold verdict
  split
  · exact ⟨rfl, rfl⟩
  · split
    · exact ⟨rfl, rfl⟩
    · unfold Call.judged
      dsimp only
      split <;> exact ⟨rfl, rfl⟩

theorem acted_acts {e : Engine} (d : e.Distinct) (id : HandlerId) (c : Call) :
    Acts e (e.acted id c) := by
  unfold acted
  split
  · exact .refl e
  · exact act_acts d id c _

def taken (id : HandlerId) (c : TickChannel) (e : Engine) : Engine :=
  { e with broadcaster := e.broadcaster.modify id.text fun _ => c }

theorem beginCall_cases (id : HandlerId) (e : Engine) :
    e.beginCall id = e ∨ ∃ c tick rest, e.broadcaster.channel? id.text = some c ∧
      c.queue = tick :: rest ∧
      (((∀ h, e.handler? id = some h → h.state.isActive = false) ∧
          e.beginCall id = e.taken id { c with queue := rest }) ∨
        ∃ h, e.handler? id = some h ∧ h.state.isActive = true ∧
          e.beginCall id =
            { e.taken id { c with queue := rest } with now := e.now + 1 }.setCall id
              ⟨tick, e.now + 1, h.behaviour.process tick.frame, false, []⟩) := by
  unfold beginCall
  cases found : e.broadcaster.channel? id.text with
  | none => exact .inl rfl
  | some c =>
    cases queue : c.queue with
    | nil => exact .inl (by simp [TickChannel.received, queue])
    | cons tick rest =>
      refine .inr ⟨c, tick, rest, rfl, queue, ?_⟩
      have head : (some c).bind (·.received) = some (tick, { c with queue := rest }) := by
        simp [TickChannel.received, queue]
      simp only [head]
      have kept : ({ e with broadcaster := e.broadcaster.modify id.text fun _ =>
          { c with queue := rest } } : Engine).handler? id = e.handler? id := rfl
      simp only [kept]
      cases at_id : e.handler? id with
      | none => exact .inl ⟨by simp, rfl⟩
      | some h =>
        cases active : h.state.isActive with
        | true => exact .inr ⟨h, rfl, active, if_pos active⟩
        | false => exact .inl ⟨by simpa using active, if_neg (by simp [active])⟩

end Engine

end Tickflow
