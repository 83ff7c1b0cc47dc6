import Mathlib.Logic.Relation
import Tickflow.Engine.Lifecycle
/-!
Runs of an engine. Between two operations of its owner the handlers work side by side, so what they
do is split into small steps that come in any order. A stop waits for the calls that are under way;
`within` says which engines it may find when its wait is over.
-/
namespace Tickflow

namespace Engine

def blank (key : Nat) (settings : Settings) (portRange : Option PortRange) : Engine :=
  { key, settings, portRange
    handlers := [], connections := [], graph := .empty, nextConnection := 0, cells := []
    pool := .make settings.poolMaxRetained, broadcaster := .make settings.tickQueueDepth
    nextFrame := 0, state := .idle, now := 0, notices := [], journal := [] }

theorem make_blank {key : Nat} {settings : Settings} {fps : Float} {e : Engine}
    (made : make key settings fps = .ok e) : (settings.withFps fps).validate = .ok () ∧
      ∃ portRange, e = blank key (settings.withFps fps) portRange := by
  simp only [make, bind, Except.bind] at made
  split at made
  · cases made
  · rename_i valid
    split at made
    · cases made
    · cases made
      exact ⟨valid, _, rfl⟩

def Quiet (e : Engine) : Prop := ∀ h ∈ e.handlers, h.call = none

/-- Whoever holds a port may use it at any time, so reads and writes are also steps of their own. -/
inductive Work (e : Engine) : Engine → Prop where
  | issue (frame : Nat) (timestamp delta : Float) (running : e.state = .running) :
      Work e (e.issue frame timestamp delta)
  | begin (id : HandlerId) (free : (e.handler? id).bind (·.call) = none) : Work e (e.beginCall id)
  | advance (id : HandlerId) (c : Call) (current : e.openCall? id = some c) :
      Work e (e.advance id c)
  | resume (id : HandlerId) : Work e (e.resume id)
  | write (id : HandlerId) (port : String) (m : Message) : Work e (e.writePort id port m).2
  | read (id : HandlerId) (port : String) (cutoff : Option Nat) :
      Work e (e.readPort id port cutoff).2

abbrev Works : Engine → Engine → Prop := Relation.ReflTransGen Work

end Engine

namespace Hosted

def added (id : Option String) (b : Behaviour) (h : Hosted) : Hosted :=
  match h.addHandler id b with
  | .ok (_, h) => h
  | .error _ => h

def connect (source target : PortAddress) (h : Hosted) : Except Failure String × Hosted :=
  ((h.engine.connectInPlace source target).1,
    { h with engine := (h.engine.connectInPlace source target).2 })

def connectTexts (source target : String) (h : Hosted) : Except Failure String × Hosted :=
  ((h.engine.connectTextsInPlace source target).1,
    { h with engine := (h.engine.connectTextsInPlace source target).2 })

/-- Operations may fail; what they leave is a step all the same. A registry is shared with others, so
it may be any other one by the next step. -/
inductive Step (within : Engine → Prop) (h : Hosted) : Hosted → Prop where
  | add (id : Option String) (b : Behaviour) : Step within h (h.added id b)
  | connect (source target : PortAddress) : Step within h (h.connect source target).2
  | connectTexts (source target : String) : Step within h (h.connectTexts source target).2
  | start : Step within h h.start.2
  | work {e : Engine} (w : h.engine.Work e) : Step within h { h with engine := e }
  | stopIdle (rest : h.engine.state ≠ .running) : Step within h h.stop
  | stop {e : Engine} (running : h.engine.state = .running)
      (w : (h.engine.quiesce h.engine.activeIds).Works e) (done : within e) :
      Step within h ({ h with engine := e }.tearDown h.engine.activeIds)
  | registry (r : Option ActorRegistry) : Step within h { h with registry := r }

abbrev Run (within : Engine → Prop) : Hosted → Hosted → Prop :=
  Relation.ReflTransGen (Step within)

inductive Reachable (within : Engine → Prop) : Hosted → Prop where
  | fresh {key : Nat} {settings : Settings} {fps : Float} {e : Engine}
      (made : Engine.make key settings fps = .ok e) (r : Option ActorRegistry) :
      Reachable within ⟨e, r⟩
  | next {h h' : Hosted} (run : Reachable within h) (step : Step within h h') :
      Reachable within h'

theorem addHandler_cases (id : Option String) (b : Behaviour) (h : Hosted) :
    (∃ f, h.addHandler id b = .error f) ∨
    ∃ x ports, h.engine.state = .idle ∧ h.engine.prepare x b = .ok ports ∧
      ((h.registry = none ∧
        h.addHandler id b = .ok (x, ⟨h.engine.insert x b false ports none, none⟩)) ∨
      ∃ r uri r', h.registry = some r ∧
        r.register h.engine.key x b.className false = .ok (uri, r') ∧
        h.addHandler id b = .ok (x, ⟨h.engine.insert x b false ports (some uri), some r'⟩)) := by
  simp only [addHandler, bind, Except.bind, Engine.ensureIdle]
  cases h.engine.state with
  | running => exact .inl ⟨_, rfl⟩
  | stopped => exact .inl ⟨_, rfl⟩
  | idle =>
    cases h.engine.chooseId id b with
    | error f => exact .inl ⟨f, rfl⟩
    | ok x =>
      cases prepared : h.engine.prepare x b with
      | error f => exact .inl ⟨f, by simp [prepared]⟩
      | ok ports =>
        cases h.registry with
        | none =>
          exact .inr ⟨x, ports, rfl, prepared, .inl ⟨rfl, by simp [prepared, pure, Except.pure]⟩⟩
        | some r =>
          cases registered : r.register h.engine.key x b.className false with
          | error f => exact .inl ⟨f, by simp [prepared, registered]⟩
          | ok entry =>
            exact .inr ⟨x, ports, rfl, prepared, .inr ⟨r, entry.1, entry.2, rfl, registered,
              by simp [prepared, registered, pure, Except.pure]⟩⟩

theorem added_cases (id : Option String) (b : Behaviour) (h : Hosted) :
    h.added id b = h ∨ ∃ x ports uri r, h.engine.state = .idle ∧ h.engine.prepare x b = .ok ports ∧
      h.added id b = ⟨h.engine.insert x b false ports uri, r⟩ := by
  rcases addHandler_cases id b h with ⟨f, refused⟩ | ⟨x, ports, idle, prepared,
    ⟨_, granted⟩ | ⟨r, uri, r', _, _, granted⟩⟩
  · exact .inl (by rw [added, refused])
  · exact .inr ⟨x, ports, none, none, idle, prepared, by rw [added, granted]⟩
  · exact .inr ⟨x, ports, some uri, some r', idle, prepared, by rw [added, granted]⟩

theorem reachable_run {within : Engine → Prop} {h h' : Hosted} (reach : Reachable within h)
    (run : Run within h h') : Reachable within h' := by
  induction run with
  | refl => exact reach
  | tail _ step ih => exact .next ih step

theorem stop_step {within : Engine → Prop} (h : Hosted)
    (done : h.engine.state = .running → within (h.engine.quiesce h.engine.activeIds)) :
    Step within h h.stop := by
  by_cases running : h.engine.state = .running
  · let e := h.engine.quiesce h.engine.activeIds
    have same : h.stop = ({ h with engine := e } : Hosted).tearDown h.engine.activeIds := by
      simp only [stop, running, e]
    rw [same]
    exact .stop running .refl (done running)
  · exact .stopIdle running

end Hosted

end Tickflow
