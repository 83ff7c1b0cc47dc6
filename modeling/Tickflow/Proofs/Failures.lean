import Tickflow.Proofs.Atomic
import Tickflow.Proofs.Containment
/-!
Calls that fail, in engines that run. What a handler shows of its work adds up whatever its calls
came to, nobody else notices how they ended, and a stop leaves the ticks that wait to nobody.
-/
namespace Tickflow

namespace Hosted

open Engine

theorem start_running_ok {h : Hosted} (idle : h.engine.state = .idle)
    (running : h.start.2.engine.state = .running) : h.start.1 = .ok () := by
  cases went : startEach h.engine.ids [] [] h.engine.warned with
  | mk fault rest =>
    obtain ⟨started, e⟩ := rest
    cases fault with
    | none => rw [start_running idle went]
    | some fault =>
      rw [start_failing idle went] at running
      cases running

/-- Whatever became of an engine that runs is a course from its start. -/
theorem running_course {within : Engine → Prop} {h : Hosted} (reach : Reachable within h)
    (running : h.engine.state = .running) : ∃ k t, Reachable within k ∧ k.start.1 = .ok () ∧
      Course k.start.2.engine t h.engine ∧ ∀ d ∈ t, d.stops = false := by
  induction reach with
  | fresh made r =>
    obtain ⟨_, _, rfl⟩ := make_blank made
    cases running
  | @next h h' run step ih =>
    have w := reachable_wired run
    have awake {e : Engine} (now : e.state = .running) : e.state ≠ .idle := by simp [now]
    cases step with
    | add id b =>
      obtain same | ⟨_, _, _, _, idle, _, same⟩ := added_cases id b h
      · rw [same] at running ⊢
        exact ih running
      · rw [same] at running
        exact absurd idle (awake running)
    | connect source target =>
      have before : h.engine.state = .running := w.connect_state source target ▸ running
      rw [show (h.connect source target).2.engine = h.engine from busy_connect (awake before) _ _]
      exact ih before
    | connectTexts source target =>
      have before : h.engine.state = .running := w.connectTexts_state source target ▸ running
      rw [show (h.connectTexts source target).2.engine = h.engine from
        busy_connectTexts (awake before) _ _]
      exact ih before
    | start =>
      by_cases idle : h.engine.state = .idle
      · refine ⟨h, [], run, start_running_ok idle running, .refl, by simp⟩
      · rw [busy_start idle] at running ⊢
        exact ih running
    | @work e w' =>
      have before : h.engine.state = .running := (work_worked w.distinct w').state ▸ running
      obtain ⟨k, t, started, ok, course, going⟩ := ih before
      obtain ⟨s, more, going'⟩ := works_course (.single w')
      refine ⟨k, t ++ s, started, ok, course.trans more, fun d mem => ?_⟩
      rcases List.mem_append.mp mem with old | new
      · exact going d old
      · exact going' d new
    | stopIdle rest =>
      unfold stop at running
      split at running
      · rename_i stopped
        rw [stopped] at running
        cases running
      · cases running
      · rename_i now
        exact absurd now rest
    | stop => cases running
    | registry r => exact ih running

/-- In an engine that was started, what is shown of an active handler adds up after any course,
however its calls ended; its calls have frames that rise as long as those of the ticks do. How they
ended makes no difference to any other handler. From the moment a stop marks it, a handler works on
no tick but the one that it is at work on, and once all are marked, so does every handler. -/
theorem failures_contained {within : Engine → Prop} {h : Hosted} (reach : Reachable within h)
    (ok : h.start.1 = .ok ()) {t : List Engine.Deed} {e : Engine}
    (course : Course h.start.2.engine t e) :
    ((∀ k ∈ t, k.stops = false) → ∀ x ∈ h.start.2.engine.handlers, x.state.isActive = true →
      ∃ y, e.handler? x.id = some y ∧ Balanced x.id t y e) ∧
    (∀ x s f, Course h.start.2.engine s f → seen x t = seen x s →
      Unaffected x e f ∧ ∀ y, y ≠ x → endings y t = endings y s) ∧
    ∀ x ∈ e.handlers, ∀ s f,
      (Course (e.setState x.id .stopping) s f → Finishing x s f) ∧
      (Course (e.quiesce e.activeIds) s f → Finishing x s f) := by
  have d := (reachable_wired (reach.next .start)).distinct
  have d' := course_distinct d course
  refine ⟨?_, ?_, ?_⟩
  · intro going x mem active
    exact ((start_accounted reach ok mem active).course d course going).balanced
  · intro x s f course' same
    have alike : Abreast x h.start.2.engine h.start.2.engine :=
      ⟨rfl, fun s s' left right => Option.some.inj (right.symm.trans left)⟩
    obtain ⟨after, ends⟩ := seen_course d d alike course course' same
    exact ⟨after.unaffected, ends⟩
  · intro x mem s f
    have told : e.tally x.id = some x.tally := by
      rw [tally, handler_of_mem d'.ids mem, Option.map_some]
    constructor
    · intro course'
      obtain ⟨y, resting, current⟩ := resting_halted told
      exact resting.finishing current (does_distinct d' (.halt x.id)) course'
    · intro course'
      obtain ⟨y, resting, current⟩ := resting_quiesce d' told
      exact resting.finishing current (course_distinct d' (quiesce_course _ e)) course'

/-- A source that writes the number of every tick and then breaks off, linked to a sink. -/
def faulty : Hosted :=
  (((Flow.bare.added (some "source") { Behaviour.plain "Source" [.output "out" .data] [] with
      process := fun _ => [⟨.stamp "out", false⟩, ⟨.fail (.panic "no light"), false⟩] }).added
    (some "sink") (.plain "Sink" [.input "in" .data] [.read "in"])).connect Flow.source Flow.sink).2

theorem faulty_reachable : Reachable Quiet faulty :=
  .next (.next (.next (.fresh (show make 0 .default 30.0 = .ok _ from rfl) none) (.add _ _))
    (.add _ _)) (.connect _ _)

def tickAt (frame issuedAt : Nat) : Tick := ⟨frame, 0.0, 0.0, issuedAt⟩

def lamp : HandlerId := Flow.source.handler

def lit (frame : Nat) (e : Engine) : Engine :=
  (((e.issue frame 0.0 0.0).beginCall lamp)).runCall lamp 2

def darkCourse : List Engine.Deed :=
  [.issued (tickAt 0 1), .begun lamp, .stepped lamp (some (.stamp "out")) none,
    .stepped lamp (some (.fail (.panic "no light"))) (some ⟨tickAt 0 1, some (.panic "no light")⟩)]

def brightCourse : List Engine.Deed :=
  [.planned lamp (fun _ => [⟨.stamp "out", false⟩]), .issued (tickAt 0 1), .begun lamp,
    .stepped lamp (some (.stamp "out")) none, .stepped lamp none (some ⟨tickAt 0 1, none⟩)]

theorem dark_course : Course faulty.start.2.engine darkCourse (lit 0 faulty.start.2.engine) := by
  let e₁ := faulty.start.2.engine.issue 0 0.0 0.0
  let e₂ := e₁.beginCall lamp
  let c₀ : Call :=
    ⟨tickAt 0 1, 2, [⟨.stamp "out", false⟩, ⟨.fail (.panic "no light"), false⟩], false, []⟩
  let c₁ : Call := ⟨tickAt 0 1, 2, [⟨.fail (.panic "no light"), false⟩], false, [.wrote "out"]⟩
  have issued : Does faulty.start.2.engine (.issued (tickAt 0 1)) e₁ := .issue 0 0.0 0.0 rfl
  have begun : Does e₁ (.begun lamp) e₂ := .begin lamp rfl
  have wrote : Does e₂ (.stepped lamp (some (.stamp "out")) none) (e₂.advance lamp c₀) :=
    .advance lamp c₀ rfl
  have broke : Does (e₂.advance lamp c₀) (.stepped lamp (some (.fail (.panic "no light")))
      (some ⟨tickAt 0 1, some (.panic "no light")⟩)) ((e₂.advance lamp c₀).advance lamp c₁) :=
    .advance lamp c₁ rfl
  exact (((Course.single issued).tail begun).tail wrote).tail broke

theorem bright_course : Course faulty.start.2.engine brightCourse
    (lit 0 (faulty.start.2.engine.planned lamp fun _ => [⟨.stamp "out", false⟩])) := by
  let e₀ := faulty.start.2.engine.planned lamp fun _ => [⟨.stamp "out", false⟩]
  let e₁ := e₀.issue 0 0.0 0.0
  let e₂ := e₁.beginCall lamp
  let c₀ : Call := ⟨tickAt 0 1, 2, [⟨.stamp "out", false⟩], false, []⟩
  let c₁ : Call := ⟨tickAt 0 1, 2, [], false, [.wrote "out"]⟩
  have planned : Does faulty.start.2.engine (.planned lamp fun _ => [⟨.stamp "out", false⟩]) e₀ :=
    .plan lamp _
  have issued : Does e₀ (.issued (tickAt 0 1)) e₁ := .issue 0 0.0 0.0 rfl
  have begun : Does e₁ (.begun lamp) e₂ := .begin lamp rfl
  have wrote : Does e₂ (.stepped lamp (some (.stamp "out")) none) (e₂.advance lamp c₀) :=
    .advance lamp c₀ rfl
  have ended : Does (e₂.advance lamp c₀) (.stepped lamp none (some ⟨tickAt 0 1, none⟩))
      ((e₂.advance lamp c₀).advance lamp c₁) := .advance lamp c₁ rfl
  exact ((((Course.single planned).tail issued).tail begun).tail wrote).tail ended

theorem failures_contained_dark :
    let dark := lit 0 faulty.start.2.engine
    let bright := lit 0 (faulty.start.2.engine.planned lamp fun _ => [⟨.stamp "out", false⟩])
    Reachable Quiet faulty ∧ faulty.start.1 = .ok () ∧
    Course faulty.start.2.engine darkCourse dark ∧
    Course faulty.start.2.engine brightCourse bright ∧
    seen lamp darkCourse = seen lamp brightCourse ∧
    (∃ y, dark.handler? lamp = some y ∧ Balanced lamp darkCourse y dark ∧
      y.stats = ⟨1, 1, some 0⟩ ∧ y.state = .running) ∧
    Unaffected lamp dark bright := by
  intro dark bright
  have ok : faulty.start.1 = .ok () := rfl
  obtain ⟨balanced, contained, _⟩ := failures_contained faulty_reachable ok dark_course
  have same : seen lamp darkCourse = seen lamp brightCourse := rfl
  refine ⟨faulty_reachable, ok, dark_course, bright_course, same, ?_,
    (contained lamp brightCourse bright bright_course same).1⟩
  have mem : faulty.start.2.engine.handlers.get ⟨0, by decide +kernel⟩ ∈
      faulty.start.2.engine.handlers := List.get_mem _ _
  obtain ⟨y, found, books⟩ := balanced (by simp [darkCourse, Engine.Deed.stops]) _ mem rfl
  have shown : (dark.handler? lamp).map (fun y => (y.stats, y.state)) =
      some (⟨1, 1, some 0⟩, .running) := rfl
  rw [show dark.handler? lamp = some y from found] at shown
  obtain ⟨stats, state⟩ := Prod.mk.inj (Option.some.inj shown)
  exact ⟨y, found, books, stats, state⟩

def fallingCourse : List Engine.Deed :=
  [.issued (tickAt 5 1), .begun lamp, .stepped lamp none (some ⟨tickAt 5 1, none⟩),
    .issued (tickAt 3 3), .begun lamp, .stepped lamp none (some ⟨tickAt 3 3, none⟩)]

theorem falling_course : Course (Flow.sourceAndSink .latestWins).start.2.engine fallingCourse
    (lit 3 (lit 5 (Flow.sourceAndSink .latestWins).start.2.engine)) := by
  let e₀ := (Flow.sourceAndSink .latestWins).start.2.engine
  let e₁ := (e₀.issue 5 0.0 0.0).beginCall lamp
  let e₂ := ((lit 5 e₀).issue 3 0.0 0.0).beginCall lamp
  have issued : Does e₀ (.issued (tickAt 5 1)) (e₀.issue 5 0.0 0.0) := .issue 5 0.0 0.0 rfl
  have begun : Does (e₀.issue 5 0.0 0.0) (.begun lamp) e₁ := .begin lamp rfl
  have ended : Does e₁ (.stepped lamp none (some ⟨tickAt 5 1, none⟩)) (lit 5 e₀) :=
    .advance lamp ⟨tickAt 5 1, 2, [], false, []⟩ rfl
  have issued' : Does (lit 5 e₀) (.issued (tickAt 3 3)) ((lit 5 e₀).issue 3 0.0 0.0) :=
    .issue 3 0.0 0.0 rfl
  have begun' : Does ((lit 5 e₀).issue 3 0.0 0.0) (.begun lamp) e₂ := .begin lamp rfl
  have ended' : Does e₂ (.stepped lamp none (some ⟨tickAt 3 3, none⟩)) (lit 3 (lit 5 e₀)) :=
    .advance lamp ⟨tickAt 3 3, 4, [], false, []⟩ rfl
  exact (((((Course.single issued).tail begun).tail ended).tail issued').tail begun').tail ended'

/-- Without ticks that rise, the frames of a handler's calls need not rise. -/
theorem failures_contained_falling : ¬ ∀ h : Hosted, Reachable Quiet h → h.start.1 = .ok () →
    ∀ t e, Course h.start.2.engine t e → (∀ k ∈ t, k.stops = false) → e.Quiet →
      (∀ k ∈ ticks t, k.frame < 18446744073709551615) →
      ∀ x ∈ h.start.2.engine.handlers, x.state.isActive = true →
        ((endings x.id t).map (·.tick.frame)).Pairwise (· < ·) := by
  intro rising
  have reach : Reachable Quiet (Flow.sourceAndSink .latestWins) :=
    .next (.next (.fresh (show make 0 .default 30.0 = .ok _ from rfl) none) (.add _ _)) (.add _ _)
  have quiet : (lit 3 (lit 5 (Flow.sourceAndSink .latestWins).start.2.engine)).Quiet := by
    have free : ((lit 3 (lit 5 (Flow.sourceAndSink .latestWins).start.2.engine)).handlers.all
      fun x => x.call.isNone) = true := by decide +kernel
    intro x mem
    simpa using List.all_eq_true.mp free x mem
  have mem : (Flow.sourceAndSink .latestWins).start.2.engine.handlers.get ⟨0, by decide +kernel⟩ ∈
      (Flow.sourceAndSink .latestWins).start.2.engine.handlers := List.get_mem _ _
  have falls : [5, 3].Pairwise (· < ·) := rising _ reach rfl _ _ falling_course
    (by simp [fallingCourse, Engine.Deed.stops]) quiet (by decide) _ mem rfl
  exact absurd falls (by decide)

end Hosted

end Tickflow
