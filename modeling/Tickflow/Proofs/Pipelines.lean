import Tickflow.Proofs.Assembly
import Tickflow.Proofs.Ownership
/-!
Pipelines that are built on engines in use. When a pipeline could not be built, its engine is stopped,
and takes back the names of all stages that were added before the failure.
-/
namespace Tickflow

namespace World

open Engine Assembly

variable {w : World} {key : Nat} {h h' : Hosted} {r : Resident}

theorem putHosted_of (found : w.resident? key = some r) (h : Hosted) : w.putHosted key h =
    { w with
      residents := w.residents.set key { r with engine := h.engine }
      registries := match r.registry, h.registry with
        | some i, some x => w.registries.set i x
        | _, _ => w.registries } := by
  obtain ⟨engine, registry, stages⟩ := r
  unfold putHosted
  rw [found]
  cases registry <;> cases h.registry <;> rfl

theorem putHosted_twice {first last : Hosted} (key : Nat) (w : World)
    (same : last.registry.isSome = first.registry.isSome) :
    (w.putHosted key first).putHosted key last = w.putHosted key last := by
  cases found : w.resident? key with
  | none => simp [putHosted, found]
  | some r =>
    have after := putHosted_resident found first key
    rw [if_pos rfl] at after
    rw [putHosted_of after, putHosted_of found, putHosted_of found]
    cases r.registry <;> cases before : first.registry <;> cases later : last.registry <;>
      simp_all

theorem putHosted_hosted (hosted : w.hosted? key = some h)
    (same : h'.registry.isSome = h.registry.isSome) :
    (w.putHosted key h').hosted? key = some h' := by
  obtain ⟨r, found, rfl⟩ := hosted_resident hosted
  have after := putHosted_resident found h' key
  rw [if_pos rfl] at after
  have registry : (r.registry.bind fun i => registry? i (w.putHosted key h')) = h'.registry := by
    rw [putHosted_of found]
    cases used : r.registry with
    | none =>
      have absent : h'.registry = none := by simpa [used] using same
      exact absent.symm
    | some i =>
      cases given : h'.registry with
      | none =>
        have absent : w.registry? i = none := by simpa [used, given] using same.symm
        exact absent
      | some x =>
        have there : i < w.registries.length := by simpa [used, given, registry?] using same.symm
        simp [there, registry?]
  rw [hosted?, after, Option.map_some, registry]

theorem hosted_entries (hosted : w.hosted? key = some h) {i : Nat} (used : w.uses key = some i) :
    w.entries i = (h.registry.map (·.actors)).getD [] := by
  obtain ⟨r, found, rfl⟩ := hosted_resident hosted
  rw [uses_of found] at used
  rw [used]
  rfl

theorem putHosted_uses (hosted : w.hosted? key = some h) (h' : Hosted) :
    (w.putHosted key h').uses key = w.uses key := by
  obtain ⟨r, found, _⟩ := hosted_resident hosted
  have after := putHosted_resident found h' key
  rw [if_pos rfl] at after
  rw [uses_of after, uses_of found]

theorem stop_idle (idle : h.engine.state = .idle) : h.stop = h.finishStop := by
  simp [Hosted.stop, idle]

theorem setStages_resident (stages : Option (List (HandlerId × Dispatcher))) (w : World) :
    (w.setStages key stages).resident? key = (w.resident? key).map fun r => { r with stages } := by
  simp [setStages, resident?]

theorem setStages_hosted (stages : Option (List (HandlerId × Dispatcher))) (w : World) :
    (w.setStages key stages).hosted? key = w.hosted? key := by
  rw [hosted?, setStages_resident, Option.map_map]
  rfl

def stages? (key : Nat) (w : World) : Option (List (HandlerId × Dispatcher)) :=
  (w.resident? key).bind (·.stages)

theorem setStages_stages (hosted : w.hosted? key = some h)
    (stages : List (HandlerId × Dispatcher)) :
    (w.setStages key (some stages)).stages? key = some stages := by
  obtain ⟨r, found, _⟩ := hosted_resident hosted
  rw [stages?, setStages_resident, found]
  rfl

/-- After a pipeline could not be built, its engine is stopped, and nobody has the name of one of its
stages in the registry that it uses. -/
theorem abandoned (hosted : w.hosted? key = some h) {stages : List Stage}
    (staffed : Staffed h stages h') : let w' := w.putHosted key h'.stop
    w'.hosted? key = some h'.stop ∧ h'.stop.engine.state = .stopped ∧ h'.stop.engine.names = [] ∧
      ∀ s ∈ stages, (∀ r, h'.registry = some r → s.entry h.engine.key ∈ r.actors) ∧
        ∀ i, w.uses key = some i → ∀ x ∈ w'.entries i, x.uri ≠ s.uri := by
  intro w'
  obtain ⟨registry, nameless⟩ := Hosted.finishStop_names staffed.wired.distinct staffed.here
  rw [← stop_idle staffed.idle] at registry nameless
  have same : h'.stop.registry.isSome = h.registry.isSome := by
    rw [registry, Option.isSome_map, staffed.registered]
  have stopped : h'.stop.engine.state = .stopped := by
    rw [stop_idle staffed.idle]
    rfl
  refine ⟨putHosted_hosted hosted same, stopped, nameless, fun s mem => ⟨?_, ?_⟩⟩
  · exact fun r given => (staffed.named r given s mem).1
  · intro i used x left taken
    rw [hosted_entries (putHosted_hosted hosted same) ((putHosted_uses hosted _).trans used),
      registry] at left
    cases given : h'.registry with
    | none =>
      rw [given] at left
      cases left
    | some r =>
      rw [given] at left
      have nobody := of_decide_eq_true (List.mem_filter.mp left).2
      exact nobody (taken ▸ (staffed.named r given s mem).2)

variable {b : PipelineBuilder}

theorem endPipeline_built {built : Hosted × List (HandlerId × Dispatcher)}
    (done : b.build = .ok built) (host : b.host = some h') : w.endPipeline (some key) b =
      (.ok (), (w.putHosted key h').setStages key (some built.2)) := by
  simp [endPipeline, done, host]

theorem endPipeline_failed {f : Failure} (failed : b.build = .error f) (host : b.host = some h')
    (put : (w.putHosted key h').hosted? key = some h')
    (same : h'.stop.registry.isSome = h'.registry.isSome) :
    w.endPipeline (some key) b = (.error f, w.putHosted key h'.stop) := by
  simp [endPipeline, failed, host, drop, put, putHosted_twice key w same]

/-- A builder on an idle engine does what is done by hand, up to the first step that fails, and nothing
after that. The pipeline is built just when nothing failed and it has a stage. Then it has the stages in
the order of the calls, they are all who joined the crew, and every effect and sink is fed by the stage
before it. Otherwise the first failure is the answer, the engine is stopped, and the names that the
stages had in its registry are free again. -/
theorem builder_assembles {within : Engine → Prop} (reach : h.Reachable within)
    (idle : h.engine.state = .idle) (hosted : w.hosted? key = some h) (calls : List BuildCall) :
    let a := carryOut calls (.begun h)
    let b := (w.beginPipeline key).callAll calls
    let listed := a.stages.map (·.listing)
    let w' := (w.endPipeline (some key) b).2
    (b.host = some a.host ∧ b.stages = listed) ∧
    (a.failure ≠ none → ∀ more, b.callAll more = b) ∧
    b.build = (match a.failure with
      | some f => .error f
      | none => if a.stages = [] then .error (.fault (.configuration .noStages))
        else .ok (a.host, listed)) ∧
    (a.failure = none → roles a.stages = calls.filterMap (·.stage?) ∧
      Chained a.stages a.host.engine) ∧
    (a.host.Reachable within ∧
      a.host.engine.crew = h.engine.crew ++ a.stages.map (·.member)) ∧
    (∀ built, b.build = .ok built → (w.endPipeline (some key) b).1 = .ok () ∧
      w'.hosted? key = some a.host ∧ w'.stages? key = some listed) ∧
    ∀ f, b.build = .error f → (w.endPipeline (some key) b).1 = .error f ∧
      w'.hosted? key = some a.host.stop ∧ a.host.stop.engine.state = .stopped ∧
      a.host.stop.engine.names = [] ∧ ∀ s ∈ a.stages,
        (∀ r, a.host.registry = some r → s.entry h.engine.key ∈ r.actors) ∧
        ∀ i, w.uses key = some i → ∀ x ∈ w'.entries i, x.uri ≠ s.uri := by
  intro a b listed w'
  have begun := begun_staffed idle (Hosted.reachable_wired reach) (Hosted.reachable_local reach)
  have staffed : Staffed h a.stages a.host := carryOut_staffed (a := .begun h) calls begun
  have reached : a.host.Reachable within :=
    Hosted.reachable_run reach (carryOut_run calls (.begun h))
  have follows : Follows b a := by
    refine callAll_follows calls begun ?_ rfl
    rw [beginPipeline, hosted]
    exact ⟨rfl, rfl, rfl, rfl⟩
  have put := putHosted_hosted hosted staffed.registered
  refine ⟨⟨follows.host, follows.stages⟩, ?_, follows.build, ?_, ⟨reached, staffed.crew⟩, ?_, ?_⟩
  · intro failed more
    exact PipelineBuilder.callAll_failed (follows.failure ▸ failed) more
  · intro fine
    exact carryOut_chained (a := .begun h) calls begun (chained_nil _) fine
  · intro built done
    have all : built.2 = listed := follows.built done
    rw [show w' = _ from congrArg Prod.snd (endPipeline_built done follows.host), all,
      endPipeline_built done follows.host, setStages_hosted, put]
    exact ⟨rfl, rfl, setStages_stages put listed⟩
  · intro f failed
    have used : a.host.stop.registry.isSome = a.host.registry.isSome := by
      rw [stop_idle staffed.idle, (Hosted.finishStop_names staffed.wired.distinct staffed.here).1,
        Option.isSome_map]
    have ended := endPipeline_failed failed follows.host put used
    rw [show w' = _ from congrArg Prod.snd ended, ended]
    exact ⟨rfl, abandoned hosted staffed⟩

def bench : Hosted := ⟨.blank 0 (Settings.default.withFps 30.0) none, some .empty⟩

theorem bench_reachable : bench.Reachable Quiet :=
  .fresh (show Engine.make 0 .default 30.0 = .ok _ from rfl) _

theorem among_bench : (among 1).hosted? 0 = some bench := rfl

def projector : List BuildCall :=
  [.stage .source .camera,
    .stage .sink (.plain "Screen" [(PortSpec.input "in" .video).withCapabilities .deviceOnly] [])]

def blind : List BuildCall := [.stage .source .camera, .stage .effect .camera]

theorem builder_assembles_projector :
    (let b := ((among 1).beginPipeline 0).callAll projector
      let ended := (among 1).endPipeline (some 0) b
      ended.1 = .ok () ∧
        (ended.2.stages? 0).map (·.map (·.1.text)) = some ["camera_source_0", "screen_0"] ∧
        (ended.2.hosted? 0).map (·.engine.adapterCount) = some 1) ∧
    let b := ((among 1).beginPipeline 0).callAll blind
    let ended := (among 1).endPipeline (some 0) b
    ended.1 = .error (.fault (.portNotFound "camera_source_1 has no input port")) ∧
      (ended.2.hosted? 0).map (·.engine.state) = some .stopped ∧
      ∀ s ∈ (carryOut blind (.begun bench)).stages, ∀ x ∈ ended.2.entries 0, x.uri ≠ s.uri := by
  constructor
  · intro b ended
    obtain ⟨_, _, built, _, _, ok, _⟩ := builder_assembles bench_reachable rfl among_bench projector
    have fine : (carryOut projector (.begun bench)).failure = none := rfl
    rw [fine] at built
    obtain ⟨answer, found, listed⟩ := ok _ built
    refine ⟨answer, ?_, ?_⟩
    · rw [listed]
      rfl
    · rw [found]
      rfl
  · intro b ended
    obtain ⟨_, _, built, _, _, _, failed⟩ := builder_assembles bench_reachable rfl among_bench blind
    have missing : (carryOut blind (.begun bench)).failure =
        some (.fault (.portNotFound "camera_source_1 has no input port")) := rfl
    rw [missing] at built
    obtain ⟨answer, found, stopped, _, freed⟩ := failed _ built
    refine ⟨answer, ?_, fun s mem => (freed s mem).2 0 rfl⟩
    rw [found, Option.map_some, stopped]

end World

end Tickflow
