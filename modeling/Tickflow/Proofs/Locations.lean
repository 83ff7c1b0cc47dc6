import Tickflow.Proofs.Atomic
import Tickflow.Proofs.Sendings
/-!
Where messages are. An output takes only messages of its kind that are in memory it declares, so this is
all that is ever on the links that leave it.
-/
namespace Tickflow

/-- The message is of the kind of the port, and in memory that the port declares. -/
def PortSpec.Declares (s : PortSpec) (m : Message) : Prop :=
  m.kind = s.kind ∧ s.capabilities.intersects m.location.capability = true

namespace OutputPort

variable {q : OutputPort} {m : Message}

theorem check_iff : q.check m = .ok () ↔ q.spec.Declares m := by
  unfold check PortSpec.Declares
  by_cases kind : m.kind = q.spec.kind
  · cases memory : q.spec.capabilities.intersects m.location.capability <;> simp [kind]
  · simp [kind]

end OutputPort

namespace Capabilities

def Within (a b : Capabilities) : Prop := ∀ x, a.intersects x = true → b.intersects x = true

theorem within_refl (a : Capabilities) : a.Within a := fun _ common => common

end Capabilities

namespace Flow

open Engine

variable {f g : Flow} {s t : List Event} {l : Link}

theorem traced_declared (run : Traced t f) (ml : l ∈ f.engine.links) :
    ∀ m ∈ f.sent l t, ∃ q, f.engine.output? l.source = some q ∧ q.spec.Declares m := by
  induction run with
  | fresh made r =>
    obtain ⟨_, _, rfl⟩ := make_blank made
    cases ml
  | @next t s f g run step ih =>
    intro m mem
    have w := traced_wired run
    have kept (before : ∃ q, f.engine.output? l.source = some q ∧ q.spec.Declares m) :
        ∃ q, g.engine.output? l.source = some q ∧ q.spec.Declares m := by
      obtain ⟨q, found, declared⟩ := before
      obtain ⟨q', found', spec⟩ := (step_stays w step).1.keeps.outputs _ q found
      exact ⟨q', found', spec ▸ declared⟩
    by_cases old : l ∈ f.engine.links
    · apply kept
      rcases step_sent w (traced_underway run) old step with
        same | ⟨q, m', found, accepted, free, rfl, rfl⟩
      · exact ih old m (same ▸ mem)
      · rw [List.append_nil, numbered_sent w old found free] at mem
        rcases List.mem_append.mp mem with before | last
        · exact ih old m before
        · have declared := OutputPort.check_iff.mp accepted
          rw [List.mem_singleton.mp last]
          exact ⟨q, found, declared⟩
    · rw [new_unsent run step old ml] at mem
      cases mem

theorem stored_sent {e : Entry Message} (mem : e ∈ stored l.cell t) (f : Flow) :
    e.value ∈ f.sent l t := by
  obtain ⟨o, mo, same⟩ := List.mem_map.mp ((stored_sublist l.cell t).subset mem)
  exact List.mem_append_left _ (List.mem_map.mpr ⟨o, mo, congrArg Entry.value same⟩)

theorem mem_taken {n : CellId} {m : Message} (mem : m ∈ taken n t) :
    ∃ a look, .read a n look (some m) ∈ t := by
  obtain ⟨e, me, same⟩ := List.mem_filterMap.mp mem
  cases e with
  | issued | looked | settled => cases same
  | read a k look x =>
    simp only [Event.taken?] at same
    split at same
    · rename_i here
      subst here
      subst x
      exact ⟨a, look, me⟩
    · cases same

theorem traced_found (run : Traced t f) {a : PortAddress} {n : CellId} {look : Option Look}
    {m : Message} (mem : .read a n look (some m) ∈ t) :
    ∃ l ∈ f.engine.links, l.target = a ∧ l.cell = n ∧ ∃ e ∈ stored n t, e.value = m := by
  induction run with
  | fresh made r => cases mem
  | @next t s f g run step ih =>
    have w := traced_wired run
    rw [stored_append]
    rcases List.mem_append.mp mem with old | new
    · obtain ⟨l, ml, target, cell, e, me, value⟩ := ih old
      exact ⟨l, step_links w step ml, target, cell, e, List.mem_append_left _ me, value⟩
    · rcases step_calm w step with calm | move
      · exact absurd new (calm.silent.reads a n look (some m))
      · cases move with
        | read _ _ cutoff found fed here =>
          obtain ⟨rfl, rfl, rfl, same⟩ : _ ∧ _ ∧ _ ∧ _ := by simpa using List.mem_singleton.mp new
          obtain ⟨l, ml, target, cell⟩ := w.input_link found fed
          obtain ⟨e, me, value, _⟩ := (traced_holds run here).found same.symm
          exact ⟨l, ml, target, cell, e, List.mem_append_left _ me, value⟩
        | settle => cases List.mem_singleton.mp new
        | number | enter | done => cases new

end Flow

namespace Engine

variable {e : Engine} {c : Connection} {a : HandlerId} {r : Route} {l : Link}

/-- Both links of a bridged connection end at ports that declare all that the ports they start from
declare. -/
theorem Bridges.within (bridges : Bridges c a r e) (ml : l ∈ c.links) {q : OutputPort}
    {p : InputPort} (output : e.output? l.source = some q) (input : e.input? l.target = some p) :
    q.spec.capabilities.Within p.spec.capabilities := by
  obtain ⟨_, m, n, links⟩ := bridges.through
  rw [links] at ml
  rcases List.mem_pair.mp ml with rfl | rfl
  · obtain ⟨q', source, _, memory⟩ := bridges.source
    obtain ⟨p', inlet, spec⟩ := bridges.input
    rw [output] at source
    rw [show e.input? a.inlet = some p from input] at inlet
    cases source
    cases inlet
    rw [memory, spec]
    exact Capabilities.within_refl _
  · obtain ⟨q', outlet, spec⟩ := bridges.output
    obtain ⟨p', target, _, memory⟩ := bridges.target
    rw [show e.output? a.outlet = some q from output] at outlet
    rw [input] at target
    cases outlet
    cases target
    rw [memory, spec]
    exact Capabilities.within_refl _

end Engine

namespace Flow

open Engine

variable {f g : Flow} {s t : List Event}

/-- Every message that is read was taken by the output where its link starts, so it is in memory that
this output declares. It is in memory that the input declares, unless the output feeds the input
directly and declares memory that the input does not. -/
theorem location_sound (run : Traced t f) {a : PortAddress} {n : CellId} {look : Option Look}
    {m : Message} (read : .read a n look (some m) ∈ t) :
    ∃ c ∈ f.engine.connections, ∃ l ∈ c.links, ∃ q p, l.target = a ∧ l.cell = n ∧
      f.engine.output? l.source = some q ∧ f.engine.input? a = some p ∧
      q.spec.Declares m ∧ m.kind = p.spec.kind ∧
      (p.spec.Declares m ∨
        (c.Direct ∧ ¬ q.spec.capabilities.Within p.spec.capabilities)) := by
  have w := traced_wired run
  obtain ⟨l, ml, rfl, rfl, e, me, rfl⟩ := traced_found run read
  obtain ⟨c, mc, mlc⟩ := List.mem_flatMap.mp ml
  obtain ⟨_, _, carries⟩ := (w.fits c mc).carries
  obtain ⟨q, p, _, output, input, _, sends, takes, _⟩ := carries l mlc
  obtain ⟨q', found, declared⟩ := traced_declared run ml _ (stored_sent me f)
  rw [output] at found
  cases found
  have kind : e.value.kind = p.spec.kind := declared.1.trans (sends.trans takes.symm)
  refine ⟨c, mc, l, mlc, q, p, rfl, rfl, output, input, declared, kind, ?_⟩
  by_cases within : q.spec.capabilities.Within p.spec.capabilities
  · exact .inl ⟨kind, within _ declared.2⟩
  · rcases (w.fits c mc).shape with direct | ⟨x, through⟩
    · exact .inr ⟨direct, within⟩
    · obtain ⟨r, bridges⟩ := traced_routed run c mc x through.1
      exact absurd (bridges.within mlc output input) within

/-! A host message, written to a source and read from a sink. -/

def declaring (out into : Capabilities) : Hosted :=
  (bare.added (some "source")
    (.plain "Source" [(PortSpec.output "out" .data).withCapabilities out] [])).added (some "sink")
    (.plain "Sink" [(PortSpec.input "in" .data).withCapabilities into] [])

theorem declaring_traced (out into : Capabilities) : Traced [] (atRest (declaring out into)) :=
  added_traced (added_traced bare_traced _ _) _ _

def passedOn (out into : Capabilities) : Flow :=
  ((atRest ((declaring out into).connect source sink).2).wrote source (note 0)).got sink none

def passedOnTrace (out into : Capabilities) : List Event :=
  let f := atRest ((declaring out into).connect source sink).2
  written source (note 0) f.engine ++ seen sink none none (f.wrote source (note 0)).engine

theorem passed_on_traced (out into : Capabilities) :
    Traced (passedOnTrace out into) (passedOn out into) := by
  let f := atRest ((declaring out into).connect source sink).2
  let g := f.wrote source (note 0)
  have linked : Traced [] f := (declaring_traced out into).next (.command (.connect source sink))
  have wrote : Run f (written source (note 0) f.engine) g :=
    wrote_run (traced_wired linked) source rfl (note 0)
  have got : Run g (seen sink none none g.engine) (g.got sink none) := got_run sink none (by simp)
  exact linked.append (wrote.trans got)

theorem location_sound_shared : ∃ p m, m.location = .host ∧
    (passedOn .hostOnly .hostOnly).engine.input? sink = some p ∧ p.spec.Declares m := by
  let e := (passedOn .hostOnly .hostOnly).engine
  have got : (taken 0 (passedOnTrace .hostOnly .hostOnly)).map (·.location) = [.host] := by
    decide +kernel
  have ends : ∀ l ∈ e.links, l.source = source ∧ l.target = sink := by decide +kernel
  have sends : (e.output? source).map (·.spec.capabilities) = some .hostOnly := by decide +kernel
  have takes : (e.input? sink).map (·.spec.capabilities) = some .hostOnly := by decide +kernel
  obtain ⟨m, mem, host⟩ := List.mem_map.mp (got ▸ List.mem_singleton_self Location.host)
  obtain ⟨a, look, read⟩ := mem_taken mem
  obtain ⟨c, mc, l, ml, q, p, target, _, output, input, _, _, declared⟩ :=
    location_sound (passed_on_traced .hostOnly .hostOnly) read
  obtain ⟨starts, stops⟩ := ends l (List.mem_flatMap.mpr ⟨c, mc, ml⟩)
  rw [← target, stops] at input
  rw [starts] at output
  refine ⟨p, m, host, input, ?_⟩
  rcases declared with declared | ⟨_, beyond⟩
  · exact declared
  · rw [show e.output? source = some q from output] at sends
    rw [show e.input? sink = some p from input] at takes
    have same : q.spec.capabilities = p.spec.capabilities :=
      Option.some.inj (sends.trans takes.symm)
    rw [same] at beyond
    exact absurd (Capabilities.within_refl _) beyond

/-- The source declares host and device memory, the sink only device memory. They have device memory
in common, so there is no adapter, and the sink reads a message in host memory. -/
theorem location_sound_mixed : ¬ ∀ (t : List Event) (f : Flow) (a : PortAddress) (n : CellId)
    (look : Option Look) (m : Message), Traced t f → .read a n look (some m) ∈ t →
      ∃ p, f.engine.input? a = some p ∧
        p.spec.capabilities.intersects m.location.capability = true := by
  intro sound
  let both : Capabilities := ⟨true, true⟩
  let e := (passedOn both .deviceOnly).engine
  have got : (taken 0 (passedOnTrace both .deviceOnly)).map (·.location) = [.host] := by
    decide +kernel
  have ends : ∀ l ∈ e.links, l.target = sink := by decide +kernel
  have takes : (e.input? sink).map (·.spec.capabilities) = some .deviceOnly := by decide +kernel
  have run := passed_on_traced both .deviceOnly
  obtain ⟨m, mem, host⟩ := List.mem_map.mp (got ▸ List.mem_singleton_self Location.host)
  obtain ⟨a, look, read⟩ := mem_taken mem
  obtain ⟨p, input, declared⟩ := sound _ _ a 0 look m run read
  obtain ⟨l, ml, target, _⟩ := traced_found run read
  rw [← target, ends l ml] at input
  rw [show e.input? sink = some p from input] at takes
  have device : p.spec.capabilities = .deviceOnly := Option.some.inj takes
  rw [device, host] at declared
  cases declared

end Flow

end Tickflow
