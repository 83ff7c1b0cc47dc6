import Tickflow.Proofs.Steps
/-!
The adapters of bridged connections. Between the memory that the source declares and the one that the
target declares there is just the one route, and the adapter takes messages along it for as long as the
engine lasts.
-/
namespace Tickflow

def HandlerId.inlet (a : HandlerId) : PortAddress := ⟨a, Route.inputPort⟩

def HandlerId.outlet (a : HandlerId) : PortAddress := ⟨a, Route.outputPort⟩

namespace Engine

variable {e e' : Engine}

/-- Handlers go on to do what they do, with the ports that they have. -/
structure Stays (e e' : Engine) : Prop where
  keeps : Keeps e e'
  behaviours : ∀ id h, e.handler? id = some h →
    ∃ h', e'.handler? id = some h' ∧ h'.behaviour = h.behaviour

theorem Stays.refl (e : Engine) : Stays e e :=
  ⟨.refl e, fun _ h found => ⟨h, found, rfl⟩⟩

theorem Stays.trans {e'' : Engine} (first : Stays e e') (second : Stays e' e'') : Stays e e'' := by
  refine ⟨first.keeps.trans second.keeps, ?_⟩
  intro id h found
  obtain ⟨h', found', same⟩ := first.behaviours id h found
  obtain ⟨h'', found'', same'⟩ := second.behaviours id h' found'
  exact ⟨h'', found'', same'.trans same⟩

theorem insert_stays (id : HandlerId) (b : Behaviour) (isAdapter : Bool) (ports : HandlerPorts)
    (uri : Option ActorUri) (e : Engine) : Stays e (e.insert id b isAdapter ports uri) :=
  ⟨insert_keeps id b isAdapter ports uri e, fun _ h found => ⟨h, insert_old found, rfl⟩⟩

theorem joined_stays (source target : PortAddress) (policy : ConsumptionPolicy) (e : Engine) :
    Stays e (e.joined source target policy) := by
  refine ⟨joined_keeps source target policy e, ?_⟩
  intro id h found
  have here : (e.joined source target policy).handler? id =
      some (h.joined source target e.cells.length e.cells.length) := by
    rw [handler_joined, found]
    rfl
  exact ⟨_, here, rfl⟩

theorem noted_stays (c : Connection) (e : Engine) : Stays e (e.noted c) :=
  ⟨noted_keeps c e, fun _ h found => ⟨h, found, rfl⟩⟩

theorem wiring_stays (same : e'.wiring = e.wiring) (d : e'.Distinct) : Stays e e' := by
  refine ⟨wiring_keeps same d, ?_⟩
  intro id h found
  obtain ⟨mem, at_id⟩ := mem_of_handler found
  obtain ⟨h', mem', alike⟩ := mem_of_map_eq (wiring_handlers same).symm mem
  have id_same : h'.id = id := (congrArg Handler.id alike :).trans at_id
  exact ⟨h', id_same ▸ handler_of_mem d.ids mem', (congrArg Handler.behaviour alike :)⟩

/-- The adapter `a` of the connection takes messages along the route `r`, from the memory that the
source declares to the one that the target declares. -/
structure Bridges (c : Connection) (a : HandlerId) (r : Route) (e : Engine) : Prop where
  known : r ∈ Route.all
  through : c.Through a
  worker : ∃ h, e.handler? a = some h ∧
    h.behaviour = r.adapter c.kind e.settings.devicePoolId
  input : ∃ p, e.input? a.inlet = some p ∧ p.spec = r.inputSpec c.kind
  output : ∃ q, e.output? a.outlet = some q ∧ q.spec = r.outputSpec c.kind
  source : ∃ q, e.output? c.source = some q ∧ q.spec.kind = c.kind ∧
    q.spec.capabilities = r.input
  target : ∃ p, e.input? c.target = some p ∧ p.spec.kind = c.kind ∧
    p.spec.capabilities = r.output

variable {c : Connection} {a : HandlerId} {r : Route}

theorem Bridges.stay (bridges : Bridges c a r e) (stays : Stays e e') : Bridges c a r e' := by
  obtain ⟨h, here, does⟩ := bridges.worker
  obtain ⟨p, input, input_spec⟩ := bridges.input
  obtain ⟨q, output, output_spec⟩ := bridges.output
  obtain ⟨q', source, source_kind, source_memory⟩ := bridges.source
  obtain ⟨p', target, target_kind, target_memory⟩ := bridges.target
  refine ⟨bridges.known, bridges.through, ?_, ?_, ?_, ?_, ?_⟩
  · obtain ⟨h', here', same⟩ := stays.behaviours a h here
    exact ⟨h', here', by rw [same, does, stays.keeps.settings]⟩
  · obtain ⟨x, found, same⟩ := stays.keeps.inputs _ p input
    exact ⟨x, found, same.trans input_spec⟩
  · obtain ⟨x, found, same⟩ := stays.keeps.outputs _ q output
    exact ⟨x, found, same.trans output_spec⟩
  · obtain ⟨x, found, same⟩ := stays.keeps.outputs _ q' source
    exact ⟨x, found, same ▸ source_kind, same ▸ source_memory⟩
  · obtain ⟨x, found, same⟩ := stays.keeps.inputs _ p' target
    exact ⟨x, found, same ▸ target_kind, same ▸ target_memory⟩

def Routed (e : Engine) : Prop :=
  ∀ c ∈ e.connections, ∀ a, c.adapter = some a → ∃ r, Bridges c a r e

theorem Routed.stay (routed : e.Routed) (stays : Stays e e')
    (same : e'.connections = e.connections) : e'.Routed := by
  intro c mem a adapter
  obtain ⟨r, bridges⟩ := routed c (same ▸ mem) a adapter
  exact ⟨r, bridges.stay stays⟩

section
variable {source target : PortAddress} {q : OutputPort} {p : InputPort}

theorem bridged_stays (source target : PortAddress) (a : HandlerId) (r : Route)
    (kind : PayloadKind) (policy : ConsumptionPolicy) (e : Engine) :
    Stays e (e.bridged source target a r kind policy) :=
  ((insert_stays _ _ _ _ _ e).trans (joined_stays _ _ _ _)).trans (joined_stays _ _ _ _)

theorem bridged_bridges (met : Connectable source target q p e) (free : a ∉ e.ids)
    (known : r ∈ Route.all) (into : r.input = q.spec.capabilities)
    (out : r.output = p.spec.capabilities) (id : String) (m n : CellId)
    (policy : ConsumptionPolicy) :
    Bridges ⟨id, source, target, p.spec.kind, some a,
      [⟨source, ⟨a, Route.inputPort⟩, m⟩, ⟨⟨a, Route.outputPort⟩, target, n⟩]⟩ a r
      (e.bridged source target a r p.spec.kind policy) := by
  have last : Stays (e.insert a (r.adapter p.spec.kind e.settings.devicePoolId) true
      (r.ports a p.spec.kind) none) (e.bridged source target a r p.spec.kind policy) :=
    (joined_stays _ _ _ _).trans (joined_stays _ _ _ _)
  apply Bridges.stay _ last
  exact ⟨known, ⟨rfl, m, n, rfl⟩, ⟨_, insert_new free, rfl⟩, ⟨_, adapter_input free _ _ r, rfl⟩,
    ⟨_, adapter_output free _ _ r, rfl⟩, ⟨q, insert_old_output met.found, met.kinds, into.symm⟩,
    ⟨p, insert_old_input met.reached, rfl, out.symm⟩⟩

theorem connect_stays (w : e.Wired) (source target : PortAddress) :
    Stays e (e.connectInPlace source target).2 ∧
      (e.Routed → (e.connectInPlace source target).2.Routed) := by
  rcases connectable_or_refused source target e with ⟨q, p, met⟩ | ⟨f, refused⟩
  · cases common : q.spec.capabilities.intersects p.spec.capabilities with
    | true =>
      rw [connect_direct w.distinct w.capacity met common]
      have stays : Stays e (e.joined source target (e.policyOf p.spec)) := joined_stays _ _ _ _
      refine ⟨stays.trans (noted_stays _ _), fun routed => ?_⟩
      intro c mem a adapter
      rcases List.mem_append.mp mem with old | new
      · obtain ⟨r, bridges⟩ := routed c old a adapter
        exact ⟨r, bridges.stay (stays.trans (noted_stays _ _))⟩
      · rw [List.mem_singleton.mp new] at adapter
        cases adapter
    | false =>
      obtain ⟨r, known, a, into, out, free, made⟩ := connect_bridged w.distinct w.capacity met common
      rw [made]
      have stays := bridged_stays source target a r p.spec.kind (e.policyOf p.spec) e
      refine ⟨stays.trans (noted_stays _ _), fun routed => ?_⟩
      intro c mem x adapter
      rcases List.mem_append.mp mem with old | new
      · obtain ⟨r, bridges⟩ := routed c old x adapter
        exact ⟨r, bridges.stay (stays.trans (noted_stays _ _))⟩
      · have bridges := bridged_bridges met free known into out e.nextId e.cells.length
          (e.cells.length + 1) (e.policyOf p.spec)
        rw [List.mem_singleton.mp new] at adapter ⊢
        cases adapter
        exact ⟨r, bridges.stay (noted_stays _ _)⟩
  · rw [connect_refused refused]
    exact ⟨.refl e, id⟩

end

end Engine

namespace Hosted

open Engine

theorem command_stays {h h' : Hosted} (w : h.engine.Wired) (command : Command h h') :
    Stays h.engine h'.engine ∧ (h.engine.Routed → h'.engine.Routed) := by
  have unstarted {e e' : Engine} (d : e.Distinct) (same : e'.unstarted = e.unstarted) :
      Stays e e' ∧ (e.Routed → e'.Routed) := by
    have wiring := wiring_of_unstarted same
    have stays := wiring_stays wiring (distinct_of_wiring d wiring)
    exact ⟨stays, fun routed => routed.stay stays (congrArg Engine.connections same :)⟩
  cases command with
  | add id b =>
    obtain same | ⟨x, ports, uri, r, _, _, same⟩ := added_cases id b h
    · rw [same]
      exact ⟨.refl _, fun routed => routed⟩
    · rw [same]
      have stays := insert_stays x b false ports uri h.engine
      exact ⟨stays, fun routed => routed.stay stays rfl⟩
  | connect source target => exact connect_stays w source target
  | connectTexts source target =>
    simp only [connectTexts, connectTextsInPlace]
    split
    · exact ⟨.refl _, fun routed => routed⟩
    · exact ⟨.refl _, fun routed => routed⟩
    · exact connect_stays w _ _
  | start => exact unstarted w.distinct h.start_unstarted
  | stop => exact unstarted w.distinct h.stop_unstarted
  | quiesce ids => exact unstarted w.distinct (quiesce_unstarted ids h.engine)
  | tearDown ids => exact unstarted w.distinct (tearDown_unstarted ids h)
  | registry => exact ⟨.refl _, fun routed => routed⟩

end Hosted

namespace Flow

open Engine

variable {f g : Flow} {s t : List Event}

theorem step_stays (w : f.engine.Wired) (step : Step f s g) :
    Stays f.engine g.engine ∧ (f.engine.Routed → g.engine.Routed) := by
  rcases step_wiring w step with command | same
  · exact Hosted.command_stays w command
  · have stays := wiring_stays same (distinct_of_wiring w.distinct same)
    exact ⟨stays, fun routed => routed.stay stays (congrArg Engine.connections same :)⟩

theorem traced_routed (run : Traced t f) : f.engine.Routed := by
  induction run with
  | fresh made r =>
    obtain ⟨_, _, rfl⟩ := make_blank made
    intro c mem
    cases mem
  | next run step ih => exact (step_stays (traced_wired run) step).2 ih

end Flow

end Tickflow
