import Tickflow.Engine.Topology
import Tickflow.Proofs.Connecting
/-!
How handlers, connections, cells and graph agree. The links are laid one by one, so what they attach
is followed for any list of links; the rest is about whole connections.
-/
namespace Tickflow

namespace Connection

def Direct (c : Connection) : Prop := c.adapter = none ∧ ∃ n, c.links = [⟨c.source, c.target, n⟩]

def Through (a : HandlerId) (c : Connection) : Prop :=
  c.adapter = some a ∧ ∃ m n, c.links =
    [⟨c.source, ⟨a, Route.inputPort⟩, m⟩, ⟨⟨a, Route.outputPort⟩, c.target, n⟩]

def edges (c : Connection) : List GraphEdge :=
  c.links.map fun l => ⟨l.source.handler, l.target.handler, c.id⟩

end Connection

theorem addLinks_eq {links : List Link} {id : String} {g : HandlerGraph}
    (ends : ∀ l ∈ links, l.source.handler ∈ g.nodes ∧ l.target.handler ∈ g.nodes) :
    links.foldl (fun g l => g.addLink l.source.handler l.target.handler id) g =
      { g with edges := g.edges ++
        links.map fun l => ⟨l.source.handler, l.target.handler, id⟩ } := by
  induction links generalizing g with
  | nil => simp
  | cons l rest ih =>
    have here := ends l List.mem_cons_self
    let g' : HandlerGraph :=
      { g with edges := g.edges ++ [⟨l.source.handler, l.target.handler, id⟩] }
    have added : g.addLink l.source.handler l.target.handler id = g' := by
      simp [HandlerGraph.addLink, here, g']
    rw [List.foldl_cons, added]
    refine (ih (g := g') fun x mem => ends x (List.mem_cons_of_mem _ mem)).trans ?_
    simp [g']

namespace Engine

def links (e : Engine) : List Link := e.connections.flatMap (·.links)

/-- The cell of every link is attached to both of its ends, and nothing else is attached. -/
structure Attached (links : List Link) (e : Engine) : Prop where
  cells : links.map (·.cell) = List.range e.cells.length
  inputs : ∀ h ∈ e.handlers, ∀ p ∈ h.ports.inputs,
    (links.filter (·.target = ⟨h.id, p.name⟩)).map (·.cell) = p.cell.toList
  outputs : ∀ h ∈ e.handlers, ∀ q ∈ h.ports.outputs,
    (links.filter (·.source = ⟨h.id, q.name⟩)).map (·.cell) = q.cells
  ends : ∀ l ∈ links, l.source.handler ∈ e.ids ∧ l.target.handler ∈ e.ids

theorem Attached.insert {links : List Link} {e : Engine} (t : Attached links e) {id : HandlerId}
    (free : id ∉ e.ids) {b : Behaviour} {isAdapter : Bool} {ports : HandlerPorts}
    (unconnected : ports.Unconnected) {uri : Option ActorUri} :
    Attached links (e.insert id b isAdapter ports uri) := by
  refine ⟨t.cells, ?_, ?_, ?_⟩
  · intro h mem p mp
    rcases List.mem_append.mp mem with old | new
    · exact t.inputs h old p mp
    · rw [List.mem_singleton.mp new] at mp ⊢
      have none_ends : links.filter (·.target = ⟨id, p.name⟩) = [] := by
        rw [List.filter_eq_nil_iff]
        intro l ml same
        have here : l.target = ⟨id, p.name⟩ := by simpa using same
        exact free (by simpa [here] using (t.ends l ml).2)
      simp only [none_ends, unconnected.inputs p mp, List.map_nil, Option.toList_none]
  · intro h mem q mq
    rcases List.mem_append.mp mem with old | new
    · exact t.outputs h old q mq
    · rw [List.mem_singleton.mp new] at mq ⊢
      have none_starts : links.filter (·.source = ⟨id, q.name⟩) = [] := by
        rw [List.filter_eq_nil_iff]
        intro l ml same
        have here : l.source = ⟨id, q.name⟩ := by simpa using same
        exact free (by simpa [here] using (t.ends l ml).1)
      simp only [none_starts, unconnected.outputs q mq, List.map_nil]
  · intro l ml
    rw [insert_ids]
    exact ⟨List.mem_append_left _ (t.ends l ml).1, List.mem_append_left _ (t.ends l ml).2⟩

theorem Attached.joined {links : List Link} {e : Engine} (t : Attached links e) (d : e.Distinct)
    {source target : PortAddress} {q : OutputPort} {p : InputPort}
    (output : e.output? source = some q) (input : e.input? target = some p)
    (free : p.cell = none) (policy : ConsumptionPolicy) :
    Attached (links ++ [⟨source, target, e.cells.length⟩]) (e.joined source target policy) := by
  refine ⟨?_, ?_, ?_, ?_⟩
  · simp [t.cells, Engine.joined, List.range_succ]
  · intro h mem p' mp
    obtain ⟨g, mg, rfl⟩ := List.mem_map.mp mem
    obtain ⟨x, mx, rfl⟩ := List.mem_map.mp mp
    have before := t.inputs g mg x mx
    rw [fed_name, List.filter_append, List.map_append]
    change (links.filter (·.target = ⟨g.id, x.name⟩)).map (·.cell) ++ _ = _
    rw [before]
    unfold InputPort.fed
    by_cases here : target = ⟨g.id, x.name⟩
    · have same : x = p := by
        have found := input_of_mem d mg mx
        rw [← here, input] at found
        exact (Option.some.inj found).symm
      simp [Handler.joined, here, same, free]
    · simp [Handler.joined, here]
  · intro h mem q' mq
    obtain ⟨g, mg, rfl⟩ := List.mem_map.mp mem
    obtain ⟨x, mx, rfl⟩ := List.mem_map.mp mq
    have before := t.outputs g mg x mx
    rw [feeding_name, List.filter_append, List.map_append]
    change (links.filter (·.source = ⟨g.id, x.name⟩)).map (·.cell) ++ _ = _
    rw [before]
    unfold OutputPort.feeding
    by_cases here : source = ⟨g.id, x.name⟩
    · simp [Handler.joined, here]
    · simp [Handler.joined, here]
  · obtain ⟨producer, mq, at_source, _⟩ := mem_output output
    obtain ⟨consumer, mp, at_target, _⟩ := mem_input input
    intro l ml
    rw [joined_ids]
    rcases List.mem_append.mp ml with old | new
    · exact t.ends l old
    · rw [List.mem_singleton.mp new]
      exact ⟨at_source ▸ List.mem_map_of_mem mq, at_target ▸ List.mem_map_of_mem mp⟩

/-- Between two ports of the payload kind that have some memory in common, by a cell that works as
`policy` says. -/
def Carries (kind : PayloadKind) (policy : ConsumptionPolicy) (l : Link) (e : Engine) : Prop :=
  ∃ q p c, e.output? l.source = some q ∧ e.input? l.target = some p ∧ e.cells[l.cell]? = some c ∧
    q.spec.kind = kind ∧ p.spec.kind = kind ∧
    q.spec.capabilities.intersects p.spec.capabilities = true ∧ c.policy = policy

/-- All links of a connection work as its final input says, or else as is usual for what they
carry. -/
structure Fits (c : Connection) (e : Engine) : Prop where
  carries : ∃ p, e.input? c.target = some p ∧
    ∀ l ∈ c.links, Carries c.kind (p.spec.policy.getD (e.settings.policyFor c.kind)) l e
  shape : c.Direct ∨ ∃ a, c.Through a

structure Keeps (e e' : Engine) : Prop where
  settings : e'.settings = e.settings
  outputs : ∀ a q, e.output? a = some q → ∃ q', e'.output? a = some q' ∧ q'.spec = q.spec
  inputs : ∀ a p, e.input? a = some p → ∃ p', e'.input? a = some p' ∧ p'.spec = p.spec
  cells : ∀ (i : CellId) (c : Cell Message), e.cells[i]? = some c →
    ∃ c' : Cell Message, e'.cells[i]? = some c' ∧ c'.policy = c.policy

theorem Keeps.refl (e : Engine) : Keeps e e :=
  ⟨rfl, fun _ q found => ⟨q, found, rfl⟩, fun _ p found => ⟨p, found, rfl⟩,
    fun _ c found => ⟨c, found, rfl⟩⟩

theorem Keeps.trans {a b c : Engine} (first : Keeps a b) (second : Keeps b c) : Keeps a c := by
  refine ⟨second.settings.trans first.settings, ?_, ?_, ?_⟩
  · intro x q found
    obtain ⟨q', found', spec'⟩ := first.outputs x q found
    obtain ⟨q'', found'', spec''⟩ := second.outputs x q' found'
    exact ⟨q'', found'', spec''.trans spec'⟩
  · intro x p found
    obtain ⟨p', found', spec'⟩ := first.inputs x p found
    obtain ⟨p'', found'', spec''⟩ := second.inputs x p' found'
    exact ⟨p'', found'', spec''.trans spec'⟩
  · intro i cell found
    obtain ⟨c', found', same'⟩ := first.cells i cell found
    obtain ⟨c'', found'', same''⟩ := second.cells i c' found'
    exact ⟨c'', found'', same''.trans same'⟩

theorem insert_keeps (id : HandlerId) (b : Behaviour) (isAdapter : Bool) (ports : HandlerPorts)
    (uri : Option ActorUri) (e : Engine) : Keeps e (e.insert id b isAdapter ports uri) :=
  ⟨rfl, fun _ q found => ⟨q, insert_old_output found, rfl⟩,
    fun _ p found => ⟨p, insert_old_input found, rfl⟩, fun _ c found => ⟨c, found, rfl⟩⟩

theorem joined_keeps (source target : PortAddress) (policy : ConsumptionPolicy) (e : Engine) :
    Keeps e (e.joined source target policy) := by
  refine ⟨rfl, ?_, ?_, ?_⟩
  · intro a q found
    exact ⟨_, by rw [joined_output, found]; rfl, feeding_spec _ _ _ _⟩
  · intro a p found
    exact ⟨_, by rw [joined_input, found]; rfl, fed_spec _ _ _ _⟩
  · intro i c found
    obtain ⟨bound, _⟩ := List.getElem?_eq_some_iff.mp found
    exact ⟨c, (List.getElem?_append_left bound).trans found, rfl⟩

theorem noted_keeps (c : Connection) (e : Engine) : Keeps e (e.noted c) :=
  ⟨rfl, fun _ q found => ⟨q, found, rfl⟩, fun _ p found => ⟨p, found, rfl⟩,
    fun _ x found => ⟨x, found, rfl⟩⟩

theorem Carries.keep {kind : PayloadKind} {policy : ConsumptionPolicy} {l : Link} {e e' : Engine}
    (carries : Carries kind policy l e) (keeps : Keeps e e') : Carries kind policy l e' := by
  obtain ⟨q, p, c, output, input, cell, source_kind, target_kind, common, same⟩ := carries
  obtain ⟨q', output', q_spec⟩ := keeps.outputs _ q output
  obtain ⟨p', input', p_spec⟩ := keeps.inputs _ p input
  obtain ⟨c', cell', c_policy⟩ := keeps.cells _ c cell
  refine ⟨q', p', c', output', input', cell', ?_, ?_, ?_, c_policy.trans same⟩
  · rw [q_spec, source_kind]
  · rw [p_spec, target_kind]
  · rw [q_spec, p_spec, common]

theorem Fits.keep {c : Connection} {e e' : Engine} (fits : Fits c e) (keeps : Keeps e e') :
    Fits c e' := by
  obtain ⟨p, input, carries⟩ := fits.carries
  obtain ⟨p', input', spec⟩ := keeps.inputs _ p input
  refine ⟨⟨p', input', fun l ml => ?_⟩, fits.shape⟩
  rw [spec, keeps.settings]
  exact (carries l ml).keep keeps

theorem joined_carries {source target : PortAddress} {q : OutputPort} {p : InputPort} {e : Engine}
    (output : e.output? source = some q) (input : e.input? target = some p)
    (kinds : q.spec.kind = p.spec.kind)
    (common : q.spec.capabilities.intersects p.spec.capabilities = true)
    (policy : ConsumptionPolicy) : Carries p.spec.kind policy
      ⟨source, target, e.cells.length⟩ (e.joined source target policy) := by
  refine ⟨q.feeding source e.cells.length source.handler,
    p.fed target e.cells.length target.handler, _, ?_, ?_, List.getElem?_concat_length,
    ?_, ?_, ?_, ?_⟩
  · rw [joined_output, output]
    rfl
  · rw [joined_input, input]
    rfl
  · rw [feeding_spec, kinds]
  · rw [fed_spec]
  · rw [feeding_spec, fed_spec, common]
  · cases policy <;> rfl

/-- All views of the wiring agree. -/
structure Wired (e : Engine) : Prop where
  capacity : e.settings.orderedQueueCapacity ≠ 0
  distinct : e.Distinct
  attached : Attached e.links e
  fits : ∀ c ∈ e.connections, Fits c e
  adapters : e.connections.filterMap (·.adapter) = (e.handlers.filter (·.isAdapter)).map (·.id)
  nodes : e.graph.nodes = e.ids
  edges : e.graph.edges = e.connections.flatMap (·.edges)
  numbered : e.connections.map (·.id) =
    (List.range e.connections.length).map fun n => "conn_" ++ n.repr
  counter : e.nextConnection = e.connections.length

theorem Wired.ends_in_graph {e : Engine} (w : e.Wired) {l : Link} (mem : l ∈ e.links) :
    l.source.handler ∈ e.graph.nodes ∧ l.target.handler ∈ e.graph.nodes := by
  rw [w.nodes]
  exact w.attached.ends l mem

/-! Work, starting and stopping leave the wiring alone. -/

section
variable {a b : Engine} (same : b.wiring = a.wiring)
include same

theorem wiring_handlers : b.handlers.map Handler.wiring = a.handlers.map Handler.wiring :=
  congrArg handlers same

theorem wiring_ids : b.ids = a.ids := by
  have ids := congrArg (List.map Handler.id) (wiring_handlers same)
  rw [List.map_map, List.map_map] at ids
  exact ids

theorem wiring_handler {h : Handler} (mem : h ∈ b.handlers) :
    ∃ g ∈ a.handlers, g.id = h.id ∧ g.ports.inputs = h.ports.inputs ∧
      g.ports.outputs.map OutputPort.unused = h.ports.outputs.map OutputPort.unused := by
  obtain ⟨g, mg, alike⟩ := mem_of_map_eq (wiring_handlers same) mem
  exact ⟨g, mg, (congrArg Handler.id alike :), (congrArg (·.ports.inputs) alike :),
    (congrArg (·.ports.outputs) alike :)⟩

theorem wiring_keeps (d : b.Distinct) : Keeps a b := by
  refine ⟨(congrArg settings same :), ?_, ?_, ?_⟩
  · intro x q found
    obtain ⟨h, mh, at_id, mq, name⟩ := mem_output found
    obtain ⟨g, mg, id, _, outputs⟩ := wiring_handler same.symm mh
    obtain ⟨q', mq', alike⟩ := mem_of_map_eq outputs.symm mq
    have spec : q'.spec = q.spec := (congrArg OutputPort.spec alike :)
    have place : (⟨g.id, q'.name⟩ : PortAddress) = x := by
      rw [id, at_id, show q'.name = x.port from (congrArg PortSpec.name spec).trans name]
    exact ⟨q', place ▸ output_of_mem d mg mq', spec⟩
  · intro x p found
    obtain ⟨h, mh, at_id, mp, name⟩ := mem_input found
    obtain ⟨g, mg, id, inputs, _⟩ := wiring_handler same.symm mh
    have place : (⟨g.id, p.name⟩ : PortAddress) = x := by rw [id, at_id, name]
    exact ⟨p, place ▸ input_of_mem d mg (inputs ▸ mp), rfl⟩
  · intro i c found
    have cells : (b.cells.map fun c => { c.emptied with closed := false })[i]? =
        (a.cells.map fun c => { c.emptied with closed := false })[i]? :=
      congrArg (fun e => e.cells[i]?) same
    rw [List.getElem?_map, List.getElem?_map, found] at cells
    obtain ⟨c', found', alike⟩ := Option.map_eq_some_iff.mp cells
    refine ⟨c', found', ?_⟩
    rw [← Cell.emptied_policy c', ← Cell.emptied_policy c]
    exact (congrArg Cell.policy alike :)

theorem wiring_attached {links : List Link} (t : Attached links a) : Attached links b := by
  refine ⟨?_, ?_, ?_, ?_⟩
  · have count := congrArg (fun e => e.cells.length) same
    simp only [wiring, List.length_map] at count
    rw [t.cells, count]
  · intro h mem p mp
    obtain ⟨g, mg, id, inputs, _⟩ := wiring_handler same mem
    rw [← id]
    exact t.inputs g mg p (inputs ▸ mp)
  · intro h mem q mq
    obtain ⟨g, mg, id, _, outputs⟩ := wiring_handler same mem
    obtain ⟨q', mq', alike⟩ := mem_of_map_eq outputs.symm mq
    have name : q'.name = q.name := (congrArg OutputPort.name alike :)
    have cells : q'.cells = q.cells := (congrArg OutputPort.cells alike :)
    rw [← id, ← name, ← cells]
    exact t.outputs g mg q' mq'
  · intro l ml
    rw [wiring_ids same]
    exact t.ends l ml

theorem wired_of_wiring (w : a.Wired) : b.Wired := by
  have connections : b.connections = a.connections := (congrArg Engine.connections same :)
  have graph : b.graph = a.graph := (congrArg Engine.graph same :)
  have distinct := distinct_of_wiring w.distinct same
  have flagged (e : Engine) : (e.handlers.filter (·.isAdapter)).map (·.id) =
      ((e.handlers.map Handler.wiring).filter (·.isAdapter)).map (·.id) := by
    rw [List.filter_map, List.map_map]
    rfl
  refine ⟨?_, distinct, ?_, ?_, ?_, ?_, ?_, ?_, ?_⟩
  · rw [show b.settings = a.settings from (congrArg settings same :)]
    exact w.capacity
  · rw [links, connections]
    exact wiring_attached same w.attached
  · rw [connections]
    intro c mem
    exact (w.fits c mem).keep (wiring_keeps same distinct)
  · rw [connections, w.adapters, flagged, flagged, wiring_handlers same]
  · rw [graph, wiring_ids same, w.nodes]
  · rw [graph, connections, w.edges]
  · rw [connections, w.numbered]
  · rw [connections, show b.nextConnection = a.nextConnection from (congrArg nextConnection same :),
      w.counter]

end

theorem validate_capacity {s : Settings} {u : Unit} (valid : s.validate = .ok u) :
    s.orderedQueueCapacity ≠ 0 := by
  intro zero
  unfold Settings.validate at valid
  rw [if_pos zero] at valid
  split at valid
  · cases valid
  · split at valid <;> cases valid

theorem blank_wired {key : Nat} {settings : Settings} {portRange : Option PortRange}
    (valid : settings.validate = .ok ()) : (blank key settings portRange).Wired := by
  refine ⟨validate_capacity valid, ⟨?_, ?_⟩, ⟨?_, ?_, ?_, ?_⟩, ?_, ?_, ?_, ?_, ?_, ?_⟩ <;>
    simp [blank, ids, links, HandlerGraph.empty]

theorem prepare_new {id : HandlerId} {b : Behaviour} {e : Engine} {ports : HandlerPorts}
    (prepared : e.prepare id b = .ok ports) :
    id ∉ e.ids ∧ ports.Distinct ∧ ports.Unconnected := by
  unfold prepare at prepared
  split at prepared
  · cases prepared
  · rename_i free
    exact ⟨by simpa using free, HandlerPorts.ofSpecs_new prepared⟩

theorem addHandler_nodes {id : HandlerId} {g : HandlerGraph} (free : id ∉ g.nodes) :
    g.addHandler id = { g with nodes := g.nodes ++ [id] } := by
  simp [HandlerGraph.addHandler, free]

theorem Wired.insert {e : Engine} (w : e.Wired) {id : HandlerId} {b : Behaviour}
    {ports : HandlerPorts} (prepared : e.prepare id b = .ok ports) (uri : Option ActorUri) :
    (e.insert id b false ports uri).Wired := by
  obtain ⟨free, names, unconnected⟩ := prepare_new prepared
  have graph : (e.insert id b false ports uri).graph =
      { e.graph with nodes := e.graph.nodes ++ [id] } := addHandler_nodes (w.nodes ▸ free)
  have keeps := insert_keeps id b false ports uri e
  refine ⟨w.capacity, insert_distinct w.distinct free names, w.attached.insert free unconnected,
    fun c mem => (w.fits c mem).keep keeps, ?_, ?_, ?_, w.numbered, w.counter⟩
  · rw [insert_handlers, List.filter_append, List.map_append]
    exact w.adapters.trans (List.append_nil _).symm
  · rw [graph, insert_ids, w.nodes]
  · rw [graph]
    exact w.edges

theorem Wired.noted {e e' : Engine} (w : e.Wired) {c : Connection} (d : e'.Distinct)
    (keeps : Keeps e e') (attached : Attached (e.links ++ c.links) e') (fits : Fits c e')
    (connections : e'.connections = e.connections) (counter : e'.nextConnection = e.nextConnection)
    (nodes : e'.graph.nodes = e'.ids) (edges : e'.graph.edges = e.graph.edges)
    (adapters : (e'.handlers.filter (·.isAdapter)).map (·.id) =
      (e.handlers.filter (·.isAdapter)).map (·.id) ++ c.adapter.toList)
    (id : c.id = e.nextId) : (e'.noted c).Wired := by
  have ends : ∀ l ∈ c.links,
      l.source.handler ∈ e'.graph.nodes ∧ l.target.handler ∈ e'.graph.nodes := by
    rw [nodes]
    intro l mem
    exact attached.ends l (List.mem_append_right _ mem)
  have graph : (e'.noted c).graph = { e'.graph with edges := e'.graph.edges ++ c.edges } :=
    addLinks_eq ends
  have all : (e'.noted c).connections = e.connections ++ [c] := by
    simp [Engine.noted, connections]
  have same := noted_keeps c e'
  refine ⟨?_, ⟨d.ids, d.ports⟩, ?_, ?_, ?_, ?_, ?_, ?_, ?_⟩
  · rw [show (e'.noted c).settings = e.settings from keeps.settings]
    exact w.capacity
  · rw [show (e'.noted c).links = e.links ++ c.links by simp [links, all]]
    exact ⟨attached.cells, attached.inputs, attached.outputs, attached.ends⟩
  · rw [all]
    intro x mem
    rcases List.mem_append.mp mem with old | new
    · exact (w.fits x old).keep (keeps.trans same)
    · rw [List.mem_singleton.mp new]
      exact fits.keep same
  · rw [all, List.filterMap_append, w.adapters]
    refine Eq.trans ?_ adapters.symm
    cases adapter : c.adapter <;> simp [adapter]
  · rw [graph, nodes]
    rfl
  · rw [graph, edges, w.edges, all]
    simp
  · rw [all]
    simp [List.range_succ, w.numbered, id, nextId, w.counter]
  · rw [all]
    simp [Engine.noted, counter, w.counter]

theorem joined_flagged (source target : PortAddress) (policy : ConsumptionPolicy) (e : Engine) :
    ((e.joined source target policy).handlers.filter (·.isAdapter)).map (·.id) =
      (e.handlers.filter (·.isAdapter)).map (·.id) := by
  simp only [Engine.joined, List.filter_map, List.map_map]
  rfl

theorem Wired.direct {e : Engine} (w : e.Wired) {source target : PortAddress} {q : OutputPort}
    {p : InputPort} (c : Connectable source target q p e)
    (common : q.spec.capabilities.intersects p.spec.capabilities = true) :
    (e.connectInPlace source target).2.Wired := by
  rw [connect_direct w.distinct w.capacity c common]
  have keeps := joined_keeps source target (e.policyOf p.spec) e
  obtain ⟨p', input, spec⟩ := keeps.inputs target p c.reached
  refine w.noted (w.distinct.joined _ _ _) keeps
    (w.attached.joined w.distinct c.found c.reached c.free _)
    ⟨⟨p', input, fun l mem => ?_⟩, .inl ⟨rfl, _, rfl⟩⟩ rfl rfl ?_ rfl ?_ rfl
  · rw [List.mem_singleton.mp mem, spec, keeps.settings]
    exact joined_carries c.found c.reached c.kinds common _
  · rw [joined_ids]
    exact w.nodes
  · exact (joined_flagged _ _ _ _).trans (List.append_nil _).symm

theorem ports_unconnected (owner : HandlerId) (kind : PayloadKind) (r : Route) :
    (r.ports owner kind).Unconnected := by
  refine ⟨?_, ?_⟩ <;> simp [Route.ports]

theorem Wired.bridged {e : Engine} (w : e.Wired) {source target : PortAddress} {q : OutputPort}
    {p : InputPort} (c : Connectable source target q p e)
    (disjoint : q.spec.capabilities.intersects p.spec.capabilities = false) :
    (e.connectInPlace source target).2.Wired := by
  obtain ⟨r, _, a, into, out, free, made⟩ := connect_bridged w.distinct w.capacity c disjoint
  rw [made]
  obtain ⟨consumer, mc, at_target, _⟩ := mem_input c.reached
  have elsewhere : a ≠ target.handler := by
    rintro rfl
    exact free (at_target ▸ List.mem_map_of_mem mc)
  let policy := e.policyOf p.spec
  let e₁ := e.insert a (r.adapter p.spec.kind e.settings.devicePoolId) true
    (r.ports a p.spec.kind) none
  let e₂ := e₁.joined source ⟨a, Route.inputPort⟩ policy
  let e₃ := e₂.joined ⟨a, Route.outputPort⟩ target policy
  have keeps₁ : Keeps e e₁ := insert_keeps _ _ _ _ _ _
  have keeps₂ : Keeps e₁ e₂ := joined_keeps _ _ _ _
  have keeps₃ : Keeps e₂ e₃ := joined_keeps _ _ _ _
  have d₁ : e₁.Distinct := insert_distinct w.distinct free (ports_distinct _ _ _)
  have d₂ : e₂.Distinct := d₁.joined _ _ _
  have input₁ : e₁.input? ⟨a, Route.inputPort⟩ = some ⟨r.inputSpec p.spec.kind, none⟩ :=
    adapter_input free _ _ r
  have source₁ : e₁.output? source = some q := insert_old_output c.found
  obtain ⟨q₂, output₂, spec₂⟩ := keeps₂.outputs _ _ (adapter_output free _ p.spec.kind r)
  have target₂ : e₂.input? target = some p := by
    rw [joined_input, show e₁.input? target = some p from insert_old_input c.reached,
      Option.map_some, fed_elsewhere elsewhere]
  have count : e₂.cells.length = e.cells.length + 1 := by
    simp [e₂, e₁, Engine.joined, Engine.insert]
  have attached₁ : Attached e.links e₁ := w.attached.insert free (ports_unconnected _ _ _)
  have attached₂ := attached₁.joined d₁ source₁ input₁ rfl policy
  have attached₃ := attached₂.joined d₂ output₂ target₂ c.free policy
  have enters : q.spec.capabilities.intersects r.input = true :=
    into.symm ▸ intersects_self c.sourceMemory
  have leaves : r.output.intersects p.spec.capabilities = true :=
    out.symm ▸ intersects_self c.targetMemory
  have carries₂ : Carries p.spec.kind policy ⟨source, ⟨a, Route.inputPort⟩, e.cells.length⟩ e₂ :=
    joined_carries source₁ input₁ c.kinds enters policy
  have carries₃ : Carries p.spec.kind policy
      ⟨⟨a, Route.outputPort⟩, target, e₂.cells.length⟩ e₃ :=
    joined_carries output₂ target₂ (spec₂ ▸ rfl) (spec₂ ▸ leaves) policy
  rw [count] at attached₃ carries₃
  obtain ⟨p', input, spec⟩ := keeps₃.inputs target p target₂
  have graph₁ : e₁.graph = { e.graph with nodes := e.graph.nodes ++ [a] } :=
    addHandler_nodes (w.nodes ▸ free)
  have nodes₃ : e₃.graph.nodes = e₃.ids := by
    rw [joined_ids, joined_ids, insert_ids, ← w.nodes]
    exact congrArg HandlerGraph.nodes graph₁
  have flagged₃ : (e₃.handlers.filter (·.isAdapter)).map (·.id) =
      (e.handlers.filter (·.isAdapter)).map (·.id) ++ [a] := by
    rw [joined_flagged, joined_flagged, insert_handlers, List.filter_append, List.map_append]
    rfl
  refine w.noted (d₂.joined _ _ _) ((keeps₁.trans keeps₂).trans keeps₃)
    (by rw [List.append_assoc] at attached₃; exact attached₃)
    ⟨⟨p', input, ?_⟩, .inr ⟨a, rfl, _, _, rfl⟩⟩ rfl rfl nodes₃
    (congrArg HandlerGraph.edges graph₁ :) flagged₃ rfl
  intro l mem
  rw [spec]
  rcases List.mem_pair.mp mem with rfl | rfl
  · exact carries₂.keep keeps₃
  · exact carries₃

theorem Wired.connect {e : Engine} (w : e.Wired) (source target : PortAddress) :
    (e.connectInPlace source target).2.Wired := by
  rcases connectable_or_refused source target e with ⟨q, p, c⟩ | ⟨f, refused⟩
  · cases common : q.spec.capabilities.intersects p.spec.capabilities with
    | true => exact w.direct c common
    | false => exact w.bridged c common
  · rw [connect_refused refused]
    exact w

theorem Wired.connectTexts {e : Engine} (w : e.Wired) (source target : String) :
    (e.connectTextsInPlace source target).2.Wired := by
  unfold connectTextsInPlace
  split
  · exact w
  · exact w
  · exact w.connect _ _

theorem Wired.connect_state {e : Engine} (w : e.Wired) (source target : PortAddress) :
    (e.connectInPlace source target).2.state = e.state := by
  rcases connectable_or_refused source target e with ⟨q, p, c⟩ | ⟨f, refused⟩
  · obtain ⟨_, _, e', same, _, _, _, _, extended, _⟩ := connect_connectable w.distinct w.capacity c
    rw [same]
    exact (congrArg Engine.state extended.rest :)
  · rw [connect_refused refused]

theorem Wired.connectTexts_state {e : Engine} (w : e.Wired) (source target : String) :
    (e.connectTextsInPlace source target).2.state = e.state := by
  unfold connectTextsInPlace
  split
  · rfl
  · rfl
  · exact w.connect_state _ _

end Engine

namespace Hosted

open Engine

theorem stop_wiring {h : Hosted} (d : h.engine.Distinct) (active : List HandlerId) {e : Engine}
    (w : (h.engine.quiesce active).Works e) :
    ({ h with engine := e }.tearDown active).engine.wiring = h.engine.wiring := by
  have quiet := wiring_of_unstarted (quiesce_unstarted active h.engine)
  have worked := wiring_of_unworked (works_worked (distinct_of_wiring d quiet) w).unworked
  exact (wiring_of_unstarted (tearDown_unstarted active _)).trans (worked.trans quiet)

theorem step_wired {within : Engine → Prop} {h h' : Hosted} (step : Step within h h')
    (w : h.engine.Wired) : h'.engine.Wired := by
  cases step with
  | add id b =>
    obtain same | ⟨x, ports, uri, r, _, prepared, same⟩ := added_cases id b h
    · rw [same]
      exact w
    · rw [same]
      exact w.insert prepared uri
  | connect source target => exact w.connect source target
  | connectTexts source target => exact w.connectTexts source target
  | start => exact wired_of_wiring (wiring_of_unstarted h.start_unstarted) w
  | work step =>
    exact wired_of_wiring (wiring_of_unworked (work_worked w.distinct step).unworked) w
  | stopIdle => exact wired_of_wiring (wiring_of_unstarted h.stop_unstarted) w
  | stop _ works => exact wired_of_wiring (stop_wiring w.distinct _ works) w
  | registry r => exact w

theorem reachable_wired {within : Engine → Prop} {h : Hosted} (reach : Reachable within h) :
    h.engine.Wired := by
  induction reach with
  | fresh made r =>
    obtain ⟨valid, _, rfl⟩ := make_blank made
    exact blank_wired valid
  | next _ step ih => exact step_wired step ih

end Hosted

namespace Engine

theorem Wired.cells_nodup {e : Engine} (w : e.Wired) : (e.links.map (·.cell)).Nodup := by
  rw [w.attached.cells]
  exact List.nodup_range

theorem Wired.link_unique {e : Engine} (w : e.Wired) {k l : Link} (mk : k ∈ e.links)
    (ml : l ∈ e.links) (same : k.cell = l.cell) : k = l :=
  List.inj_on_of_nodup_map w.cells_nodup mk ml same

theorem Wired.input_link {e : Engine} (w : e.Wired) {a : PortAddress} {p : InputPort} {n : CellId}
    (found : e.input? a = some p) (cell : p.cell = some n) :
    ∃ l ∈ e.links, l.target = a ∧ l.cell = n := by
  obtain ⟨h, mh, at_id, mp, name⟩ := mem_input found
  have attached := w.attached.inputs h mh p mp
  have mem : n ∈ (e.links.filter (·.target = ⟨h.id, p.name⟩)).map (·.cell) := by
    rw [attached, cell]
    exact List.mem_cons_self
  obtain ⟨l, ml, same⟩ := List.mem_map.mp mem
  obtain ⟨ml, target⟩ := List.mem_filter.mp ml
  refine ⟨l, ml, ?_, same⟩
  rw [at_id, name] at target
  simpa using target

theorem Wired.output_link {e : Engine} (w : e.Wired) {a : PortAddress} {q : OutputPort}
    {n : CellId} (found : e.output? a = some q) (cell : n ∈ q.cells) :
    ∃ l ∈ e.links, l.source = a ∧ l.cell = n := by
  obtain ⟨h, mh, at_id, mq, name⟩ := mem_output found
  rw [← w.attached.outputs h mh q mq] at cell
  obtain ⟨l, ml, same⟩ := List.mem_map.mp cell
  obtain ⟨ml, source⟩ := List.mem_filter.mp ml
  refine ⟨l, ml, ?_, same⟩
  rw [at_id, name] at source
  simpa using source

theorem Wired.adapter_once {e : Engine} (w : e.Wired) {h : Handler} (mem : h ∈ e.handlers)
    (flagged : h.isAdapter = true) :
    (e.connections.filter (·.adapter = some h.id)).length = 1 := by
  have distinct : (e.connections.filterMap (·.adapter)).Nodup := by
    rw [w.adapters]
    exact w.distinct.ids.sublist (List.filter_sublist.map _)
  have among : h.id ∈ e.connections.filterMap (·.adapter) := by
    rw [w.adapters]
    exact List.mem_map_of_mem (List.mem_filter.mpr ⟨mem, flagged⟩)
  have once := List.count_eq_one_of_mem distinct among
  rw [List.count_filterMap, List.countP_eq_length_filter] at once
  simpa [beq_eq_decide] using once

theorem Wired.adapter_count {e : Engine} (w : e.Wired) :
    e.adapterCount = (e.connections.filter (·.adapter.isSome)).length := by
  have count := congrArg List.length w.adapters
  rw [List.length_map, List.length_filterMap_eq_countP, List.countP_eq_length_filter] at count
  exact count.symm

theorem Wired.policy_text {e : Engine} (w : e.Wired) {c : Connection} (mem : c ∈ e.connections)
    {l : Link} (ml : l ∈ c.links) : ∃ p, e.input? c.target = some p ∧
      e.policyText l = (p.spec.policy.getD (e.settings.policyFor c.kind)).text := by
  obtain ⟨p, input, carries⟩ := (w.fits c mem).carries
  obtain ⟨_, _, cell, _, _, found, _, _, _, policy⟩ := carries l ml
  refine ⟨p, input, ?_⟩
  simp [policyText, found, policy]

theorem Wired.topology_edges {e : Engine} (w : e.Wired) :
    e.topology.edges.map (fun t => (t.connection, t.sourceHandler, t.targetHandler)) =
      e.graph.edges.map fun g => (g.connection, g.source.text, g.target.text) := by
  simp [topology, w.edges, Connection.edges, List.map_flatMap, Function.comp_def]

theorem Wired.topology_nodes {e : Engine} (w : e.Wired) :
    e.topology.nodes.map (·.id) = e.graph.nodes.map (·.text) := by
  simp [topology, w.nodes, ids, Function.comp_def, TopologyNode.ofHandler]

theorem topology_adapters (e : Engine) : e.topology.adapterCount = e.adapterCount := by
  simp only [Topology.adapterCount, topology, adapterCount, List.filter_map, List.length_map]
  rfl

end Engine

namespace Hosted

open Engine

/-- All views of the wiring agree after any operations, whether they fail or not. -/
theorem wiring_agrees {within : Engine → Prop} {h : Hosted} (reach : Reachable within h) :
    h.engine.Wired ∧
    (∀ a b p r n, h.engine.input? a = some p → h.engine.input? b = some r →
      p.cell = some n → r.cell = some n → a = b) ∧
    (∀ a b q r n, h.engine.output? a = some q → h.engine.output? b = some r →
      n ∈ q.cells → n ∈ r.cells → a = b) ∧
    (∀ c ∈ h.engine.connections, ∀ l ∈ c.links, ∃ p, h.engine.input? c.target = some p ∧
      h.engine.policyText l =
        (p.spec.policy.getD (h.engine.settings.policyFor c.kind)).text) ∧
    (∀ x ∈ h.engine.handlers, x.isAdapter = true →
      (h.engine.connections.filter (·.adapter = some x.id)).length = 1) ∧
    h.engine.adapterCount = (h.engine.connections.filter (·.adapter.isSome)).length ∧
    h.engine.topology.adapterCount = h.engine.adapterCount ∧
    h.engine.topology.nodes.map (·.id) = h.engine.graph.nodes.map (·.text) ∧
    h.engine.topology.edges.map (fun t => (t.connection, t.sourceHandler, t.targetHandler)) =
      h.engine.graph.edges.map fun g => (g.connection, g.source.text, g.target.text) := by
  have w := reachable_wired reach
  refine ⟨w, ?_, ?_, fun c mc l ml => w.policy_text mc ml, fun x => w.adapter_once, w.adapter_count,
    topology_adapters _, w.topology_nodes, w.topology_edges⟩
  · intro a b p r n first second here there
    obtain ⟨k, mk, rfl, cell⟩ := w.input_link first here
    obtain ⟨l, ml, rfl, rfl⟩ := w.input_link second there
    rw [w.link_unique mk ml cell]
  · intro a b q r n first second here there
    obtain ⟨k, mk, rfl, cell⟩ := w.output_link first here
    obtain ⟨l, ml, rfl, rfl⟩ := w.output_link second there
    rw [w.link_unique mk ml cell]

def cameraAndScreen : Hosted :=
  ((⟨.blank 0 (Settings.default.withFps 30.0) none, none⟩ : Hosted).added (some "camera")
    .camera).added (some "screen")
    (.plain "Screen" [(PortSpec.input "in" .video).withCapabilities .deviceOnly] [])

theorem camera_and_screen_reachable : Reachable Quiet cameraAndScreen :=
  .next (.next (.fresh (show make 0 .default 30.0 = .ok _ from rfl) none) (.add _ _)) (.add _ _)

def camera : PortAddress := ⟨⟨"camera", by decide⟩, "video"⟩
def screen : PortAddress := ⟨⟨"screen", by decide⟩, "in"⟩

theorem wiring_agrees_across_memories :
    let after := (cameraAndScreen.connect camera screen).2
    Reachable Quiet after ∧ after.engine.Wired ∧ after.engine.adapterCount = 1 := by
  have reach := camera_and_screen_reachable.next (.connect camera screen)
  obtain ⟨wired, _, _, _, _, count, _⟩ := wiring_agrees reach
  exact ⟨reach, wired, count.trans (by decide +kernel)⟩

theorem connect_cases {h : Hosted} (w : h.engine.Wired) (source target : PortAddress) :
    (∃ q p c added e', Connectable source target q p h.engine ∧
      h.connect source target = (.ok c.id, { h with engine := e' }) ∧
      c.source = source ∧ c.target = target ∧ c.kind = p.spec.kind ∧
      Extended c added h.engine e' ∧
      added.length = if q.spec.capabilities.intersects p.spec.capabilities then 0 else 1) ∨
    ∃ f, Refused source target h.engine f ∧ h.connect source target = (.error (.fault f), h) := by
  rcases connectable_or_refused source target h.engine with ⟨q, p, c⟩ | ⟨f, refused⟩
  · obtain ⟨conn, added, e', same, _, rest⟩ := connect_connectable w.distinct w.capacity c
    exact .inl ⟨q, p, conn, added, e', c, by simp [connect, same], rest⟩
  · exact .inr ⟨f, refused, by simp [connect, connect_refused refused]⟩

/-- A connection is made just when all demands are met, and then it is all that is new. Otherwise the
first demand that is not met is the fault, and nothing changes. -/
theorem connect_exact {within : Engine → Prop} {h : Hosted} (reach : Reachable within h)
    (source target : PortAddress) :
    ((∃ id, (h.connect source target).1 = .ok id) ↔
      ∃ q p, Connectable source target q p h.engine) ∧
    (∀ failure, (h.connect source target).1 = .error failure ↔
      ∃ f, failure = .fault f ∧ Refused source target h.engine f) ∧
    (∀ failure, (h.connect source target).1 = .error failure →
      (h.connect source target).2 = h) ∧
    (∀ id q p, (h.connect source target).1 = .ok id → h.engine.output? source = some q →
      h.engine.input? target = some p →
      (h.connect source target).2.registry = h.registry ∧
      ∃ c added, c.id = id ∧ c.source = source ∧ c.target = target ∧ c.kind = p.spec.kind ∧
        Extended c added h.engine (h.connect source target).2.engine ∧
        added.length =
          if q.spec.capabilities.intersects p.spec.capabilities then 0 else 1) := by
  have w := reachable_wired reach
  have exclusive : ∀ q p f, Connectable source target q p h.engine →
      ¬ Refused source target h.engine f := by
    intro q p f c refused
    obtain ⟨conn, added, e', same, _⟩ := connect_connectable w.distinct w.capacity c
    rw [connect_refused refused] at same
    cases same
  rcases connect_cases w source target with
    ⟨q, p, c, added, e', met, same, at_source, at_target, kind, extended, count⟩ |
    ⟨f, refused, same⟩
  · rw [same]
    refine ⟨⟨fun _ => ⟨q, p, met⟩, fun _ => ⟨c.id, rfl⟩⟩, ?_, ?_, ?_⟩
    · intro failure
      constructor
      · intro other
        cases other
      · rintro ⟨f, _, refused⟩
        exact absurd refused (exclusive q p f met)
    · intro failure other
      cases other
    · intro id q' p' ok found reached
      cases ok
      rw [met.found] at found
      rw [met.reached] at reached
      cases found
      cases reached
      exact ⟨rfl, c, added, rfl, at_source, at_target, kind, extended, count⟩
  · rw [same]
    refine ⟨⟨?_, ?_⟩, ?_, fun _ _ => rfl, ?_⟩
    · rintro ⟨id, ok⟩
      cases ok
    · rintro ⟨q, p, met⟩
      exact absurd refused (exclusive q p f met)
    · intro failure
      constructor
      · intro other
        cases other
        exact ⟨f, rfl, refused⟩
      · rintro ⟨g, rfl, other⟩
        have first := (connect_refused refused).symm.trans (connect_refused other)
        cases first
        rfl
    · intro id q p ok
      cases ok

theorem connect_exact_across_memories : Reachable Quiet cameraAndScreen ∧
    (∃ id, (cameraAndScreen.connect camera screen).1 = .ok id) ∧
    (cameraAndScreen.connect screen camera).1 =
      .error (.fault (.configuration (.startsAtInput "screen.in"))) ∧
    (cameraAndScreen.connect screen camera).2 = cameraAndScreen := by
  have reach := camera_and_screen_reachable
  obtain ⟨made, _, _, _⟩ := connect_exact reach camera screen
  obtain ⟨_, refused, kept, _⟩ := connect_exact reach screen camera
  have backwards := (refused _).mpr ⟨_, rfl, .startsAtInput (p :=
    ⟨(PortSpec.input "in" .video).withCapabilities .deviceOnly, none⟩) rfl (by decide +kernel)
    (by decide +kernel) (by decide +kernel) (by decide +kernel)⟩
  refine ⟨reach, made.mpr ⟨⟨.output "video" .video, "camera.video", [], 0⟩,
    ⟨(PortSpec.input "in" .video).withCapabilities .deviceOnly, none⟩, ?_⟩, backwards,
    kept _ backwards⟩
  exact ⟨rfl, by decide +kernel, by decide +kernel, rfl, rfl, by decide, rfl, rfl⟩

end Hosted

end Tickflow
