import Tickflow.Proofs.Linking
/-!
When two ports can be connected, which demand is the first one not met when they cannot, and what a
connection changes.
-/
namespace Tickflow

/-- Between two sets that are not empty and have nothing in common there is just one route, and it leads
from the one to the other. -/
theorem select_disjoint {a b : Capabilities} (disjoint : a.intersects b = false)
    (source : a.isEmpty = false) (target : b.isEmpty = false) :
    ∃ r ∈ Route.all, Route.select? Route.all a b = some r ∧ r.input = a ∧ r.output = b := by
  obtain ⟨_ | _, _ | _⟩ := a <;> obtain ⟨_ | _, _ | _⟩ := b <;>
    simp_all [Capabilities.intersects, Capabilities.isEmpty]
  · exact ⟨Route.deviceToHost, by decide, rfl, rfl, rfl⟩
  · exact ⟨Route.hostToDevice, by decide, rfl, rfl, rfl⟩

theorem intersects_self {a : Capabilities} (full : a.isEmpty = false) : a.intersects a = true := by
  obtain ⟨_ | _, _ | _⟩ := a <;> simp_all [Capabilities.intersects, Capabilities.isEmpty]

theorem select_empty {a b : Capabilities} (empty : a.isEmpty = true ∨ b.isEmpty = true) :
    a.intersects b = false ∧ Route.select? Route.all a b = none := by
  obtain ⟨_ | _, _ | _⟩ := a <;> obtain ⟨_ | _, _ | _⟩ := b <;>
    simp_all [Capabilities.isEmpty] <;> exact ⟨rfl, rfl⟩

namespace Engine

/-- All that is demanded of an output and an input that shall be connected. -/
structure Connectable (source target : PortAddress) (output : OutputPort) (input : InputPort)
    (e : Engine) : Prop where
  idle : e.state = .idle
  found : e.output? source = some output
  reached : e.input? target = some input
  kinds : output.spec.kind = input.spec.kind
  free : input.cell = none
  room : input.spec.policy ≠ some (.orderedAll 0)
  sourceMemory : output.spec.capabilities.isEmpty = false
  targetMemory : input.spec.capabilities.isEmpty = false

/-- The first demand that is not met, with the fault that says so. Each rule has the earlier demands as
premises. -/
inductive Refused (source target : PortAddress) (e : Engine) : Fault → Prop where
  | running (now : e.state = .running) :
      Refused source target e (.runtime (.whileRunning "connect ports"))
  | stopped (now : e.state = .stopped) :
      Refused source target e (.runtime (.afterStop "connect ports"))
  | noProducer (idle : e.state = .idle) (absent : source.handler ∉ e.ids) :
      Refused source target e (.handlerNotFound source.handler.text)
  | noConsumer (idle : e.state = .idle) (producer : source.handler ∈ e.ids)
      (absent : target.handler ∉ e.ids) :
      Refused source target e (.handlerNotFound target.handler.text)
  | startsAtInput {p : InputPort} (idle : e.state = .idle) (producer : source.handler ∈ e.ids)
      (consumer : target.handler ∈ e.ids) (absent : e.output? source = none)
      (other : e.input? source = some p) :
      Refused source target e (.configuration (.startsAtInput source.text))
  | noOutput (idle : e.state = .idle) (producer : source.handler ∈ e.ids)
      (consumer : target.handler ∈ e.ids) (absent : e.output? source = none)
      (other : e.input? source = none) : Refused source target e (.portNotFound source.text)
  | endsAtOutput {output q : OutputPort} (idle : e.state = .idle)
      (consumer : target.handler ∈ e.ids) (found : e.output? source = some output)
      (absent : e.input? target = none) (other : e.output? target = some q) :
      Refused source target e (.configuration (.endsAtOutput target.text))
  | noInput {output : OutputPort} (idle : e.state = .idle) (consumer : target.handler ∈ e.ids)
      (found : e.output? source = some output) (absent : e.input? target = none)
      (other : e.output? target = none) : Refused source target e (.portNotFound target.text)
  | kinds {output : OutputPort} {input : InputPort} (idle : e.state = .idle)
      (found : e.output? source = some output) (reached : e.input? target = some input)
      (differ : output.spec.kind ≠ input.spec.kind) :
      Refused source target e
        (.kindMismatch source.text output.spec.kind target.text input.spec.kind)
  | taken {output : OutputPort} {input : InputPort} (idle : e.state = .idle)
      (found : e.output? source = some output) (reached : e.input? target = some input)
      (kinds : output.spec.kind = input.spec.kind) (fed : input.cell ≠ none) :
      Refused source target e (.inputAlreadyConnected target.text)
  | noRoom {output : OutputPort} {input : InputPort} (idle : e.state = .idle)
      (found : e.output? source = some output) (reached : e.input? target = some input)
      (kinds : output.spec.kind = input.spec.kind) (free : input.cell = none)
      (empty : input.spec.policy = some (.orderedAll 0)) :
      Refused source target e (.configuration (.emptyQueue target.text))
  | noMemory {output : OutputPort} {input : InputPort} (idle : e.state = .idle)
      (found : e.output? source = some output) (reached : e.input? target = some input)
      (kinds : output.spec.kind = input.spec.kind) (free : input.cell = none)
      (room : input.spec.policy ≠ some (.orderedAll 0))
      (empty : output.spec.capabilities.isEmpty = true ∨
        input.spec.capabilities.isEmpty = true) :
      Refused source target e (.unsatisfiableRoute source.text output.spec.capabilities
        target.text input.spec.capabilities)

variable {source target : PortAddress} {e : Engine}

theorem connectable_or_refused (source target : PortAddress) (e : Engine) :
    (∃ q p, Connectable source target q p e) ∨ ∃ f, Refused source target e f := by
  cases now : e.state with
  | running => exact .inr ⟨_, .running now⟩
  | stopped => exact .inr ⟨_, .stopped now⟩
  | idle =>
    by_cases producer : source.handler ∈ e.ids
    case neg => exact .inr ⟨_, .noProducer now producer⟩
    by_cases consumer : target.handler ∈ e.ids
    case neg => exact .inr ⟨_, .noConsumer now producer consumer⟩
    cases found : e.output? source with
    | none =>
      cases other : e.input? source with
      | none => exact .inr ⟨_, .noOutput now producer consumer found other⟩
      | some p => exact .inr ⟨_, .startsAtInput now producer consumer found other⟩
    | some output =>
      cases reached : e.input? target with
      | none =>
        cases other : e.output? target with
        | none => exact .inr ⟨_, .noInput now consumer found reached other⟩
        | some q => exact .inr ⟨_, .endsAtOutput now consumer found reached other⟩
      | some input =>
        by_cases kinds : output.spec.kind = input.spec.kind
        case neg => exact .inr ⟨_, .kinds now found reached kinds⟩
        by_cases free : input.cell = none
        case neg => exact .inr ⟨_, .taken now found reached kinds free⟩
        by_cases room : input.spec.policy = some (.orderedAll 0)
        case pos => exact .inr ⟨_, .noRoom now found reached kinds free room⟩
        cases first : output.spec.capabilities.isEmpty with
        | true => exact .inr ⟨_, .noMemory now found reached kinds free room (.inl first)⟩
        | false =>
          cases second : input.spec.capabilities.isEmpty with
          | true => exact .inr ⟨_, .noMemory now found reached kinds free room (.inr second)⟩
          | false =>
            exact .inl ⟨output, input, now, found, reached, kinds, free, room, first, second⟩

theorem findHandler_absent {id : HandlerId} (absent : id ∉ e.ids) :
    e.findHandler id = .error (.handlerNotFound id.text) := by
  simp [findHandler, handler_none_iff.mpr absent]

theorem findHandler_present {id : HandlerId} (mem : id ∈ e.ids) :
    ∃ h, e.findHandler id = .ok h ∧ e.handler? id = some h := by
  obtain ⟨h, _, _, found⟩ := handler_of_id_mem mem
  exact ⟨h, by simp [findHandler, found], found⟩

theorem plan_no_output (producer : source.handler ∈ e.ids) (consumer : target.handler ∈ e.ids)
    (absent : e.output? source = none) : e.plan source target = .error
      (if (e.input? source).isSome then .configuration (.startsAtInput source.text)
        else .portNotFound source.text) := by
  obtain ⟨h, at_source, here⟩ := findHandler_present producer
  obtain ⟨g, at_target, _⟩ := findHandler_present consumer
  simp only [output?, input?, here, Option.bind_some] at absent ⊢
  cases other : h.ports.input? source.port <;>
    simp [plan, at_source, at_target, findOutput, absent, other, bind, Except.bind]

theorem plan_no_input {q : OutputPort} (found : e.output? source = some q)
    (consumer : target.handler ∈ e.ids) (absent : e.input? target = none) :
    e.plan source target = .error
      (if (e.output? target).isSome then .configuration (.endsAtOutput target.text)
        else .portNotFound target.text) := by
  obtain ⟨producer, at_source, source_name⟩ := Option.bind_eq_some_iff.mp found
  obtain ⟨g, _, here⟩ := findHandler_present consumer
  simp only [output?, input?, here, Option.bind_some] at absent ⊢
  cases other : g.ports.output? target.port <;>
    simp [plan, findHandler, at_source, here, findOutput, source_name, findInput, absent, other,
      bind, Except.bind]

theorem plan_ports {q : OutputPort} {p : InputPort} (found : e.output? source = some q)
    (reached : e.input? target = some p) :
    e.plan source target = e.planPorts source target q p := by
  obtain ⟨producer, at_source, source_name⟩ := Option.bind_eq_some_iff.mp found
  obtain ⟨consumer, at_target, target_name⟩ := Option.bind_eq_some_iff.mp reached
  simp [plan, findHandler, findOutput, findInput, at_source, at_target, source_name, target_name,
    bind, Except.bind]

theorem plan_refused {f : Fault} (idle : e.state = .idle) (refused : Refused source target e f) :
    e.plan source target = .error f := by
  cases refused with
  | running now => rw [idle] at now; cases now
  | stopped now => rw [idle] at now; cases now
  | noProducer _ absent => simp [plan, findHandler_absent absent, bind, Except.bind]
  | noConsumer _ producer absent =>
    obtain ⟨h, found, _⟩ := findHandler_present producer
    simp [plan, found, findHandler_absent absent, bind, Except.bind]
  | startsAtInput _ producer consumer absent other =>
    simp [plan_no_output producer consumer absent, other]
  | noOutput _ producer consumer absent other =>
    simp [plan_no_output producer consumer absent, other]
  | endsAtOutput _ consumer found absent other => simp [plan_no_input found consumer absent, other]
  | noInput _ consumer found absent other => simp [plan_no_input found consumer absent, other]
  | kinds _ found reached differ =>
    rw [plan_ports found reached]
    simp [planPorts, differ]
  | taken _ found reached kinds fed =>
    rw [plan_ports found reached]
    simp [planPorts, kinds, InputPort.isConnected, Option.isSome_iff_ne_none, fed]
  | noRoom _ found reached kinds free empty =>
    rw [plan_ports found reached]
    simp [planPorts, kinds, InputPort.isConnected, free, empty]
  | noMemory _ found reached kinds free room empty =>
    have none := select_empty empty
    rw [plan_ports found reached]
    simp [planPorts, kinds, InputPort.isConnected, free, room, none.1, none.2]

/-- How the links of a connection work: as its input says, or else as is usual for what it
carries. -/
def policyOf (e : Engine) (spec : PortSpec) : ConsumptionPolicy :=
  spec.policy.getD (e.settings.policyFor spec.kind)

theorem policyOf_room (capacity : e.settings.orderedQueueCapacity ≠ 0) {spec : PortSpec}
    (room : spec.policy ≠ some (.orderedAll 0)) : e.policyOf spec ≠ .orderedAll 0 := by
  unfold policyOf
  cases own : spec.policy with
  | some policy =>
    rw [own] at room
    intro same
    exact room (congrArg some same)
  | none =>
    cases spec.kind
    · simp [Settings.policyFor]
    · simpa [Settings.policyFor] using capacity
    · simp [Settings.policyFor]

theorem plan_connectable {q : OutputPort} {p : InputPort} (c : Connectable source target q p e) :
    ∃ route, e.plan source target = .ok ⟨p.spec.kind, e.policyOf p.spec, route⟩ ∧
      ((q.spec.capabilities.intersects p.spec.capabilities = true ∧ route = none) ∨
        (q.spec.capabilities.intersects p.spec.capabilities = false ∧
          ∃ r ∈ Route.all, route = some r ∧ r.input = q.spec.capabilities ∧
            r.output = p.spec.capabilities)) := by
  rw [plan_ports c.found c.reached]
  cases common : q.spec.capabilities.intersects p.spec.capabilities with
  | true =>
    refine ⟨none, ?_, .inl ⟨rfl, rfl⟩⟩
    simp [planPorts, c.kinds, InputPort.isConnected, c.free, c.room, common, policyOf]
  | false =>
    obtain ⟨r, known, selected, input, output⟩ := select_disjoint common c.sourceMemory c.targetMemory
    refine ⟨some r, ?_, .inr ⟨rfl, r, known, rfl, input, output⟩⟩
    simp [planPorts, c.kinds, InputPort.isConnected, c.free, c.room, common, policyOf, selected]

theorem connect_refused {f : Fault} (refused : Refused source target e f) :
    e.connectInPlace source target = (.error (.fault f), e) := by
  cases now : e.state with
  | idle => simp [connectInPlace, ensureIdle, now, plan_refused now refused]
  | running =>
    cases refused with
    | running => simp [connectInPlace, ensureIdle, now]
    | stopped other => rw [now] at other; cases other
    | _ idle => rw [now] at idle; cases idle
  | stopped =>
    cases refused with
    | stopped => simp [connectInPlace, ensureIdle, now]
    | running other => rw [now] at other; cases other
    | _ idle => rw [now] at idle; cases idle

def noted (c : Connection) (e : Engine) : Engine :=
  { e with
    nextConnection := e.nextConnection + 1
    graph := c.links.foldl
      (fun g l => g.addLink l.source.handler l.target.handler c.id) e.graph
    connections := e.connections ++ [c] }

def nextId (e : Engine) : String := "conn_" ++ e.nextConnection.repr

theorem ensureIdle_idle (idle : e.state = .idle) (action : String) :
    e.ensureIdle action = .ok () := by
  simp [ensureIdle, idle]

theorem connect_direct (d : e.Distinct) (capacity : e.settings.orderedQueueCapacity ≠ 0)
    {q : OutputPort} {p : InputPort} (c : Connectable source target q p e)
    (common : q.spec.capabilities.intersects p.spec.capabilities = true) :
    e.connectInPlace source target = (.ok e.nextId,
      (e.joined source target (e.policyOf p.spec)).noted ⟨e.nextId, source, target, p.spec.kind,
        none, [⟨source, target, e.cells.length⟩]⟩) := by
  obtain ⟨route, planned, ⟨_, direct⟩ | ⟨disjoint, _⟩⟩ := plan_connectable c
  · have laid : linkAll source target ⟨p.spec.kind, e.policyOf p.spec, route⟩
        { e with nextConnection := e.nextConnection + 1 } =
        (.ok (none, [⟨source, target, e.cells.length⟩]),
          { e.joined source target (e.policyOf p.spec) with
            nextConnection := e.nextConnection + 1 }) :=
      linkAll_direct (e := { e with nextConnection := e.nextConnection + 1 }) ⟨d.ids, d.ports⟩
        c.found c.reached (policyOf_room capacity c.room) direct
    simp only [connectInPlace, ensureIdle_idle c.idle, planned]
    rw [laid]
    rfl
  · rw [common] at disjoint
    cases disjoint

theorem connect_bridged (d : e.Distinct) (capacity : e.settings.orderedQueueCapacity ≠ 0)
    {q : OutputPort} {p : InputPort} (c : Connectable source target q p e)
    (disjoint : q.spec.capabilities.intersects p.spec.capabilities = false) :
    ∃ r ∈ Route.all, ∃ a, r.input = q.spec.capabilities ∧ r.output = p.spec.capabilities ∧
      a ∉ e.ids ∧
      e.connectInPlace source target = (.ok e.nextId,
        (e.bridged source target a r p.spec.kind (e.policyOf p.spec)).noted ⟨e.nextId, source,
          target, p.spec.kind, some a, [⟨source, ⟨a, Route.inputPort⟩, e.cells.length⟩,
            ⟨⟨a, Route.outputPort⟩, target, e.cells.length + 1⟩]⟩) := by
  obtain ⟨route, planned, ⟨common, _⟩ | ⟨_, r, known, through, input, output⟩⟩ :=
    plan_connectable c
  · rw [disjoint] at common
    cases common
  · let a := HandlerId.fresh r.className e.ids
    have laid : linkAll source target ⟨p.spec.kind, e.policyOf p.spec, route⟩
        { e with nextConnection := e.nextConnection + 1 } =
        (.ok (some a, [⟨source, ⟨a, Route.inputPort⟩, e.cells.length⟩,
            ⟨⟨a, Route.outputPort⟩, target, e.cells.length + 1⟩]),
          { e.bridged source target a r p.spec.kind (e.policyOf p.spec) with
            nextConnection := e.nextConnection + 1 }) :=
      linkAll_bridged (e := { e with nextConnection := e.nextConnection + 1 }) ⟨d.ids, d.ports⟩
        c.found c.reached (policyOf_room capacity c.room) through rfl
    refine ⟨r, known, a, input, output, HandlerId.fresh_free _ _, ?_⟩
    simp only [connectInPlace, ensureIdle_idle c.idle, planned]
    rw [laid]
    rfl

/-- What a connection that was made changes: it is the last one now, `added` are the new handlers, and
of the old ones just the output at its source and the input at its target have a cell more. -/
structure Extended (c : Connection) (added : List Handler) (e e' : Engine) : Prop where
  connections : e'.connections = e.connections ++ [c]
  handlers : e'.handlers =
    e.handlers.map (·.joined c.source c.target e.cells.length (e'.cells.length - 1)) ++ added
  adapter : c.adapter.toList = added.map (·.id)
  new : ∀ a ∈ added, a.id ∉ e.ids ∧ a.isAdapter = true
  cells : e.cells <+: e'.cells
  rest : { e' with
    handlers := e.handlers, connections := e.connections, cells := e.cells, graph := e.graph
    nextConnection := e.nextConnection } = e

theorem joined_past {a : HandlerId} {h : Handler} (other : a ≠ h.id) (n m : CellId) :
    (h.joined source ⟨a, Route.inputPort⟩ n n).joined ⟨a, Route.outputPort⟩ target m m =
      h.joined source target n m := by
  have into (p : InputPort) : p.fed ⟨a, Route.inputPort⟩ n h.id = p := fed_elsewhere other n p
  have out (q : OutputPort) : q.feeding ⟨a, Route.outputPort⟩ m h.id = q :=
    feeding_elsewhere other m q
  simp only [Handler.joined, List.map_map, Function.comp_def, into, out]

theorem connect_connectable (d : e.Distinct) (capacity : e.settings.orderedQueueCapacity ≠ 0)
    {q : OutputPort} {p : InputPort} (c : Connectable source target q p e) :
    ∃ conn added e', e.connectInPlace source target = (.ok conn.id, e') ∧
      conn.id = e.nextId ∧ conn.source = source ∧ conn.target = target ∧
      conn.kind = p.spec.kind ∧ Extended conn added e e' ∧
      added.length = if q.spec.capabilities.intersects p.spec.capabilities then 0 else 1 := by
  cases common : q.spec.capabilities.intersects p.spec.capabilities with
  | true =>
    let conn : Connection :=
      ⟨e.nextId, source, target, p.spec.kind, none, [⟨source, target, e.cells.length⟩]⟩
    refine ⟨conn, [], _, connect_direct d capacity c common, rfl, rfl, rfl, rfl, ?_, rfl⟩
    refine ⟨rfl, ?_, rfl, fun _ mem => absurd mem List.not_mem_nil, List.prefix_append _ _, rfl⟩
    simp [noted, joined, conn]
  | false =>
    obtain ⟨r, _, a, _, _, free, made⟩ := connect_bridged d capacity c common
    let adapter := ((newHandler a (r.adapter p.spec.kind e.settings.devicePoolId) true
      (r.ports a p.spec.kind) none).joined source ⟨a, Route.inputPort⟩ e.cells.length
      e.cells.length).joined ⟨a, Route.outputPort⟩ target (e.cells.length + 1) (e.cells.length + 1)
    let conn : Connection := ⟨e.nextId, source, target, p.spec.kind, some a,
      [⟨source, ⟨a, Route.inputPort⟩, e.cells.length⟩,
        ⟨⟨a, Route.outputPort⟩, target, e.cells.length + 1⟩]⟩
    refine ⟨conn, [adapter], _, made, rfl, rfl, rfl, rfl, ?_, rfl⟩
    refine ⟨rfl, ?_, rfl, ?_, ?_, rfl⟩
    · have past : ∀ h ∈ e.handlers, (h.joined source ⟨a, Route.inputPort⟩ e.cells.length
          e.cells.length).joined ⟨a, Route.outputPort⟩ target (e.cells.length + 1)
          (e.cells.length + 1) = h.joined source target e.cells.length (e.cells.length + 1) := by
        intro h mem
        refine joined_past ?_ _ _
        rintro rfl
        exact free (List.mem_map_of_mem mem)
      simpa [noted, bridged, joined, insert_handlers, insert, adapter, newHandler, conn] using past
    · intro x mem
      rw [List.mem_singleton.mp mem]
      exact ⟨free, rfl⟩
    · refine ⟨_, (List.append_assoc _ _ _).symm⟩

end Engine

end Tickflow
