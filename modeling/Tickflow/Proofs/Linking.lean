import Mathlib.Data.List.Induction
import Tickflow.Proofs.FreshId
import Tickflow.Proofs.Frame
/-!
Laying links. Where both ends of a link are there, laying it cannot fail, and it changes exactly two
ports. The same holds of the two links through an adapter that was just added.
-/
namespace Tickflow

namespace HandlerPorts

structure Unconnected (ports : HandlerPorts) : Prop where
  inputs : ∀ p ∈ ports.inputs, p.cell = none
  outputs : ∀ q ∈ ports.outputs, q.cells = []

theorem input_absent {ports : HandlerPorts} {name : String}
    (absent : ¬ (ports.input? name).isSome = true) : name ∉ ports.inputs.map (·.name) := by
  simp only [input?, List.find?_isSome, beq_iff_eq, not_exists, not_and] at absent
  intro mem
  obtain ⟨p, mp, same⟩ := List.mem_map.mp mem
  exact absent p mp same

theorem output_absent {ports : HandlerPorts} {name : String}
    (absent : ¬ (ports.output? name).isSome = true) : name ∉ ports.outputs.map (·.name) := by
  simp only [output?, List.find?_isSome, beq_iff_eq, not_exists, not_and] at absent
  intro mem
  obtain ⟨q, mq, same⟩ := List.mem_map.mp mem
  exact absent q mq same

theorem addSpec_new {owner : HandlerId} {spec : PortSpec} {ports ports' : HandlerPorts}
    (added : ports.addSpec owner spec = .ok ports') (new : ports.Distinct ∧ ports.Unconnected) :
    ports'.Distinct ∧ ports'.Unconnected := by
  obtain ⟨distinct, unconnected⟩ := new
  unfold addSpec at added
  split at added <;> split at added
  · simp at added
  · rename_i absent
    cases added
    refine ⟨⟨?_, distinct.outputs⟩, ⟨?_, unconnected.outputs⟩⟩
    · rw [List.map_append]
      exact distinct.inputs.append (List.nodup_singleton _)
        (List.disjoint_singleton.mpr (input_absent absent))
    · intro p mem
      rcases List.mem_append.mp mem with old | last
      · exact unconnected.inputs p old
      · rw [List.mem_singleton.mp last]
  · simp at added
  · rename_i absent
    cases added
    refine ⟨⟨distinct.inputs, ?_⟩, ⟨unconnected.inputs, ?_⟩⟩
    · rw [List.map_append]
      exact distinct.outputs.append (List.nodup_singleton _)
        (List.disjoint_singleton.mpr (output_absent absent))
    · intro q mem
      rcases List.mem_append.mp mem with old | last
      · exact unconnected.outputs q old
      · rw [List.mem_singleton.mp last]

theorem ofSpecs_induct {owner : HandlerId} {motive : List PortSpec → HandlerPorts → Prop}
    (nil : motive [] empty)
    (snoc : ∀ specs spec ports ports', motive specs ports → ports.addSpec owner spec = .ok ports' →
      motive (specs ++ [spec]) ports') {specs : List PortSpec} {ports : HandlerPorts}
    (made : ofSpecs owner specs = .ok ports) : motive specs ports := by
  induction specs using List.reverseRecOn generalizing ports with
  | nil =>
    cases made
    exact nil
  | append_singleton specs spec ih =>
    rw [ofSpecs, List.foldlM_append] at made
    cases before : specs.foldlM (fun ports spec => ports.addSpec owner spec) empty with
    | error fault => simp [before, bind, Except.bind] at made
    | ok others =>
      have last : (others.addSpec owner spec >>= pure) = .ok ports := by
        rw [before] at made
        exact made
      exact snoc specs spec others ports (ih before) ((bind_pure _).symm.trans last)

theorem ofSpecs_new {owner : HandlerId} {specs : List PortSpec} {ports : HandlerPorts}
    (made : ofSpecs owner specs = .ok ports) : ports.Distinct ∧ ports.Unconnected := by
  refine @ofSpecs_induct _ (fun _ ports => ports.Distinct ∧ ports.Unconnected) ?_ ?_ _ _ made
  · refine ⟨⟨?_, ?_⟩, ⟨?_, ?_⟩⟩ <;> simp [empty]
  · exact fun _ _ _ _ new added => addSpec_new added new

theorem setInput_eq {ports : HandlerPorts} (distinct : ports.Distinct) {p : InputPort}
    (mem : p ∈ ports.inputs) {f : InputPort → InputPort} (keeps : (f p).name = p.name) :
    ports.setInput (f p) =
      ⟨ports.inputs.map fun x => if x.name = p.name then f x else x, ports.outputs⟩ := by
  simp only [setInput, keeps, mk.injEq, and_true, List.map_inj_left]
  intro x mx
  split
  · rename_i same
    have found := input_of_mem distinct mx
    rw [same, input_of_mem distinct mem] at found
    rw [Option.some.inj found]
  · rfl

theorem setOutput_eq {ports : HandlerPorts} (distinct : ports.Distinct) {q : OutputPort}
    (mem : q ∈ ports.outputs) {f : OutputPort → OutputPort} (keeps : (f q).name = q.name) :
    ports.setOutput (f q) =
      ⟨ports.inputs, ports.outputs.map fun x => if x.name = q.name then f x else x⟩ := by
  simp only [setOutput, keeps, mk.injEq, true_and, List.map_inj_left]
  intro x mx
  split
  · rename_i same
    have found := output_of_mem distinct mx
    rw [same, output_of_mem distinct mem] at found
    rw [Option.some.inj found]
  · rfl

end HandlerPorts

def ConsumptionPolicy.slots : ConsumptionPolicy → Slots α
  | .latestWins => .latest none none false
  | .orderedAll capacity => .ordered capacity []

theorem make_ok {policy : ConsumptionPolicy} (room : policy ≠ .orderedAll 0) (label : String) :
    Cell.make policy label = .ok (Cell.ofSlots (policy.slots : Slots α) label) := by
  cases policy with
  | latestWins => rfl
  | orderedAll capacity =>
    cases capacity with
    | zero => exact absurd rfl room
    | succ n => rfl

def InputPort.fed (target : PortAddress) (n : CellId) (owner : HandlerId) (p : InputPort) :
    InputPort :=
  if target = ⟨owner, p.name⟩ then { p with cell := some n } else p

def OutputPort.feeding (source : PortAddress) (n : CellId) (owner : HandlerId) (q : OutputPort) :
    OutputPort :=
  if source = ⟨owner, q.name⟩ then { q with cells := q.cells ++ [n] } else q

/-- The handler after it was connected: the output at `source` writes to the cell `first` as well, and
the input at `target` reads from the cell `last`. All else stays. -/
def Handler.joined (source target : PortAddress) (first last : CellId) (h : Handler) : Handler :=
  { h with ports := ⟨h.ports.inputs.map (·.fed target last h.id),
      h.ports.outputs.map (·.feeding source first h.id)⟩ }

@[simp] theorem fed_spec (target : PortAddress) (n : CellId) (owner : HandlerId) (p : InputPort) :
    (p.fed target n owner).spec = p.spec := by
  unfold InputPort.fed
  split <;> rfl

@[simp] theorem feeding_spec (source : PortAddress) (n : CellId) (owner : HandlerId)
    (q : OutputPort) : (q.feeding source n owner).spec = q.spec := by
  unfold OutputPort.feeding
  split <;> rfl

@[simp] theorem fed_name (target : PortAddress) (n : CellId) (owner : HandlerId) (p : InputPort) :
    (p.fed target n owner).name = p.name := congrArg PortSpec.name (fed_spec target n owner p)

@[simp] theorem feeding_name (source : PortAddress) (n : CellId) (owner : HandlerId)
    (q : OutputPort) : (q.feeding source n owner).name = q.name :=
  congrArg PortSpec.name (feeding_spec source n owner q)

theorem fed_elsewhere {target : PortAddress} {owner : HandlerId} (other : target.handler ≠ owner)
    (n : CellId) (p : InputPort) : p.fed target n owner = p :=
  if_neg fun same => other (congrArg PortAddress.handler same)

theorem feeding_elsewhere {source : PortAddress} {owner : HandlerId}
    (other : source.handler ≠ owner) (n : CellId) (q : OutputPort) :
    q.feeding source n owner = q :=
  if_neg fun same => other (congrArg PortAddress.handler same)

theorem joined_distinct {source target : PortAddress} {first last : CellId} {h : Handler}
    (d : h.ports.Distinct) : (h.joined source target first last).ports.Distinct := by
  constructor
  · simpa [Handler.joined, Function.comp_def] using d.inputs
  · simpa [Handler.joined, Function.comp_def] using d.outputs

namespace Engine

def joined (source target : PortAddress) (policy : ConsumptionPolicy) (e : Engine) : Engine :=
  { e with
    cells := e.cells ++ [Cell.ofSlots policy.slots (source.text ++ " -> " ++ target.text)]
    handlers := e.handlers.map (·.joined source target e.cells.length e.cells.length) }

@[simp] theorem joined_ids (source target : PortAddress) (policy : ConsumptionPolicy) (e : Engine) :
    (e.joined source target policy).ids = e.ids := by
  simp [ids, joined, Handler.joined, Function.comp_def]

theorem Distinct.joined {e : Engine} (d : e.Distinct) (source target : PortAddress)
    (policy : ConsumptionPolicy) : (e.joined source target policy).Distinct := by
  refine ⟨by rw [joined_ids]; exact d.ids, fun h mem => ?_⟩
  obtain ⟨x, mx, rfl⟩ := List.mem_map.mp mem
  exact joined_distinct (d.ports x mx)

theorem handler_joined (source target : PortAddress) (policy : ConsumptionPolicy) (e : Engine)
    (id : HandlerId) : (e.joined source target policy).handler? id =
      (e.handler? id).map (·.joined source target e.cells.length e.cells.length) :=
  find_handler_map (f := (·.joined source target e.cells.length e.cells.length)) (fun _ => rfl)
    e.handlers id

theorem linkEnd_ok {port? : HandlerPorts → String → Option α} {a : PortAddress} {e : Engine}
    {port : α} (found : (e.handler? a.handler).bind (fun h => port? h.ports a.port) = some port) :
    e.linkEnd port? a = .ok port := by
  obtain ⟨h, at_id, at_name⟩ := Option.bind_eq_some_iff.mp found
  simp [linkEnd, at_id, at_name]

theorem attach_input {e : Engine} (d : e.Distinct) {target : PortAddress} {p : InputPort}
    (input : e.input? target = some p) (n : CellId) {h : Handler} (mem : h ∈ e.handlers) :
    changed target.handler (fun h => { h with ports := h.ports.setInput { p with cell := some n } })
      h = { h with ports := ⟨h.ports.inputs.map (·.fed target n h.id), h.ports.outputs⟩ } := by
  obtain ⟨consumer, mc, at_target, mp, name⟩ := mem_input input
  by_cases here : h.id = target.handler
  · have same : h = consumer := handler_unique d.ids mem mc (here.trans at_target.symm)
    subst consumer
    rw [changed, if_pos here]
    congr 1
    refine (HandlerPorts.setInput_eq (d.ports h mem) mp (f := fun p => { p with cell := some n })
      rfl).trans ?_
    congr 1
    apply List.map_congr_left
    intro x _
    have ends : target = ⟨h.id, x.name⟩ ↔ x.name = p.name := by
      rw [name, here]
      exact ⟨fun same => same ▸ rfl, fun same => by rw [same]⟩
    simp only [InputPort.fed, ends]
  · have untouched : h.ports.inputs.map (·.fed target n h.id) = h.ports.inputs := by
      simp [fed_elsewhere (Ne.symm here)]
    rw [changed, if_neg here, untouched]

theorem attach_output {e : Engine} (d : e.Distinct) {source : PortAddress} {q : OutputPort}
    (output : e.output? source = some q) (n : CellId) {h : Handler} (mem : h ∈ e.handlers) :
    changed source.handler
      (fun h => { h with ports := h.ports.setOutput { q with cells := q.cells ++ [n] } }) h =
      { h with ports := ⟨h.ports.inputs, h.ports.outputs.map (·.feeding source n h.id)⟩ } := by
  obtain ⟨producer, mq, at_source, mp, name⟩ := mem_output output
  by_cases here : h.id = source.handler
  · have same : h = producer := handler_unique d.ids mem mq (here.trans at_source.symm)
    subst producer
    rw [changed, if_pos here]
    congr 1
    refine (HandlerPorts.setOutput_eq (d.ports h mem) mp
      (f := fun q => { q with cells := q.cells ++ [n] }) rfl).trans ?_
    congr 1
    apply List.map_congr_left
    intro x _
    have ends : source = ⟨h.id, x.name⟩ ↔ x.name = q.name := by
      rw [name, here]
      exact ⟨fun same => same ▸ rfl, fun same => by rw [same]⟩
    simp only [OutputPort.feeding, ends]
  · have untouched : h.ports.outputs.map (·.feeding source n h.id) = h.ports.outputs := by
      simp [feeding_elsewhere (Ne.symm here)]
    rw [changed, if_neg here, untouched]

theorem link_joined {e : Engine} (d : e.Distinct) {source target : PortAddress} {q : OutputPort}
    {p : InputPort} (output : e.output? source = some q) (input : e.input? target = some p)
    {policy : ConsumptionPolicy} (room : policy ≠ .orderedAll 0) :
    e.link source target policy =
      (.ok ⟨source, target, e.cells.length⟩, e.joined source target policy) := by
  let n := e.cells.length
  let cell : Cell Message := Cell.ofSlots policy.slots (source.text ++ " -> " ++ target.text)
  let e₁ : Engine := { e with
    cells := e.cells ++ [cell]
    handlers := e.handlers.map fun h =>
      { h with ports := ⟨h.ports.inputs.map (·.fed target n h.id), h.ports.outputs⟩ } }
  have first : { e with cells := e.cells ++ [cell] }.modify target.handler (fun h =>
      { h with ports := h.ports.setInput { p with cell := some n } }) = e₁ := by
    simp only [modify, e₁]
    congr 1
    exact List.map_congr_left fun h mem => attach_input d input n mem
  have d₁ : e₁.Distinct := by
    refine ⟨?_, fun h mem => ?_⟩
    · simpa [ids, e₁, Function.comp_def] using d.ids
    · obtain ⟨x, mx, rfl⟩ := List.mem_map.mp mem
      exact ⟨by simpa [Function.comp_def] using (d.ports x mx).inputs, (d.ports x mx).outputs⟩
  -- Attaching the input leaves the outputs as they are, also where both ends are on one handler.
  have output₁ : e₁.output? source = some q := by
    obtain ⟨h, at_id, at_name⟩ := Option.bind_eq_some_iff.mp output
    have found : e₁.handler? source.handler = some { h with
        ports := ⟨h.ports.inputs.map (·.fed target n h.id), h.ports.outputs⟩ } := by
      have mapped := find_handler_map (f := fun h => { h with
        ports := ⟨h.ports.inputs.map (·.fed target n h.id), h.ports.outputs⟩ })
        (fun _ => rfl) e.handlers source.handler
      exact mapped.trans (by rw [show e.handlers.find? _ = _ from at_id]; rfl)
    simp only [output?, found, Option.bind_some]
    exact at_name
  have second : e₁.modify source.handler (fun h =>
      { h with ports := h.ports.setOutput { q with cells := q.cells ++ [n] } }) =
      e.joined source target policy := by
    simp only [modify, joined]
    congr 1
    refine (List.map_congr_left fun h mem => attach_output d₁ output₁ n mem).trans ?_
    simp only [e₁, List.map_map]
    rfl
  simp only [link, linkEnd_ok input, make_ok room]
  rw [first, linkEnd_ok output₁]
  exact congrArg _ second

theorem joined_input (source target : PortAddress) (policy : ConsumptionPolicy) (e : Engine)
    (a : PortAddress) : (e.joined source target policy).input? a =
      (e.input? a).map (·.fed target e.cells.length a.handler) := by
  unfold input?
  rw [handler_joined]
  cases found : e.handler? a.handler with
  | none => rfl
  | some h =>
    rw [← (mem_of_handler found).2]
    exact find_map_of_key (fed_name target _ h.id) _ _

theorem joined_output (source target : PortAddress) (policy : ConsumptionPolicy) (e : Engine)
    (a : PortAddress) : (e.joined source target policy).output? a =
      (e.output? a).map (·.feeding source e.cells.length a.handler) := by
  unfold output?
  rw [handler_joined]
  cases found : e.handler? a.handler with
  | none => rfl
  | some h =>
    rw [← (mem_of_handler found).2]
    exact find_map_of_key (feeding_name source _ h.id) _ _

/-! Adding a handler. -/

def newHandler (id : HandlerId) (b : Behaviour) (isAdapter : Bool) (ports : HandlerPorts)
    (uri : Option ActorUri) : Handler :=
  { id, isAdapter, ports, uri
    behaviour := b, state := .created, stats := ⟨0, 0, none⟩, bridged := none, call := none }

section
variable {e : Engine} {id : HandlerId} {b : Behaviour} {isAdapter : Bool} {ports : HandlerPorts}
  {uri : Option ActorUri}

theorem insert_handlers : (e.insert id b isAdapter ports uri).handlers =
    e.handlers ++ [newHandler id b isAdapter ports uri] := rfl

theorem insert_ids : (e.insert id b isAdapter ports uri).ids = e.ids ++ [id] := by
  simp [ids, insert]

theorem insert_distinct (d : e.Distinct) (free : id ∉ e.ids) (names : ports.Distinct) :
    (e.insert id b isAdapter ports uri).Distinct := by
  refine ⟨?_, fun h mem => ?_⟩
  · rw [insert_ids]
    exact d.ids.append (List.nodup_singleton _) (List.disjoint_singleton.mpr free)
  · rcases List.mem_append.mp mem with old | new
    · exact d.ports h old
    · rw [List.mem_singleton.mp new]
      exact names

theorem insert_old {x : HandlerId} {h : Handler} (found : e.handler? x = some h) :
    (e.insert id b isAdapter ports uri).handler? x = some h := by
  rw [handler?, insert_handlers, List.find?_append]
  simp [show e.handlers.find? _ = _ from found]

theorem insert_new (free : id ∉ e.ids) : (e.insert id b isAdapter ports uri).handler? id =
    some (newHandler id b isAdapter ports uri) := by
  rw [handler?, insert_handlers, List.find?_append,
    show e.handlers.find? _ = _ from handler_none_iff.mpr free]
  simp [newHandler]

theorem insert_old_input {a : PortAddress} {p : InputPort} (found : e.input? a = some p) :
    (e.insert id b isAdapter ports uri).input? a = some p := by
  obtain ⟨h, at_id, at_name⟩ := Option.bind_eq_some_iff.mp found
  simp [input?, insert_old at_id, at_name]

theorem insert_old_output {a : PortAddress} {q : OutputPort} (found : e.output? a = some q) :
    (e.insert id b isAdapter ports uri).output? a = some q := by
  obtain ⟨h, at_id, at_name⟩ := Option.bind_eq_some_iff.mp found
  simp [output?, insert_old at_id, at_name]

end

end Engine

/-! Adapters. -/

namespace Route

def inputSpec (kind : PayloadKind) (r : Route) : PortSpec :=
  (PortSpec.input inputPort kind).withCapabilities r.input

def outputSpec (kind : PayloadKind) (r : Route) : PortSpec :=
  (PortSpec.output outputPort kind).withCapabilities r.output

def ports (owner : HandlerId) (kind : PayloadKind) (r : Route) : HandlerPorts :=
  ⟨[⟨r.inputSpec kind, none⟩],
    [⟨r.outputSpec kind, PortAddress.text ⟨owner, outputPort⟩, [], 0⟩]⟩

theorem ofSpecs_adapter (owner : HandlerId) (kind : PayloadKind) (pool : Nat) (r : Route) :
    HandlerPorts.ofSpecs owner (r.adapter kind pool).ports = .ok (r.ports owner kind) := rfl

end Route

namespace Engine

theorem prepare_adapter (className : String) (kind : PayloadKind) (pool : Nat) (r : Route)
    (e : Engine) : e.prepare (.fresh className e.ids) (r.adapter kind pool) =
      .ok (r.ports (.fresh className e.ids) kind) := by
  have free := HandlerId.fresh_free className e.ids
  rw [prepare, if_neg (by simpa using free)]
  exact Route.ofSpecs_adapter _ _ _ _

theorem ports_distinct (owner : HandlerId) (kind : PayloadKind) (r : Route) :
    (r.ports owner kind).Distinct := ⟨by simp [Route.ports], by simp [Route.ports]⟩

theorem adapter_input {a : HandlerId} {e : Engine} (free : a ∉ e.ids) (b : Behaviour)
    (kind : PayloadKind) (r : Route) :
    (e.insert a b true (r.ports a kind) none).input? ⟨a, Route.inputPort⟩ =
      some ⟨r.inputSpec kind, none⟩ := by
  simp only [input?, insert_new free, Option.bind_some]
  rfl

theorem adapter_output {a : HandlerId} {e : Engine} (free : a ∉ e.ids) (b : Behaviour)
    (kind : PayloadKind) (r : Route) :
    (e.insert a b true (r.ports a kind) none).output? ⟨a, Route.outputPort⟩ =
      some ⟨r.outputSpec kind, PortAddress.text ⟨a, Route.outputPort⟩, [], 0⟩ := by
  simp only [output?, insert_new free, Option.bind_some]
  rfl

theorem linkAll_direct {e : Engine} (d : e.Distinct) {source target : PortAddress} {q : OutputPort}
    {p : InputPort} (output : e.output? source = some q) (input : e.input? target = some p)
    {plan : ConnectionPlan} (room : plan.policy ≠ .orderedAll 0) (route : plan.route = none) :
    linkAll source target plan e =
      (.ok (none, [⟨source, target, e.cells.length⟩]), e.joined source target plan.policy) := by
  simp only [linkAll, route, link_joined d output input room]

def bridged (source target : PortAddress) (a : HandlerId) (r : Route) (kind : PayloadKind)
    (policy : ConsumptionPolicy) (e : Engine) : Engine :=
  ((e.insert a (r.adapter kind e.settings.devicePoolId) true (r.ports a kind) none).joined
    source ⟨a, Route.inputPort⟩ policy).joined ⟨a, Route.outputPort⟩ target policy

theorem linkAll_bridged {e : Engine} (d : e.Distinct) {source target : PortAddress}
    {q : OutputPort} {p : InputPort} (output : e.output? source = some q)
    (input : e.input? target = some p) {plan : ConnectionPlan}
    (room : plan.policy ≠ .orderedAll 0) {r : Route} (route : plan.route = some r)
    {a : HandlerId} (fresh : a = .fresh r.className e.ids) :
    linkAll source target plan e =
      (.ok (some a, [⟨source, ⟨a, Route.inputPort⟩, e.cells.length⟩,
        ⟨⟨a, Route.outputPort⟩, target, e.cells.length + 1⟩]),
        e.bridged source target a r plan.kind plan.policy) := by
  have free : a ∉ e.ids := fresh ▸ HandlerId.fresh_free r.className e.ids
  let e₁ := e.insert a (r.adapter plan.kind e.settings.devicePoolId) true (r.ports a plan.kind) none
  have d₁ : e₁.Distinct := insert_distinct d free (ports_distinct a plan.kind r)
  have first := link_joined d₁ (insert_old_output output) (adapter_input free _ plan.kind r) room
  have output₂ := (joined_output source ⟨a, Route.inputPort⟩ plan.policy e₁
    ⟨a, Route.outputPort⟩).trans (congrArg _ (adapter_output free _ plan.kind r))
  have input₂ := (joined_input source ⟨a, Route.inputPort⟩ plan.policy e₁ target).trans
    (congrArg _ (insert_old_input input))
  have second := link_joined (d₁.joined source ⟨a, Route.inputPort⟩ plan.policy) output₂ input₂ room
  have count : (e₁.joined source ⟨a, Route.inputPort⟩ plan.policy).cells.length =
      e.cells.length + 1 := by
    simp [e₁, joined, insert]
  have prepared := prepare_adapter r.className plan.kind e.settings.devicePoolId r e
  rw [← fresh] at prepared
  simp only [linkAll, route, ← fresh, prepared]
  rw [first]
  dsimp only
  rw [second, count]
  rfl

end Engine

end Tickflow
