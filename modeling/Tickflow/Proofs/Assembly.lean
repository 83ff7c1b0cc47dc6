import Tickflow.Pipeline
import Tickflow.Proofs.Directory
import Tickflow.Proofs.Names
/-!
Pipelines put together by hand: each stage is added and then fed by the one before it, connections are
made where they are asked for, and the work ends at the first step that fails. A builder comes to the
same engine with the same stages.
-/
namespace Tickflow

inductive BuildCall where
  | stage (role : StageRole) (behaviour : Behaviour)
  | connect (source target : String)

def BuildCall.stage? : BuildCall → Option (StageRole × Behaviour)
  | .stage role behaviour => some (role, behaviour)
  | .connect _ _ => none

namespace Behaviour

def firstOutput? (b : Behaviour) : Option String :=
  (b.ports.find? (·.direction = .output)).map (·.name)

def firstInput? (b : Behaviour) : Option String :=
  (b.ports.find? (·.direction = .input)).map (·.name)

end Behaviour

structure Stage where
  role : StageRole
  behaviour : Behaviour
  id : HandlerId

namespace Stage

def listing (s : Stage) : HandlerId × Dispatcher := (s.id, s.behaviour.dispatcher)

def member (s : Stage) : HandlerId × Behaviour := (s.id, s.behaviour)

def uri (s : Stage) : ActorUri := ⟨ActorUri.localHost, s.behaviour.className, s.id.text⟩

def entry (key : Nat) (s : Stage) : ActorRef := ⟨s.uri, key, s.id, s.behaviour.className, false⟩

end Stage

/-- Who feeds the next stage: the last one, unless it ended its chain. -/
def feeder? (stages : List Stage) : Option Stage :=
  stages.getLast?.filter fun s => s.role ≠ .sink

namespace Hosted

def feed (p s : Stage) (h : Hosted) : Except Failure String × Hosted :=
  match p.behaviour.firstOutput?, s.behaviour.firstInput? with
  | none, _ => (.error (.fault (.portNotFound (p.id.text ++ " has no output port"))), h)
  | some _, none => (.error (.fault (.portNotFound (s.id.text ++ " has no input port"))), h)
  | some output, some input => h.connect ⟨p.id, output⟩ ⟨s.id, input⟩

def wire (before : List Stage) (s : Stage) (h : Hosted) : Option Failure × Hosted :=
  if s.role = .source then (none, h)
  else match feeder? before with
    | none => (some (.fault (.configuration (.nothingBefore s.id.text))), h)
    | some p =>
      match h.feed p s with
      | (.ok _, h) => (none, h)
      | (.error failure, h) => (some failure, h)

end Hosted

structure Assembly where
  failure : Option Failure
  stages : List Stage
  host : Hosted

namespace Assembly

def begun (h : Hosted) : Assembly := ⟨none, [], h⟩

def step (a : Assembly) : BuildCall → Assembly
  | .stage role behaviour =>
    match a.host.addHandler none behaviour with
    | .error fault => { a with failure := some (.fault fault) }
    | .ok (id, host) =>
      let s : Stage := ⟨role, behaviour, id⟩
      let (failure, host) := host.wire a.stages s
      ⟨failure, a.stages ++ [s], host⟩
  | .connect source target =>
    match a.host.connectTexts source target with
    | (.ok _, host) => { a with host }
    | (.error failure, host) => { a with failure := some failure, host }

/-- The work up to the first step that fails. -/
def carryOut : List BuildCall → Assembly → Assembly
  | [], a => a
  | c :: rest, a =>
    match (a.step c).failure with
    | none => carryOut rest (a.step c)
    | some _ => a.step c

end Assembly

namespace PipelineBuilder

def call (b : PipelineBuilder) : BuildCall → PipelineBuilder
  | .stage role behaviour => b.stage role behaviour
  | .connect source target => b.connect source target

def callAll (calls : List BuildCall) (b : PipelineBuilder) : PipelineBuilder := calls.foldl call b

theorem call_failed {b : PipelineBuilder} (failed : b.failure ≠ none) (c : BuildCall) :
    b.call c = b := by
  obtain ⟨failure, same⟩ := Option.ne_none_iff_exists'.mp failed
  cases c <;> simp [call, stage, connect, same]

theorem callAll_failed {b : PipelineBuilder} (failed : b.failure ≠ none) (calls : List BuildCall) :
    b.callAll calls = b := by
  induction calls with
  | nil => rfl
  | cons c rest ih => rw [callAll, List.foldl_cons, call_failed failed, ← callAll, ih]

end PipelineBuilder

theorem ActorRegistry.register_named {key : Nat} {id : HandlerId} {className : String}
    {isAdapter : Bool} {u : ActorUri} {r r' : ActorRegistry}
    (done : r.register key id className isAdapter = .ok (u, r')) :
    u = ⟨ActorUri.localHost, className, id.text⟩ ∧
      r'.actors = place ⟨u, key, id, className, isAdapter⟩ r.actors := by
  refine ⟨?_, (register_ok done).2.2⟩
  rcases ActorUri.makeLocal_cases className id with ⟨_, made⟩ | ⟨_, made⟩
  · simp only [register, made, bind, Except.bind, Except.mapError] at done
    split at done
    · cases done
    · cases done
      rfl
  · simp [register, made, bind, Except.bind, Except.mapError] at done

/-! The ports that a handler is given are in the order in which it declares them. -/

namespace HandlerPorts

theorem addSpec_names {owner : HandlerId} {spec : PortSpec} {ports ports' : HandlerPorts}
    (added : ports.addSpec owner spec = .ok ports') :
    ports'.inputs.map (·.name) = ports.inputs.map (·.name) ++
        ([spec].filter (·.direction = .input)).map (·.name) ∧
      ports'.outputs.map (·.name) = ports.outputs.map (·.name) ++
        ([spec].filter (·.direction = .output)).map (·.name) := by
  unfold addSpec at added
  cases direction : spec.direction with
  | input =>
    simp only [direction] at added
    split at added
    · cases added
    · cases added
      simp [direction, InputPort.name]
  | output =>
    simp only [direction] at added
    split at added
    · cases added
    · cases added
      simp [direction, OutputPort.name]

theorem ofSpecs_names {owner : HandlerId} {specs : List PortSpec} {ports : HandlerPorts}
    (made : ofSpecs owner specs = .ok ports) :
    ports.inputs.map (·.name) = (specs.filter (·.direction = .input)).map (·.name) ∧
      ports.outputs.map (·.name) = (specs.filter (·.direction = .output)).map (·.name) := by
  refine @ofSpecs_induct _ (fun specs ports =>
    ports.inputs.map (·.name) = (specs.filter (·.direction = .input)).map (·.name) ∧
      ports.outputs.map (·.name) = (specs.filter (·.direction = .output)).map (·.name))
    ⟨rfl, rfl⟩ ?_ _ _ made
  rintro specs spec ports ports' ⟨inputs, outputs⟩ added
  obtain ⟨input, output⟩ := addSpec_names added
  rw [input, output, inputs, outputs, List.filter_append, List.filter_append, List.map_append,
    List.map_append]
  exact ⟨rfl, rfl⟩

end HandlerPorts

namespace Engine

variable {e : Engine}

def firstPorts? (id : HandlerId) (e : Engine) : Option (Option String × Option String) :=
  (e.handler? id).map fun x => (x.ports.defaultOutput, x.ports.defaultInput)

theorem prepare_first {id : HandlerId} {b : Behaviour} {ports : HandlerPorts}
    (prepared : e.prepare id b = .ok ports) :
    ports.defaultOutput = b.firstOutput? ∧ ports.defaultInput = b.firstInput? := by
  unfold prepare at prepared
  split at prepared
  · cases prepared
  · obtain ⟨inputs, outputs⟩ := HandlerPorts.ofSpecs_names prepared
    constructor
    · rw [HandlerPorts.defaultOutput, ← List.head?_map, outputs, List.head?_map, List.head?_filter]
      rfl
    · rw [HandlerPorts.defaultInput, ← List.head?_map, inputs, List.head?_map, List.head?_filter]
      rfl

/-- Handlers that are not adapters. -/
def crew (e : Engine) : List (HandlerId × Behaviour) :=
  (e.handlers.filter fun x => !x.isAdapter).map fun x => (x.id, x.behaviour)

theorem insert_firstPorts {id x : HandlerId} {b : Behaviour} {isAdapter : Bool}
    {ports : HandlerPorts} {uri : Option ActorUri} {first : Option String × Option String}
    (found : e.firstPorts? x = some first) :
    (e.insert id b isAdapter ports uri).firstPorts? x = some first := by
  obtain ⟨h, there, same⟩ := Option.map_eq_some_iff.mp found
  rw [firstPorts?, insert_old there, Option.map_some, same]

theorem insert_crew (id : HandlerId) (b : Behaviour) (ports : HandlerPorts) (uri : Option ActorUri)
    (e : Engine) : (e.insert id b false ports uri).crew = e.crew ++ [(id, b)] := by
  rw [crew, insert_handlers, List.filter_append, List.map_append]
  rfl

/-- A connection that was made is the last one, and its adapter is no member of the crew. -/
structure Gained (c : Connection) (e e' : Engine) : Prop where
  alike : Alike e e'
  wired : e'.Wired
  connections : e'.connections = e.connections ++ [c]
  crew : e'.crew = e.crew
  firstPorts : ∀ id first, e.firstPorts? id = some first → e'.firstPorts? id = some first

theorem Gained.more {c : Connection} {e' : Engine} (gained : Gained c e e') :
    e.connections ⊆ e'.connections := by
  rw [gained.connections]
  exact List.subset_append_left _ _

theorem Extended.gained {c : Connection} {added : List Handler} {e' : Engine}
    (extended : Extended c added e e') (alike : Alike e e') (wired : e'.Wired) : Gained c e e' := by
  let joined := fun h : Handler =>
    h.joined c.source c.target e.cells.length (e'.cells.length - 1)
  refine ⟨alike, wired, extended.connections, ?_, ?_⟩
  · have adapters : added.filter (fun x => !x.isAdapter) = [] := by
      refine List.filter_eq_nil_iff.mpr fun x mem => ?_
      simp [(extended.new x mem).2]
    rw [crew, extended.handlers, List.filter_append, adapters, List.append_nil, List.filter_map,
      List.map_map]
    rfl
  · intro id first found
    obtain ⟨h, there, same⟩ := Option.map_eq_some_iff.mp found
    have still : e'.handler? id = some (joined h) := by
      rw [handler?, extended.handlers, List.find?_append,
        find_handler_map (f := joined) (fun _ => rfl),
        show e.handlers.find? _ = some h from there]
      rfl
    rw [firstPorts?, still, Option.map_some, ← same]
    simp [joined, Handler.joined, HandlerPorts.defaultOutput, HandlerPorts.defaultInput,
      Function.comp_def]

end Engine

namespace Hosted

open Engine

variable {h h' : Hosted}

theorem connect_gained (w : h.engine.Wired) (source target : PortAddress) :
    (∃ failure, h.connect source target = (.error failure, h)) ∨
      ∃ c e', c.source = source ∧ c.target = target ∧ Gained c h.engine e' ∧
        h.connect source target = (.ok c.id, { h with engine := e' }) := by
  have alike := connect_alike w source target
  have wired := w.connect source target
  rcases connect_cases w source target with ⟨q, p, c, added, e', _, same, at_source, at_target, _,
    extended, _⟩ | ⟨f, _, same⟩
  · obtain rfl : (h.engine.connectInPlace source target).2 = e' :=
      congrArg (fun r => r.2.engine) same
    exact .inr ⟨c, _, at_source, at_target, extended.gained alike wired, same⟩
  · exact .inl ⟨_, same⟩

theorem connectTexts_gained (w : h.engine.Wired) (source target : String) :
    (∃ failure, h.connectTexts source target = (.error failure, h)) ∨
      ∃ c e', Gained c h.engine e' ∧
        h.connectTexts source target = (.ok c.id, { h with engine := e' }) := by
  cases from_text : PortAddress.ofText? source with
  | error f => exact .inl ⟨.fault f, by simp [connectTexts, connectTextsInPlace, from_text]⟩
  | ok a =>
    cases to_text : PortAddress.ofText? target with
    | error f =>
      exact .inl ⟨.fault f, by simp [connectTexts, connectTextsInPlace, from_text, to_text]⟩
    | ok b =>
      have same : h.connectTexts source target = h.connect a b := by
        simp [connectTexts, connect, connectTextsInPlace, from_text, to_text]
      rw [same]
      rcases connect_gained w a b with refused | ⟨c, e', _, _, gained, made⟩
      · exact .inl refused
      · exact .inr ⟨c, e', gained, made⟩

theorem addHandler_granted {b : Behaviour} {id : HandlerId} {asked : Option String}
    (granted : h.addHandler asked b = .ok (id, h')) : h.added asked b = h' ∧
      ∃ ports uri, h.engine.prepare id b = .ok ports ∧
        h'.engine = h.engine.insert id b false ports uri ∧
        ((h.registry = none ∧ h'.registry = none) ∨ ∃ r r', h.registry = some r ∧
          h'.registry = some r' ∧ uri = some ⟨ActorUri.localHost, b.className, id.text⟩ ∧
          r'.actors = ActorRegistry.place ⟨⟨ActorUri.localHost, b.className, id.text⟩, h.engine.key,
            id, b.className, false⟩ r.actors) := by
  refine ⟨by rw [added, granted], ?_⟩
  rcases addHandler_cases asked b h with ⟨f, refused⟩ | ⟨x, ports, _, prepared,
    ⟨unused, made⟩ | ⟨r, uri, r', used, registered, made⟩⟩
  · rw [granted] at refused
    cases refused
  · rw [granted] at made
    cases made
    exact ⟨ports, none, prepared, rfl, .inl ⟨unused, rfl⟩⟩
  · rw [granted] at made
    cases made
    obtain ⟨rfl, placed⟩ := ActorRegistry.register_named registered
    exact ⟨ports, _, prepared, rfl, .inr ⟨r, r', used, rfl, rfl, placed⟩⟩

end Hosted

namespace Assembly

open Engine

variable {start : Hosted} {a : Assembly}

/-- The stages are members of the crew, with the ports and names that they should have. -/
structure Staffed (start : Hosted) (stages : List Stage) (h : Hosted) : Prop where
  idle : h.engine.state = .idle
  wired : h.engine.Wired
  here : h.engine.Local
  key : h.engine.key = start.engine.key
  registered : h.registry.isSome = start.registry.isSome
  crew : h.engine.crew = start.engine.crew ++ stages.map (·.member)
  ports : ∀ s ∈ stages, h.engine.firstPorts? s.id =
    some (s.behaviour.firstOutput?, s.behaviour.firstInput?)
  named : ∀ r, h.registry = some r → ∀ s ∈ stages,
    s.entry start.engine.key ∈ r.actors ∧ s.uri ∈ h.engine.names

theorem begun_staffed (idle : start.engine.state = .idle) (wired : start.engine.Wired)
    (here : start.engine.Local) : Staffed start [] start :=
  ⟨idle, wired, here, rfl, rfl, (List.append_nil _).symm, by simp, by simp⟩

theorem Staffed.connected {stages : List Stage} {h : Hosted} (staffed : Staffed start stages h)
    {c : Connection} {e' : Engine} (gained : Gained c h.engine e') :
    Staffed start stages { h with engine := e' } := by
  refine ⟨gained.alike.state.trans staffed.idle, gained.wired, ?_,
    gained.alike.key.trans staffed.key, staffed.registered, gained.crew.trans staffed.crew, ?_, ?_⟩
  · intro u mem
    rw [gained.alike.names] at mem
    exact staffed.here u mem
  · exact fun s mem => gained.firstPorts _ _ (staffed.ports s mem)
  · intro r used s mem
    rw [gained.alike.names]
    exact staffed.named r used s mem

theorem Staffed.added {stages : List Stage} {h h' : Hosted} (staffed : Staffed start stages h)
    (role : StageRole) {b : Behaviour} {id : HandlerId}
    (granted : h.addHandler none b = .ok (id, h')) :
    Staffed start (stages ++ [⟨role, b, id⟩]) h' := by
  obtain ⟨same, ports, uri, prepared, inserted, registry⟩ := Hosted.addHandler_granted granted
  have deed : h.Deed h' := same ▸ .add none b
  obtain ⟨key, naming⟩ := deed.naming staffed.wired staffed.here
  have names : h'.engine.names = h.engine.names ++ uri.toList := by
    rw [inserted, insert_names]
  refine ⟨?_, deed.wired staffed.wired, naming.stays_local staffed.here, key.trans staffed.key, ?_, ?_,
    ?_, ?_⟩
  · rw [inserted]
    exact staffed.idle
  · rw [← staffed.registered]
    rcases registry with ⟨unused, unused'⟩ | ⟨r, r', used, used', _⟩
    · rw [unused, unused']
    · rw [used, used']
      rfl
  · rw [inserted, insert_crew, staffed.crew, List.map_append, List.append_assoc]
    rfl
  · intro s mem
    rw [inserted]
    rcases List.mem_append.mp mem with old | new
    · exact insert_firstPorts (staffed.ports s old)
    · obtain ⟨output, input⟩ := prepare_first prepared
      rw [List.mem_singleton.mp new, firstPorts?, insert_new (prepare_new prepared).1, ← output,
        ← input]
      rfl
  · intro x used s mem
    rcases registry with ⟨_, unused⟩ | ⟨r, r', before, after, named, placed⟩
    · rw [unused] at used
      cases used
    · rw [after] at used
      cases used
      have entered := ActorRegistry.place_perm
        ⟨⟨ActorUri.localHost, b.className, id.text⟩, h.engine.key, id, b.className, false⟩ r.actors
      rw [placed, names, named, entered.mem_iff]
      rcases List.mem_append.mp mem with old | new
      · obtain ⟨there, known⟩ := staffed.named r before s old
        exact ⟨List.mem_cons_of_mem _ there, List.mem_append_left _ known⟩
      · rw [List.mem_singleton.mp new, ← staffed.key]
        exact ⟨List.mem_cons_self, List.mem_append_right _ (List.mem_singleton_self _)⟩

def Feeds (p s : Stage) (e : Engine) : Prop :=
  ∃ output input, p.behaviour.firstOutput? = some output ∧ s.behaviour.firstInput? = some input ∧
    ∃ c ∈ e.connections, c.source = ⟨p.id, output⟩ ∧ c.target = ⟨s.id, input⟩

/-- Every effect and every sink is fed by the stage before it, which is no sink. -/
def Chained (stages : List Stage) (e : Engine) : Prop :=
  ∀ before s after, stages = before ++ s :: after → s.role ≠ .source →
    ∃ p, before.getLast? = some p ∧ p.role ≠ .sink ∧ Feeds p s e

theorem chained_nil (e : Engine) : Chained [] e := by
  intro before s after split
  simp at split

theorem Feeds.more {p s : Stage} {e e' : Engine} (feeds : Feeds p s e)
    (more : e.connections ⊆ e'.connections) : Feeds p s e' := by
  obtain ⟨output, input, first, second, c, mem, ends⟩ := feeds
  exact ⟨output, input, first, second, c, more mem, ends⟩

theorem Chained.more {stages : List Stage} {e e' : Engine} (chained : Chained stages e)
    (more : e.connections ⊆ e'.connections) : Chained stages e' := by
  intro before s after split fed
  obtain ⟨p, last, ongoing, feeds⟩ := chained before s after split fed
  exact ⟨p, last, ongoing, feeds.more more⟩

theorem feeder_iff {stages : List Stage} {p : Stage} :
    feeder? stages = some p ↔ stages.getLast? = some p ∧ p.role ≠ .sink := by
  simp [feeder?, Option.filter_eq_some_iff]

theorem Chained.snoc {stages : List Stage} {s : Stage} {e : Engine} (chained : Chained stages e)
    (fed : s.role ≠ .source → ∃ p, feeder? stages = some p ∧ Feeds p s e) :
    Chained (stages ++ [s]) e := by
  intro before x after split wanting
  -- It is the stage at the end, or it was there before.
  rcases List.eq_nil_or_concat after with rfl | ⟨rest, y, rfl⟩
  · obtain ⟨rfl, same⟩ := List.append_inj' split rfl
    obtain rfl : s = x := by simpa using same
    obtain ⟨p, feeder, feeds⟩ := fed wanting
    obtain ⟨last, ongoing⟩ := feeder_iff.mp feeder
    exact ⟨p, last, ongoing, feeds⟩
  · have longer : stages ++ [s] = (before ++ x :: rest) ++ [y] := by simpa using split
    obtain ⟨rfl, _⟩ := List.append_inj' longer rfl
    exact chained before x rest rfl wanting

theorem feed_cases {h : Hosted} (w : h.engine.Wired) (p s : Stage) :
    (∃ failure, h.feed p s = (.error failure, h)) ∨
      ∃ c e', Gained c h.engine e' ∧ Feeds p s e' ∧
        h.feed p s = (.ok c.id, { h with engine := e' }) := by
  unfold Hosted.feed
  cases output : p.behaviour.firstOutput? with
  | none => exact .inl ⟨_, rfl⟩
  | some q =>
    cases input : s.behaviour.firstInput? with
    | none => exact .inl ⟨_, rfl⟩
    | some i =>
      rcases Hosted.connect_gained w ⟨p.id, q⟩ ⟨s.id, i⟩ with
        refused | ⟨c, e', source, target, gained, same⟩
      · exact .inl refused
      · refine .inr ⟨c, e', gained, ⟨q, i, output, input, c, ?_, source, target⟩, same⟩
        rw [gained.connections]
        exact List.mem_append_right _ (List.mem_singleton_self c)

theorem wire_cases {h : Hosted} (w : h.engine.Wired) (stages : List Stage) (s : Stage) :
    (∃ failure, h.wire stages s = (some failure, h)) ∨
    (s.role = .source ∧ h.wire stages s = (none, h)) ∨
      ∃ p c e', feeder? stages = some p ∧ Gained c h.engine e' ∧ Feeds p s e' ∧
        h.wire stages s = (none, { h with engine := e' }) := by
  unfold Hosted.wire
  split
  · rename_i source
    exact .inr (.inl ⟨source, rfl⟩)
  · split
    · exact .inl ⟨_, rfl⟩
    · rename_i p feeder
      rcases feed_cases w p s with ⟨failure, same⟩ | ⟨c, e', gained, feeds, same⟩
      · exact .inl ⟨failure, by rw [same]⟩
      · exact .inr (.inr ⟨p, c, e', feeder, gained, feeds, by rw [same]⟩)

inductive Outcome (a : Assembly) : BuildCall → Assembly → Prop where
  | refused (c : BuildCall) (failure : Failure) : Outcome a c { a with failure := some failure }
  | unfed {role : StageRole} {b : Behaviour} {id : HandlerId} {h : Hosted}
      (granted : a.host.addHandler none b = .ok (id, h)) (failure : Failure) :
      Outcome a (.stage role b) ⟨some failure, a.stages ++ [⟨role, b, id⟩], h⟩
  | first {b : Behaviour} {id : HandlerId} {h : Hosted}
      (granted : a.host.addHandler none b = .ok (id, h)) :
      Outcome a (.stage .source b) ⟨none, a.stages ++ [⟨.source, b, id⟩], h⟩
  | fed {role : StageRole} {b : Behaviour} {id : HandlerId} {h : Hosted} {p : Stage}
      {c : Connection} {e' : Engine} (granted : a.host.addHandler none b = .ok (id, h))
      (feeder : feeder? a.stages = some p) (gained : Gained c h.engine e')
      (feeds : Feeds p ⟨role, b, id⟩ e') : Outcome a (.stage role b)
        ⟨none, a.stages ++ [⟨role, b, id⟩], { h with engine := e' }⟩
  | linked {source target : String} {c : Connection} {e' : Engine}
      (gained : Gained c a.host.engine e') :
      Outcome a (.connect source target) { a with host := { a.host with engine := e' } }

theorem step_outcome (staffed : Staffed start a.stages a.host) (c : BuildCall) :
    Outcome a c (a.step c) := by
  cases c with
  | stage role b =>
    simp only [step]
    cases granted : a.host.addHandler none b with
    | error fault => exact .refused _ _
    | ok made =>
      obtain ⟨id, h⟩ := made
      have added := staffed.added role granted
      rcases wire_cases added.wired a.stages ⟨role, b, id⟩ with
        ⟨failure, same⟩ | ⟨rfl, same⟩ | ⟨p, c, e', feeder, gained, feeds, same⟩
      · simp only [same]
        exact .unfed granted failure
      · simp only [same]
        exact .first granted
      · simp only [same]
        exact .fed granted feeder gained feeds
  | connect source target =>
    simp only [step]
    rcases Hosted.connectTexts_gained staffed.wired source target with
      ⟨failure, same⟩ | ⟨c, e', gained, same⟩
    · simp only [same]
      exact .refused _ _
    · simp only [same]
      exact .linked gained

theorem Outcome.staffed {a' : Assembly} {c : BuildCall} (outcome : Outcome a c a')
    (staffed : Staffed start a.stages a.host) : Staffed start a'.stages a'.host := by
  cases outcome with
  | refused => exact staffed
  | unfed granted => exact staffed.added _ granted
  | first granted => exact staffed.added _ granted
  | fed granted _ gained => exact (staffed.added _ granted).connected gained
  | linked gained => exact staffed.connected gained

theorem granted_more {h h' : Hosted} {b : Behaviour} {id : HandlerId}
    (granted : h.addHandler none b = .ok (id, h')) :
    h.engine.connections ⊆ h'.engine.connections := by
  obtain ⟨_, _, _, _, inserted, _⟩ := Hosted.addHandler_granted granted
  rw [inserted]
  exact List.Subset.refl _

def roles (stages : List Stage) : List (StageRole × Behaviour) :=
  stages.map fun s => (s.role, s.behaviour)

theorem Outcome.chained {a' : Assembly} {c : BuildCall} (outcome : Outcome a c a')
    (fine : a'.failure = none) (chained : Chained a.stages a.host.engine) :
    roles a'.stages = roles a.stages ++ c.stage?.toList ∧ Chained a'.stages a'.host.engine := by
  cases outcome with
  | refused => cases fine
  | unfed => cases fine
  | first granted =>
    have kept := chained.more (granted_more granted)
    exact ⟨List.map_append, kept.snoc fun wanting => absurd rfl wanting⟩
  | fed granted feeder gained feeds =>
    have kept := (chained.more (granted_more granted)).more gained.more
    exact ⟨List.map_append, kept.snoc fun _ => ⟨_, feeder, feeds⟩⟩
  | linked gained => exact ⟨(List.append_nil _).symm, chained.more gained.more⟩

theorem carryOut_staffed (calls : List BuildCall) (staffed : Staffed start a.stages a.host) :
    Staffed start (carryOut calls a).stages (carryOut calls a).host := by
  induction calls generalizing a with
  | nil => exact staffed
  | cons c rest ih =>
    have next := (step_outcome staffed c).staffed staffed
    unfold carryOut
    split
    · exact ih next
    · exact next

theorem carryOut_chained (calls : List BuildCall) (staffed : Staffed start a.stages a.host)
    (chained : Chained a.stages a.host.engine) (fine : (carryOut calls a).failure = none) :
    roles (carryOut calls a).stages = roles a.stages ++ calls.filterMap (·.stage?) ∧
      Chained (carryOut calls a).stages (carryOut calls a).host.engine := by
  induction calls generalizing a with
  | nil => exact ⟨(List.append_nil _).symm, chained⟩
  | cons c rest ih =>
    have outcome := step_outcome staffed c
    cases stepped : (a.step c).failure with
    | some failure =>
      simp only [carryOut, stepped] at fine
      cases fine
    | none =>
      simp only [carryOut, stepped] at fine ⊢
      obtain ⟨order, chained'⟩ := outcome.chained stepped chained
      obtain ⟨order', chained''⟩ := ih (outcome.staffed staffed) chained' fine
      refine ⟨?_, chained''⟩
      rw [order', order, List.append_assoc, List.filterMap_cons]
      cases c.stage? <;> rfl

theorem wire_run {within : Engine → Prop} (stages : List Stage) (s : Stage) (h : Hosted) :
    Hosted.Run within h (h.wire stages s).2 := by
  unfold Hosted.wire
  split
  · exact .refl
  · split
    · exact .refl
    · rename_i p _
      have fed : Hosted.Run within h (h.feed p s).2 := by
        unfold Hosted.feed
        split
        · exact .refl
        · exact .refl
        · exact .single (.connect _ _)
      split <;> simpa [*] using fed

theorem step_run {within : Engine → Prop} (a : Assembly) (c : BuildCall) :
    Hosted.Run within a.host (a.step c).host := by
  cases c with
  | stage role b =>
    simp only [step]
    cases granted : a.host.addHandler none b with
    | error fault => exact .refl
    | ok made =>
      obtain ⟨id, h⟩ := made
      have added : a.host.added none b = h := (Hosted.addHandler_granted granted).1
      exact .head (added ▸ .add none b) (wire_run a.stages ⟨role, b, id⟩ h)
  | connect source target =>
    have linked : Hosted.Run within a.host (a.host.connectTexts source target).2 :=
      .single (.connectTexts source target)
    simp only [step]
    split <;> simpa [*] using linked

theorem carryOut_run {within : Engine → Prop} (calls : List BuildCall) (a : Assembly) :
    Hosted.Run within a.host (carryOut calls a).host := by
  induction calls generalizing a with
  | nil => exact .refl
  | cons c rest ih =>
    unfold carryOut
    split
    · exact (step_run a c).trans (ih (a.step c))
    · exact step_run a c

/-! A builder. -/

structure Follows (b : PipelineBuilder) (a : Assembly) : Prop where
  host : b.host = some a.host
  stages : b.stages = a.stages.map (·.listing)
  previous : b.previous = (feeder? a.stages).map (·.id)
  failure : b.failure = a.failure

theorem Follows.build {b : PipelineBuilder} (follows : Follows b a) :
    b.build = match a.failure with
      | some f => .error f
      | none => if a.stages = [] then .error (.fault (.configuration .noStages))
        else .ok (a.host, a.stages.map (·.listing)) := by
  rw [PipelineBuilder.build, follows.failure, follows.host, follows.stages]
  cases a.failure with
  | some f => rfl
  | none => cases a.stages <;> rfl

theorem Follows.built {b : PipelineBuilder} (follows : Follows b a)
    {built : Hosted × List (HandlerId × Dispatcher)} (done : b.build = .ok built) :
    built.2 = a.stages.map (·.listing) := by
  rw [follows.build] at done
  split at done
  · cases done
  · split at done
    · cases done
    · cases done
      rfl

theorem feed_same {h : Hosted} {p s : Stage}
    (before : h.engine.firstPorts? p.id = some (p.behaviour.firstOutput?, p.behaviour.firstInput?))
    (here : h.engine.firstPorts? s.id = some (s.behaviour.firstOutput?, s.behaviour.firstInput?)) :
    PipelineBuilder.feed p.id s.id h.engine = match h.feed p s with
      | (.ok _, h') => .ok h'.engine
      | (.error failure, _) => .error failure := by
  obtain ⟨x, found, first⟩ := Option.map_eq_some_iff.mp before
  obtain ⟨y, reached, second⟩ := Option.map_eq_some_iff.mp here
  have output : x.ports.defaultOutput = p.behaviour.firstOutput? := congrArg Prod.fst first
  have input : y.ports.defaultInput = s.behaviour.firstInput? := congrArg Prod.snd second
  simp only [PipelineBuilder.feed, Hosted.feed, found, reached, Option.bind_some, output, input]
  cases p.behaviour.firstOutput? with
  | none => rfl
  | some q =>
    cases s.behaviour.firstInput? with
    | none => rfl
    | some i =>
      simp only [Engine.connect, onSuccess, Hosted.connect]
      rcases h.engine.connectInPlace ⟨p.id, q⟩ ⟨s.id, i⟩ with ⟨_ | _, e'⟩ <;> rfl

theorem wire_same {stages : List Stage} {s : Stage} {h : Hosted}
    (staffed : Staffed start (stages ++ [s]) h) (listed : List (HandlerId × Dispatcher)) :
    PipelineBuilder.wire s.role s.id h ⟨some h, listed, (feeder? stages).map (·.id), none⟩ =
      ⟨some (h.wire stages s).2, listed, (feeder? stages).map (·.id), (h.wire stages s).1⟩ := by
  by_cases source : s.role = .source
  · simp [PipelineBuilder.wire, Hosted.wire, source]
  · cases feeder : feeder? stages with
    | none => cases role : s.role <;> simp_all [PipelineBuilder.wire, Hosted.wire]
    | some p =>
      obtain ⟨last, _⟩ := feeder_iff.mp feeder
      have fed := feed_same (staffed.ports p (List.mem_append_left _ (List.mem_of_getLast? last)))
        (staffed.ports s (List.mem_append_right _ (List.mem_singleton_self s)))
      -- The builder drops the engine of a failed connection; nothing was changed in it.
      rcases feed_cases staffed.wired p s with ⟨failure, same⟩ | ⟨c, e', _, _, same⟩
      · rw [same] at fed
        cases role : s.role <;> simp_all [PipelineBuilder.wire, Hosted.wire]
      · rw [same] at fed
        cases role : s.role <;> simp_all [PipelineBuilder.wire, Hosted.wire]

theorem connectTexts_same (h : Hosted) (source target : String) :
    h.engine.connectTexts source target = match h.connectTexts source target with
      | (.ok id, h') => .ok (id, h'.engine)
      | (.error failure, _) => .error failure := by
  simp only [Engine.connectTexts, onSuccess, Hosted.connectTexts]
  rcases h.engine.connectTextsInPlace source target with ⟨_ | _, e'⟩ <;> rfl

theorem feeder_snoc (stages : List Stage) (s : Stage) :
    feeder? (stages ++ [s]) = if s.role = .sink then none else some s := by
  simp [feeder?, Option.filter_some]

theorem step_follows {b : PipelineBuilder} (staffed : Staffed start a.stages a.host)
    (follows : Follows b a) (fine : a.failure = none) (c : BuildCall) :
    Follows (b.call c) (a.step c) := by
  obtain ⟨host, stages, previous, failure⟩ := follows
  obtain ⟨_, _, _, _⟩ := b
  obtain ⟨_, made, h⟩ := a
  simp only at host stages previous failure fine
  subst host stages previous failure fine
  cases c with
  | stage role b =>
    simp only [PipelineBuilder.call, PipelineBuilder.stage, step]
    cases granted : h.addHandler none b with
    | error fault => exact ⟨rfl, rfl, rfl, rfl⟩
    | ok new =>
      obtain ⟨id, h'⟩ := new
      have same := wire_same (staffed.added role granted)
        (made.map (·.listing) ++ [(id, b.dispatcher)])
      simp only at same ⊢
      rw [same]
      refine ⟨rfl, ?_, ?_, rfl⟩
      · rw [List.map_append]
        rfl
      · rw [feeder_snoc]
        split <;> rfl
  | connect source target =>
    simp only [PipelineBuilder.call, PipelineBuilder.connect, step, connectTexts_same]
    rcases Hosted.connectTexts_gained staffed.wired source target with
      ⟨failure, same⟩ | ⟨c, e', _, same⟩
    · simp only [same]
      exact ⟨rfl, rfl, rfl, rfl⟩
    · simp only [same]
      exact ⟨rfl, rfl, rfl, rfl⟩

theorem callAll_follows {b : PipelineBuilder} (calls : List BuildCall)
    (staffed : Staffed start a.stages a.host) (follows : Follows b a) (fine : a.failure = none) :
    Follows (b.callAll calls) (carryOut calls a) := by
  induction calls generalizing a b with
  | nil => exact follows
  | cons c rest ih =>
    have next := step_follows staffed follows fine c
    rw [PipelineBuilder.callAll, List.foldl_cons, ← PipelineBuilder.callAll]
    cases stepped : (a.step c).failure with
    | none =>
      simp only [carryOut, stepped]
      exact ih ((step_outcome staffed c).staffed staffed) next stepped
    | some failure =>
      have failed : (b.call c).failure ≠ none := by simp [next.failure, stepped]
      simp only [carryOut, stepped]
      rw [PipelineBuilder.callAll_failed failed]
      exact next

end Assembly

end Tickflow
