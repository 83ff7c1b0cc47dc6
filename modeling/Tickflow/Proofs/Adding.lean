import Tickflow.Proofs.Assembly
import Tickflow.Proofs.Spelling
/-!
Adding a handler, step by step. Which demand is the first one not met when it cannot be added, and what
is new when it can: one handler, one node, and one entry of the registry that its engine uses.
-/
namespace Tickflow

/-! The ports that a handler declares. -/

def NamedApart (specs : List PortSpec) : Prop := (specs.map fun s => (s.direction, s.name)).Nodup

instance (specs : List PortSpec) : Decidable (NamedApart specs) :=
  inferInstanceAs (Decidable (List.Nodup _))

def Repeats (spec : PortSpec) (specs : List PortSpec) : Prop :=
  ∃ s ∈ specs, s.direction = spec.direction ∧ s.name = spec.name

theorem repeats_iff {spec : PortSpec} {specs : List PortSpec} :
    Repeats spec specs ↔ (spec.direction, spec.name) ∈ specs.map fun s => (s.direction, s.name) := by
  simp [Repeats]

theorem apart_concat {spec : PortSpec} {specs : List PortSpec} :
    NamedApart (specs ++ [spec]) ↔ NamedApart specs ∧ ¬ Repeats spec specs := by
  rw [repeats_iff, NamedApart, List.map_append, List.map_singleton, List.nodup_append_comm,
    List.singleton_append, List.nodup_cons, and_comm, NamedApart]

theorem apart_or_repeats (specs : List PortSpec) : NamedApart specs ∨ ∃ front spec rest,
    specs = front ++ spec :: rest ∧ NamedApart front ∧ Repeats spec front := by
  induction specs using List.reverseRecOn with
  | nil => exact .inl .nil
  | append_singleton specs last ih =>
    rcases ih with apart | ⟨front, spec, rest, rfl, apart, twice⟩
    · by_cases twice : Repeats last specs
      · exact .inr ⟨specs, last, [], rfl, apart, twice⟩
      · exact .inl (apart_concat.mpr ⟨apart, twice⟩)
    · exact .inr ⟨front, spec, rest ++ [last], by simp, apart, twice⟩

namespace HandlerPorts

def declared (owner : HandlerId) (specs : List PortSpec) : HandlerPorts where
  inputs := (specs.filter (·.direction = .input)).map fun s => ⟨s, none⟩
  outputs := (specs.filter (·.direction = .output)).map fun s =>
    ⟨s, PortAddress.text ⟨owner, s.name⟩, [], 0⟩

variable {owner : HandlerId} {spec : PortSpec} {specs : List PortSpec}

theorem declared_unconnected (owner : HandlerId) (specs : List PortSpec) :
    (declared owner specs).Unconnected := by
  constructor
  · intro p mem
    obtain ⟨_, _, rfl⟩ := List.mem_map.mp mem
    rfl
  · intro q mem
    obtain ⟨_, _, rfl⟩ := List.mem_map.mp mem
    rfl

theorem declared_specs (owner : HandlerId) (specs : List PortSpec) :
    (declared owner specs).inputs.map (·.spec) = specs.filter (·.direction = .input) ∧
      (declared owner specs).outputs.map (·.spec) = specs.filter (·.direction = .output) := by
  simp [declared, Function.comp_def]

theorem declared_input (owner : HandlerId) :
    ((declared owner specs).input? spec.name).isSome = true ↔
    ∃ s ∈ specs, s.direction = .input ∧ s.name = spec.name := by
  simp [declared, input?, InputPort.name, List.find?_isSome]

theorem declared_output (owner : HandlerId) :
    ((declared owner specs).output? spec.name).isSome = true ↔
    ∃ s ∈ specs, s.direction = .output ∧ s.name = spec.name := by
  simp [declared, output?, OutputPort.name, List.find?_isSome]

theorem addSpec_new_name (new : ¬ Repeats spec specs) :
    (declared owner specs).addSpec owner spec = .ok (declared owner (specs ++ [spec])) := by
  unfold addSpec
  cases direction : spec.direction with
  | input =>
    have absent : ¬ ((declared owner specs).input? spec.name).isSome = true := by
      rw [declared_input, ← direction]
      exact new
    simp only [absent]
    simp [declared, direction]
  | output =>
    have absent : ¬ ((declared owner specs).output? spec.name).isSome = true := by
      rw [declared_output, ← direction]
      exact new
    simp only [absent]
    simp [declared, direction]

theorem addSpec_repeated (twice : Repeats spec specs) :
    (declared owner specs).addSpec owner spec =
      .error (.configuration (.portTwice owner.text spec.name)) := by
  unfold addSpec
  unfold Repeats at twice
  cases direction : spec.direction with
  | input =>
    rw [direction, ← declared_input owner] at twice
    simp [twice]
  | output =>
    rw [direction, ← declared_output owner] at twice
    simp [twice]

theorem ofSpecs_apart (apart : NamedApart specs) :
    ofSpecs owner specs = .ok (declared owner specs) := by
  induction specs using List.reverseRecOn with
  | nil => rfl
  | append_singleton specs last ih =>
    obtain ⟨before, new⟩ := apart_concat.mp apart
    have others := ih before
    unfold ofSpecs at others ⊢
    rw [List.foldlM_append, others]
    change (declared owner specs).addSpec owner last >>= pure = _
    rw [addSpec_new_name new]
    rfl

theorem ofSpecs_repeated {rest : List PortSpec} (apart : NamedApart specs)
    (twice : Repeats spec specs) : ofSpecs owner (specs ++ spec :: rest) =
      .error (.configuration (.portTwice owner.text spec.name)) := by
  have others : ofSpecs owner specs = .ok (declared owner specs) := ofSpecs_apart apart
  unfold ofSpecs at others ⊢
  rw [List.foldlM_append, others]
  change (declared owner specs).addSpec owner spec >>= rest.foldlM (·.addSpec owner ·) = _
  rw [addSpec_repeated twice]
  rfl

end HandlerPorts

/-! The registry. -/

namespace ActorRegistry

/-- Naming a handler, step by step. What was changed before a failure stays changed, here and
below. -/
def registerInPlace (x : ActorRecord) (r : ActorRegistry) : Except Fault ActorUri × ActorRegistry :=
  match ActorUri.makeLocal x.className x.handler.text with
  | .error f => (.error (.invalidUri f), r)
  | .ok uri =>
    if (r.find? uri).isSome then (.error (.duplicateUri uri.text), r)
    else (.ok uri, { r with actors := place { x.entry with uri } r.actors })

variable {r : ActorRegistry} {x : ActorRecord}

theorem registerInPlace_eq (x : ActorRecord) (r : ActorRegistry) : r.registerInPlace x =
    match r.register x.engine x.handler x.className x.isAdapter with
    | .ok (uri, r') => (.ok uri, r')
    | .error f => (.error f, r) := by
  unfold registerInPlace register
  cases ActorUri.makeLocal x.className x.handler.text with
  | error f => rfl
  | ok uri =>
    simp only [Except.mapError, bind, Except.bind]
    cases (r.find? uri).isSome with
    | true => rfl
    | false => rfl

structure Free (x : ActorRecord) (r : ActorRegistry) : Prop where
  named : NamesClass x.className
  unused : ∀ a ∈ r.actors, a.uri ≠ x.key.uri

theorem makeLocal_named (named : NamesClass x.className) :
    ActorUri.makeLocal x.className x.handler.text = .ok x.key.uri := by
  rcases ActorUri.makeLocal_cases x.className x.handler with ⟨_, made⟩ | ⟨bad, _⟩
  · exact made
  · exact absurd named bad

theorem register_free (free : Free x r) :
    r.registerInPlace x = (.ok x.key.uri, { r with actors := place x.entry r.actors }) := by
  have absent : r.find? x.key.uri = none := by simpa [find?] using free.unused
  unfold registerInPlace
  rw [makeLocal_named free.named]
  simp only [absent, Option.isSome_none, Bool.false_eq_true, ↓reduceIte]
  rfl

theorem register_misnamed (bad : ¬ NamesClass x.className) : r.registerInPlace x =
    (.error (.invalidUri (.invalidClassName x.key.uri.text x.className)), r) := by
  unfold registerInPlace
  rcases ActorUri.makeLocal_cases x.className x.handler with ⟨named, _⟩ | ⟨_, made⟩
  · exact absurd named bad
  · rw [made]
    rfl

theorem register_taken (named : NamesClass x.className) {a : ActorRef} (mem : a ∈ r.actors)
    (same : a.uri = x.key.uri) :
    r.registerInPlace x = (.error (.duplicateUri x.key.uri.text), r) := by
  have taken : (r.find? x.key.uri).isSome = true := by
    rw [find?, List.find?_isSome]
    exact ⟨a, mem, beq_iff_eq.mpr same⟩
  unfold registerInPlace
  rw [makeLocal_named named]
  simp only [taken, ↓reduceIte]

theorem place_between (a : ActorRef) (actors : List ActorRef) :
    ∃ front back, actors = front ++ back ∧ place a actors = front ++ a :: back := by
  induction actors with
  | nil => exact ⟨[], [], rfl, rfl⟩
  | cons b rest ih =>
    unfold place
    split
    · exact ⟨[], b :: rest, rfl, rfl⟩
    · obtain ⟨front, back, same, placed⟩ := ih
      exact ⟨b :: front, back, by rw [same]; rfl, by rw [placed]; rfl⟩

theorem find_placed {a : ActorRef} {actors : List ActorRef} (unused : ∀ b ∈ actors, b.uri ≠ a.uri) :
    (⟨place a actors⟩ : ActorRegistry).find? a.uri = some a := by
  obtain ⟨front, back, rfl, placed⟩ := place_between a actors
  have passed : front.find? (fun b => b.uri == a.uri) = none := by
    rw [List.find?_eq_none]
    intro b mem same
    exact unused b (List.mem_append_left _ mem) (beq_iff_eq.mp same)
  rw [find?, placed, List.find?_append, passed]
  simp

theorem connect_placed (free : Free x r) :
    (⟨place x.entry r.actors⟩ : ActorRegistry).connect x.key.uri.text = .ok (.here x.entry) := by
  have host : ActorUri.NamesHost x.key.uri.host := 
    ActorUri.isHost_iff.mp (show ActorUri.isHost ActorUri.localHost.toList = true by decide)
  have named : x.key.uri.Named := ⟨host, free.named, isIdText_iff.mp x.handler.valid⟩
  have read : ActorUri.ofText? x.key.uri.text = .ok x.key.uri :=
    named.read_iff.mpr (show '/' ∉ ActorUri.localHost.toList by decide)
  have here : x.key.uri.isLocal = true := show ActorUri.isLocalHost ActorUri.localHost = true by decide
  have found : (⟨place x.entry r.actors⟩ : ActorRegistry).find? x.key.uri = some x.entry :=
    find_placed (a := x.entry) free.unused
  have looked : (⟨place x.entry r.actors⟩ : ActorRegistry).lookup? x.key.uri = some x.entry := by
    rw [lookup?, if_pos here]
    exact found
  simp [connect, read, here, looked, Except.mapError, bind, Except.bind, pure, Except.pure]

end ActorRegistry

namespace Hosted

open ActorRegistry (Free place)
open Engine (Quiet make)

def recordOf (x : HandlerId) (b : Behaviour) (h : Hosted) : ActorRecord :=
  ⟨h.engine.key, x, b.className, false⟩

def nameInPlace (x : HandlerId) (b : Behaviour) (h : Hosted) :
    Except Fault (Option ActorUri) × Hosted :=
  match h.registry with
  | none => (.ok none, h)
  | some r =>
    let (named, r) := r.registerInPlace (h.recordOf x b)
    (named.map some, { h with registry := some r })

/-- The handler is named before it is in any table of the engine. -/
def addInPlace (id : Option String) (b : Behaviour) (h : Hosted) : Except Fault HandlerId × Hosted :=
  match h.engine.ensureIdle "add a handler" with
  | .error f => (.error f, h)
  | .ok () =>
    match h.engine.chooseId id b with
    | .error f => (.error f, h)
    | .ok x =>
      match h.engine.prepare x b with
      | .error f => (.error f, h)
      | .ok ports =>
        match h.nameInPlace x b with
        | (.error f, h) => (.error f, h)
        | (.ok uri, h) => (.ok x, { h with engine := h.engine.insert x b false ports uri })

theorem addInPlace_eq (id : Option String) (b : Behaviour) (h : Hosted) : h.addInPlace id b =
    match h.addHandler id b with
    | .ok (x, h') => (.ok x, h')
    | .error f => (.error f, h) := by
  obtain ⟨e, registry⟩ := h
  unfold addInPlace addHandler
  cases e.ensureIdle "add a handler" with
  | error f => rfl
  | ok _ =>
    cases e.chooseId id b with
    | error f => rfl
    | ok x =>
      simp only [bind, Except.bind]
      cases e.prepare x b with
      | error f => rfl
      | ok ports =>
        cases registry with
        | none => rfl
        | some r =>
          simp only [nameInPlace, ActorRegistry.registerInPlace_eq, recordOf]
          cases r.register e.key x b.className false with
          | error f => rfl
          | ok named => rfl

def Chosen (id : Option String) (b : Behaviour) (x : HandlerId) (h : Hosted) : Prop :=
  id = some x.text ∨ (id = none ∧ x = .fresh b.className h.engine.ids)

/-- All that is demanded of a handler that shall be added. -/
structure Addable (id : Option String) (b : Behaviour) (x : HandlerId) (h : Hosted) : Prop where
  idle : h.engine.state = .idle
  chosen : Chosen id b x h
  new : x ∉ h.engine.ids
  apart : NamedApart b.ports
  free : ∀ r, h.registry = some r → Free (h.recordOf x b) r

/-- The first demand that is not met, with the fault that says so. Each rule has the earlier demands as
premises. -/
inductive Unaddable (id : Option String) (b : Behaviour) (h : Hosted) : Fault → Prop where
  | running (now : h.engine.state = .running) :
      Unaddable id b h (.runtime (.whileRunning "add a handler"))
  | stopped (now : h.engine.state = .stopped) :
      Unaddable id b h (.runtime (.afterStop "add a handler"))
  | badId {text : String} (idle : h.engine.state = .idle) (asked : id = some text)
      (bad : ¬ NamesId text) : Unaddable id b h (.configuration (.handlerId text))
  | taken {x : HandlerId} (idle : h.engine.state = .idle) (chosen : Chosen id b x h)
      (old : x ∈ h.engine.ids) : Unaddable id b h (.duplicateHandler x.text)
  | portTwice {x : HandlerId} {front rest : List PortSpec} {spec : PortSpec}
      (idle : h.engine.state = .idle) (chosen : Chosen id b x h) (new : x ∉ h.engine.ids)
      (declared : b.ports = front ++ spec :: rest) (apart : NamedApart front)
      (twice : Repeats spec front) :
      Unaddable id b h (.configuration (.portTwice x.text spec.name))
  | badClass {x : HandlerId} {r : ActorRegistry} (idle : h.engine.state = .idle)
      (chosen : Chosen id b x h) (new : x ∉ h.engine.ids) (apart : NamedApart b.ports)
      (used : h.registry = some r) (bad : ¬ NamesClass b.className) :
      Unaddable id b h (.invalidUri (.invalidClassName
        ("streamlib://local/" ++ b.className ++ "/" ++ x.text) b.className))
  | registered {x : HandlerId} {r : ActorRegistry} {a : ActorRef} (idle : h.engine.state = .idle)
      (chosen : Chosen id b x h) (new : x ∉ h.engine.ids) (apart : NamedApart b.ports)
      (used : h.registry = some r) (named : NamesClass b.className) (mem : a ∈ r.actors)
      (same : a.uri = ⟨"local", b.className, x.text⟩) :
      Unaddable id b h (.duplicateUri ("streamlib://local/" ++ b.className ++ "/" ++ x.text))

variable {id : Option String} {b : Behaviour} {x : HandlerId} {h : Hosted}

theorem chosen_or_bad (id : Option String) (b : Behaviour) (h : Hosted) :
    (∃ x, Chosen id b x h) ∨ ∃ text, id = some text ∧ ¬ NamesId text := by
  cases id with
  | none => exact .inl ⟨_, .inr ⟨rfl, rfl⟩⟩
  | some text =>
    by_cases good : isIdText text.toList = true
    · exact .inl ⟨⟨text, good⟩, .inl rfl⟩
    · exact .inr ⟨text, rfl, fun names => good (isIdText_iff.mpr names)⟩

theorem addable_or_unaddable (id : Option String) (b : Behaviour) (h : Hosted) :
    (∃ x, Addable id b x h) ∨ ∃ f, Unaddable id b h f := by
  cases now : h.engine.state with
  | running => exact .inr ⟨_, .running now⟩
  | stopped => exact .inr ⟨_, .stopped now⟩
  | idle =>
    rcases chosen_or_bad id b h with ⟨x, chosen⟩ | ⟨text, asked, bad⟩
    case inr => exact .inr ⟨_, .badId now asked bad⟩
    by_cases old : x ∈ h.engine.ids
    case pos => exact .inr ⟨_, .taken now chosen old⟩
    rcases apart_or_repeats b.ports with apart | ⟨front, spec, rest, declared, apart, twice⟩
    case inr => exact .inr ⟨_, .portTwice now chosen old declared apart twice⟩
    cases used : h.registry with
    | none =>
      refine .inl ⟨x, now, chosen, old, apart, ?_⟩
      intro r other
      rw [used] at other
      cases other
    | some r =>
      by_cases named : NamesClass b.className
      case neg => exact .inr ⟨_, .badClass now chosen old apart used named⟩
      by_cases unused : ∀ a ∈ r.actors, a.uri ≠ (h.recordOf x b).key.uri
      case neg =>
        push Not at unused
        obtain ⟨a, mem, same⟩ := unused
        exact .inr ⟨_, .registered now chosen old apart used named mem same⟩
      refine .inl ⟨x, now, chosen, old, apart, ?_⟩
      intro r' same
      rw [used] at same
      cases same
      exact ⟨named, unused⟩

theorem chooseId_chosen (chosen : Chosen id b x h) : h.engine.chooseId id b = .ok x := by
  rcases chosen with rfl | ⟨rfl, rfl⟩
  · simp [Engine.chooseId, HandlerId.ofText?, x.valid]
  · rfl

theorem chooseId_bad {text : String} (bad : ¬ NamesId text) :
    h.engine.chooseId (some text) b = .error (.configuration (.handlerId text)) := by
  rw [← isIdText_iff] at bad
  simp [Engine.chooseId, HandlerId.ofText?, bad]

theorem prepare_old (old : x ∈ h.engine.ids) :
    h.engine.prepare x b = .error (.duplicateHandler x.text) := by
  simp [Engine.prepare, old]

theorem prepare_new (new : x ∉ h.engine.ids) :
    h.engine.prepare x b = HandlerPorts.ofSpecs x b.ports := by
  simp [Engine.prepare, new]

def admitted (x : HandlerId) (b : Behaviour) (h : Hosted) : Hosted where
  engine := h.engine.insert x b false (.declared x b.ports)
    (h.registry.map fun _ => (h.recordOf x b).key.uri)
  registry := h.registry.map fun r => { r with actors := place (h.recordOf x b).entry r.actors }

theorem nameInPlace_free (free : ∀ r, h.registry = some r → Free (h.recordOf x b) r) :
    h.nameInPlace x b = (.ok (h.registry.map fun _ => (h.recordOf x b).key.uri),
      { h with registry := (h.admitted x b).registry }) := by
  obtain ⟨e, registry⟩ := h
  cases registry with
  | none => rfl
  | some r =>
    simp only [nameInPlace, ActorRegistry.register_free (free r rfl)]
    rfl

theorem addInPlace_addable (addable : Addable id b x h) :
    h.addInPlace id b = (.ok x, h.admitted x b) := by
  unfold addInPlace
  rw [Engine.ensureIdle_idle addable.idle, chooseId_chosen addable.chosen]
  simp only [prepare_new addable.new, HandlerPorts.ofSpecs_apart addable.apart,
    nameInPlace_free addable.free]
  rfl

theorem addInPlace_unnamed {f : Fault} (idle : h.engine.state = .idle) (chosen : Chosen id b x h)
    (new : x ∉ h.engine.ids) (apart : NamedApart b.ports) {r : ActorRegistry}
    (used : h.registry = some r) (refused : r.registerInPlace (h.recordOf x b) = (.error f, r)) :
    h.addInPlace id b = (.error f, h) := by
  have unnamed : h.nameInPlace x b = (.error f, h) := by
    simp only [nameInPlace, used, refused]
    rw [← used]
    rfl
  unfold addInPlace
  rw [Engine.ensureIdle_idle idle, chooseId_chosen chosen]
  simp only [prepare_new new, HandlerPorts.ofSpecs_apart apart, unnamed]

theorem addInPlace_unaddable {f : Fault} (unaddable : Unaddable id b h f) :
    h.addInPlace id b = (.error f, h) := by
  cases unaddable with
  | running now => simp [addInPlace, Engine.ensureIdle, now]
  | stopped now => simp [addInPlace, Engine.ensureIdle, now]
  | badId idle asked bad =>
    subst asked
    simp only [addInPlace, Engine.ensureIdle_idle idle, chooseId_bad bad]
  | taken idle chosen old =>
    simp only [addInPlace, Engine.ensureIdle_idle idle, chooseId_chosen chosen, prepare_old old]
  | portTwice idle chosen new declared apart twice =>
    simp only [addInPlace, Engine.ensureIdle_idle idle, chooseId_chosen chosen, prepare_new new,
      declared, HandlerPorts.ofSpecs_repeated apart twice]
  | badClass idle chosen new apart used bad =>
    exact addInPlace_unnamed idle chosen new apart used (ActorRegistry.register_misnamed bad)
  | registered idle chosen new apart used named mem same =>
    exact addInPlace_unnamed idle chosen new apart used (ActorRegistry.register_taken named mem same)

/-! What is new. -/

def newcomer (x : HandlerId) (b : Behaviour) (h : Hosted) : Handler :=
  Engine.newHandler x b false (.declared x b.ports)
    (h.registry.map fun _ => ⟨"local", b.className, x.text⟩)

/-- The new handler, its node, and one entry of the registry if there is one. All else is as before. -/
structure Admitted (x : HandlerId) (b : Behaviour) (h h' : Hosted) : Prop where
  engine : h'.engine = { h.engine with
    handlers := h.engine.handlers ++ [h.newcomer x b]
    graph := { h.engine.graph with nodes := h.engine.graph.nodes ++ [x] } }
  found : h'.engine.handler? x = some (h.newcomer x b)
  unconnected : (h.newcomer x b).ports.Unconnected
  declared : (h.newcomer x b).ports.inputs.map (·.spec) = b.ports.filter (·.direction = .input) ∧
    (h.newcomer x b).ports.outputs.map (·.spec) = b.ports.filter (·.direction = .output)
  unnamed : h.registry = none → h'.registry = none
  named : ∀ r, h.registry = some r → ∃ front back entry r',
    entry = ⟨⟨"local", b.className, x.text⟩, h.engine.key, x, b.className, false⟩ ∧
    r.actors = front ++ back ∧ r'.actors = front ++ entry :: back ∧ h'.registry = some r' ∧
    r'.connect ("streamlib://local/" ++ b.className ++ "/" ++ x.text) = .ok (.here entry)

theorem admitted_engine (new : x ∉ h.engine.ids) (nodes : h.engine.graph.nodes = h.engine.ids) :
    (h.admitted x b).engine = { h.engine with
      handlers := h.engine.handlers ++ [h.newcomer x b]
      graph := { h.engine.graph with nodes := h.engine.graph.nodes ++ [x] } } := by
  have node : h.engine.graph.addHandler x =
      { h.engine.graph with nodes := h.engine.graph.nodes ++ [x] } :=
    Engine.addHandler_nodes (nodes ▸ new)
  unfold admitted Engine.insert
  rw [node]
  rfl

theorem admitted_admits (addable : Addable id b x h) (nodes : h.engine.graph.nodes = h.engine.ids) :
    Admitted x b h (h.admitted x b) := by
  constructor
  case engine => exact admitted_engine addable.new nodes
  case found => exact Engine.insert_new addable.new
  case unconnected => exact HandlerPorts.declared_unconnected x b.ports
  case declared => exact HandlerPorts.declared_specs x b.ports
  case unnamed =>
    intro none
    simp only [admitted, none, Option.map_none]
  case named =>
    intro r used
    obtain ⟨front, back, split, placed⟩ :=
      ActorRegistry.place_between (h.recordOf x b).entry r.actors
    have resolved := ActorRegistry.connect_placed (addable.free r used)
    refine ⟨front, back, _, _, rfl, split, placed, ?_, resolved⟩
    simp only [admitted, used, Option.map_some]

theorem addable_of_added (done : (h.addInPlace id b).1 = .ok x) : Addable id b x h := by
  rcases addable_or_unaddable id b h with ⟨y, addable⟩ | ⟨f, unaddable⟩
  · rw [addInPlace_addable addable] at done
    cases done
    exact addable
  · rw [addInPlace_unaddable unaddable] at done
    cases done

theorem unaddable_of_failed {f : Fault} (failed : (h.addInPlace id b).1 = .error f) :
    Unaddable id b h f := by
  rcases addable_or_unaddable id b h with ⟨y, addable⟩ | ⟨g, unaddable⟩
  · rw [addInPlace_addable addable] at failed
    cases failed
  · rw [addInPlace_unaddable unaddable] at failed
    cases failed
    exact unaddable

/-- A handler is added just when all demands are met, and then it is all that is new. Otherwise the first
demand that is not met is the fault, and nothing changes. -/
theorem add_exact {within : Engine → Prop} {h : Hosted} (reach : Reachable within h)
    (id : Option String) (b : Behaviour) :
    (∀ x, (h.addInPlace id b).1 = .ok x ↔ Addable id b x h) ∧
    (∀ f, (h.addInPlace id b).1 = .error f ↔ Unaddable id b h f) ∧
    (∀ f, (h.addInPlace id b).1 = .error f → (h.addInPlace id b).2 = h) ∧
    (∀ x, (h.addInPlace id b).1 = .ok x → Admitted x b h (h.addInPlace id b).2) ∧
    (∀ f, h.addHandler id b = .error f ↔ (h.addInPlace id b).1 = .error f) ∧
    ∀ x h', h.addHandler id b = .ok (x, h') ↔ h.addInPlace id b = (.ok x, h') := by
  refine ⟨fun x => ?_, fun f => ?_, ?_, ?_, ?_⟩
  · constructor
    · exact addable_of_added
    · intro addable
      rw [addInPlace_addable addable]
  · constructor
    · exact unaddable_of_failed
    · intro unaddable
      rw [addInPlace_unaddable unaddable]
  · intro f failed
    rw [addInPlace_unaddable (unaddable_of_failed failed)]
  · intro x done
    have addable := addable_of_added done
    have nodes := (reachable_wired reach).nodes
    rw [addInPlace_addable addable]
    exact admitted_admits addable nodes
  · rw [addInPlace_eq]
    cases h.addHandler id b <;> simp [Prod.ext_iff]

/-- An engine without handlers, in whose registry another engine has named one. -/
def sharing : Hosted :=
  ⟨.blank 0 (Settings.default.withFps 30.0) none,
    some ⟨[⟨⟨"local", "Blur", "blur_0"⟩, 1, ⟨"blur_0", by decide⟩, "Blur", false⟩]⟩⟩

def blur : Behaviour := .plain "Blur" [.input "frame" .video, .output "frame" .video] []

def doubled : Behaviour := .plain "No class" [.input "frame" .video, .input "frame" .audio] []

theorem add_exact_sharing : Reachable Quiet sharing ∧
    (sharing.addInPlace none blur).1 = .error (.duplicateUri "streamlib://local/Blur/blur_0") ∧
    (sharing.addInPlace none blur).2 = sharing ∧
    (sharing.addInPlace none doubled).1 = .error (.configuration (.portTwice "noclass_0" "frame")) ∧
    Admitted ⟨"blur_1", by decide⟩ blur sharing (sharing.addInPlace (some "blur_1") blur).2 := by
  have reach : Reachable Quiet sharing := .fresh (show make 0 .default 30.0 = .ok _ from rfl) _
  obtain ⟨_, refused, kept, _⟩ := add_exact reach none blur
  obtain ⟨_, refused_doubled, _⟩ := add_exact reach none doubled
  obtain ⟨made, _, _, new, _⟩ := add_exact reach (some "blur_1") blur
  have named : NamesClass "Blur" := ActorUri.isClassName_iff.mp (by decide)
  have taken := (refused _).mpr (.registered rfl (.inr ⟨rfl, rfl⟩) (by decide) (by decide) rfl named
    List.mem_cons_self rfl)
  have twice := (refused_doubled _).mpr (@Unaddable.portTwice none doubled sharing
    ⟨"noclass_0", by decide⟩ [.input "frame" .video] [] (.input "frame" .audio) rfl
    (.inr ⟨rfl, by decide +kernel⟩) (by decide) rfl (by decide) ⟨_, List.mem_cons_self, rfl, rfl⟩)
  have free : ∀ r, sharing.registry = some r →
      Free (sharing.recordOf ⟨"blur_1", by decide⟩ blur) r := by
    intro r used
    cases used
    exact ⟨named, by decide⟩
  have addable := (made _).mpr ⟨rfl, .inl rfl, by decide, by decide, free⟩
  exact ⟨reach, taken, kept _ taken, twice, new _ addable⟩

end Hosted

end Tickflow
