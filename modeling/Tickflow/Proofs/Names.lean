import Tickflow.Proofs.Steps
/-!
The names of handlers in registries. A handler gets one when it is added, and none of them is changed
by anything but a stop, which gives up all that the handlers of the engine have.
-/
namespace Tickflow

namespace Engine

variable {e e' : Engine} {id : HandlerId}

def names (e : Engine) : List ActorUri := e.handlers.filterMap (·.uri)

def name? (id : HandlerId) (e : Engine) : Option ActorUri := (e.handler? id).bind (·.uri)

theorem mem_names {u : ActorUri} (distinct : e.ids.Nodup) :
    u ∈ e.names ↔ ∃ id ∈ e.ids, e.name? id = some u := by
  rw [names, List.mem_filterMap]
  constructor
  · rintro ⟨h, mem, uri⟩
    refine ⟨h.id, List.mem_map_of_mem mem, ?_⟩
    rw [name?, handler_of_mem distinct mem]
    exact uri
  · rintro ⟨id, _, name⟩
    obtain ⟨h, found, uri⟩ := Option.bind_eq_some_iff.mp name
    exact ⟨h, (mem_of_handler found).1, uri⟩

theorem name_mem {u : ActorUri} (named : e.name? id = some u) : u ∈ e.names := by
  obtain ⟨h, found, uri⟩ := Option.bind_eq_some_iff.mp named
  exact List.mem_filterMap.mpr ⟨h, (mem_of_handler found).1, uri⟩

def Local (e : Engine) : Prop := ∀ u ∈ e.names, u.host = ActorUri.localHost

theorem name_modify {f : Handler → Handler} (keeps : ∀ h, (f h).id = h.id) (id x : HandlerId)
    (e : Engine) : (e.modify id f).name? x =
      (e.handler? x).bind fun g => if x = id then (f g).uri else g.uri := by
  rw [name?, handler_modify keeps]
  cases found : e.handler? x with
  | none => rfl
  | some g =>
    have at_x := (mem_of_handler found).2
    rw [Option.map_some, Option.bind_some, Option.bind_some, changed, at_x]
    split <;> rfl

theorem names_of_uris (same : e'.handlers.map (·.uri) = e.handlers.map (·.uri)) :
    e'.names = e.names := by
  have uris (e : Engine) : e.names = (e.handlers.map (·.uri)).filterMap fun u => u := by
    rw [List.filterMap_map]
    rfl
  rw [uris, uris, same]

theorem names_of_handlers (same : e'.handlers = e.handlers) : e'.names = e.names := by
  rw [names, names, same]

theorem modify_names {f : Handler → Handler} (keeps : ∀ h, (f h).uri = h.uri) (id : HandlerId)
    (e : Engine) : (e.modify id f).names = e.names :=
  names_of_uris (map_modify fun h _ _ => keeps h)

@[simp] theorem setState_names (id : HandlerId) (s : LifecycleState) (e : Engine) :
    (e.setState id s).names = e.names := modify_names (by exact fun _ => rfl) id e

@[simp] theorem report_names (n : Notice) (e : Engine) : (e.report n).names = e.names := rfl

@[simp] theorem callStart_names (id : HandlerId) (e : Engine) : (e.callStart id).2.names = e.names :=
  names_of_handlers (callStart_called id e).handlers

@[simp] theorem callStop_names (id : HandlerId) (e : Engine) : (e.callStop id).names = e.names :=
  names_of_handlers (callStop_called id e).handlers

@[simp] theorem closeInputs_names (id : HandlerId) (e : Engine) :
    (e.closeInputs id).names = e.names := names_of_handlers (closeInputs_rest id e).1

@[simp] theorem stopAll_names (ids : List HandlerId) (e : Engine) :
    (e.stopAll ids).names = e.names := by
  unfold stopAll
  induction ids with
  | nil => rfl
  | cons id rest ih => simp [ih]

@[simp] theorem disable_names (ids started : List HandlerId) (e : Engine) :
    (disable ids started e).2.names = e.names := by
  induction ids generalizing started e with
  | nil => rfl
  | cons id rest ih =>
    simp only [disable]
    split
    · exact ih _ _
    · rw [ih]
      split <;> simp

theorem startEach_names (ids started disabled : List HandlerId) (e : Engine) :
    (startEach ids started disabled e).2.2.names = e.names := by
  induction ids generalizing started disabled e with
  | nil => rfl
  | cons id rest ih =>
    have called := callStart_names id e
    simp only [startEach]
    split
    · exact ih _ _ _
    · split
      · rename_i answer
        rw [answer] at called
        rw [ih, setState_names]
        exact called
      · rename_i answer
        rw [answer] at called
        split <;> simp [ih, called]

theorem quiesce_names (ids : List HandlerId) (e : Engine) : (e.quiesce ids).names = e.names := by
  have marked (e : Engine) : (ids.foldl (fun e id => e.setState id .stopping) e).names = e.names := by
    induction ids generalizing e with
    | nil => rfl
    | cons id rest ih => rw [List.foldl_cons, ih, setState_names]
  exact marked e

theorem reportBusy_names (ids : List HandlerId) (e : Engine) :
    (e.reportBusy ids).names = e.names := by
  have each (notice : HandlerId → Notice) (ids : List HandlerId) (e : Engine) :
      (ids.foldl (fun e id => e.report (notice id)) e).names = e.names := by
    induction ids generalizing e with
    | nil => rfl
    | cons id rest ih => rw [List.foldl_cons, ih, report_names]
  simp only [reportBusy]
  split
  · rw [each, report_names]
  · rw [each]

theorem worked_names (worked : Worked e e') : e'.names = e.names := by
  have uris (e : Engine) : e.handlers.map (·.uri) = e.unworked.handlers.map (·.uri) := by
    rw [unworked, List.map_map]
    rfl
  apply names_of_uris
  rw [uris, worked.unworked, ← uris]

theorem joined_names (source target : PortAddress) (policy : ConsumptionPolicy) (e : Engine) :
    (e.joined source target policy).names = e.names := by
  apply names_of_uris
  rw [joined, List.map_map]
  rfl

theorem insert_names (id : HandlerId) (b : Behaviour) (isAdapter : Bool) (ports : HandlerPorts)
    (uri : Option ActorUri) (e : Engine) :
    (e.insert id b isAdapter ports uri).names = e.names ++ uri.toList := by
  rw [names, insert_handlers, List.filterMap_append]
  cases uri <;> rfl

theorem bridged_names (source target : PortAddress) (a : HandlerId) (r : Route) (kind : PayloadKind)
    (policy : ConsumptionPolicy) (e : Engine) :
    (e.bridged source target a r kind policy).names = e.names := by
  rw [bridged, joined_names, joined_names, insert_names]
  exact List.append_nil _

/-- The engine is who it was, and no name was given or given up. -/
structure Alike (e e' : Engine) : Prop where
  key : e'.key = e.key
  names : e'.names = e.names
  state : e'.state = e.state

theorem Alike.refl (e : Engine) : Alike e e := ⟨rfl, rfl, rfl⟩

theorem connect_alike (w : e.Wired) (source target : PortAddress) :
    Alike e (e.connectInPlace source target).2 := by
  rcases connectable_or_refused source target e with ⟨q, p, met⟩ | ⟨f, refused⟩
  · cases common : q.spec.capabilities.intersects p.spec.capabilities with
    | true =>
      rw [connect_direct w.distinct w.capacity met common]
      exact ⟨rfl, joined_names source target (e.policyOf p.spec) e, rfl⟩
    | false =>
      obtain ⟨r, _, a, _, _, _, made⟩ := connect_bridged w.distinct w.capacity met common
      rw [made]
      exact ⟨rfl, bridged_names source target a r p.spec.kind (e.policyOf p.spec) e, rfl⟩
  · rw [connect_refused refused]
    exact .refl e

theorem work_alike (d : e.Distinct) (work : e.Work e') : Alike e e' := by
  have worked := work_worked d work
  exact ⟨(congrArg Engine.key worked.unworked :), worked_names worked, worked.state⟩

end Engine

theorem ActorUri.makeLocal_host {className instanceId : String} {u : ActorUri}
    (made : ActorUri.makeLocal className instanceId = .ok u) : u.host = ActorUri.localHost := by
  simp only [makeLocal, make, check] at made
  split at made
  · cases made
  · split at made
    · cases made
    · split at made
      · cases made
      · cases made
        rfl

/-! What a registry is left with. -/

namespace ActorRegistry

variable {r : ActorRegistry} {u : ActorUri}

def without (us : List ActorUri) (r : ActorRegistry) : ActorRegistry :=
  ⟨r.actors.filter fun a => decide (a.uri ∉ us)⟩

theorem without_congr {us vs : List ActorUri} (same : ∀ u, u ∈ us ↔ u ∈ vs) (r : ActorRegistry) :
    r.without us = r.without vs := by
  simp only [without, same]

@[simp] theorem without_nil (r : ActorRegistry) : r.without [] = r := by
  simp [without]

theorem without_without (us vs : List ActorUri) (r : ActorRegistry) :
    (r.without us).without vs = r.without (us ++ vs) := by
  simp only [without, List.filter_filter, List.mem_append, not_or, Bool.decide_and]
  congr 2
  funext a
  exact Bool.and_comm _ _

theorem lookup_here (here : u.host = ActorUri.localHost) : r.lookup? u = r.find? u := by
  have isLocal : u.isLocal = true := by
    rw [ActorUri.isLocal, here]
    decide +kernel
  have same : u.toLocal = u := by rw [ActorUri.toLocal, ← here]
  rw [lookup?, if_pos isLocal, same]

/-- Under a URI with the canonical host the entries with this very URI are taken out. -/
theorem unregister_cases (here : u.host = ActorUri.localHost) :
    (∃ a, r.unregister u = .ok (a, r.without [u])) ∨
      ∃ f, r.unregister u = .error f ∧ r.without [u] = r := by
  unfold unregister
  rw [lookup_here here]
  cases found : r.find? u with
  | none =>
    refine .inr ⟨_, rfl, ?_⟩
    have others : ∀ a ∈ r.actors, a.uri ≠ u := by simpa [find?] using found
    rw [without, List.filter_eq_self.mpr fun a mem => by simpa using others a mem]
  | some a =>
    refine .inl ⟨a, ?_⟩
    have same : a.uri = u := (key_of_find found).2
    have alike (b : ActorRef) : (b.uri != a.uri) = decide (b.uri ∉ [u]) := by
      by_cases hit : b.uri = u <;> simp [same, hit]
    simp only [without, alike]

theorem place_perm (a : ActorRef) (actors : List ActorRef) : (place a actors).Perm (a :: actors) := by
  induction actors with
  | nil => exact .refl _
  | cons b rest ih =>
    unfold place
    split
    · exact .refl _
    · exact (ih.cons b).trans (.swap a b rest)

theorem register_ok {key : Nat} {id : HandlerId} {className : String} {isAdapter : Bool}
    {r' : ActorRegistry} (done : r.register key id className isAdapter = .ok (u, r')) :
    u.host = ActorUri.localHost ∧ (∀ a ∈ r.actors, a.uri ≠ u) ∧
      r'.actors = place ⟨u, key, id, className, isAdapter⟩ r.actors := by
  cases made : ActorUri.makeLocal className id.text with
  | error f => simp [register, made, bind, Except.bind, Except.mapError] at done
  | ok uri =>
    cases found : r.find? uri with
    | some a => simp [register, made, found, bind, Except.bind, Except.mapError] at done
    | none =>
      obtain ⟨rfl, rfl⟩ : uri = u ∧ ⟨place ⟨uri, key, id, className, isAdapter⟩ r.actors⟩ = r' := by
        simpa [register, made, found, bind, Except.bind, Except.mapError, pure, Except.pure] using done
      exact ⟨ActorUri.makeLocal_host made, by simpa [find?] using found, rfl⟩

end ActorRegistry

/-! What an operation does to names. -/

namespace Hosted

open Engine

variable {h h' : Hosted}

theorem added_named (id : Option String) (b : Behaviour) (h : Hosted) :
    h.added id b = h ∨
    (∃ x ports, h.registry = none ∧ h.engine.state = .idle ∧
      h.added id b = ⟨h.engine.insert x b false ports none, none⟩) ∨
    ∃ x ports r uri r', h.registry = some r ∧ h.engine.state = .idle ∧
      r.register h.engine.key x b.className false = .ok (uri, r') ∧
      h.added id b = ⟨h.engine.insert x b false ports (some uri), some r'⟩ := by
  rcases addHandler_cases id b h with ⟨f, refused⟩ | ⟨x, ports, idle, _,
    ⟨unused, granted⟩ | ⟨r, uri, r', used, registered, granted⟩⟩
  · exact .inl (by rw [added, refused])
  · exact .inr (.inl ⟨x, ports, unused, idle, by rw [added, granted]⟩)
  · exact .inr (.inr ⟨x, ports, r, uri, r', used, idle, registered, by rw [added, granted]⟩)

theorem retire_name (id x : HandlerId) (h : Hosted) :
    (h.retire id).engine.name? x = h.engine.name? x := by
  rw [retire, name_modify (by exact fun _ => rfl), name?]
  simp

theorem unname_name (id x : HandlerId) (h : Hosted) :
    (h.unname id).engine.name? x = if x = id then none else h.engine.name? x := by
  have cleared : (h.engine.modify id fun x => { x with uri := none }).name? x =
      if x = id then none else h.engine.name? x := by
    rw [name_modify (by exact fun _ => rfl), name?]
    cases h.engine.handler? x <;> simp
  unfold unname
  split
  · rename_i nameless
    split
    · rename_i same
      rw [same]
      exact nameless
    · rfl
  · dsimp only
    split
    · exact cleared
    · split <;> exact cleared

theorem unname_registry (id : HandlerId)
    (here : ∀ u, h.engine.name? id = some u → u.host = ActorUri.localHost) :
    (h.unname id).registry = h.registry.map (·.without (h.engine.name? id).toList) := by
  unfold unname
  split
  · rename_i nameless
    rw [show h.engine.name? id = none from nameless]
    simp
  · rename_i u named
    rw [show h.engine.name? id = some u from named]
    cases used : h.registry with
    | none => rfl
    | some r =>
      rcases r.unregister_cases (here u named) with ⟨a, gone⟩ | ⟨f, absent, same⟩
      · simp only [gone]
        rfl
      · simp only [absent]
        exact congrArg some same.symm

theorem unnamed_registry (ids : List HandlerId)
    (here : ∀ id u, h.engine.name? id = some u → u.host = ActorUri.localHost) :
    (ids.foldl (fun h id => (h.retire id).unname id) h).registry =
      h.registry.map (·.without (ids.filterMap fun id => h.engine.name? id)) := by
  induction ids generalizing h with
  | nil => simp
  | cons id rest ih =>
    let h₁ := (h.retire id).unname id
    have names (x : HandlerId) : h₁.engine.name? x = if x = id then none else h.engine.name? x := by
      rw [unname_name, retire_name]
    have here₁ (x : HandlerId) (u : ActorUri) (named : h₁.engine.name? x = some u) :
        u.host = ActorUri.localHost := by
      rw [names] at named
      split at named
      · cases named
      · exact here x u named
    have first : h₁.registry = h.registry.map (·.without (h.engine.name? id).toList) := by
      rw [unname_registry id fun u named => here id u (retire_name id id h ▸ named), retire_name]
      rfl
    rw [List.foldl_cons, ih here₁, first, Option.map_map]
    congr 1
    funext r
    rw [Function.comp_apply, ActorRegistry.without_without]
    apply ActorRegistry.without_congr
    intro u
    simp only [List.mem_append, Option.mem_toList, List.mem_filterMap, List.mem_cons, names]
    constructor
    · rintro (named | ⟨x, mem, named⟩)
      · exact ⟨id, .inl rfl, named⟩
      · split at named
        · cases named
        · exact ⟨x, .inr mem, named⟩
    · rintro ⟨x, rfl | mem, named⟩
      · exact .inl named
      · by_cases same : x = id
        · exact .inl (same ▸ named)
        · exact .inr ⟨x, mem, (if_neg same).trans named⟩

theorem unnamed_name (ids : List HandlerId) (x : HandlerId) (h : Hosted) :
    (ids.foldl (fun h id => (h.retire id).unname id) h).engine.name? x =
      if x ∈ ids then none else h.engine.name? x := by
  induction ids generalizing h with
  | nil => simp
  | cons id rest ih =>
    rw [List.foldl_cons, ih, unname_name, retire_name]
    by_cases first : x = id <;> by_cases later : x ∈ rest <;> simp [first, later]

/-- A stop takes just the names of the engine's handlers out of the registry that the engine uses, and
no handler has a name after it. -/
theorem finishStop_names (d : h.engine.Distinct) (here : h.engine.Local) :
    h.finishStop.registry = h.registry.map (·.without h.engine.names) ∧
      h.finishStop.engine.names = [] := by
  constructor
  · have all := unnamed_registry h.engine.ids fun _ u named => here u (name_mem named)
    have same (r : ActorRegistry) : r.without (h.engine.ids.filterMap fun id => h.engine.name? id) =
        r.without h.engine.names := by
      apply ActorRegistry.without_congr
      intro u
      rw [List.mem_filterMap, mem_names d.ids]
    simp only [same] at all
    exact all
  · have nameless (x : HandlerId) : h.finishStop.engine.name? x = none := by
      have after := unnamed_name h.engine.ids x h
      by_cases mem : x ∈ h.engine.ids
      · rw [if_pos mem] at after
        exact after
      · have absent : h.engine.name? x = none := by
          rw [name?, handler_none_iff.mpr mem]
          rfl
        rw [if_neg mem, absent] at after
        exact after
    have d' : h.finishStop.engine.Distinct :=
      distinct_of_wiring d (wiring_of_unstarted (finishStop_unstarted h))
    refine List.eq_nil_iff_forall_not_mem.mpr fun u mem => ?_
    obtain ⟨x, _, named⟩ := (mem_names d'.ids).mp mem
    rw [nameless x] at named
    cases named

/-- What is done with an engine. A stop that waits comes in two halves. -/
inductive Deed (h : Hosted) : Hosted → Prop where
  | add (id : Option String) (b : Behaviour) : Deed h (h.added id b)
  | connect (source target : PortAddress) : Deed h (h.connect source target).2
  | connectTexts (source target : String) : Deed h (h.connectTexts source target).2
  | start : Deed h h.start.2
  | work {e : Engine} (w : h.engine.Work e) : Deed h { h with engine := e }
  | quiesce (ids : List HandlerId) (running : h.engine.state = .running) :
      Deed h { h with engine := h.engine.quiesce ids }
  | tearDown (ids : List HandlerId) (running : h.engine.state = .running) : Deed h (h.tearDown ids)
  | stop : Deed h h.stop

theorem Deed.wired (deed : Deed h h') (w : h.engine.Wired) : h'.engine.Wired := by
  cases deed with
  | add id b => exact command_wired w (.add id b)
  | connect source target => exact command_wired w (.connect source target)
  | connectTexts source target => exact command_wired w (.connectTexts source target)
  | start => exact command_wired w .start
  | work work => exact step_wired (show Step (fun _ => True) h _ from .work work) w
  | quiesce ids running => exact command_wired w (.quiesce ids running)
  | tearDown ids running => exact command_wired w (.tearDown ids running)
  | stop => exact wired_of_wiring (wiring_of_unstarted h.stop_unstarted) w

/-- What becomes of names: they stay as they are, one more is given, or all are given up. -/
inductive Naming (h h' : Hosted) : Prop where
  | kept (registry : h'.registry = h.registry) (names : h'.engine.names = h.engine.names)
      (stopped : h'.engine.state = .stopped ↔ h.engine.state = .stopped)
  | given {a : ActorRef} {r r' : ActorRegistry} (used : h.registry = some r)
      (idle : h.engine.state = .idle) (free : ∀ b ∈ r.actors, b.uri ≠ a.uri)
      (own : a.engine = h.engine.key) (here : a.uri.host = ActorUri.localHost)
      (placed : r'.actors = ActorRegistry.place a r.actors) (registry : h'.registry = some r')
      (names : h'.engine.names = h.engine.names ++ [a.uri]) (stays : h'.engine.state = .idle)
  | left (awake : h.engine.state ≠ .stopped)
      (registry : h'.registry = h.registry.map (·.without h.engine.names))
      (names : h'.engine.names = []) (stopped : h'.engine.state = .stopped)

theorem finishStop_naming {e : Engine} (awake : h.engine.state ≠ .stopped) (d : e.Distinct)
    (here : h.engine.Local) (names : e.names = h.engine.names) :
    Naming h (({ h with engine := e } : Hosted).finishStop) := by
  have here' : e.Local := by
    intro u mem
    exact here u (names ▸ mem)
  obtain ⟨registry, nameless⟩ := finishStop_names (h := { h with engine := e }) d here'
  refine .left awake ?_ nameless rfl
  rw [registry, names]

theorem Naming.of_alike {e : Engine} (alike : Alike h.engine e) : Naming h { h with engine := e } :=
  .kept rfl alike.names (by rw [alike.state])

theorem added_naming (id : Option String) (b : Behaviour) (h : Hosted) :
    (h.added id b).engine.key = h.engine.key ∧ Naming h (h.added id b) := by
  rcases added_named id b h with same | ⟨x, ports, used, idle, same⟩ |
    ⟨x, ports, r, uri, r', used, idle, registered, same⟩
  · rw [same]
    exact ⟨rfl, .kept rfl rfl .rfl⟩
  · rw [same]
    refine ⟨rfl, .kept used.symm ?_ .rfl⟩
    exact (insert_names x b false ports none h.engine).trans (List.append_nil _)
  · rw [same]
    obtain ⟨here, free, placed⟩ := ActorRegistry.register_ok registered
    exact ⟨rfl, .given used idle free rfl here placed rfl
      (insert_names x b false ports (some uri) h.engine) idle⟩

theorem start_naming (w : h.engine.Wired) (here : h.engine.Local) : Naming h h.start.2 := by
  by_cases idle : h.engine.state = .idle
  · have awake : h.engine.state ≠ .stopped := by
      rw [idle]
      intro other
      cases other
    have names : (startEach h.engine.ids [] [] h.engine.warned).2.2.names = h.engine.names := by
      obtain ⟨notices, warned⟩ := h.engine.warned_notices
      rw [startEach_names, warned]
      rfl
    have same := startEach_unstarted h.engine.ids [] [] h.engine.warned
    rw [warned_unstarted] at same
    cases went : startEach h.engine.ids [] [] h.engine.warned with
    | mk fault reached =>
      obtain ⟨started, e⟩ := reached
      rw [went] at names same
      cases fault with
      | none =>
        rw [start_running idle went]
        refine .kept rfl names ⟨fun other => ?_, fun other => absurd other awake⟩
        cases other
      | some fault =>
        rw [start_failing idle went]
        have d := distinct_of_wiring w.distinct (wiring_of_unstarted same)
        exact finishStop_naming awake d here names
  · rw [busy_start idle]
    exact .kept rfl rfl .rfl

theorem tearDown_naming {e : Engine} (ids : List HandlerId) (awake : h.engine.state ≠ .stopped)
    (d : e.Distinct) (here : h.engine.Local) (names : e.names = h.engine.names) :
    Naming h (({ h with engine := e } : Hosted).tearDown ids) := by
  have same : ((e.reportBusy ids).stopAll ids).unstarted = e.unstarted := by simp
  have d' := distinct_of_wiring d (wiring_of_unstarted same)
  exact finishStop_naming awake d' here (by rw [stopAll_names, reportBusy_names, names])

theorem stop_naming (w : h.engine.Wired) (here : h.engine.Local) : Naming h h.stop := by
  cases now : h.engine.state with
  | stopped =>
    rw [show h.stop = h by simp [stop, now]]
    exact .kept rfl rfl .rfl
  | idle =>
    rw [show h.stop = h.finishStop by simp [stop, now]]
    exact finishStop_naming (by simp [now]) w.distinct here rfl
  | running =>
    have d := distinct_of_wiring w.distinct
      (wiring_of_unstarted (quiesce_unstarted h.engine.activeIds h.engine))
    rw [show h.stop = ({ h with engine := h.engine.quiesce h.engine.activeIds } : Hosted).tearDown
      h.engine.activeIds by simp [stop, now]]
    exact tearDown_naming _ (by simp [now]) d here (quiesce_names _ _)

theorem Deed.naming (deed : Deed h h') (w : h.engine.Wired) (here : h.engine.Local) :
    h'.engine.key = h.engine.key ∧ Naming h h' := by
  cases deed with
  | add id b => exact added_naming id b h
  | connect source target =>
    have alike := connect_alike w source target
    exact ⟨alike.key, .of_alike alike⟩
  | connectTexts source target =>
    have alike : Alike h.engine (h.engine.connectTextsInPlace source target).2 := by
      unfold connectTextsInPlace
      split
      · exact .refl _
      · exact .refl _
      · exact connect_alike w _ _
    exact ⟨alike.key, .of_alike alike⟩
  | start => exact ⟨(congrArg Engine.key h.start_unstarted :), start_naming w here⟩
  | work work =>
    have alike := work_alike w.distinct work
    exact ⟨alike.key, .of_alike alike⟩
  | quiesce ids running =>
    have alike : Alike h.engine (h.engine.quiesce ids) :=
      ⟨(congrArg Engine.key (quiesce_unstarted ids h.engine) :), quiesce_names ids h.engine,
        (quiesce_rest ids h.engine).2.2⟩
    exact ⟨alike.key, .of_alike alike⟩
  | tearDown ids running =>
    exact ⟨(congrArg Engine.key (tearDown_unstarted ids h) :),
      tearDown_naming ids (by simp [running]) w.distinct here rfl⟩
  | stop => exact ⟨(congrArg Engine.key h.stop_unstarted :), stop_naming w here⟩

theorem Naming.stays_local (naming : Naming h h') (here : h.engine.Local) : h'.engine.Local := by
  intro u mem
  cases naming with
  | kept _ names => exact here u (names ▸ mem)
  | given _ _ _ _ local_name _ _ names =>
    rw [names] at mem
    rcases List.mem_append.mp mem with old | new
    · exact here u old
    · rw [List.mem_singleton.mp new]
      exact local_name
  | left _ _ names =>
    rw [names] at mem
    cases mem

theorem step_local {within : Engine → Prop} (step : Step within h h') (w : h.engine.Wired)
    (here : h.engine.Local) : h'.engine.Local := by
  cases step with
  | add id b => exact (Deed.add id b).naming w here |>.2.stays_local here
  | connect source target => exact (Deed.connect source target).naming w here |>.2.stays_local here
  | connectTexts source target =>
    exact (Deed.connectTexts source target).naming w here |>.2.stays_local here
  | start => exact Deed.start.naming w here |>.2.stays_local here
  | work work => exact (Deed.work work).naming w here |>.2.stays_local here
  | stopIdle => exact Deed.stop.naming w here |>.2.stays_local here
  | stop running works =>
    have d := distinct_of_wiring w.distinct
      (wiring_of_unstarted (quiesce_unstarted h.engine.activeIds h.engine))
    have worked := works_worked d works
    have names := (worked_names worked).trans (quiesce_names h.engine.activeIds h.engine)
    exact (tearDown_naming _ (by simp [running]) (worked.distinct d) here names).stays_local here
  | registry r => exact here

theorem reachable_local {within : Engine → Prop} (reach : Reachable within h) :
    h.engine.Local := by
  induction reach with
  | fresh made r =>
    obtain ⟨_, _, rfl⟩ := make_blank made
    exact fun _ mem => absurd mem List.not_mem_nil
  | next run step ih => exact step_local step (reachable_wired run) ih

end Hosted

end Tickflow
