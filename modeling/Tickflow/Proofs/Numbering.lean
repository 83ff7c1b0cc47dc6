import Tickflow.Proofs.Adding
/-!
Ids that are made up for handlers that come without one: the class name, spelled out in characters
that ids may have, and the first of the numbers 0, 1, 2 and so on with which the id is not in use.
There always is one, so no handler and no adapter is refused for such an id.
-/
namespace Tickflow

/-! What a class name becomes. -/

def IsCapital (c : Char) : Prop := 'A' ≤ c ∧ c ≤ 'Z'

instance : DecidablePred IsCapital := fun c => inferInstanceAs (Decidable ('A' ≤ c ∧ c ≤ 'Z'))

instance : DecidablePred IsLetter := fun c =>
  inferInstanceAs (Decidable (('A' ≤ c ∧ c ≤ 'Z') ∨ ('a' ≤ c ∧ c ≤ 'z')))

instance : DecidablePred IsDigit := fun c => inferInstanceAs (Decidable ('0' ≤ c ∧ c ≤ '9'))

/-- What stands in an id for the character at place `i` of a class name. -/
def spelled (i : Nat) (c : Char) : List Char :=
  if IsCapital c then (if i = 0 then [c.toLower] else ['_', c.toLower])
  else if IsLetter c ∨ IsDigit c ∨ c = '_' ∨ c = '-' then [c]
  else []

def snake (className : String) : List Char := (className.toList.mapIdx spelled).flatten

def stem (className : String) : String :=
  if snake className = [] then "handler" else String.ofList (snake className)

def candidate (className : String) (n : Nat) : String := stem className ++ "_" ++ n.repr

theorem isUpper_iff {c : Char} : c.isUpper = true ↔ IsCapital c := decide_eq_true_iff

theorem snakeChars_spelled (k : Nat) (s : List Char) :
    HandlerId.snakeChars (decide (k = 0)) s = (s.mapIdx fun i => spelled (k + i)).flatten := by
  induction s generalizing k with
  | nil => rfl
  | cons c rest ih =>
    have later := ih (k + 1)
    simp only [Nat.add_one_ne_zero, decide_false] at later
    simp only [HandlerId.snakeChars, later, List.mapIdx_cons, List.flatten_cons, spelled,
      ← isUpper_iff, ← isIdChar_iff, decide_eq_true_eq, Nat.add_zero, Nat.add_assoc, Nat.add_comm 1]

theorem base_stem (className : String) : HandlerId.base className = stem className := by
  have chars : HandlerId.snakeChars true className.toList = snake className := by
    simpa [snake] using snakeChars_spelled 0 className.toList
  unfold HandlerId.base stem
  rw [chars]
  cases snake className <;> rfl

theorem numbered_text (className : String) (n : Nat) :
    (HandlerId.numbered className n).text = candidate className n :=
  congrArg (· ++ "_" ++ n.repr) (base_stem className)

theorem candidate_read (className : String) (n : Nat) :
    HandlerId.ofText? (candidate className n) = .ok (.numbered className n) := by
  rw [← numbered_text]
  exact HandlerId.ofText_text _

/-! The search for a number. -/

/-- Of the numbers from `n` on that are tried in turn, the first one that is not in use makes the
text. -/
inductive Settles (className : String) (used : List String) : Nat → String → Prop where
  | unused {n : Nat} (new : candidate className n ∉ used) :
      Settles className used n (candidate className n)
  | used {n : Nat} {text : String} (old : candidate className n ∈ used)
      (later : Settles className used (n + 1) text) : Settles className used n text

section
variable {className : String} {used : List String} {n : Nat} {text : String}

theorem Settles.unique {other : String} (one : Settles className used n text)
    (two : Settles className used n other) : text = other := by
  induction one with
  | unused new =>
    cases two with
    | unused => rfl
    | used old => exact absurd old new
  | used old _ ih =>
    cases two with
    | unused new => exact absurd old new
    | used _ later => exact ih later

theorem settles_least (new : candidate className n ∉ used)
    (old : ∀ m < n, candidate className m ∈ used) :
    Settles className used 0 (candidate className n) := by
  -- The search goes up and the induction down, on how far before `n` the search begins.
  have from_below (d : Nat) (short : d ≤ n) :
      Settles className used (n - d) (candidate className n) := by
    induction d with
    | zero => exact .unused new
    | succ d ih =>
      have next : n - (d + 1) + 1 = n - d := by omega
      exact .used (old _ (by omega)) (next ▸ ih (by omega))
  have all := from_below n (Nat.le_refl n)
  rwa [Nat.sub_self] at all

end

/-- An id as it should be for a handler of the class where these ids are taken. Its number is no
greater than how many they are: a counter that is wide enough for them is so for the search. -/
structure Derived (className : String) (taken : List HandlerId) (id : HandlerId) : Prop where
  valid : NamesId id.text
  unused : id ∉ taken
  least : ∃ n ≤ taken.length, HandlerId.ofText? (candidate className n) = .ok id ∧
    id.text = candidate className n ∧ ∀ m < n, candidate className m ∈ taken.map (·.text)
  settled : ∀ text, Settles className (taken.map (·.text)) 0 text ↔ text = id.text

theorem text_mem_iff {id : HandlerId} {taken : List HandlerId} :
    id.text ∈ taken.map (·.text) ↔ id ∈ taken := by
  constructor
  · intro mem
    obtain ⟨other, taken, same⟩ := List.mem_map.mp mem
    exact HandlerId.eq_of_text same ▸ taken
  · exact List.mem_map_of_mem

theorem fresh_derived (className : String) (taken : List HandlerId) :
    Derived className taken (.fresh className taken) := by
  have free := HandlerId.fresh_free className taken
  let n := HandlerId.freeNumber className taken
  have text : (HandlerId.fresh className taken).text = candidate className n :=
    numbered_text className n
  have old : ∀ m < n, candidate className m ∈ taken.map (·.text) := by
    intro m before
    rw [← numbered_text, text_mem_iff]
    exact HandlerId.freeNumber_least before
  have new : candidate className n ∉ taken.map (·.text) := by
    rw [← text, text_mem_iff]
    exact free
  refine ⟨isIdText_iff.mp (HandlerId.fresh className taken).valid, free,
    ⟨n, HandlerId.freeNumber_le className taken, candidate_read className n, text, old⟩, ?_⟩
  intro t
  rw [text]
  constructor
  · intro settles
    exact settles.unique (settles_least new old)
  · rintro rfl
    exact settles_least new old

/-! Faults that are about an id. -/

/-- The fault says that an id is none, or that a handler has it. -/
inductive BlamesId : Fault → Prop where
  | malformed (id : String) : BlamesId (.configuration (.handlerId id))
  | noInstance (uri id : String) : BlamesId (.invalidUri (.invalidInstanceId uri id))
  | duplicate (id : String) : BlamesId (.duplicateHandler id)

namespace Hosted

variable {id : Option String} {b : Behaviour} {h h' : Hosted} {x : HandlerId} {f : Fault}

theorem addable_of_granted (done : h.addHandler id b = .ok (x, h')) : Addable id b x h := by
  have added := addInPlace_eq id b h
  rw [done] at added
  exact addable_of_added (congrArg Prod.fst added)

theorem unaddable_of_refused (failed : h.addHandler id b = .error f) : Unaddable id b h f := by
  have refused := addInPlace_eq id b h
  rw [failed] at refused
  exact unaddable_of_failed (congrArg Prod.fst refused)

theorem unaddable_blameless (unaddable : Unaddable none b h f) : ¬ BlamesId f := by
  intro blames
  cases unaddable with
  | badId _ asked => cases asked
  | taken _ chosen old =>
    rcases chosen with asked | ⟨_, rfl⟩
    · cases asked
    · exact HandlerId.fresh_free _ _ old
  | _ => cases blames

theorem unaddable_registered {uri : String} (unaddable : Unaddable none b h (.duplicateUri uri)) :
    ∃ r a, h.registry = some r ∧ a ∈ r.actors ∧ a.uri.text = uri ∧
      ∀ id ∈ h.engine.ids, a.uri.instanceId ≠ id.text := by
  cases unaddable with
  | registered _ _ new _ used _ mem same =>
    refine ⟨_, _, used, mem, by rw [same]; rfl, ?_⟩
    intro id old texts
    rw [same] at texts
    exact new (HandlerId.eq_of_text texts ▸ old)

end Hosted

namespace Engine

variable {source target : PortAddress} {e : Engine}

theorem refused_blameless {f : Fault} (refused : Refused source target e f) : ¬ BlamesId f := by
  intro blames
  cases refused <;> cases blames

theorem linkEnd_blameless {port? : HandlerPorts → String → Option α} {a : PortAddress} {f : Fault}
    (failed : e.linkEnd port? a = .error f) : ¬ BlamesId f := by
  intro blames
  unfold linkEnd at failed
  split at failed
  · cases failed
    cases blames
  · split at failed
    · cases failed
      cases blames
    · cases failed

theorem make_breaks {policy : ConsumptionPolicy} {label : String} {f : Failure}
    (failed : (Cell.make policy label : Except Failure (Cell α)) = .error f) :
    ∃ text, f = .panic text := by
  unfold Cell.make at failed
  split at failed
  · cases failed
  · cases failed
    exact ⟨_, rfl⟩
  · cases failed

theorem link_spec (source target : PortAddress) (policy : ConsumptionPolicy) (e : Engine) :
    (e.link source target policy).2.connections = e.connections ∧
      ∀ f, (e.link source target policy).1 = .error (.fault f) → ¬ BlamesId f := by
  unfold link
  split
  · rename_i missing
    refine ⟨rfl, fun f failed => ?_⟩
    cases failed
    exact linkEnd_blameless missing
  · split
    · rename_i broken
      refine ⟨rfl, fun f failed => ?_⟩
      cases failed
      obtain ⟨_, breaks⟩ := make_breaks broken
      cases breaks
    · dsimp only
      split
      · rename_i missing
        refine ⟨rfl, fun f failed => ?_⟩
        cases failed
        exact linkEnd_blameless missing
      · exact ⟨rfl, nofun⟩

theorem linkAll_spec (source target : PortAddress) (p : ConnectionPlan) (e : Engine) :
    (linkAll source target p e).2.connections = e.connections ∧
    (∀ f, (linkAll source target p e).1 = .error (.fault f) → ¬ BlamesId f) ∧
    ∀ adapter links, (linkAll source target p e).1 = .ok (adapter, links) →
      adapter = p.route.map fun r => .fresh r.className e.ids := by
  unfold linkAll
  cases route : p.route with
  | none =>
    obtain ⟨kept, blameless⟩ := link_spec source target p.policy e
    dsimp only
    split
    · rename_i linked
      rw [linked] at kept blameless
      exact ⟨kept, fun f failed => blameless f (by simpa using failed), nofun⟩
    · rename_i linked
      rw [linked] at kept
      refine ⟨kept, nofun, fun adapter links done => ?_⟩
      cases done
      rfl
  | some r =>
    let a := HandlerId.fresh r.className e.ids
    obtain ⟨kept, blameless⟩ := link_spec source ⟨a, Route.inputPort⟩ p.policy
      (e.insert a (r.adapter p.kind e.settings.devicePoolId) true (r.ports a p.kind) none)
    dsimp only
    rw [prepare_adapter]
    dsimp only
    split
    · rename_i linked
      rw [linked] at kept blameless
      exact ⟨kept, fun f failed => blameless f (by simpa using failed), nofun⟩
    · rename_i e₁ linked
      rw [linked] at kept
      obtain ⟨kept_on, blameless⟩ := link_spec ⟨a, Route.outputPort⟩ target p.policy e₁
      split
      · rename_i linked_on
        rw [linked_on] at kept_on blameless
        exact ⟨kept_on.trans kept, fun f failed => blameless f (by simpa using failed), nofun⟩
      · rename_i linked_on
        rw [linked_on] at kept_on
        refine ⟨kept_on.trans kept, nofun, fun adapter links done => ?_⟩
        cases done
        rfl

/-- No connection is refused for an id. If one is made and has an adapter, that has the fresh id of
its class. -/
theorem connect_spec (source target : PortAddress) (e : Engine) :
    (∀ f, (e.connectInPlace source target).1 = .error (.fault f) → ¬ BlamesId f) ∧
    ∀ id, (e.connectInPlace source target).1 = .ok id →
      ∃ c, (e.connectInPlace source target).2.connections = e.connections ++ [c] ∧
        ∀ a, c.adapter = some a → ∃ r ∈ Route.all, a = .fresh r.className e.ids := by
  rcases connectable_or_refused source target e with ⟨_, i, c⟩ | ⟨f, refused⟩
  · obtain ⟨route, planned, chosen⟩ := plan_connectable c
    have known : ∀ r, route = some r → r ∈ Route.all := by
      rintro r rfl
      rcases chosen with ⟨_, direct⟩ | ⟨_, s, known, through, _⟩
      · cases direct
      · cases through
        exact known
    obtain ⟨kept, blameless, fresh⟩ := linkAll_spec source target
      ⟨i.spec.kind, e.policyOf i.spec, route⟩ { e with nextConnection := e.nextConnection + 1 }
    unfold connectInPlace
    rw [ensureIdle_idle c.idle, planned]
    dsimp only
    split
    · rename_i laid
      rw [laid] at blameless
      exact ⟨fun f failed => blameless f (by simpa using failed), nofun⟩
    · rename_i laid
      rw [laid] at kept fresh
      refine ⟨nofun, fun id done => ⟨_, congrArg (· ++ _) kept, ?_⟩⟩
      rintro a rfl
      obtain ⟨r, through, rfl⟩ := Option.map_eq_some_iff.mp (fresh _ _ rfl).symm
      exact ⟨r, known r through, rfl⟩
  · rw [connect_refused refused]
    refine ⟨fun g failed => ?_, nofun⟩
    cases failed
    exact refused_blameless refused

end Engine

namespace Hosted

/-- Without an id of its own a handler gets a valid one that no other has, with the least number
that leaves it unused, and so does an adapter. Neither is ever refused for its id; what may be in
use is a name in the registry, by a handler elsewhere. -/
theorem derived_ids :
    (∀ className taken, Derived className taken (.fresh className taken)) ∧
    (∀ (b : Behaviour) (e : Engine), e.chooseId none b = .ok (.fresh b.className e.ids)) ∧
    (∀ (b : Behaviour) (h : Hosted) x h', h.addHandler none b = .ok (x, h') →
      Derived b.className h.engine.ids x) ∧
    (∀ (b : Behaviour) (h : Hosted) f, h.addHandler none b = .error f → ¬ BlamesId f) ∧
    (∀ (b : Behaviour) (h : Hosted) uri, h.addHandler none b = .error (.duplicateUri uri) →
      ∃ r a, h.registry = some r ∧ a ∈ r.actors ∧ a.uri.text = uri ∧
        ∀ id ∈ h.engine.ids, a.uri.instanceId ≠ id.text) ∧
    (∀ source target (e : Engine) id, (e.connectInPlace source target).1 = .ok id →
      ∃ c, (e.connectInPlace source target).2.connections = e.connections ++ [c] ∧
        ∀ a, c.adapter = some a → ∃ r ∈ Route.all, Derived r.className e.ids a) ∧
    ∀ source target (e : Engine) f, (e.connectInPlace source target).1 = .error (.fault f) →
      ¬ BlamesId f := by
  refine ⟨fresh_derived, fun _ _ => rfl, ?_, ?_, ?_, ?_, ?_⟩
  · intro b h x h' done
    obtain asked | ⟨_, rfl⟩ := (addable_of_granted done).chosen
    · cases asked
    · exact fresh_derived _ _
  · intro b h f failed
    exact unaddable_blameless (unaddable_of_refused failed)
  · intro b h uri failed
    exact unaddable_registered (unaddable_of_refused failed)
  · intro source target e id done
    obtain ⟨c, last, adapter⟩ := (Engine.connect_spec source target e).2 id done
    refine ⟨c, last, fun a here => ?_⟩
    obtain ⟨r, known, rfl⟩ := adapter a here
    exact ⟨r, known, fresh_derived _ _⟩
  · intro source target e
    exact (Engine.connect_spec source target e).1

def crowded : Hosted := cameraAndScreen.added (some "host_to_device_adapter_0") blur

theorem derived_ids_crowded :
    Derived "ÄÖ" crowded.engine.ids ⟨"handler_0", by decide⟩ ∧
    (∃ h', crowded.addHandler none .camera = .ok (⟨"camera_source_0", by decide⟩, h')) ∧
    Derived "CameraSource" crowded.engine.ids ⟨"camera_source_0", by decide⟩ ∧
    crowded.addHandler none doubled = .error (.configuration (.portTwice "noclass_0" "frame")) ∧
    ¬ BlamesId (.configuration (.portTwice "noclass_0" "frame")) ∧
    sharing.addHandler none blur = .error (.duplicateUri "streamlib://local/Blur/blur_0") ∧
    (∃ r a, sharing.registry = some r ∧ a ∈ r.actors ∧
      a.uri.text = "streamlib://local/Blur/blur_0" ∧
      ∀ id ∈ sharing.engine.ids, a.uri.instanceId ≠ id.text) ∧
    (crowded.connect camera screen).1 = .ok "conn_0" ∧
    ((crowded.connect camera screen).2.engine.connections.getLast?.bind (·.adapter)) =
      some ⟨"host_to_device_adapter_1", by decide⟩ ∧
    (∃ r ∈ Route.all,
      Derived r.className crowded.engine.ids ⟨"host_to_device_adapter_1", by decide⟩) ∧
    (crowded.connect screen camera).1 =
      .error (.fault (.configuration (.startsAtInput "screen.in"))) ∧
    ¬ BlamesId (.configuration (.startsAtInput "screen.in")) := by
  obtain ⟨all, _, granted, refused, registered, connected, unconnected⟩ := derived_ids
  have nameless : HandlerId.fresh "ÄÖ" crowded.engine.ids = ⟨"handler_0", by decide⟩ := by
    decide +kernel
  let first : HandlerId := ⟨"camera_source_0", by decide⟩
  have added : crowded.addHandler none .camera = .ok (first, crowded.admitted first .camera) := rfl
  have twice : crowded.addHandler none doubled =
      .error (.configuration (.portTwice "noclass_0" "frame")) := rfl
  have taken : sharing.addHandler none blur =
      .error (.duplicateUri "streamlib://local/Blur/blur_0") := rfl
  have joined : (crowded.connect camera screen).1 = .ok "conn_0" := by decide +kernel
  have between : ((crowded.connect camera screen).2.engine.connections.getLast?.bind (·.adapter)) =
      some ⟨"host_to_device_adapter_1", by decide⟩ := by decide +kernel
  have backwards : (crowded.connect screen camera).1 =
      .error (.fault (.configuration (.startsAtInput "screen.in"))) := by decide +kernel
  obtain ⟨c, last, adapter⟩ := connected camera screen crowded.engine _ joined
  have new : (crowded.connect camera screen).2.engine.connections.getLast? = some c := by
    rw [show (crowded.connect camera screen).2.engine.connections = _ from last]
    exact List.getLast?_concat
  rw [new] at between
  refine ⟨nameless ▸ all _ _, ⟨_, added⟩, granted _ _ _ _ added, twice, refused _ _ _ twice, taken,
    registered _ _ _ taken, joined, ?_, adapter _ between, backwards,
    unconnected _ _ _ _ backwards⟩
  rw [new]
  exact between

end Hosted

end Tickflow
