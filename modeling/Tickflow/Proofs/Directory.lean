import Tickflow.Proofs.Names
/-!
A registry is a map from class names and instance ids to handlers. How the local host is written in a URI
does not matter, and what is listed comes in the order of the URIs.
-/
namespace Tickflow

/-! Names of classes. -/

def IsLetter (c : Char) : Prop := ('A' ≤ c ∧ c ≤ 'Z') ∨ ('a' ≤ c ∧ c ≤ 'z')

def IsDigit (c : Char) : Prop := '0' ≤ c ∧ c ≤ '9'

def NamesClass (name : String) : Prop :=
  ∃ c rest, name.toList = c :: rest ∧ IsLetter c ∧ ∀ d ∈ rest, IsLetter d ∨ IsDigit d

theorem isAlpha_iff {c : Char} : c.isAlpha = true ↔ IsLetter c := by
  have upper : c.isUpper = true ↔ 'A' ≤ c ∧ c ≤ 'Z' := decide_eq_true_iff
  have lower : c.isLower = true ↔ 'a' ≤ c ∧ c ≤ 'z' :=
    Bool.and_eq_true_iff.trans (and_congr decide_eq_true_iff decide_eq_true_iff)
  have either : c.isAlpha = (c.isUpper || c.isLower) := rfl
  rw [either, Bool.or_eq_true, upper, lower, IsLetter]

theorem isAlphanum_iff {c : Char} : c.isAlphanum = true ↔ IsLetter c ∨ IsDigit c := by
  rw [Char.isAlphanum, Bool.or_eq_true, isAlpha_iff]
  simp [Char.isDigit, IsDigit, Char.le_def]

namespace ActorUri

theorem isClassName_iff {name : String} :
    isClassName name.toList = true ↔ NamesClass name := by
  unfold NamesClass
  cases name.toList with
  | nil => simp [isClassName]
  | cons c rest =>
    simp only [isClassName, Bool.and_eq_true, List.all_eq_true, isAlpha_iff, isAlphanum_iff]
    constructor
    · rintro ⟨letter, others⟩
      exact ⟨c, rest, rfl, letter, others⟩
    · rintro ⟨_, _, ⟨rfl, rfl⟩, letter, others⟩
      exact ⟨letter, others⟩

theorem makeLocal_cases (className : String) (id : HandlerId) :
    (NamesClass className ∧ makeLocal className id.text = .ok ⟨localHost, className, id.text⟩) ∨
      (¬ NamesClass className ∧ makeLocal className id.text =
        .error (.invalidClassName (textOf localHost className id.text) className)) := by
  have host : isHost localHost.toList = true := by decide
  rw [← isClassName_iff]
  cases named : isClassName className.toList <;> simp [makeLocal, make, check, host, named, id.valid]

/-! The order of URIs. -/

variable {a b c : ActorUri}

theorem before_iff : a.before b = true ↔ a.host < b.host ∨ (a.host = b.host ∧
    (a.className < b.className ∨ (a.className = b.className ∧ a.instanceId < b.instanceId))) := by
  simp [before]

theorem before_ne (first : a.before b = true) : a ≠ b := by
  rintro rfl
  rcases before_iff.mp first with less | ⟨_, less | ⟨_, less⟩⟩ <;> exact String.lt_irrefl _ less

theorem before_trans (first : a.before b = true) (second : b.before c = true) :
    a.before c = true := by
  rw [before_iff] at first second ⊢
  grind [String.lt_trans]

theorem before_total (differ : a ≠ b) : a.before b = true ∨ b.before a = true := by
  have order (s t : String) : s < t ∨ s = t ∨ t < s := by
    by_cases less : s < t
    · exact .inl less
    · by_cases more : t < s
      · exact .inr (.inr more)
      · exact .inr (.inl (String.le_antisymm (String.not_lt.mp more) (String.not_lt.mp less)))
  rw [before_iff, before_iff]
  rcases order a.host b.host with less | hosts | more
  · exact .inl (.inl less)
  · rcases order a.className b.className with less | classes | more
    · exact .inl (.inr ⟨hosts, .inl less⟩)
    · rcases order a.instanceId b.instanceId with less | instances | more
      · exact .inl (.inr ⟨hosts, .inr ⟨classes, less⟩⟩)
      · obtain ⟨_, _, _⟩ := a
        obtain ⟨_, _, _⟩ := b
        cases hosts
        cases classes
        cases instances
        exact absurd rfl differ
      · exact .inr (.inr ⟨hosts.symm, .inr ⟨classes.symm, more⟩⟩)
    · exact .inr (.inr ⟨hosts.symm, .inl more⟩)
  · exact .inr (.inl more)

end ActorUri

/-! The map. -/

abbrev ActorKey := String × String

structure ActorRecord where
  engine : Nat
  handler : HandlerId
  className : String
  isAdapter : Bool

def ActorKey.uri (k : ActorKey) : ActorUri := ⟨ActorUri.localHost, k.1, k.2⟩

def ActorUri.key (u : ActorUri) : ActorKey := (u.className, u.instanceId)

namespace ActorRecord

def key (x : ActorRecord) : ActorKey := (x.className, x.handler.text)

def entry (x : ActorRecord) : ActorRef := ⟨x.key.uri, x.engine, x.handler, x.className, x.isAdapter⟩

end ActorRecord

abbrev Directory := ActorKey → Option ActorRecord

namespace Directory

def empty : Directory := fun _ => none

def put (x : ActorRecord) (m : Directory) : Directory := fun k => if k = x.key then some x else m k

def erase (k : ActorKey) (m : Directory) : Directory := fun j => if j = k then none else m j

end Directory

namespace ActorRegistry

inductive Request where
  | register (x : ActorRecord)
  | unregister (uri : ActorUri)
  | lookup (uri : ActorUri)
  | byClass (className : String)
  | byInstance (instanceId : String)
  | connect (text : String)
  | list
  | clear

inductive Answer where
  | named (uri : ActorUri)
  | taken (a : ActorRef)
  | found (a : Option ActorRef)
  | actors (actors : List ActorRef)
  | stub (s : ActorStub)
  | uris (uris : List ActorUri)
  | done

def serve (q : Request) (r : ActorRegistry) : Except Fault Answer × ActorRegistry :=
  match q with
  | .register x =>
    match r.register x.engine x.handler x.className x.isAdapter with
    | .ok (uri, r) => (.ok (.named uri), r)
    | .error f => (.error f, r)
  | .unregister uri =>
    match r.unregister uri with
    | .ok (a, r) => (.ok (.taken a), r)
    | .error f => (.error f, r)
  | .lookup uri => (.ok (.found (r.lookup? uri)), r)
  | .byClass className => (.ok (.actors (r.byClass className)), r)
  | .byInstance instanceId => (.ok (.actors (r.byInstance instanceId)), r)
  | .connect text => ((r.connect text).map .stub, r)
  | .list => (.ok (.uris r.uris), r)
  | .clear => (.ok .done, .empty)

def serveAll : List Request → ActorRegistry → List (Except Fault Answer) × ActorRegistry
  | [], r => ([], r)
  | q :: rest, r =>
    let (answer, r) := r.serve q
    let (answers, r) := serveAll rest r
    (answer :: answers, r)

end ActorRegistry

namespace Directory

open ActorRegistry (Request Answer)

def Rising (actors : List ActorRef) : Prop :=
  actors.Pairwise fun a b => a.uri.before b.uri = true

/-- These are the records that the map has and that are `wanted`. -/
def Lists (m : Directory) (wanted : ActorRecord → Prop) (actors : List ActorRef) : Prop :=
  Rising actors ∧ ∀ a, a ∈ actors ↔ ∃ x, m x.key = some x ∧ wanted x ∧ x.entry = a

inductive Obeys (m : Directory) : Request → Except Fault Answer → Directory → Prop where
  | registered {x : ActorRecord} (named : NamesClass x.className) (free : m x.key = none) :
      Obeys m (.register x) (.ok (.named x.key.uri)) (m.put x)
  | misnamed {x : ActorRecord} (misnamed : ¬ NamesClass x.className) :
      Obeys m (.register x)
        (.error (.invalidUri (.invalidClassName x.key.uri.text x.className))) m
  | duplicate {x y : ActorRecord} (named : NamesClass x.className) (taken : m x.key = some y) :
      Obeys m (.register x) (.error (.duplicateUri x.key.uri.text)) m
  | unregistered {u : ActorUri} {x : ActorRecord} (here : u.isLocal = true)
      (there : m u.key = some x) : Obeys m (.unregister u) (.ok (.taken x.entry)) (m.erase u.key)
  | unknown {u : ActorUri} (absent : u.isLocal = true → m u.key = none) :
      Obeys m (.unregister u) (.error (.uriNotFound u.text)) m
  | found {u : ActorUri} (here : u.isLocal = true) :
      Obeys m (.lookup u) (.ok (.found ((m u.key).map (·.entry)))) m
  | away {u : ActorUri} (away : u.isLocal = false) : Obeys m (.lookup u) (.ok (.found none)) m
  | byClass {className : String} {actors : List ActorRef}
      (lists : m.Lists (fun x => x.className = className) actors) :
      Obeys m (.byClass className) (.ok (.actors actors)) m
  | byInstance {instanceId : String} {actors : List ActorRef}
      (lists : m.Lists (fun x => x.handler.text = instanceId) actors) :
      Obeys m (.byInstance instanceId) (.ok (.actors actors)) m
  | illegible {text : String} {f : UriFault} (illegible : ActorUri.ofText? text = .error f) :
      Obeys m (.connect text) (.error (.invalidUri f)) m
  | elsewhere {text : String} {u : ActorUri} (legible : ActorUri.ofText? text = .ok u)
      (away : u.isLocal = false) : Obeys m (.connect text) (.ok (.stub (.elsewhere u))) m
  | connected {text : String} {u : ActorUri} {x : ActorRecord}
      (legible : ActorUri.ofText? text = .ok u) (here : u.isLocal = true)
      (there : m u.key = some x) : Obeys m (.connect text) (.ok (.stub (.here x.entry))) m
  | unconnected {text : String} {u : ActorUri} (legible : ActorUri.ofText? text = .ok u)
      (here : u.isLocal = true) (absent : m u.key = none) :
      Obeys m (.connect text) (.error (.uriNotFound u.text)) m
  | listed {uris : List ActorUri} (rising : uris.Pairwise fun a b => a.before b = true)
      (all : ∀ u, u ∈ uris ↔ ∃ x, m x.key = some x ∧ x.key.uri = u) :
      Obeys m .list (.ok (.uris uris)) m
  | cleared : Obeys m .clear (.ok .done) .empty

inductive Follows : Directory → List Request → List (Except Fault Answer) → Directory → Prop where
  | nil {m : Directory} : Follows m [] [] m
  | cons {m m' m'' : Directory} {q : Request} {answer : Except Fault Answer} {rest : List Request}
      {answers : List (Except Fault Answer)} (obeys : Obeys m q answer m')
      (follows : Follows m' rest answers m'') : Follows m (q :: rest) (answer :: answers) m''

end Directory

namespace ActorRegistry

variable {m : Directory} {r : ActorRegistry}

structure Represents (m : Directory) (r : ActorRegistry) : Prop where
  entries : ∀ a, a ∈ r.actors ↔ ∃ x, m x.key = some x ∧ x.entry = a
  keyed : ∀ k x, m k = some x → x.key = k
  rising : Directory.Rising r.actors

theorem empty_represents : Represents .empty .empty :=
  ⟨fun a => ⟨fun mem => absurd mem List.not_mem_nil, fun ⟨_, there, _⟩ => (by cases there)⟩,
    fun _ _ there => (by cases there), .nil⟩

theorem rising_distinct {actors : List ActorRef} (rising : Directory.Rising actors) :
    (actors.map (·.uri)).Nodup :=
  List.pairwise_map.mpr (rising.imp fun first => ActorUri.before_ne first)

theorem place_rising {a : ActorRef} {actors : List ActorRef} (rising : Directory.Rising actors)
    (free : ∀ b ∈ actors, b.uri ≠ a.uri) : Directory.Rising (place a actors) := by
  induction actors with
  | nil => exact List.pairwise_singleton _ _
  | cons b rest ih =>
    obtain ⟨first, rest_rising⟩ := List.pairwise_cons.mp rising
    unfold place
    split
    · rename_i less
      refine List.pairwise_cons.mpr ⟨fun c mem => ?_, rising⟩
      rcases List.mem_cons.mp mem with rfl | later
      · exact less
      · exact ActorUri.before_trans less (first c later)
    · rename_i not_less
      have more : b.uri.before a.uri = true :=
        (ActorUri.before_total (free b List.mem_cons_self)).resolve_right not_less
      refine List.pairwise_cons.mpr ⟨fun c mem => ?_, ih rest_rising fun c mem => ?_⟩
      · rcases List.mem_cons.mp ((place_perm a rest).mem_iff.mp mem) with rfl | later
        · exact more
        · exact first c later
      · exact free c (List.mem_cons_of_mem b mem)

namespace Represents

theorem entry_of_uri (rep : Represents m r) {a : ActorRef} (mem : a ∈ r.actors) {k : ActorKey}
    (at_k : a.uri = k.uri) : ∃ x, m k = some x ∧ x.entry = a := by
  obtain ⟨x, there, rfl⟩ := (rep.entries a).mp mem
  have same : x.key = k := by
    have class_name := congrArg ActorUri.className at_k
    have instance_id := congrArg ActorUri.instanceId at_k
    exact Prod.ext class_name instance_id
  exact ⟨x, same ▸ there, rfl⟩

theorem find (rep : Represents m r) (k : ActorKey) : r.find? k.uri = (m k).map (·.entry) := by
  cases there : m k with
  | none =>
    refine List.find?_eq_none.mpr fun a mem at_k => ?_
    obtain ⟨x, other, _⟩ := rep.entry_of_uri mem (eq_of_beq at_k)
    rw [there] at other
    cases other
  | some x =>
    obtain rfl := rep.keyed k x there
    exact find_of_mem (rising_distinct rep.rising) ((rep.entries x.entry).mpr ⟨x, there, rfl⟩)

theorem lookup (rep : Represents m r) (u : ActorUri) :
    r.lookup? u = if u.isLocal = true then (m u.key).map (·.entry) else none := by
  unfold lookup?
  split
  · exact rep.find u.key
  · rfl

theorem filter (rep : Represents m r) (wanted : ActorRecord → Prop) (p : ActorRef → Bool)
    (agree : ∀ x, p x.entry = true ↔ wanted x) : m.Lists wanted (r.actors.filter p) := by
  refine ⟨rep.rising.filter p, fun a => ?_⟩
  rw [List.mem_filter, rep.entries]
  constructor
  · rintro ⟨⟨x, there, rfl⟩, passes⟩
    exact ⟨x, there, (agree x).mp passes, rfl⟩
  · rintro ⟨x, there, want, rfl⟩
    exact ⟨⟨x, there, rfl⟩, (agree x).mpr want⟩

theorem put (rep : Represents m r) {x : ActorRecord} (free : m x.key = none) :
    Represents (m.put x) ⟨place x.entry r.actors⟩ := by
  have unused (b : ActorRef) (mem : b ∈ r.actors) : b.uri ≠ x.entry.uri := by
    intro same
    obtain ⟨y, there, _⟩ := rep.entry_of_uri mem (k := x.key) same
    rw [free] at there
    cases there
  refine ⟨fun a => ?_, fun k y there => ?_, place_rising rep.rising unused⟩
  · rw [(place_perm x.entry r.actors).mem_iff, List.mem_cons, rep.entries]
    constructor
    · rintro (rfl | ⟨y, there, rfl⟩)
      · exact ⟨x, if_pos rfl, rfl⟩
      · have other : y.key ≠ x.key := by
          intro same
          rw [same, free] at there
          cases there
        exact ⟨y, (if_neg other).trans there, rfl⟩
    · rintro ⟨y, there, rfl⟩
      rw [Directory.put] at there
      split at there
      · exact .inl (Option.some.inj there ▸ rfl)
      · exact .inr ⟨y, there, rfl⟩
  · rw [Directory.put] at there
    split at there
    · rename_i at_x
      rw [← Option.some.inj there, at_x]
    · exact rep.keyed k y there

theorem erase (rep : Represents m r) (k : ActorKey) :
    Represents (m.erase k) ⟨r.actors.filter fun a => a.uri != k.uri⟩ := by
  refine ⟨fun a => ?_, fun j y there => ?_, rep.rising.filter _⟩
  · rw [List.mem_filter, rep.entries]
    constructor
    · rintro ⟨⟨x, there, rfl⟩, other⟩
      refine ⟨x, (if_neg fun same => ?_).trans there, rfl⟩
      simp [ActorRecord.entry, same] at other
    · rintro ⟨x, there, rfl⟩
      rw [Directory.erase] at there
      split at there
      · cases there
      · rename_i other
        refine ⟨⟨x, there, rfl⟩, bne_iff_ne.mpr fun same => other ?_⟩
        exact Prod.ext (congrArg ActorUri.className same) (congrArg ActorUri.instanceId same)
  · rw [Directory.erase] at there
    split at there
    · cases there
    · exact rep.keyed j y there

theorem register_cases (rep : Represents m r) (x : ActorRecord) :
    (NamesClass x.className ∧ m x.key = none ∧ r.serve (.register x) =
      (.ok (.named x.key.uri), ⟨place x.entry r.actors⟩)) ∨
    (¬ NamesClass x.className ∧ r.serve (.register x) =
      (.error (.invalidUri (.invalidClassName x.key.uri.text x.className)), r)) ∨
    ∃ y, NamesClass x.className ∧ m x.key = some y ∧ r.serve (.register x) =
      (.error (.duplicateUri x.key.uri.text), r) := by
  rcases ActorUri.makeLocal_cases x.className x.handler with ⟨named, made⟩ | ⟨misnamed, made⟩
  · have found : r.find? ⟨ActorUri.localHost, x.className, x.handler.text⟩ =
      (m x.key).map (·.entry) := rep.find x.key
    cases there : m x.key with
    | none =>
      rw [there] at found
      refine .inl ⟨named, rfl, ?_⟩
      simp [serve, ActorRegistry.register, made, found, bind, Except.bind, Except.mapError, pure,
        Except.pure]
      exact ⟨rfl, rfl⟩
    | some y =>
      rw [there] at found
      refine .inr (.inr ⟨y, named, rfl, ?_⟩)
      simp [serve, ActorRegistry.register, made, found, bind, Except.bind, Except.mapError]
      rfl
  · refine .inr (.inl ⟨misnamed, ?_⟩)
    simp [serve, ActorRegistry.register, made, bind, Except.bind, Except.mapError]
    rfl

theorem unregister_cases (rep : Represents m r) (u : ActorUri) :
    (∃ x, u.isLocal = true ∧ m u.key = some x ∧
      r.unregister u = .ok (x.entry, ⟨r.actors.filter fun a => a.uri != u.key.uri⟩)) ∨
    ((u.isLocal = true → m u.key = none) ∧ r.unregister u = .error (.uriNotFound u.text)) := by
  unfold unregister
  rw [rep.lookup u]
  cases here : u.isLocal with
  | false => exact .inr ⟨fun other => (by cases other), rfl⟩
  | true =>
    cases there : m u.key with
    | none => exact .inr ⟨fun _ => rfl, rfl⟩
    | some x =>
      have key := rep.keyed u.key x there
      exact .inl ⟨x, rfl, rfl, by simp [ActorRecord.entry, key]⟩

theorem connect_cases (rep : Represents m r) (text : String) :
    (∃ f, ActorUri.ofText? text = .error f ∧ r.connect text = .error (.invalidUri f)) ∨
    ∃ u, ActorUri.ofText? text = .ok u ∧
      ((u.isLocal = false ∧ r.connect text = .ok (.elsewhere u)) ∨
      (∃ x, u.isLocal = true ∧ m u.key = some x ∧ r.connect text = .ok (.here x.entry)) ∨
      (u.isLocal = true ∧ m u.key = none ∧ r.connect text = .error (.uriNotFound u.text))) := by
  cases read : ActorUri.ofText? text with
  | error f =>
    exact .inl ⟨f, rfl, by simp [ActorRegistry.connect, read, bind, Except.bind, Except.mapError]⟩
  | ok u =>
    refine .inr ⟨u, rfl, ?_⟩
    simp only [ActorRegistry.connect, read, bind, Except.bind, Except.mapError, rep.lookup u, pure,
      Except.pure]
    cases u.isLocal <;> cases m u.key <;> simp

theorem lists_uris (rep : Represents m r) : (r.uris.Pairwise fun a b => a.before b = true) ∧
    ∀ u, u ∈ r.uris ↔ ∃ x, m x.key = some x ∧ x.key.uri = u := by
  refine ⟨List.pairwise_map.mpr rep.rising, fun u => ?_⟩
  rw [uris, List.mem_map]
  constructor
  · rintro ⟨a, mem, rfl⟩
    obtain ⟨x, there, rfl⟩ := (rep.entries a).mp mem
    exact ⟨x, there, rfl⟩
  · rintro ⟨x, there, rfl⟩
    exact ⟨x.entry, (rep.entries _).mpr ⟨x, there, rfl⟩, rfl⟩

theorem lists_class (rep : Represents m r) (className : String) :
    m.Lists (fun x => x.className = className) (r.byClass className) :=
  rep.filter _ _ fun _ => beq_iff_eq

theorem lists_instance (rep : Represents m r) (instanceId : String) :
    m.Lists (fun x => x.handler.text = instanceId) (r.byInstance instanceId) :=
  rep.filter _ _ fun _ => beq_iff_eq

theorem serve (rep : Represents m r) (q : Request) :
    ∃ m', Directory.Obeys m q (r.serve q).1 m' ∧ Represents m' (r.serve q).2 := by
  cases q with
  | register x =>
    rcases rep.register_cases x with ⟨named, free, done⟩ | ⟨misnamed, done⟩ | ⟨y, named, taken, done⟩ <;>
      rw [done]
    · exact ⟨_, .registered named free, rep.put free⟩
    · exact ⟨_, .misnamed misnamed, rep⟩
    · exact ⟨_, .duplicate named taken, rep⟩
  | unregister u =>
    rcases rep.unregister_cases u with ⟨x, here, there, done⟩ | ⟨absent, done⟩ <;>
      simp only [ActorRegistry.serve, done]
    · exact ⟨_, .unregistered here there, rep.erase u.key⟩
    · exact ⟨_, .unknown absent, rep⟩
  | lookup u =>
    refine ⟨m, ?_, rep⟩
    simp only [ActorRegistry.serve, rep.lookup u]
    cases here : u.isLocal with
    | true => exact .found here
    | false => exact .away here
  | byClass className => exact ⟨m, .byClass (rep.lists_class className), rep⟩
  | byInstance instanceId => exact ⟨m, .byInstance (rep.lists_instance instanceId), rep⟩
  | connect text =>
    refine ⟨m, ?_, rep⟩
    simp only [ActorRegistry.serve]
    rcases rep.connect_cases text with ⟨f, illegible, done⟩ | ⟨u, legible, ⟨away, done⟩ |
      ⟨x, here, there, done⟩ | ⟨here, absent, done⟩⟩ <;> rw [done]
    · exact .illegible illegible
    · exact .elsewhere legible away
    · exact .connected legible here there
    · exact .unconnected legible here absent
  | list =>
    obtain ⟨rising, all⟩ := rep.lists_uris
    exact ⟨m, .listed rising all, rep⟩
  | clear => exact ⟨.empty, .cleared, empty_represents⟩

theorem serveAll (rep : Represents m r) (requests : List Request) :
    ∃ m', Directory.Follows m requests (r.serveAll requests).1 m' ∧
      Represents m' (r.serveAll requests).2 := by
  induction requests generalizing m r with
  | nil => exact ⟨m, .nil, rep⟩
  | cons q rest ih =>
    obtain ⟨m', obeys, rep'⟩ := rep.serve q
    obtain ⟨m'', follows, rep''⟩ := ih rep'
    exact ⟨m'', .cons obeys follows, rep''⟩

end Represents

/-- Two ways to write one URI of this process. -/
structure SameActor (u v : ActorUri) : Prop where
  key : u.key = v.key
  left : u.isLocal = true
  right : v.isLocal = true

structure Mapped (m : Directory) (r : ActorRegistry) : Prop where
  register : ∀ x, (∃ u, (r.serve (.register x)).1 = .ok (.named u)) ↔
    NamesClass x.className ∧ m x.key = none
  lookup : ∀ u v, SameActor u v → r.lookup? u = r.lookup? v
  /-- An actor that is not there is reported by the URI that was asked for. -/
  unregister : ∀ u v, SameActor u v →
    (∃ a r', r.unregister u = .ok (a, r') ∧ r.unregister v = .ok (a, r')) ∨
      (r.unregister u = .error (.uriNotFound u.text) ∧ r.unregister v = .error (.uriNotFound v.text))
  connect : ∀ s t u v, ActorUri.ofText? s = .ok u → ActorUri.ofText? t = .ok v → SameActor u v →
    (∃ a, r.connect s = .ok (.here a) ∧ r.connect t = .ok (.here a)) ∨
      (r.connect s = .error (.uriNotFound u.text) ∧ r.connect t = .error (.uriNotFound v.text))
  away : ∀ u, u.isLocal = false → r.lookup? u = none ∧
    r.unregister u = .error (.uriNotFound u.text) ∧
    ∀ s, ActorUri.ofText? s = .ok u → r.connect s = .ok (.elsewhere u)
  list : (r.uris.Pairwise fun a b => a.before b = true) ∧
    ∀ u, u ∈ r.uris ↔ u.host = ActorUri.localHost ∧ (m u.key).isSome = true
  byClass : ∀ className, m.Lists (fun x => x.className = className) (r.byClass className)
  byInstance : ∀ instanceId, m.Lists (fun x => x.handler.text = instanceId) (r.byInstance instanceId)
  refused : ∀ q f, (r.serve q).1 = .error f → (r.serve q).2 = r

theorem refused_same {q : Request} {f : Fault} (refused : (r.serve q).1 = .error f) :
    (r.serve q).2 = r := by
  cases q with
  | register x =>
    simp only [serve] at refused ⊢
    split at refused
    · cases refused
    · rfl
  | unregister u =>
    simp only [serve] at refused ⊢
    split at refused
    · cases refused
    · rfl
  | clear => cases refused
  | lookup | byClass | byInstance | connect | list => rfl

namespace Represents

theorem same_unregister (rep : Represents m r) {u v : ActorUri} (same : SameActor u v) :
    (∃ a r', r.unregister u = .ok (a, r') ∧ r.unregister v = .ok (a, r')) ∨
      (r.unregister u = .error (.uriNotFound u.text) ∧
        r.unregister v = .error (.uriNotFound v.text)) := by
  obtain ⟨key, left, right⟩ := same
  rcases rep.unregister_cases u with ⟨x, _, there, done⟩ | ⟨absent, done⟩
  · rcases rep.unregister_cases v with ⟨y, _, there', done'⟩ | ⟨absent', _⟩
    · rw [key, there'] at there
      obtain rfl := Option.some.inj there
      rw [key] at done
      exact .inl ⟨_, _, done, done'⟩
    · rw [key, absent' right] at there
      cases there
  · rcases rep.unregister_cases v with ⟨y, _, there', _⟩ | ⟨_, done'⟩
    · rw [← key, absent left] at there'
      cases there'
    · exact .inr ⟨done, done'⟩

theorem connect_local (rep : Represents m r) {text : String} {u : ActorUri}
    (legible : ActorUri.ofText? text = .ok u) (here : u.isLocal = true) :
    (∃ x, m u.key = some x ∧ r.connect text = .ok (.here x.entry)) ∨
      (m u.key = none ∧ r.connect text = .error (.uriNotFound u.text)) := by
  rcases rep.connect_cases text with ⟨f, illegible, _⟩ | ⟨v, read, found⟩
  · rw [legible] at illegible
    cases illegible
  · rw [legible] at read
    obtain rfl := Except.ok.inj read
    rcases found with ⟨away, _⟩ | ⟨x, _, there, done⟩ | ⟨_, absent, done⟩
    · rw [here] at away
      cases away
    · exact .inl ⟨x, there, done⟩
    · exact .inr ⟨absent, done⟩

theorem same_connect (rep : Represents m r) {s t : String} {u v : ActorUri}
    (first : ActorUri.ofText? s = .ok u) (second : ActorUri.ofText? t = .ok v)
    (same : SameActor u v) :
    (∃ a, r.connect s = .ok (.here a) ∧ r.connect t = .ok (.here a)) ∨
      (r.connect s = .error (.uriNotFound u.text) ∧
        r.connect t = .error (.uriNotFound v.text)) := by
  obtain ⟨key, left, right⟩ := same
  rcases rep.connect_local first left with ⟨x, there, done⟩ | ⟨absent, done⟩
  · rcases rep.connect_local second right with ⟨y, there', done'⟩ | ⟨absent', _⟩
    · rw [key, there'] at there
      obtain rfl := Option.some.inj there
      exact .inl ⟨_, done, done'⟩
    · rw [key, absent'] at there
      cases there
  · rcases rep.connect_local second right with ⟨y, there', _⟩ | ⟨_, done'⟩
    · rw [← key, absent] at there'
      cases there'
    · exact .inr ⟨done, done'⟩

theorem away (rep : Represents m r) {u : ActorUri} (away : u.isLocal = false) :
    r.lookup? u = none ∧ r.unregister u = .error (.uriNotFound u.text) ∧
      ∀ s, ActorUri.ofText? s = .ok u → r.connect s = .ok (.elsewhere u) := by
  have nothing : r.lookup? u = none := by
    rw [rep.lookup, away]
    rfl
  refine ⟨nothing, by rw [ActorRegistry.unregister, nothing], fun s legible => ?_⟩
  simp [ActorRegistry.connect, legible, away, bind, Except.bind, Except.mapError, pure, Except.pure]

theorem mapped (rep : Represents m r) : Mapped m r := by
  constructor
  case register =>
    intro x
    rcases rep.register_cases x with ⟨named, free, done⟩ | ⟨misnamed, done⟩ | ⟨y, _, taken, done⟩
    · simp [done, named, free]
    · simp [done, misnamed]
    · simp [done, taken]
  case lookup =>
    rintro u v ⟨key, left, right⟩
    rw [rep.lookup, rep.lookup, key, left, right]
  case unregister => exact fun _ _ same => rep.same_unregister same
  case connect => exact fun _ _ _ _ first second same => rep.same_connect first second same
  case away => exact fun _ away => rep.away away
  case list =>
    obtain ⟨rising, all⟩ := rep.lists_uris
    refine ⟨rising, fun u => (all u).trans ?_⟩
    constructor
    · rintro ⟨x, there, rfl⟩
      exact ⟨rfl, Option.isSome_iff_exists.mpr ⟨x, there⟩⟩
    · rintro ⟨here, some_record⟩
      obtain ⟨x, there⟩ := Option.isSome_iff_exists.mp some_record
      have key := rep.keyed _ x there
      refine ⟨x, key ▸ there, ?_⟩
      rw [key, ActorKey.uri, ← here]
      rfl
  case byClass => exact rep.lists_class
  case byInstance => exact rep.lists_instance
  case refused => exact fun _ _ refused => refused_same refused

end Represents

/-- Whatever is asked of a registry, it answers as a map from class names and instance ids to handlers
does. -/
theorem registry_is_map (requests : List Request) :
    ∃ m, Directory.Follows .empty requests (empty.serveAll requests).1 m ∧
      Mapped m (empty.serveAll requests).2 := by
  obtain ⟨m, follows, rep⟩ := empty_represents.serveAll requests
  exact ⟨m, follows, rep.mapped⟩

/-- A fault names the URI as it was written, so two ways to write it lead to two faults. -/
theorem registry_is_map_spelled : ¬ ∀ requests u v, SameActor u v →
    (empty.serveAll requests).2.unregister u = (empty.serveAll requests).2.unregister v := by
  intro claimed
  have same := claimed [] ⟨"local", "Cam", "cam"⟩ ⟨"localhost", "Cam", "cam"⟩
    ⟨rfl, by decide +kernel, by decide +kernel⟩
  exact absurd same (by decide +kernel)

end ActorRegistry

end Tickflow
