import Tickflow.Proofs.Names
import Tickflow.World
/-!
Engines come and go, choose their registries and name their handlers there, and anybody may take names
out of a registry. Every entry is under a name that a handler of its engine has, until the engine is
stopped.
-/
namespace Tickflow

namespace World

open Engine (make_blank blank_wired)

variable {w w' : World} {key : Nat}

def entries (i : Nat) (w : World) : List ActorRef := ((w.registry? i).map (·.actors)).getD []

def names (key : Nat) (w : World) : List ActorUri :=
  ((w.resident? key).map (·.engine.names)).getD []

def uses (key : Nat) (w : World) : Option Nat := (w.resident? key).bind (·.registry)

inductive Step (w : World) : Option Nat → World → Prop where
  | create {settings : Settings} {fps : Float} {key : Nat} {w' : World}
      (made : w.create settings fps = .ok (key, w')) : Step w none w'
  | createClocked {settings : Settings} {key : Nat} {w' : World}
      (made : w.createClocked settings = .ok (key, w')) : Step w none w'
  | newRegistry : Step w none w.newRegistry.2
  | ownRegistry : Step w none w.ownRegistry.2
  | initRegistry : Step w none w.initRegistry.2
  | resetRegistry : Step w none w.resetRegistry
  | teardownRegistry : Step w none w.teardownRegistry
  | useRegistry (key i : Nat) (there : i < w.registries.length) : Step w none (w.useRegistry key i)
  | unregister {i : Nat} {r r' : ActorRegistry} {uri : ActorUri} {a : ActorRef}
      (there : w.registry? i = some r) (done : r.unregister uri = .ok (a, r')) :
      Step w none (w.setRegistry i r')
  | clear (i : Nat) : Step w none (w.setRegistry i .empty)
  | act (key : Nat) {h h' : Hosted} (hosted : w.hosted? key = some h) (deed : h.Deed h') :
      Step w (some key) (w.putHosted key h')
  | drop (key : Nat) : Step w (some key) (w.drop key)

inductive Reachable (fair : Option Nat → World → World → Prop) : World → Prop where
  | empty : Reachable fair .empty
  | next {w w' : World} {doer : Option Nat} (run : Reachable fair w) (step : Step w doer w')
      (ok : fair doer w w') : Reachable fair w'

/-! What is known at any time. -/

structure Placed (k n : Nat) (r : Resident) : Prop where
  key : r.engine.key = k
  wired : r.engine.Wired
  here : r.engine.Local
  bound : ∀ i, r.registry = some i → i < n

structure Sound (w : World) : Prop where
  residents : ∀ k r, w.resident? k = some r → Placed k w.registries.length r
  shared : ∀ i, w.shared = some i → i < w.registries.length
  owned : ∀ i, ∀ a ∈ w.entries i, ∃ r, w.resident? a.engine = some r ∧
    (r.engine.state ≠ .stopped → a.uri ∈ r.engine.names)
  distinct : ∀ i, ((w.entries i).map (·.uri)).Nodup

structure Grows (w w' : World) : Prop where
  residents : ∀ k r, w.resident? k = some r → w'.resident? k = some r
  newcomers : ∀ k r, w'.resident? k = some r → w.resident? k = some r ∨
    (Placed k w'.registries.length r ∧ r.engine.names = [])
  entries : ∀ i, w'.entries i = w.entries i
  count : w.registries.length ≤ w'.registries.length
  shared : ∀ i, w'.shared = some i → w.shared = some i ∨ i < w'.registries.length

theorem Placed.more {k m n : Nat} {r : Resident} (placed : Placed k m r) (more : m ≤ n) :
    Placed k n r :=
  ⟨placed.key, placed.wired, placed.here, fun i used => Nat.lt_of_lt_of_le (placed.bound i used) more⟩

theorem Grows.refl (w : World) : Grows w w :=
  ⟨fun _ _ found => found, fun _ _ found => .inl found, fun _ => rfl, Nat.le_refl _,
    fun _ found => .inl found⟩

theorem Grows.trans {w'' : World} (first : Grows w w') (second : Grows w' w'') : Grows w w'' := by
  refine ⟨?_, ?_, ?_, Nat.le_trans first.count second.count, ?_⟩
  · exact fun k r found => second.residents k r (first.residents k r found)
  · intro k r found
    rcases second.newcomers k r found with old | new
    · rcases first.newcomers k r old with older | ⟨placed, nameless⟩
      · exact .inl older
      · exact .inr ⟨placed.more second.count, nameless⟩
    · exact .inr new
  · exact fun i => (second.entries i).trans (first.entries i)
  · intro i found
    rcases second.shared i found with old | new
    · rcases first.shared i old with older | bound
      · exact .inl older
      · exact .inr (Nat.lt_of_lt_of_le bound second.count)
    · exact .inr new

theorem newRegistry_grows (w : World) : Grows w w.newRegistry.2 := by
  refine ⟨fun _ _ found => found, fun _ _ found => .inl found, ?_, ?_, fun _ found => .inl found⟩
  · intro i
    simp only [entries, registry?, newRegistry, List.getElem?_append]
    split
    · rfl
    · rename_i beyond
      rw [List.getElem?_eq_none (Nat.not_lt.mp beyond)]
      cases i - w.registries.length <;> rfl
  · simp [newRegistry]

theorem shared_grows {i : Nat} (bound : i < w.registries.length) :
    Grows w { w with shared := some i } := by
  refine ⟨fun _ _ found => found, fun _ _ found => .inl found, fun _ => rfl, Nat.le_refl _, ?_⟩
  intro k same
  cases same
  exact .inr bound

theorem ownRegistry_grows (w : World) : Grows w w.ownRegistry.2 := by
  unfold ownRegistry
  split
  · exact .refl w
  · exact (newRegistry_grows w).trans (shared_grows (by simp [newRegistry]))

theorem ownRegistry_bound (sound : w.Sound) :
    w.ownRegistry.1 < w.ownRegistry.2.registries.length := by
  unfold ownRegistry
  split
  · rename_i i found
    exact sound.shared i found
  · simp [newRegistry]

theorem resident_grows {r : Resident} (placed : Placed w.residents.length w.registries.length r)
    (nameless : r.engine.names = []) : Grows w { w with residents := w.residents ++ [r] } := by
  refine ⟨?_, ?_, fun _ => rfl, Nat.le_refl _, fun _ found => .inl found⟩
  · intro k x found
    exact (List.getElem?_append_left (List.getElem?_eq_some_iff.mp found).1).trans found
  · intro k x found
    simp only [resident?, List.getElem?_append] at found
    split at found
    · exact .inl found
    · rename_i beyond
      cases later : k - w.residents.length with
      | zero =>
        have at_end : k = w.residents.length := by omega
        rw [later] at found
        cases found
        exact .inr ⟨at_end ▸ placed, nameless⟩
      | succ n =>
        rw [later] at found
        cases found

theorem blank_placed {settings : Settings} (valid : settings.validate = .ok ()) (k n : Nat)
    (range : Option PortRange) {i : Option Nat} (bound : ∀ j, i = some j → j < n) :
    Placed k n ⟨.blank k settings range, i, none⟩ :=
  ⟨rfl, blank_wired valid, fun _ mem => absurd mem List.not_mem_nil, bound⟩

theorem create_grows (sound : w.Sound) {settings : Settings} {fps : Float}
    (made : w.create settings fps = .ok (key, w')) : Grows w w' := by
  cases begun : Engine.make w.residents.length settings fps with
  | error f => simp [create, begun, bind, Except.bind] at made
  | ok e =>
    obtain ⟨valid, range, rfl⟩ := make_blank begun
    simp only [create, begun, bind, Except.bind] at made
    cases auto : settings.autoRegister with
    | true =>
      simp only [auto, if_true] at made
      cases made
      have own := ownRegistry_grows w
      have same : w.ownRegistry.2.residents = w.residents := by
        unfold ownRegistry
        split <;> rfl
      have placed := blank_placed valid w.residents.length w.ownRegistry.2.registries.length range
        (i := some w.ownRegistry.1) (by
          rintro _ ⟨⟩
          exact ownRegistry_bound sound)
      exact own.trans (resident_grows (same ▸ placed) rfl)
    | false =>
      simp only [auto] at made
      cases made
      exact resident_grows (blank_placed valid _ _ range (by simp)) rfl

theorem createClocked_grows (sound : w.Sound) {settings : Settings}
    (made : w.createClocked settings = .ok (key, w')) : Grows w w' := by
  cases valid : settings.validate with
  | error f => simp [createClocked, valid, bind, Except.bind, Except.mapError] at made
  | ok _ =>
    cases clocked : SoftwareClock.make settings.fps SoftwareClock.defaultId 0 with
    | error f => simp [createClocked, valid, clocked, bind, Except.bind, Except.mapError] at made
    | ok clock =>
      cases created : w.create settings clock.fps with
      | error f =>
        simp [createClocked, valid, clocked, created, bind, Except.bind, Except.mapError] at made
      | ok result =>
        simp only [createClocked, valid, clocked, created, bind, Except.bind, Except.mapError] at made
        cases made
        exact create_grows sound created

theorem Sound.grow (sound : w.Sound) (grows : Grows w w') : w'.Sound := by
  refine ⟨?_, ?_, ?_, ?_⟩
  · intro k r found
    rcases grows.newcomers k r found with old | ⟨new, _⟩
    · exact (sound.residents k r old).more grows.count
    · exact new
  · intro i found
    rcases grows.shared i found with old | new
    · exact Nat.lt_of_lt_of_le (sound.shared i old) grows.count
    · exact new
  · intro i a mem
    rw [grows.entries] at mem
    obtain ⟨r, found, named⟩ := sound.owned i a mem
    exact ⟨r, grows.residents _ r found, named⟩
  · intro i
    rw [grows.entries]
    exact sound.distinct i

structure Loses (w w' : World) : Prop where
  residents : ∀ k, w'.resident? k = w.resident? k
  entries : ∀ i, (w'.entries i).Sublist (w.entries i)
  count : w'.registries.length = w.registries.length
  shared : w'.shared = w.shared

theorem Sound.lose (sound : w.Sound) (loses : Loses w w') : w'.Sound := by
  refine ⟨?_, ?_, ?_, ?_⟩
  · intro k r found
    rw [loses.residents] at found
    rw [loses.count]
    exact sound.residents k r found
  · intro i found
    rw [loses.shared] at found
    rw [loses.count]
    exact sound.shared i found
  · intro i a mem
    rw [loses.residents]
    exact sound.owned i a ((loses.entries i).subset mem)
  · exact fun i => (sound.distinct i).sublist ((loses.entries i).map _)

theorem setRegistry_entries (i j : Nat) (r : ActorRegistry) (w : World) :
    (w.setRegistry i r).entries j =
      if i = j ∧ i < w.registries.length then r.actors else w.entries j := by
  simp only [entries, registry?, setRegistry, List.getElem?_set]
  by_cases here : i = j
  · subst here
    by_cases bound : i < w.registries.length
    · simp [bound]
    · simp [bound]
  · simp [here]

theorem setRegistry_loses {i : Nat} {r' : ActorRegistry}
    (fewer : ∀ r, w.registry? i = some r → r'.actors.Sublist r.actors) :
    Loses w (w.setRegistry i r') := by
  refine ⟨fun _ => rfl, ?_, by simp [setRegistry], rfl⟩
  intro j
  rw [setRegistry_entries]
  split
  · rename_i here
    obtain ⟨rfl, bound⟩ := here
    have found : w.registry? i = some w.registries[i] := List.getElem?_eq_getElem bound
    rw [entries, found]
    exact fewer _ found
  · exact List.Sublist.refl _

theorem clear_loses (i : Nat) (w : World) : Loses w (w.setRegistry i .empty) :=
  setRegistry_loses fun r _ => List.nil_sublist r.actors

theorem unregister_loses {i : Nat} {r r' : ActorRegistry} {uri : ActorUri} {a : ActorRef}
    (there : w.registry? i = some r) (done : r.unregister uri = .ok (a, r')) :
    Loses w (w.setRegistry i r') := by
  apply setRegistry_loses
  intro x found
  rw [there] at found
  cases found
  unfold ActorRegistry.unregister at done
  split at done
  · cases done
    exact List.filter_sublist
  · cases done

theorem useRegistry_resident (key i k : Nat) (w : World) : (w.useRegistry key i).resident? k =
    (w.resident? k).map fun r => if key = k then { r with registry := some i } else r :=
  List.getElem?_modify _ _ _ _

theorem Sound.use (sound : w.Sound) {key i : Nat} (there : i < w.registries.length) :
    (w.useRegistry key i).Sound := by
  refine ⟨?_, sound.shared, ?_, sound.distinct⟩
  · intro k r found
    rw [useRegistry_resident] at found
    obtain ⟨x, before, rfl⟩ := Option.map_eq_some_iff.mp found
    obtain ⟨key, wired, here, bound⟩ := sound.residents k x before
    split
    · refine ⟨key, wired, here, ?_⟩
      rintro j ⟨⟩
      exact there
    · exact ⟨key, wired, here, bound⟩
  · intro j a mem
    obtain ⟨r, found, named⟩ := sound.owned j a mem
    refine ⟨_, by rw [useRegistry_resident, found, Option.map_some], ?_⟩
    split <;> exact named

/-! What an engine does. -/

structure Acted (key : Nat) (r r' : Resident) (w w' : World) : Prop where
  before : w.resident? key = some r
  after : w'.resident? key = some r'
  others : ∀ k, k ≠ key → w'.resident? k = w.resident? k
  registry : r'.registry = r.registry
  count : w'.registries.length = w.registries.length
  shared : w'.shared = w.shared
  placed : Placed key w'.registries.length r'

inductive Effect (key : Nat) (r r' : Resident) (w w' : World) : Prop where
  | kept (entries : ∀ i, w'.entries i = w.entries i) (names : r'.engine.names = r.engine.names)
      (stopped : r'.engine.state = .stopped ↔ r.engine.state = .stopped)
  | given {i : Nat} {a : ActorRef} (used : r.registry = some i) (own : a.engine = key)
      (free : ∀ b ∈ w.entries i, b.uri ≠ a.uri) (placed : (w'.entries i).Perm (a :: w.entries i))
      (others : ∀ j, j ≠ i → w'.entries j = w.entries j)
      (names : r'.engine.names = r.engine.names ++ [a.uri]) (idle : r.engine.state = .idle)
      (stays : r'.engine.state = .idle)
  | left (awake : r.engine.state ≠ .stopped) (stopped : r'.engine.state = .stopped)
      (entries : ∀ i, w'.entries i = if r.registry = some i then
        (w.entries i).filter fun a => decide (a.uri ∉ r.engine.names) else w.entries i)
      (names : r'.engine.names = [])

theorem hosted_resident {h : Hosted} (hosted : w.hosted? key = some h) :
    ∃ r, w.resident? key = some r ∧ h = ⟨r.engine, r.registry.bind w.registry?⟩ := by
  obtain ⟨r, found, same⟩ := Option.map_eq_some_iff.mp hosted
  exact ⟨r, found, same.symm⟩

theorem putHosted_resident {r : Resident} (found : w.resident? key = some r) (h : Hosted) (k : Nat) :
    (w.putHosted key h).resident? k =
      if k = key then some { r with engine := h.engine } else w.resident? k := by
  have bound : key < w.residents.length := (List.getElem?_eq_some_iff.mp found).1
  have placed : (w.residents.set key { r with engine := h.engine })[k]? =
      if k = key then some { r with engine := h.engine } else w.resident? k := by
    rw [List.getElem?_set]
    by_cases here : key = k
    · simp [here, here ▸ bound]
    · simp [here, Ne.symm here, resident?]
  unfold putHosted
  rw [found]
  dsimp only
  split <;> exact placed

theorem putHosted_rest (key : Nat) (h : Hosted) (w : World) :
    (w.putHosted key h).registries.length = w.registries.length ∧
      (w.putHosted key h).shared = w.shared := by
  unfold putHosted
  split
  · exact ⟨rfl, rfl⟩
  · dsimp only
    split
    · simp [setRegistry]
    · exact ⟨rfl, rfl⟩

theorem putHosted_entries {r : Resident} (found : w.resident? key = some r)
    (bound : ∀ i, r.registry = some i → i < w.registries.length) (h : Hosted) (j : Nat) :
    (w.putHosted key h).entries j = match h.registry with
      | some r' => if r.registry = some j then r'.actors else w.entries j
      | none => w.entries j := by
  unfold putHosted
  rw [found]
  dsimp only
  cases used : r.registry with
  | none => cases h.registry <;> simp [entries, registry?]
  | some i =>
    cases h.registry with
    | none => rfl
    | some r' =>
      dsimp only
      rw [setRegistry_entries]
      by_cases here : i = j
      · simp [here, here ▸ bound i used]
      · simp [here]
        rfl

theorem registry_entries {i : Nat} (bound : i < w.registries.length) :
    ∃ r, w.registry? i = some r ∧ w.entries i = r.actors := by
  have found : w.registry? i = some w.registries[i] := List.getElem?_eq_getElem bound
  exact ⟨_, found, by rw [entries, found]; rfl⟩

theorem act_effect (sound : w.Sound) {h h' : Hosted} (hosted : w.hosted? key = some h)
    (deed : h.Deed h') : ∃ r r', r.engine = h.engine ∧ r'.engine = h'.engine ∧
      Acted key r r' w (w.putHosted key h') ∧ Effect key r r' w (w.putHosted key h') := by
  obtain ⟨r, found, rfl⟩ := hosted_resident hosted
  obtain ⟨at_key, wired, here, bound⟩ := sound.residents key r found
  obtain ⟨keeps, naming⟩ := deed.naming wired here
  have rest := putHosted_rest key h' w
  have entries := putHosted_entries found bound h'
  refine ⟨r, { r with engine := h'.engine }, rfl, rfl, ?_, ?_⟩
  · refine ⟨found, ?_, ?_, rfl, rest.1, rest.2, ?_⟩
    · rw [putHosted_resident found, if_pos rfl]
    · intro k other
      rw [putHosted_resident found, if_neg other]
    · rw [rest.1]
      exact ⟨keeps.trans at_key, deed.wired wired, naming.stays_local here, bound⟩
  · cases naming with
    | kept registry names stopped =>
      refine .kept (fun j => ?_) names stopped
      rw [entries, registry]
      cases used : r.registry with
      | none => rfl
      | some i =>
        obtain ⟨x, there, same⟩ := registry_entries (bound i used)
        rw [Option.bind_some, there]
        dsimp only
        split
        · rename_i hit
          cases hit
          exact same.symm
        · rfl
    | @given a x x' uses idle free own local_name placed registry names stays =>
      obtain ⟨i, used, there⟩ := Option.bind_eq_some_iff.mp uses
      obtain ⟨y, there', same⟩ := registry_entries (bound i used)
      rw [there] at there'
      cases there'
      refine .given used (own.trans at_key) (same ▸ free) ?_ ?_ names idle stays
      · rw [entries, registry, same]
        simp only [used, if_true, placed]
        exact ActorRegistry.place_perm a _
      · intro j other
        rw [entries, registry]
        simp only [used]
        exact if_neg fun hit => other (Option.some.inj hit).symm
    | left awake registry names stopped =>
      refine .left awake stopped (fun j => ?_) names
      rw [entries, registry]
      cases used : r.registry with
      | none => rfl
      | some i =>
        obtain ⟨x, there, same⟩ := registry_entries (bound i used)
        rw [Option.bind_some, there, Option.map_some]
        dsimp only
        by_cases hit : some i = some j
        · cases hit
          rw [if_pos rfl, if_pos rfl, same]
          rfl
        · rw [if_neg hit, if_neg hit]

theorem drop_cases (key : Nat) (w : World) : w.drop key = w ∨
    ∃ h, w.hosted? key = some h ∧ w.drop key = w.putHosted key h.stop := by
  unfold drop
  cases hosted : w.hosted? key with
  | none => exact .inl rfl
  | some h => exact .inr ⟨h, rfl, rfl⟩

theorem Sound.act (sound : w.Sound) {r r' : Resident} (acted : Acted key r r' w w')
    (effect : Effect key r r' w w') : w'.Sound := by
  have count := acted.count
  -- Who owns an entry that was there before owns it still, but for the engine that gave up its names.
  have owned (i : Nat) (a : ActorRef) (mem : a ∈ w.entries i)
      (kept : a.engine = key → r'.engine.state ≠ .stopped → a.uri ∈ r.engine.names →
        a.uri ∈ r'.engine.names) (awake : r'.engine.state ≠ .stopped → r.engine.state ≠ .stopped) :
      ∃ x, w'.resident? a.engine = some x ∧ (x.engine.state ≠ .stopped → a.uri ∈ x.engine.names) := by
    obtain ⟨x, found, named⟩ := sound.owned i a mem
    by_cases here : a.engine = key
    · rw [here, acted.before] at found
      cases found
      exact ⟨r', here ▸ acted.after, fun active => kept here active (named (awake active))⟩
    · exact ⟨x, (acted.others _ here).trans found, named⟩
  refine ⟨?_, ?_, ?_, ?_⟩
  · intro k x found
    by_cases here : k = key
    · subst here
      rw [acted.after] at found
      cases found
      exact acted.placed
    · rw [acted.others k here] at found
      rw [count]
      exact sound.residents k x found
  · intro i found
    rw [acted.shared] at found
    rw [count]
    exact sound.shared i found
  · intro i a mem
    cases effect with
    | kept entries names stopped =>
      rw [entries] at mem
      exact owned i a mem (fun _ _ named => names ▸ named) (mt stopped.mpr)
    | @given j b used own free placed others names idle stays =>
      have old (before : a ∈ w.entries i) := owned i a before
        (fun _ _ named => names ▸ List.mem_append_left _ named)
        (fun _ stopped => by rw [idle] at stopped; cases stopped)
      by_cases here : i = j
      · subst here
        rcases List.mem_cons.mp (placed.mem_iff.mp mem) with rfl | before
        · refine ⟨r', own ▸ acted.after, fun _ => ?_⟩
          rw [names]
          exact List.mem_append_right _ (List.mem_singleton_self _)
        · exact old before
      · exact old (others i here ▸ mem)
    | left awake stopped entries names =>
      have before : a ∈ w.entries i := by
        rw [entries] at mem
        split at mem
        · exact (List.mem_filter.mp mem).1
        · exact mem
      exact owned i a before (fun _ active _ => absurd stopped active) fun active =>
        absurd stopped active
  · intro i
    cases effect with
    | kept entries =>
      rw [entries]
      exact sound.distinct i
    | @given j b _ _ free placed others =>
      by_cases here : i = j
      · subst here
        apply (placed.map _).nodup_iff.mpr
        refine List.nodup_cons.mpr ⟨?_, sound.distinct i⟩
        intro taken
        obtain ⟨a, mem, same⟩ := List.mem_map.mp taken
        exact free a mem same
      · rw [others i here]
        exact sound.distinct i
    | left _ _ entries =>
      rw [entries]
      split
      · exact (sound.distinct i).sublist (List.filter_sublist.map _)
      · exact sound.distinct i

theorem empty_sound : empty.Sound := by
  refine ⟨?_, ?_, ?_, ?_⟩
  · intro k r found
    cases found
  · intro i found
    cases found
  · intro i a mem
    cases mem
  · exact fun _ => .nil

theorem step_cases {doer : Option Nat} (sound : w.Sound) (step : Step w doer w') :
    (doer = none ∧ (Grows w w' ∨ Loses w w' ∨
      ∃ key i, i < w.registries.length ∧ w' = w.useRegistry key i)) ∨
    ∃ key, doer = some key ∧ (w' = w ∨ ∃ r r', Acted key r r' w w' ∧ Effect key r r' w w') := by
  cases step with
  | create made => exact .inl ⟨rfl, .inl (create_grows sound made)⟩
  | createClocked made => exact .inl ⟨rfl, .inl (createClocked_grows sound made)⟩
  | newRegistry => exact .inl ⟨rfl, .inl (newRegistry_grows w)⟩
  | ownRegistry => exact .inl ⟨rfl, .inl (ownRegistry_grows w)⟩
  | initRegistry =>
    have made := (newRegistry_grows w).trans (shared_grows (i := w.newRegistry.1)
      (by simp [newRegistry]))
    exact .inl ⟨rfl, .inl made⟩
  | resetRegistry =>
    refine .inl ⟨rfl, .inr (.inl ?_)⟩
    unfold resetRegistry
    split
    · exact clear_loses _ w
    · exact ⟨fun _ => rfl, fun _ => List.Sublist.refl _, rfl, rfl⟩
  | teardownRegistry =>
    refine .inl ⟨rfl, .inl ⟨fun _ _ found => found, fun _ _ found => .inl found, fun _ => rfl,
      Nat.le_refl _, ?_⟩⟩
    intro i found
    cases found
  | useRegistry key i there => exact .inl ⟨rfl, .inr (.inr ⟨key, i, there, rfl⟩)⟩
  | unregister there done => exact .inl ⟨rfl, .inr (.inl (unregister_loses there done))⟩
  | clear i => exact .inl ⟨rfl, .inr (.inl (clear_loses i w))⟩
  | act key hosted deed =>
    obtain ⟨r, r', _, _, acted, effect⟩ := act_effect sound hosted deed
    exact .inr ⟨key, rfl, .inr ⟨r, r', acted, effect⟩⟩
  | drop key =>
    refine .inr ⟨key, rfl, ?_⟩
    rcases drop_cases key w with same | ⟨h, hosted, same⟩
    · exact .inl same
    · obtain ⟨r, r', _, _, acted, effect⟩ := act_effect sound hosted .stop
      rw [same]
      exact .inr ⟨r, r', acted, effect⟩

theorem Sound.step {doer : Option Nat} (sound : w.Sound) (step : Step w doer w') : w'.Sound := by
  rcases step_cases sound step with ⟨_, grows | loses | ⟨key, i, there, rfl⟩⟩ |
    ⟨key, _, rfl | ⟨r, r', acted, effect⟩⟩
  · exact sound.grow grows
  · exact sound.lose loses
  · exact sound.use there
  · exact sound
  · exact sound.act acted effect

theorem reachable_sound {fair : Option Nat → World → World → Prop} (run : Reachable fair w) :
    w.Sound := by
  induction run with
  | empty => exact empty_sound
  | next _ step _ sound => exact sound.step step

end World

end Tickflow
