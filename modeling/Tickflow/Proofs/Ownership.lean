import Tickflow.Proofs.Registries
/-!
Whose names a stop takes out of the registries. It goes by the names that the engine's handlers have,
and by the registry that the engine uses by then. So it takes out just what its handlers put there, as
long as nobody else took that out before, and the engine kept to its registry.
-/
namespace Tickflow

namespace World

variable {w w' : World} {key : Nat} {r : Resident}

/-- Nobody but the engine takes out names of its handlers, and it keeps to its registry for as long as
they have names. -/
structure Respects (key : Nat) (doer : Option Nat) (w w' : World) : Prop where
  entries : doer ≠ some key → ∀ i, ∀ a ∈ w.entries i, a.engine = key → a ∈ w'.entries i
  uses : w.names key ≠ [] → w'.uses key = w.uses key

/-- Engines do as they do. Nobody else takes out names, or makes an engine leave them behind. -/
def Orderly (doer : Option Nat) (w w' : World) : Prop :=
  doer = none → ∀ key, Respects key none w w'

/-- The names of the engine's handlers are in the registry that it uses, and nowhere else. -/
structure Settled (key : Nat) (w : World) : Prop where
  home : ∀ i, ∀ a ∈ w.entries i, a.engine = key → w.uses key = some i ∧ a.uri ∈ w.names key
  own : ∀ i, w.uses key = some i → ∀ u ∈ w.names key, ∃ a ∈ w.entries i, a.uri = u ∧ a.engine = key

theorem names_of (found : w.resident? key = some r) : w.names key = r.engine.names := by
  rw [names, found]
  rfl

theorem uses_of (found : w.resident? key = some r) : w.uses key = r.registry := by
  rw [uses, found]
  rfl

theorem settled_nameless (nobody : ∀ i, ∀ a ∈ w.entries i, a.engine ≠ key)
    (nameless : w.names key = []) : Settled key w := by
  refine ⟨fun i a mem same => absurd same (nobody i a mem), fun i _ u mem => ?_⟩
  rw [nameless] at mem
  cases mem

theorem Settled.keep (settled : Settled key w) (names : w'.names key = w.names key)
    (uses : w.names key ≠ [] → w'.uses key = w.uses key)
    (entries : ∀ i a, a.engine = key → (a ∈ w'.entries i ↔ a ∈ w.entries i)) :
    Settled key w' := by
  by_cases nameless : w.names key = []
  · refine settled_nameless (fun i a mem same => ?_) (names.trans nameless)
    have home := (settled.home i a ((entries i a same).mp mem) same).2
    rw [nameless] at home
    cases home
  · refine ⟨fun i a mem same => ?_, fun i used u mem => ?_⟩
    · rw [uses nameless, names]
      exact settled.home i a ((entries i a same).mp mem) same
    · rw [uses nameless] at used
      rw [names] at mem
      obtain ⟨a, before, uri, same⟩ := settled.own i used u mem
      exact ⟨a, (entries i a same).mpr before, uri, same⟩

theorem Grows.names (grows : Grows w w') (key : Nat) : w'.names key = w.names key := by
  cases before : w.resident? key with
  | some r => rw [names_of before, names_of (grows.residents key r before)]
  | none =>
    have nameless : w.names key = [] := by
      rw [World.names, before]
      rfl
    rw [nameless]
    cases after : w'.resident? key with
    | none =>
      rw [World.names, after]
      rfl
    | some r =>
      rcases grows.newcomers key r after with old | ⟨_, new⟩
      · rw [before] at old
        cases old
      · rw [names_of after, new]

theorem useRegistry_names (i k : Nat) (w : World) : (w.useRegistry k i).names key = w.names key := by
  rw [names, names, useRegistry_resident, Option.map_map]
  congr 2
  funext r
  rw [Function.comp_apply]
  split <;> rfl

theorem Settled.act {r r' : Resident} (settled : Settled key w) (acted : Acted key r r' w w')
    (effect : Effect key r r' w w') : Settled key w' := by
  have before := names_of acted.before
  have after := names_of acted.after
  have uses : w'.uses key = w.uses key := by
    rw [uses_of acted.before, uses_of acted.after, acted.registry]
  cases effect with
  | kept entries names =>
    exact settled.keep (by rw [before, after, names]) (fun _ => uses) fun i a _ => by rw [entries]
  | @given i b used own free placed others names =>
    have at_i : w.uses key = some i := (uses_of acted.before).trans used
    have named : w'.names key = w.names key ++ [b.uri] := by rw [before, after, names]
    refine ⟨fun j a mem same => ?_, fun j used' u mem => ?_⟩
    · rw [uses, named]
      by_cases here : j = i
      · subst here
        refine ⟨at_i, List.mem_append.mpr ?_⟩
        rcases List.mem_cons.mp (placed.mem_iff.mp mem) with rfl | old
        · exact .inr (List.mem_singleton_self _)
        · exact .inl (settled.home j a old same).2
      · have elsewhere := (settled.home j a (others j here ▸ mem) same).1
        rw [at_i] at elsewhere
        exact absurd (Option.some.inj elsewhere).symm here
    · rw [uses, at_i] at used'
      obtain rfl := Option.some.inj used'
      rw [named] at mem
      rcases List.mem_append.mp mem with old | new
      · obtain ⟨a, old, uri, same⟩ := settled.own i at_i u old
        exact ⟨a, placed.mem_iff.mpr (List.mem_cons_of_mem b old), uri, same⟩
      · exact ⟨b, placed.mem_iff.mpr List.mem_cons_self, (List.mem_singleton.mp new).symm, own⟩
  | left awake stopped entries names =>
    refine settled_nameless (fun i a mem same => ?_) (after.trans names)
    rw [entries] at mem
    split at mem
    · obtain ⟨old, nameless⟩ := List.mem_filter.mp mem
      have named := (settled.home i a old same).2
      rw [before] at named
      exact of_decide_eq_true nameless named
    · rename_i unused
      have home := (settled.home i a mem same).1
      rw [uses_of acted.before] at home
      exact unused home

theorem Effect.others {k : Nat} {r r' : Resident} (effect : Effect k r r' w w') {i : Nat}
    {a : ActorRef} (other : a.engine ≠ k) : (a ∈ w'.entries i → a ∈ w.entries i) ∧
      (a ∈ w.entries i → (r.registry = some i → a.uri ∉ r.engine.names) → a ∈ w'.entries i) := by
  cases effect with
  | kept entries =>
    rw [entries]
    exact ⟨id, fun mem _ => mem⟩
  | @given j b used own free placed others =>
    by_cases here : i = j
    · subst here
      refine ⟨fun mem => ?_, fun mem _ => placed.mem_iff.mpr (List.mem_cons_of_mem b mem)⟩
      rcases List.mem_cons.mp (placed.mem_iff.mp mem) with rfl | old
      · exact absurd own other
      · exact old
    · rw [others i here]
      exact ⟨id, fun mem _ => mem⟩
  | left awake stopped entries =>
    rw [entries]
    split
    · rename_i used
      refine ⟨fun mem => (List.mem_filter.mp mem).1, fun mem spared => ?_⟩
      exact List.mem_filter.mpr ⟨mem, decide_eq_true (spared used)⟩
    · exact ⟨id, fun mem _ => mem⟩

theorem settled_step {doer : Option Nat} (sound : w.Sound) (settled : Settled key w)
    (step : Step w doer w') (respects : Respects key doer w w') : Settled key w' := by
  rcases step_cases sound step with ⟨rfl, grows | loses | ⟨k, i, there, rfl⟩⟩ |
    ⟨k, rfl, rfl | ⟨r, r', acted, effect⟩⟩
  · exact settled.keep (grows.names key) respects.uses fun i a _ => by rw [grows.entries]
  · have names : w'.names key = w.names key := by rw [names, names, loses.residents]
    refine settled.keep names respects.uses fun i a same => ?_
    exact ⟨fun mem => (loses.entries i).subset mem,
      fun mem => respects.entries (by simp) i a mem same⟩
  · exact settled.keep (useRegistry_names i k w) respects.uses fun _ _ _ => .rfl
  · exact settled
  · by_cases here : k = key
    · subst here
      exact settled.act acted effect
    · have same := acted.others key (Ne.symm here)
      have names : w'.names key = w.names key := by rw [names, names, same]
      refine settled.keep names respects.uses fun i a own => ?_
      refine ⟨(effect.others (fun at_k => here (at_k.symm.trans own))).1, fun mem => ?_⟩
      exact respects.entries (fun at_key => here (Option.some.inj at_key)) i a mem own

theorem respected_settled (run : Reachable (Respects key) w) : Settled key w := by
  induction run with
  | empty => exact settled_nameless (fun i a mem => by cases mem) rfl
  | next run step respects ih => exact settled_step (reachable_sound run) ih step respects

/-- Where nobody meddles with names, no engine takes out those of another. -/
theorem orderly_respected (run : Reachable Orderly w) (key : Nat) : Reachable (Respects key) w := by
  induction run generalizing key with
  | empty => exact .empty
  | @next w w' doer run step orderly ih =>
    refine (ih key).next step ?_
    have sound := reachable_sound run
    rcases step_cases sound step with ⟨rfl, _⟩ | ⟨k, rfl, rfl | ⟨r, r', acted, effect⟩⟩
    · exact orderly rfl key
    · exact ⟨fun _ _ _ mem _ => mem, fun _ => rfl⟩
    · constructor
      · intro other i a mem own
        have away : a.engine ≠ k := fun at_k => other (by rw [← own, at_k])
        apply (effect.others away).2 mem
        intro used named
        have settled := respected_settled (ih k)
        rw [← uses_of acted.before] at used
        rw [← names_of acted.before] at named
        obtain ⟨b, there, uri, at_k⟩ := settled.own i used _ named
        have same : a = b := List.inj_on_of_nodup_map (sound.distinct i) mem there uri.symm
        exact away (same ▸ at_k)
      · intro _
        by_cases here : key = k
        · subst here
          rw [uses_of acted.before, uses_of acted.after, acted.registry]
        · rw [uses, uses, acted.others key here]

/-! After a stop. -/

structure Gone (key : Nat) (w : World) : Prop where
  stopped : ∃ r, w.resident? key = some r ∧ r.engine.state = .stopped
  nobody : ∀ i, ∀ a ∈ w.entries i, a.engine ≠ key

abbrev Later : World → World → Prop := Relation.ReflTransGen fun w w' => ∃ doer, Step w doer w'

theorem Gone.step {doer : Option Nat} (gone : Gone key w) (sound : w.Sound)
    (step : Step w doer w') : Gone key w' := by
  obtain ⟨⟨r, found, stopped⟩, nobody⟩ := gone
  rcases step_cases sound step with ⟨_, grows | loses | ⟨k, i, there, rfl⟩⟩ |
    ⟨k, _, rfl | ⟨x, x', acted, effect⟩⟩
  · exact ⟨⟨r, grows.residents key r found, stopped⟩, fun i a mem =>
      nobody i a (grows.entries i ▸ mem)⟩
  · exact ⟨⟨r, (loses.residents key).trans found, stopped⟩, fun i a mem =>
      nobody i a ((loses.entries i).subset mem)⟩
  · refine ⟨⟨_, by rw [useRegistry_resident, found, Option.map_some], ?_⟩, nobody⟩
    split <;> exact stopped
  · exact ⟨⟨r, found, stopped⟩, nobody⟩
  · by_cases here : k = key
    · subst here
      have before := acted.before
      rw [found] at before
      cases before
      cases effect with
      | kept entries _ still =>
        exact ⟨⟨x', acted.after, still.mpr stopped⟩, fun i a mem => nobody i a (entries i ▸ mem)⟩
      | given _ _ _ _ _ _ idle =>
        rw [stopped] at idle
        cases idle
      | left awake => exact absurd stopped awake
    · refine ⟨⟨r, (acted.others key (Ne.symm here)).trans found, stopped⟩, fun i a mem own => ?_⟩
      exact nobody i a ((effect.others (fun at_k => here (at_k.symm.trans own))).1 mem) own

theorem Gone.later (gone : Gone key w) (sound : w.Sound) (later : Later w w') : Gone key w' := by
  have both : w'.Sound ∧ Gone key w' := by
    induction later with
    | refl => exact ⟨sound, gone⟩
    | tail _ step ih =>
      obtain ⟨doer, step⟩ := step
      exact ⟨ih.1.step step, ih.2.step ih.1 step⟩
  exact both.2

theorem Gone.unresolved (gone : Gone key w) {i : Nat} {r : ActorRegistry} {uri : ActorUri}
    {a : ActorRef} (there : w.registry? i = some r) (found : r.lookup? uri = some a) :
    a.engine ≠ key := by
  apply gone.nobody i
  rw [entries, there]
  unfold ActorRegistry.lookup? at found
  split at found
  · exact List.mem_of_find?_eq_some found
  · cases found

theorem Settled.filter (settled : Settled key w) (sound : w.Sound) (i : Nat) :
    (if w.uses key = some i then (w.entries i).filter fun a => decide (a.uri ∉ w.names key)
      else w.entries i) = (w.entries i).filter fun a => decide (a.engine ≠ key) := by
  split
  · rename_i used
    apply List.filter_congr
    intro a mem
    have same : a.uri ∈ w.names key ↔ a.engine = key := by
      constructor
      · intro named
        obtain ⟨b, there, uri, own⟩ := settled.own i used _ named
        have alike : a = b := List.inj_on_of_nodup_map (sound.distinct i) mem there uri.symm
        exact alike ▸ own
      · exact fun own => (settled.home i a mem own).2
    simp only [same]
  · rename_i unused
    refine (List.filter_eq_self.mpr fun a mem => ?_).symm
    rw [decide_eq_true_eq]
    exact fun own => unused (settled.home i a mem own).1

/-- The engine is stopped in a world that came about in any way: when its owner asks for it or drops
it, at the end of a wait for its handlers, or after a start that failed. -/
structure Stops (key : Nat) (w : World) (h h' : Hosted) : Prop where
  run : Reachable (fun _ _ _ => True) w
  hosted : w.hosted? key = some h
  deed : h.Deed h'
  awake : h.engine.state ≠ .stopped
  ends : h'.engine.state = .stopped

/-- A stop takes out of the registry that the engine uses what is there under the names of the engine's
handlers, and so all of its own entries there. These are all the entries that it has, and the stop takes
out none of another engine, if nobody else touched them and the engine kept to its registry; then no
registry will ever lead to the engine again. This is so for all engines where nobody meddles. -/
theorem stop_releases {h h' : Hosted} (stops : Stops key w h h') :
    let w' := w.putHosted key h'
    (∀ i, w'.entries i = if w.uses key = some i then
      (w.entries i).filter fun a => decide (a.uri ∉ w.names key) else w.entries i) ∧
    (∀ i, w.uses key = some i → ∀ a ∈ w'.entries i, a.engine ≠ key) ∧
    (Reachable (Respects key) w →
      (∀ i, w'.entries i = (w.entries i).filter fun a => decide (a.engine ≠ key)) ∧
      ∀ later, Later w' later → ∀ i r uri a, later.registry? i = some r →
        r.lookup? uri = some a → a.engine ≠ key) ∧
    (Reachable Orderly w → Reachable (Respects key) w) := by
  obtain ⟨run, hosted, deed, awake, ends⟩ := stops
  intro w'
  have sound := reachable_sound run
  obtain ⟨r, r', was, is, acted, effect⟩ := act_effect sound hosted deed
  rw [← was] at awake
  rw [← is] at ends
  have uses := uses_of acted.before
  have names := names_of acted.before
  have all : ∀ i, w'.entries i = if w.uses key = some i then
      (w.entries i).filter fun a => decide (a.uri ∉ w.names key) else w.entries i := by
    rw [uses, names]
    cases effect with
    | kept _ _ still => exact absurd (still.mp ends) awake
    | given _ _ _ _ _ _ _ stays =>
      rw [stays] at ends
      cases ends
    | left _ _ entries => exact entries
  refine ⟨all, ?_, ?_, fun orderly => orderly_respected orderly key⟩
  · intro i used a mem own
    rw [all, if_pos used, names] at mem
    obtain ⟨there, nameless⟩ := List.mem_filter.mp mem
    obtain ⟨x, found, named⟩ := sound.owned i a there
    rw [own, acted.before] at found
    cases found
    exact of_decide_eq_true nameless (named awake)
  · intro respected
    have rest (i : Nat) := (all i).trans ((respected_settled respected).filter sound i)
    have gone : Gone key w' := by
      refine ⟨⟨r', acted.after, ends⟩, fun i a mem => ?_⟩
      rw [rest] at mem
      exact of_decide_eq_true (List.mem_filter.mp mem).2
    refine ⟨rest, fun later run i x uri a there found => ?_⟩
    exact (gone.later (sound.act acted effect) run).unresolved there found

theorem Reachable.any {fair : Option Nat → World → World → Prop} (run : Reachable fair w) :
    Reachable (fun _ _ _ => True) w := by
  induction run with
  | empty => exact .empty
  | next _ step _ ih => exact ih.next step trivial

theorem idle_stops {fair : Option Nat → World → World → Prop} (run : Reachable fair w) (key : Nat)
    (idle : (w.hosted? key).map (·.engine.state) = some .idle) :
    ∃ h, Stops key w h h.stop ∧ w.putHosted key h.stop = w.drop key := by
  obtain ⟨h, hosted, state⟩ := Option.map_eq_some_iff.mp idle
  refine ⟨h, ⟨run.any, hosted, .stop, ?_, ?_⟩, by rw [drop, hosted]⟩
  · rw [state]
    intro other
    cases other
  · simp only [Hosted.stop, state]
    exact h.finishStop_state

/-! Engines that name a camera each, under one id. -/

def among (count : Nat) : World :=
  ⟨(List.range count).map fun key => ⟨.blank key (Settings.default.withFps 30.0) none, some 0, none⟩,
    [.empty], some 0⟩

theorem among_one : World.empty.create .default 30.0 = .ok (0, among 1) := rfl

theorem among_two : (among 1).create .default 30.0 = .ok (1, among 2) := rfl

def filmed (key : Nat) (w : World) : World :=
  match w.hosted? key with
  | none => w
  | some h => w.putHosted key (h.added (some "cam") (.plain "Cam" [.output "out" .data] []))

theorem filmed_step (there : (w.hosted? key).isSome) : Step w (some key) (w.filmed key) := by
  obtain ⟨h, hosted⟩ := Option.isSome_iff_exists.mp there
  rw [filmed, hosted]
  exact .act key hosted (.add _ _)

theorem among_one_orderly : Reachable Orderly (among 1) := by
  refine .next .empty (.create among_one) fun _ key => ⟨fun _ i a mem => ?_, fun named => ?_⟩
  · cases mem
  · exact absurd rfl named

theorem stop_releases_camera : ∃ h, Stops 0 ((among 1).filmed 0) h h.stop ∧
    (((among 1).filmed 0).entries 0).map (·.engine) = [0] ∧
    (((among 1).filmed 0).putHosted 0 h.stop).entries 0 = [] := by
  have run : Reachable Orderly ((among 1).filmed 0) :=
    among_one_orderly.next (filmed_step (by decide +kernel)) fun other => by cases other
  obtain ⟨h, stops, _⟩ := idle_stops run 0 (by decide +kernel)
  obtain ⟨_, _, released, orderly⟩ := stop_releases stops
  have rest := (released (orderly run)).1 0
  exact ⟨h, stops, by decide +kernel, rest.trans (by decide +kernel)⟩

def evicted (w : World) : World :=
  match w.registry? 0 with
  | none => w
  | some r =>
    match r.unregister ⟨ActorUri.localHost, "Cam", "cam"⟩ with
    | .ok (_, r) => w.setRegistry 0 r
    | .error _ => w

theorem evicted_reachable (run : Reachable (fun _ _ _ => True) w) :
    Reachable (fun _ _ _ => True) w.evicted := by
  unfold evicted
  split
  · exact run
  · rename_i r there
    split
    · rename_i done
      exact run.next (.unregister there done) trivial
    · exact run

/-- An engine that left its registry behind leaves its names there when it stops. An engine whose name
was taken out, and then given to another engine, takes it out again. -/
theorem stop_releases_meddled :
    (¬ ∀ w key h h', Stops key w h h' →
      ∀ i, ∀ a ∈ (w.putHosted key h').entries i, a.engine ≠ key) ∧
    ¬ ∀ w key h h', Stops key w h h' →
      ∀ i, ∀ a ∈ w.entries i, a.engine ≠ key → a ∈ (w.putHosted key h').entries i := by
  have one := among_one_orderly.any
  constructor
  · intro claimed
    let w := (((among 1).filmed 0).newRegistry.2).useRegistry 0 1
    have run : Reachable (fun _ _ _ => True) w :=
      ((one.next (filmed_step (by decide +kernel)) trivial).next .newRegistry trivial).next
        (.useRegistry 0 1 (by decide +kernel)) trivial
    obtain ⟨h, stops, same⟩ := idle_stops run 0 (by decide +kernel)
    have gone := claimed w 0 h h.stop stops 0
    rw [same] at gone
    have left : ((w.drop 0).entries 0).map (·.engine) = [0] := by decide +kernel
    obtain ⟨a, mem, own⟩ := List.mem_map.mp (left ▸ List.mem_singleton_self 0)
    exact gone a mem own
  · intro claimed
    let w := (((among 2).filmed 0).evicted).filmed 1
    have two : Reachable (fun _ _ _ => True) (among 2) := one.next (.create among_two) trivial
    have run : Reachable (fun _ _ _ => True) w :=
      (evicted_reachable (two.next (filmed_step (by decide +kernel)) trivial)).next
        (filmed_step (by decide +kernel)) trivial
    obtain ⟨h, stops, same⟩ := idle_stops run 0 (by decide +kernel)
    have spared := claimed w 0 h h.stop stops 0
    rw [same] at spared
    have there : (w.entries 0).map (·.engine) = [1] := by decide +kernel
    have nothing : (w.drop 0).entries 0 = [] := by decide +kernel
    obtain ⟨a, mem, other⟩ := List.mem_map.mp (there ▸ List.mem_singleton_self 1)
    have still := spared a mem (by rw [other]; decide)
    rw [nothing] at still
    cases still

end World

end Tickflow
