import Mathlib.Data.List.Forall2
import Tickflow.Proofs.CausalReads
import Tickflow.Proofs.Locations
/-!
An adapter at work. It reads its input in its calls, and writes each message that it took before it
reads again. It knows a message that it had before by its number, since a latest-wins link shows the
same message again and again.
-/
namespace Tickflow

/-- The messages that an adapter passed on, oldest first, the one that it holds, and the number that it
noted last. -/
structure Hand where
  passed : List Message
  held : Option Message
  noted : Option Nat

namespace Hand

def empty : Hand := ⟨[], none, none⟩

def got (k : Hand) : List Message := k.passed ++ k.held.toList

/-- The hand after a read. What has the number that was noted last is not taken again. -/
def took (x : Option Message) (k : Hand) : Hand :=
  match x with
  | none => k
  | some m => if k.noted = some m.sequence then k else ⟨k.passed, some m, some m.sequence⟩

def given (k : Hand) : Hand := { k with passed := k.got, held := none }

variable {k : Hand} {m : Message}

theorem took_same (same : k.noted = some m.sequence) : k.took (some m) = k := if_pos same

theorem took_new (new : k.noted ≠ some m.sequence) :
    k.took (some m) = ⟨k.passed, some m, some m.sequence⟩ := if_neg new

theorem took_passed (x : Option Message) (k : Hand) : (k.took x).passed = k.passed := by
  unfold took
  split
  · rfl
  · split <;> rfl

@[simp] theorem given_got (k : Hand) : k.given.got = k.got := List.append_nil _

theorem got_empty (empty : k.held = none) : k.got = k.passed := by
  simp [got, empty]

theorem got_held (held : k.held = some m) : k.got = k.passed ++ [m] := by
  simp [got, held]

/-- The messages come in the order of their numbers, and the last number is the one that was noted. -/
structure Rising (k : Hand) : Prop where
  noted : k.noted = k.got.getLast?.map (·.sequence)
  rising : (Message.numbers k.got).Pairwise (· < ·)

theorem empty_rising : empty.Rising := ⟨rfl, .nil⟩

theorem Rising.given (rising : k.Rising) : k.given.Rising :=
  ⟨by rw [given_got]; exact rising.noted, by rw [given_got]; exact rising.rising⟩

theorem Rising.unnoted (rising : k.Rising) (older : ∀ x ∈ k.got, x.sequence < m.sequence) :
    k.noted ≠ some m.sequence := by
  intro same
  obtain ⟨x, last, number⟩ := Option.map_eq_some_iff.mp (rising.noted.symm.trans same)
  exact Nat.lt_irrefl _ (number ▸ older x (List.mem_of_getLast? last))

theorem Rising.newer (rising : k.Rising) (older : ∀ x ∈ k.got, x.sequence ≤ m.sequence)
    (new : k.noted ≠ some m.sequence) : ∀ x ∈ k.got, x.sequence < m.sequence := by
  rcases List.eq_nil_or_concat' k.got with none | ⟨before, x, all⟩
  · rw [none]
    intro x mem
    cases mem
  · have at_end : x.sequence < m.sequence := by
      apply Nat.lt_of_le_of_ne
      · apply older
        rw [all]
        exact List.mem_append_right _ (List.mem_singleton_self x)
      · intro same
        apply new
        rw [rising.noted, all, List.getLast?_concat, Option.map_some, same]
    have sorted := rising.rising
    rw [all] at sorted ⊢
    intro y mem
    exact Nat.lt_of_le_of_lt ((last_greatest (sorted.imp Nat.le_of_lt)).2 y mem) at_end

theorem Rising.took (rising : k.Rising) (empty : k.held = none)
    (newer : ∀ x ∈ k.got, x.sequence < m.sequence) :
    Rising ⟨k.passed, some m, some m.sequence⟩ := by
  have all : Hand.got ⟨k.passed, some m, some m.sequence⟩ = k.got ++ [m] := by
    rw [got_held rfl, got_empty empty]
  constructor
  · rw [all, List.getLast?_concat, Option.map_some]
  · rw [all, Message.numbers, List.map_append]
    refine List.pairwise_append.mpr ⟨rising.rising, List.pairwise_singleton _ _, ?_⟩
    intro n mem k last
    obtain ⟨x, mx, rfl⟩ := List.mem_map.mp mem
    rw [List.mem_singleton.mp last]
    exact newer x mx

end Hand

def Route.moved (pool : Nat) (r : Route) (m : Message) : Message :=
  m.relocated (r.destination pool) m.bytes

structure Route.Carries (pool : Nat) (r : Route) (m x : Message) : Prop where
  bytes : x.bytes = m.bytes
  kind : x.kind = m.kind
  timestamp : x.timestamp = m.timestamp
  info : x.info = m.info
  location : x.location = r.destination pool

theorem Route.moved_carries (pool : Nat) (r : Route) (m : Message) (n : Nat) :
    r.Carries pool m ((r.moved pool m).withSequence n) := ⟨rfl, rfl, rfl, rfl, rfl⟩

namespace Flow

open Engine

variable {f g : Flow} {s t : List Event}

def devicePool (f : Flow) : Nat := f.engine.settings.devicePoolId

/-- The work of the adapter `a` of the connection along the route, told by its hand, from the moment the
connection is made. Nobody else reads the input of the adapter or writes its output; all other steps
come in any order, also between the two halves of its work. It is its script that keeps an adapter to
this. -/
inductive Relayed (c : Connection) (a : HandlerId) (r : Route) : List Event → Flow → Hand → Prop where
  | made {s t : List Event} {f g : Flow} (before : Traced t f) (step : Step f s g)
      (old : ∀ l ∈ c.links, l ∉ f.engine.links) (new : c ∈ g.engine.connections)
      (bridges : Bridges c a r g.engine) : Relayed c a r (t ++ s) g .empty
  | take {t : List Event} {f g : Flow} {k : Hand} (run : Relayed c a r t f k)
      (empty : k.held = none) {n : CellId} {look : Look} {x : Option Message}
      (step : Step f [.read a.inlet n (some look) x] g) :
      Relayed c a r (t ++ [.read a.inlet n (some look) x]) g (k.took x)
  | give {t : List Event} {f : Flow} {k : Hand} (run : Relayed c a r t f k) {m : Message}
      (held : k.held = some m) {q : OutputPort} (found : f.engine.output? a.outlet = some q)
      (accepted : q.check (r.moved f.devicePool m) = .ok ()) (free : f.parcels a.outlet = none) :
      Relayed c a r t (f.numbered a.outlet q (r.moved f.devicePool m)) k.given
  | aside {s t : List Event} {f g : Flow} {k : Hand} (run : Relayed c a r t f k) (step : Step f s g)
      (unread : ∀ n look x, .read a.inlet n look x ∉ s) (unnumbered : Unnumbered a.outlet f g) :
      Relayed c a r (t ++ s) g k

variable {c : Connection} {a : HandlerId} {r : Route} {k : Hand} {l : Link}

theorem number_step {b : PortAddress} {q : OutputPort} {m : Message}
    (found : f.engine.output? b = some q) (accepted : q.check m = .ok ())
    (free : f.parcels b = none) : Step f [] (f.numbered b q m) :=
  .move (.number b m found accepted free)

theorem Relayed.traced (run : Relayed c a r t f k) : Traced t f := by
  induction run with
  | made before step => exact before.next step
  | take _ _ step ih => exact ih.next step
  | give _ _ found accepted free ih =>
    have traced := ih.next (number_step found accepted free)
    rwa [List.append_nil] at traced
  | aside _ step _ _ ih => exact ih.next step

theorem Relayed.wired (run : Relayed c a r t f k) : f.engine.Wired := traced_wired run.traced

theorem Relayed.stands (run : Relayed c a r t f k) :
    Bridges c a r f.engine ∧ ∀ l ∈ c.links, l ∈ f.engine.links := by
  have next {s : List Event} {f g : Flow} (w : f.engine.Wired) (step : Step f s g)
      (stands : Bridges c a r f.engine ∧ ∀ l ∈ c.links, l ∈ f.engine.links) :
      Bridges c a r g.engine ∧ ∀ l ∈ c.links, l ∈ g.engine.links :=
    ⟨stands.1.stay (step_stays w step).1, fun l ml => step_links w step (stands.2 l ml)⟩
  induction run with
  | made before step old new bridges =>
    exact ⟨bridges, fun l ml => List.mem_flatMap.mpr ⟨c, new, ml⟩⟩
  | take run _ step ih => exact next run.wired step ih
  | give run _ found accepted free ih => exact next run.wired (number_step found accepted free) ih
  | aside run step _ _ ih => exact next run.wired step ih

/-! What leaves the adapter. -/

theorem step_pool (w : f.engine.Wired) (step : Step f s g) : g.devicePool = f.devicePool :=
  congrArg Settings.devicePoolId (step_stays w step).1.keeps.settings

theorem Relayed.forwards (run : Relayed c a r t f k) (ml : l ∈ c.links)
    (leaves : l.source = a.outlet) :
    List.Forall₂ (r.Carries f.devicePool) k.passed (f.sent l t) := by
  induction run with
  | made before step old new =>
    rw [new_unsent before step (old l ml) (List.mem_flatMap.mpr ⟨c, new, ml⟩)]
    exact .nil
  | take run _ step ih =>
    have here := run.stands.2 l ml
    rw [step_pool run.wired step, Hand.took_passed]
    rcases step_sent run.wired (traced_underway run.traced) here step with
      same | ⟨_, _, _, _, _, nothing, _⟩
    · rw [same]
      exact ih
    · cases nothing
  | @give t f k run m held q found accepted free ih =>
    have here := run.stands.2 l ml
    rw [← leaves] at found free ⊢
    rw [numbered_sent run.wired here found free, Hand.given, Hand.got_held held]
    exact List.rel_append ih (.cons (Route.moved_carries _ _ _ _) .nil)
  | @aside s t f g k run step _ unnumbered ih =>
    have here := run.stands.2 l ml
    rw [step_pool run.wired step]
    rcases step_sent run.wired (traced_underway run.traced) here step with
      same | ⟨q, m, found, _, _, _, rfl⟩
    · rw [same]
      exact ih
    · obtain ⟨q', found', next⟩ := unnumbered q (leaves ▸ found)
      rw [← leaves, numbered_next found] at found'
      cases found'
      exact absurd next (Nat.succ_ne_self _)

/-! What comes to the adapter. -/

theorem read_step {b : PortAddress} {n : CellId} {look : Look} {x : Option Message}
    (step : Step f [.read b n (some look) x] g) :
    ∃ p, ∃ cell : Cell Message, f.engine.input? b = some p ∧ p.cell = some n ∧
      f.engine.cells[n]? = some cell ∧ f.looks b.handler = some look ∧
      (cell.read (some look.cutoff)).1 = x := by
  cases step with
  | beat b => cases b
  | move move =>
    cases move with
    | read _ _ cutoff found fed here told =>
      obtain ⟨asked, rfl⟩ := told look rfl
      exact ⟨_, _, found, fed, here, asked, rfl⟩

theorem queue_newer {cell : Cell Message} {n : CellId} (holds : cell.Holds t n)
    (ordered : cell.policy ≠ .latestWins) (rise : (Entry.numbers (stored n t)).Pairwise (· < ·))
    {cutoff : Option Nat} {m : Message} (got : (cell.read cutoff).1 = some m) :
    ∀ x ∈ taken n t, x.sequence < m.sequence := by
  rcases holds.slots with dead | ⟨_, filled⟩
  · rw [dead.read] at got
    cases got
  · rw [(read_slots cutoff cell).1] at got
    cases slots : cell.slots with
    | latest current shadow currentRead =>
      exact absurd (congrArg Slots.policy slots) ordered
    | ordered capacity queue =>
      rw [slots] at filled got
      obtain ⟨gone, parts, values⟩ := filled
      cases queue with
      | nil => cases got
      | cons e rest =>
        have first : m = e.value := by
          simp only [Cell.take] at got
          split at got
          · exact (Option.some.inj got).symm
          · cases got
        rw [parts, Entry.numbers, List.map_append] at rise
        intro x mem
        rw [← values] at mem
        obtain ⟨y, my, rfl⟩ := List.mem_map.mp mem
        rw [first]
        exact (List.pairwise_append.mp rise).2.2 _ (List.mem_map_of_mem my) _ List.mem_cons_self

theorem untaken (run : Traced t f) (ml : l ∈ f.engine.links) (sub : s ⊆ t)
    (unread : ∀ n look x, .read l.target n look x ∉ s) : taken l.cell s = [] := by
  refine List.eq_nil_iff_forall_not_mem.mpr fun m mem => ?_
  obtain ⟨b, look, read⟩ := mem_taken mem
  obtain ⟨k, mk, target, cell⟩ := traced_fed run (sub read)
  have same := (traced_wired run).link_unique mk ml cell
  rw [same] at target
  exact unread _ _ _ (target ▸ read)

/-- What the adapter took is what it read in its calls, each message once and in the order of the
numbers. From a queue it takes all that it reads. -/
structure Collected (l : Link) (t : List Event) (f : Flow) (k : Hand) : Prop where
  read : ∀ x ∈ k.got, x ∈ causalReads l.target t
  rising : k.Rising
  all : ∀ cell : Cell Message, f.engine.cells[l.cell]? = some cell → cell.policy ≠ .latestWins →
    taken l.cell t = k.got

theorem Collected.take (collected : Collected l t f k) (empty : k.held = none) {n : CellId}
    {look : Look} {x : Option Message} (run : Traced t f)
    (sorted : (frames t).Pairwise (· < ·)) (ml : l ∈ f.engine.links)
    (step : Step f [.read l.target n (some look) x] g) :
    Collected l (t ++ [.read l.target n (some look) x]) g (k.took x) := by
  have w := traced_wired run
  obtain ⟨p, cell, found, fed, here, asked, got⟩ := read_step step
  obtain ⟨l', ml', target, rfl⟩ := w.input_link found fed
  obtain rfl := w.target_unique ml' ml target
  have policy {cell' : Cell Message} (after : g.engine.cells[l'.cell]? = some cell') :
      cell'.policy = cell.policy := by
    obtain ⟨y, before, same⟩ := step_policy w step after (w.cell_bound ml)
    rw [here] at before
    cases before
    exact same.symm
  have more : taken l'.cell (t ++ [.read l'.target l'.cell (some look) x]) =
      taken l'.cell t ++ x.toList := by
    cases x <;> simp [taken, Event.taken?]
  have kept : ∀ y ∈ k.got, y ∈ causalReads l'.target
      (t ++ [.read l'.target l'.cell (some look) x]) := by
    intro y mem
    rw [causalReads_append]
    exact List.mem_append_left _ (collected.read y mem)
  cases x with
  | none =>
    refine ⟨kept, collected.rising, fun cell' after ordered => ?_⟩
    rw [more, collected.all cell here (policy after ▸ ordered)]
    exact List.append_nil _
  | some m =>
    have queued : cell.policy ≠ .latestWins → ∀ y ∈ k.got, y.sequence < m.sequence := by
      intro ordered
      obtain ⟨first, ledger⟩ := traced_ledger run ml
      rw [← collected.all cell here ordered]
      exact queue_newer (traced_holds run here) ordered ledger.stored_numbers_rise got
    have older : ∀ y ∈ k.got, y.sequence ≤ m.sequence := by
      intro y mem
      by_cases latest : cell.policy = .latestWins
      · exact reads_newer run sorted ml here latest asked got y (collected.read y mem)
      · exact Nat.le_of_lt (queued latest y mem)
    by_cases same : k.noted = some m.sequence
    · rw [Hand.took_same same]
      refine ⟨kept, collected.rising, fun cell' after ordered => ?_⟩
      exact absurd same (collected.rising.unnoted (queued (policy after ▸ ordered)))
    · rw [Hand.took_new same]
      have newer := collected.rising.newer older same
      have all : Hand.got ⟨k.passed, some m, some m.sequence⟩ = k.got ++ [m] := by
        rw [Hand.got_held rfl, Hand.got_empty empty]
      refine ⟨?_, collected.rising.took empty newer, fun cell' after ordered => ?_⟩
      · intro y mem
        rw [all] at mem
        rcases List.mem_append.mp mem with old | new
        · exact kept y old
        · rw [List.mem_singleton.mp new, causalReads_append]
          apply List.mem_append_right
          simp [causalReads, Event.causal?]
      · rw [more, collected.all cell here (policy after ▸ ordered), all]
        rfl

theorem Relayed.collected (run : Relayed c a r t f k) (sorted : (frames t).Pairwise (· < ·))
    (ml : l ∈ c.links) (enters : l.target = a.inlet) : Collected l t f k := by
  induction run with
  | @made s t f g before step old new =>
    obtain ⟨calm, bound⟩ := new_calm before step (old l ml) (List.mem_flatMap.mpr ⟨c, new, ml⟩)
    refine ⟨?_, Hand.empty_rising, fun _ _ _ => ?_⟩
    · intro x mem
      cases mem
    · rw [taken_append, calm.silent.taken, (traced_inside before _ bound).2]
      rfl
  | take run empty step ih =>
    have earlier := frames_sorted_left sorted
    rw [← enters] at step ⊢
    exact (ih earlier).take empty run.traced earlier (run.stands.2 l ml) step
  | give run held found accepted free ih =>
    have before := ih sorted
    refine ⟨?_, before.rising.given, ?_⟩ <;> rw [Hand.given_got]
    · exact before.read
    · exact before.all
  | @aside s t f g k run step unread _ ih =>
    have before := ih (frames_sorted_left sorted)
    have here := run.stands.2 l ml
    have still : taken l.cell s = [] := by
      have after := run.traced.next step
      apply untaken after (step_links run.wired step here) (List.subset_append_right t s)
      rw [enters]
      exact unread
    refine ⟨?_, before.rising, fun cell after ordered => ?_⟩
    · intro x mem
      rw [causalReads_append]
      exact List.mem_append_left _ (before.read x mem)
    · obtain ⟨y, earlier, policy⟩ := step_policy run.wired step after (run.wired.cell_bound here)
      rw [taken_append, still, List.append_nil]
      exact before.all y earlier (policy ▸ ordered)

end Flow

end Tickflow
