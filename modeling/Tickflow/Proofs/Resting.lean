import Mathlib.Data.List.Induction
import Mathlib.Data.Nat.ModEq
import Tickflow.Proofs.PortRanges
/-!
How long a freed id rests. A search goes on where the last one stopped, so that before an id is given
out again it has come to each of the others, and has given it out too or found it reserved.
-/
namespace Tickflow

namespace PortRange

deriving instance DecidableEq for Event

def after (r : PortRange) (requests : List Request) : PortRange := (r.serveAll requests).2

def Grants (q : Request) (id : Nat) (r : PortRange) : Prop :=
  ∃ x, (r.serve q).1 = .granted x ∧ x.id = id

/-- The search for an id comes to this one, finds it reserved and goes on. -/
def Passes (q : Request) (id : Nat) (r : PortRange) : Prop :=
  (∃ label paired, q = .reserve label paired) ∧ r.isReserved id = true ∧
    ∃ steps < r.capacity, r.search steps r.cursor = (none, id)

def During (does : Request → Nat → PortRange → Prop) (requests : List Request) (id : Nat)
    (r : PortRange) : Prop :=
  ∃ done q left, requests = done ++ q :: left ∧ does q id (r.after done)

/-- There is a moment, before the requests or after some of them, when the id is reserved. -/
def UsedIn (requests : List Request) (id : Nat) (r : PortRange) : Prop :=
  ∃ done left, requests = done ++ left ∧ (r.after done).isReserved id = true

variable {r : PortRange} {first past k x y : Nat} {q : Request} {requests : List Request}
  {events : List Event}

theorem after_append (front back : List Request) (r : PortRange) :
    r.after (front ++ back) = (r.after front).after back := by
  induction front generalizing r with
  | nil => rfl
  | cons q rest ih => exact ih (r.serve q).2

section
variable {does : Request → Nat → PortRange → Prop}

theorem during_cons : During does (q :: requests) x r ↔
    does q x r ∨ During does requests x (r.serve q).2 := by
  constructor
  · rintro ⟨done, p, left, split, here⟩
    cases done with
    | nil =>
      cases split
      exact .inl here
    | cons _ done =>
      cases split
      exact .inr ⟨done, p, left, rfl, here⟩
  · rintro (here | ⟨done, p, left, rfl, there⟩)
    · exact ⟨[], q, requests, rfl, here⟩
    · exact ⟨q :: done, p, left, rfl, there⟩

theorem during_concat : During does (requests ++ [q]) x r ↔
    During does requests x r ∨ does q x (r.after requests) := by
  induction requests generalizing r with
  | nil =>
    rw [List.nil_append, during_cons]
    constructor
    · rintro (here | ⟨done, _, _, split, _⟩)
      · exact .inr here
      · simp at split
    · rintro (⟨done, _, _, split, _⟩ | here)
      · simp at split
      · exact .inl here
  | cons p rest ih =>
    rw [List.cons_append, during_cons, during_cons, ih, or_assoc]
    rfl

end

theorem round_le {d : Nat} (same : r.slot (k + d) = r.slot k) (moved : 0 < d) : r.capacity ≤ d := by
  have alike : k + d ≡ k + 0 [MOD r.capacity] := by
    unfold slot at same
    exact Nat.eq_of_mul_eq_mul_left Nat.two_pos (Nat.add_left_cancel same)
  have multiple : d ≡ 0 [MOD r.capacity] := Nat.ModEq.add_left_cancel' k alike
  exact Nat.le_of_dvd moved (Nat.modEq_zero_iff_dvd.mp multiple)

theorem search_met (b : r.Bounded) {steps : Nat}
    (met : ∀ j < steps, r.isReserved (r.slot (k + j)) = true) :
    r.search steps (r.slot k) = (none, r.slot (k + steps)) := by
  rcases search_slots b steps k with ⟨i, bound, _, free, _⟩ | ⟨_, ended⟩
  · rw [met i bound] at free
    cases free
  · exact ended

namespace Holds

theorem slot_same {others : List Event} {r' : PortRange} (holds : Holds first past events r)
    (now : Holds first past others r') : r'.slot = r.slot := by
  funext k
  simp only [slot, holds.capacity_eq, now.capacity_eq, holds.bounds.1, now.bounds.1]

theorem slot_between (holds : Holds first past events r) {d : Nat} (back : r.slot (k + d) = r.slot k)
    (moved : 0 < d) (even : y % 2 = 0) (low : first ≤ y) (high : y < past) (other : y ≠ r.slot k) :
    ∃ i, i + 1 < d ∧ r.slot (k + 1 + i) = y := by
  obtain ⟨atFirst, atPast⟩ := holds.bounds
  have round := round_le back moved
  obtain ⟨place, bound, at_place⟩ := holds.bounded.slot_of_inside even (atFirst ▸ low) (atPast ▸ high)
  obtain ⟨i, short, at_i⟩ := holds.bounded.slot_ahead k bound
  have at_y : r.slot (k + i) = y := at_i.trans at_place
  cases i with
  | zero => exact absurd at_y.symm other
  | succ i =>
    refine ⟨i, by omega, ?_⟩
    rw [← at_y]
    congr 1
    omega

theorem reserve_from (holds : Holds first past events r) (here : r.cursor = r.slot k)
    (label : String) (paired : Bool) :
    (∃ cause, r.reserve label paired = (.error cause, r)) ∨
    ∃ i < r.capacity, (∀ j < i, r.isReserved (r.slot (k + j)) = true) ∧
      r.reserve label paired = (.ok (r.slot (k + i)), { r with
        cursor := r.slot (k + i + 1)
        reserved := ⟨r.slot (k + i), label, paired⟩ :: r.reserved }) := by
  rcases holds.search_ends with ⟨full, _⟩ | ⟨_, room, _, found⟩
  · exact .inl ⟨.portRangeExhausted r.first r.past, by simp [reserve, full]⟩
  · rcases search_slots holds.bounded r.capacity k with ⟨i, bound, met, _, found_i⟩ | ⟨_, ended⟩
    · exact .inr ⟨i, bound, met, by simp [reserve, room, here, found_i]⟩
    · rw [here, ended] at found
      cases found

/-- The cursor is only moved by a request that is answered with an id: over what is reserved, and over
that id. -/
theorem moves (holds : Holds first past events r) (here : r.cursor = r.slot k) (q : Request) :
    ((r.serve q).2.cursor = r.slot k ∧ ∀ x, ¬ Grants q x r) ∨
    ∃ n, (r.serve q).2.cursor = r.slot (k + n + 1) ∧ (∀ x, Grants q x r ↔ r.slot (k + n) = x) ∧
      ∀ i < n, Passes q (r.slot (k + i)) r := by
  cases q with
  | reserve label paired =>
    rcases holds.reserve_from here label paired with ⟨cause, refused⟩ | ⟨n, bound, met, granted⟩
    · exact .inl (by simp [Grants, PortRange.serve, refused, here])
    · refine .inr ⟨n, by simp [PortRange.serve, granted], fun x => ?_, fun i before => ?_⟩
      · simp [Grants, PortRange.serve, granted]
      · have under_way := search_met holds.bounded fun j short => met j (Nat.lt_trans short before)
        exact ⟨⟨label, paired, rfl⟩, met i before, i, Nat.lt_trans before bound, here ▸ under_way⟩
  | free id =>
    rcases free_cases id r with ⟨_, freed⟩ | ⟨_, refused⟩
    · exact .inl (by simp [Grants, PortRange.serve, freed, noteFreed, remove, here])
    · exact .inl (by simp [Grants, PortRange.serve, refused, noteFreed, here])
  | freePair id =>
    rcases freePair_cases id r with ⟨_, _, _, freed⟩ | ⟨_, refused⟩
    · exact .inl (by simp [Grants, PortRange.serve, freed, noteFreed, remove, here])
    · exact .inl (by simp [Grants, PortRange.serve, refused, noteFreed, here])

theorem moves_all (holds : Holds first past events r) (here : r.cursor = r.slot k)
    (requests : List Request) : ∃ n, (r.after requests).cursor = r.slot (k + n) ∧ ∀ i < n,
      During Grants requests (r.slot (k + i)) r ∨ During Passes requests (r.slot (k + i)) r := by
  induction requests generalizing r k events with
  | nil => exact ⟨0, here, fun i bound => absurd bound (Nat.not_lt_zero i)⟩
  | cons q rest ih =>
    simp only [during_cons]
    obtain ⟨m, there, now⟩ : ∃ m, (r.serve q).2.cursor = r.slot (k + m) ∧
        ∀ i < m, Grants q (r.slot (k + i)) r ∨ Passes q (r.slot (k + i)) r := by
      rcases holds.moves here q with ⟨stays, _⟩ | ⟨m, moved, grants, passes⟩
      · exact ⟨0, stays, fun i bound => absurd bound (Nat.not_lt_zero i)⟩
      · refine ⟨m + 1, moved, fun i bound => ?_⟩
        rcases Nat.lt_or_eq_of_le (Nat.le_of_lt_succ bound) with before | rfl
        · exact .inr (passes i before)
        · exact .inl ((grants _).mpr rfl)
    have slots := holds.slot_same (holds.serve q)
    rw [← slots] at there
    obtain ⟨n, ended, later⟩ := ih (holds.serve q) there
    rw [slots] at ended later
    refine ⟨m + n, by rwa [← Nat.add_assoc], fun i bound => ?_⟩
    by_cases before : i < m
    · exact (now i before).imp .inl .inl
    · have found := later (i - m) (by omega)
      rw [show k + m + (i - m) = k + i by omega] at found
      exact found.imp .inr .inr

theorem goes_round (holds : Holds first past events r) {between : List Request} {q' : Request}
    (granted : Grants q x r) (again : Grants q' x (r.after (q :: between)))
    (even : y % 2 = 0) (low : first ≤ y) (high : y < past) (other : y ≠ x) :
    During Grants between y (r.serve q).2 ∨ During Passes (between ++ [q']) y (r.serve q).2 := by
  rw [during_concat]
  -- The cursor goes on from `x` by `n` slots, and by `j` more until it is at `x` again.
  obtain ⟨k, here⟩ := holds.place
  rcases holds.moves here q with ⟨_, none⟩ | ⟨m, moved, grants, _⟩
  · exact absurd granted (none x)
  have at_x := (grants x).mp granted
  have next := holds.serve q
  have slots := holds.slot_same next
  rw [← slots] at moved
  obtain ⟨n, ended, visited⟩ := next.moves_all moved between
  have last := next.serveAll between
  have last_slots := next.slot_same last
  rw [← last_slots] at ended
  rcases last.moves ended q' with ⟨_, none⟩ | ⟨j, _, grants_again, passes⟩
  · exact absurd again (none x)
  have at_x_again := (grants_again x).mp again
  rw [last_slots, slots] at at_x_again passes
  rw [slots] at visited
  have back : r.slot (k + m + (1 + n + j)) = r.slot (k + m) := by
    rw [at_x, ← at_x_again]
    congr 1
    omega
  obtain ⟨i, short, at_y⟩ := holds.slot_between back (by omega) even low high (at_x ▸ other)
  by_cases before : i < n
  · have found := visited i before
    rw [at_y] at found
    exact found.imp id .inl
  · have passed := passes (i - n) (by omega)
    rw [show k + m + 1 + n + (i - n) = k + m + 1 + i by omega, at_y] at passed
    exact .inr (.inr passed)

theorem reserved_serve (holds : Holds first past events r)
    (reserved : (r.serve q).2.isReserved x = true) : Grants q x r ∨ r.isReserved x = true := by
  obtain ⟨y, live, same⟩ := ((holds.serve q).reserved_live x).mp reserved
  rcases live_append.mp live with given | ⟨old, _⟩
  · exact .inl ⟨y, given, same⟩
  · exact .inr ((holds.reserved_live x).mpr ⟨y, old, same⟩)

theorem granted_reserved (holds : Holds first past events r) (granted : Grants q x r) :
    (r.serve q).2.isReserved x = true := by
  obtain ⟨y, given, same⟩ := granted
  exact ((holds.serve q).reserved_live x).mpr ⟨y, live_append.mpr (.inl given), same⟩

theorem freed_reserved (freed : (r.serve q).1 = .freed x) : r.isReserved x = true := by
  cases q with
  | reserve label paired =>
    simp only [PortRange.serve] at freed
    split at freed <;> cases freed
  | free id =>
    rcases free_cases id r with ⟨reserved, done⟩ | ⟨_, refused⟩
    · simp only [PortRange.serve, done, noteFreed, Event.freed.injEq] at freed
      exact freed ▸ reserved
    · simp [PortRange.serve, refused, noteFreed] at freed
  | freePair id =>
    rcases freePair_cases id r with ⟨y, found, _, done⟩ | ⟨_, refused⟩
    · simp only [PortRange.serve, done, noteFreed, Event.freed.injEq] at freed
      subst freed
      simp [isReserved, found]
    · simp [PortRange.serve, refused, noteFreed] at freed

theorem used_of_granted (holds : Holds first past events r) (granted : During Grants requests y r) :
    UsedIn requests y r := by
  obtain ⟨done, q, left, rfl, given⟩ := granted
  have reserved := (holds.serveAll done).granted_reserved given
  refine ⟨done ++ [q], left, by simp, ?_⟩
  rw [after_append]
  exact reserved

theorem used_of_passed (passed : During Passes requests y r) : UsedIn requests y r := by
  obtain ⟨done, q, left, rfl, _, reserved, _⟩ := passed
  exact ⟨done, q :: left, rfl, reserved⟩

theorem last_grant (holds : Holds first past [] r) (reserved : (r.after requests).isReserved x = true) :
    ∃ earlier p since, requests = earlier ++ p :: since ∧ Grants p x (r.after earlier) ∧
      ¬ During Grants since x (r.after (earlier ++ [p])) := by
  induction requests using List.reverseRecOn with
  | nil =>
    obtain ⟨y, ⟨before, after, split, _⟩, _⟩ := (holds.reserved_live x).mp reserved
    simp at split
  | append_singleton rest q ih =>
    by_cases now : Grants q x (r.after rest)
    · refine ⟨rest, q, [], rfl, now, ?_⟩
      rintro ⟨done, _, _, split, _⟩
      simp at split
    · rw [after_append] at reserved
      rcases (holds.serveAll rest).reserved_serve reserved with given | before
      · exact absurd given now
      obtain ⟨earlier, p, since, rfl, given, last⟩ := ih before
      refine ⟨earlier, p, since ++ [q], by simp, given, ?_⟩
      rw [during_concat, ← after_append, List.append_assoc]
      exact not_or.mpr ⟨last, now⟩

theorem used_between (holds : Holds first past events r) {between : List Request} {q' : Request}
    (granted : Grants q x r) (again : Grants q' x (r.after (q :: between)))
    (even : y % 2 = 0) (low : first ≤ y) (high : y < past) (other : y ≠ x) :
    UsedIn between y (r.serve q).2 := by
  rcases holds.goes_round granted again even low high other with given | passed
  · exact (holds.serve q).used_of_granted given
  · rcases during_concat.mp passed with early | ⟨_, reserved, _⟩
    · exact used_of_passed early
    · exact ⟨between, [], by simp, reserved⟩

end Holds

theorem make_holds {first past : Nat} (firstEven : first % 2 = 0) (pastEven : past % 2 = 0)
    (below : first < past) (word : past < 65536) :
    ∃ r, make first past = .ok r ∧ Holds first past [] r := by
  let r : PortRange := ⟨first, past, first, []⟩
  have bounded : r.Bounded := ⟨firstEven, pastEven, below, word⟩
  have made : make first past = .ok r := by
    simp [make, r, firstEven, pastEven, Nat.not_le.mpr below]
  exact ⟨r, made, .fresh bounded rfl rfl⟩

/-- Between two answers with the same id, each other id of the range is given out too, or the search comes
to it while it is reserved. So an id that was freed is given out again only when all others have been in
use since it was given out. -/
theorem grants_go_round {first past : Nat} (firstEven : first % 2 = 0) (pastEven : past % 2 = 0)
    (below : first < past) (word : past < 65536) : ∃ r, make first past = .ok r ∧
    (∀ before q between q' x, Grants q x (r.after before) →
      Grants q' x (r.after (before ++ q :: between)) →
      ∀ y, y % 2 = 0 → first ≤ y → y < past → y ≠ x →
        (During Grants between y (r.after (before ++ [q])) ∨
          During Passes (between ++ [q']) y (r.after (before ++ [q]))) ∧
        UsedIn between y (r.after (before ++ [q]))) ∧
    ∀ before f waiting q x, ((r.after before).serve f).1 = .freed x →
      Grants q x (r.after (before ++ f :: waiting)) →
      ∃ earlier p since, before = earlier ++ p :: since ∧ Grants p x (r.after earlier) ∧
        ¬ During Grants since x (r.after (earlier ++ [p])) ∧
        ∀ y, y % 2 = 0 → first ≤ y → y < past → y ≠ x →
          UsedIn (since ++ f :: waiting) y (r.after (earlier ++ [p])) := by
  obtain ⟨r, made, begun⟩ := make_holds firstEven pastEven below word
  refine ⟨r, made, ?_, ?_⟩
  · intro before q between q' x granted again y even low high other
    have holds := begun.serveAll before
    rw [after_append] at again
    rw [after_append]
    exact ⟨holds.goes_round granted again even low high other,
      holds.used_between granted again even low high other⟩
  · intro before f waiting q x freed granted
    have reserved := Holds.freed_reserved freed
    obtain ⟨earlier, p, since, rfl, given, last⟩ := begun.last_grant reserved
    refine ⟨earlier, p, since, rfl, given, last, fun y even low high other => ?_⟩
    have holds := begun.serveAll earlier
    rw [List.append_assoc, List.cons_append, after_append] at granted
    rw [after_append]
    exact holds.used_between given granted even low high other

/-- The first of five slots is freed when three were never given out, and these still come before it. -/
theorem grants_go_round_wrapped : ∃ r, make 20000 20010 = .ok r ∧
    let between : List Request := [.reserve "b" false, .free 20000, .reserve "c" false,
      .reserve "d" true, .free 20002, .reserve "e" false]
    Grants (.reserve "a" false) 20000 r ∧
    Grants (.reserve "f" true) 20000 (r.after (.reserve "a" false :: between)) ∧
    (∀ y, y % 2 = 0 → 20000 ≤ y → y < 20010 → y ≠ 20000 →
      UsedIn between y (r.after [.reserve "a" false])) ∧
    ∃ earlier p since, [.reserve "a" false, .reserve "b" false] = earlier ++ p :: since ∧
      Grants p 20000 (r.after earlier) := by
  obtain ⟨r, made, round, last⟩ := @grants_go_round 20000 20010 (by decide) (by decide) (by decide)
    (by decide)
  obtain rfl : (⟨20000, 20010, 20000, []⟩ : PortRange) = r := Except.ok.inj made
  have granted : Grants (.reserve "a" false) 20000 ⟨20000, 20010, 20000, []⟩ :=
    ⟨⟨20000, "a", false⟩, rfl, rfl⟩
  let between : List Request := [.reserve "b" false, .free 20000, .reserve "c" false,
    .reserve "d" true, .free 20002, .reserve "e" false]
  have again : Grants (.reserve "f" true) 20000
      (after ⟨20000, 20010, 20000, []⟩ (.reserve "a" false :: between)) :=
    ⟨⟨20000, "f", true⟩, by decide, rfl⟩
  refine ⟨_, made, granted, again, ?_, ?_⟩
  · intro y even low high other
    exact (round [] _ between _ 20000 granted again y even low high other).2
  · obtain ⟨earlier, p, since, split, given, _⟩ := last [.reserve "a" false, .reserve "b" false]
      (.free 20000) _ (.reserve "f" true) 20000 rfl again
    exact ⟨earlier, p, since, split, given⟩

end PortRange

end Tickflow
