import Mathlib.Data.List.Perm.Basic
import Tickflow.Supply.BufferPool
/-!
Where the blocks of a pool are. Each block that was ever made is lent to one borrower, or idle, or gone
for good, and the counts of the pool say how many there are. What one borrower wrote no other one sees.
-/
namespace Tickflow

@[simp] theorem Block.cleared_number (b : Block) : b.cleared.number = b.number := rfl

@[simp] theorem Block.resized_number (length : Nat) (b : Block) :
    (b.resized length).number = b.number := by
  simp only [resized, grown]
  split <;> rfl

@[simp] theorem Lease.holding_number (bytes : List UInt8) (l : Lease) :
    (l.holding bytes).block.number = l.block.number := rfl

theorem Block.cleared_resized (length : Nat) (b : Block) :
    (b.cleared.resized length).bytes = List.replicate length 0 := by
  simp [resized, cleared]

namespace BufferPool

theorem swapOut_perm {idle : List Block} {i : Nat} {b : Block} (at_i : idle[i]? = some b) :
    (b :: swapOut idle i).Perm idle := by
  rcases List.eq_nil_or_concat idle with rfl | ⟨init, last, same⟩
  · cases at_i
  · rw [List.concat_eq_append] at same
    subst same
    rw [swapOut, List.getLast?_concat]
    dsimp only
    by_cases inner : i < init.length
    · rw [List.getElem?_append_left inner, List.getElem?_eq_getElem inner] at at_i
      obtain rfl := Option.some.inj at_i
      rw [List.set_append_left _ _ inner, List.dropLast_concat]
      have moved := (List.set_perm_cons_eraseIdx inner last).cons init[i]
      have back := (List.getElem_cons_eraseIdx_perm inner).cons last
      exact ((moved.trans (.swap last init[i] _)).trans back).trans
        (List.perm_append_singleton last init).symm
    · have size := (List.getElem?_eq_some_iff.mp at_i).1
      rw [List.length_append, List.length_singleton] at size
      obtain rfl : i = init.length := by omega
      rw [List.getElem?_concat_length] at at_i
      obtain rfl := Option.some.inj at_i
      rw [List.set_append_right _ _ (Nat.le_refl _), Nat.sub_self, List.set_cons_zero,
        List.dropLast_concat]
      exact (List.perm_append_singleton last init).symm

theorem chosen_some {idle : List Block} (length : Nat) (waiting : idle ≠ []) :
    ∃ b, idle[chosen idle length]? = some b := by
  have bound : chosen idle length < idle.length := by
    unfold chosen
    cases found : idle.findIdx? fun b => decide (length ≤ b.capacity) with
    | none =>
      have := List.length_pos_iff.mpr waiting
      rw [Option.getD_none]
      omega
    | some i =>
      exact (List.findIdx?_eq_some_iff_findIdx_eq.mp found).1
  exact ⟨_, List.getElem?_eq_getElem bound⟩

theorem acquire_cases (length : Nat) (p : BufferPool) :
    (p.idle = [] ∧ ∃ b : Block, b.number = p.blocks ∧ b.bytes = List.replicate length 0 ∧
      p.acquire length = (⟨b⟩, { p with
        blocks := p.blocks + 1, acquired := p.acquired + 1, inUse := p.inUse + 1 })) ∨
    ∃ (b : Block) (rest : List Block), b.bytes = List.replicate length 0 ∧
      (b.number :: rest.map (·.number)).Perm (p.idle.map (·.number)) ∧
      p.acquire length = (⟨b⟩, { p with
        idle := rest, acquired := p.acquired + 1, reused := p.reused + 1, inUse := p.inUse + 1 }) := by
  by_cases none_idle : p.idle = []
  · refine .inl ⟨none_idle, (Block.empty p.blocks length).cleared.resized length, ?_⟩
    refine ⟨by simp [Block.empty], Block.cleared_resized _ _, ?_⟩
    simp [acquire, none_idle]
  · obtain ⟨b, found⟩ := chosen_some length none_idle
    have moved := (swapOut_perm found).map (·.number)
    refine .inr ⟨b.cleared.resized length, swapOut p.idle (chosen p.idle length),
      Block.cleared_resized _ _, ?_, ?_⟩
    · simpa using moved
    · simp [acquire, found]

/-! Borrowing. -/

structure Lending where
  pool : BufferPool
  leases : List Lease

/-- What is done with a pool. When a buffer is asked for, `waiting` blocks are idle, and when one is given
back, there is `room` for it or not. -/
inductive Use where
  | acquired (length waiting : Nat)
  | written (number : Nat)
  | returned (number : Nat) (room : Bool)
  | frozen (number : Nat)
  | cleared (numbers : List Nat)

namespace Use

def isAcquired : Use → Bool
  | .acquired _ _ => true
  | _ => false

def isReused : Use → Bool
  | .acquired _ waiting => decide (0 < waiting)
  | _ => false

def ends : Use → Bool
  | .returned _ _ | .frozen _ => true
  | _ => false

def gone : Use → List Nat
  | .returned number false => [number]
  | .frozen number => [number]
  | .cleared numbers => numbers
  | _ => []

end Use

namespace Lending

/-- A borrower may write what it likes, and return or freeze the buffer at any time. -/
inductive Step (s : Lending) : Use → Lending → Prop where
  | acquire (length : Nat) : Step s (.acquired length s.pool.available)
      ⟨(s.pool.acquire length).2, s.leases ++ [(s.pool.acquire length).1]⟩
  | write {before after : List Lease} {l : Lease} {bytes : List UInt8}
      (lent : s.leases = before ++ l :: after) (size : bytes.length = l.bytes.length) :
      Step s (.written l.block.number) ⟨s.pool, before ++ l.holding bytes :: after⟩
  | drop {before after : List Lease} {l : Lease} (lent : s.leases = before ++ l :: after) :
      Step s (.returned l.block.number (decide (s.pool.available < s.pool.maxRetained)))
        ⟨s.pool.release l, before ++ after⟩
  | freeze {before after : List Lease} {l : Lease} (lent : s.leases = before ++ l :: after) :
      Step s (.frozen l.block.number) ⟨(s.pool.freeze l).2, before ++ after⟩
  | clear : Step s (.cleared (s.pool.idle.map (·.number))) ⟨s.pool.clearUnused, s.leases⟩

inductive Run (maxRetained : Nat) : List Use → Lending → Prop where
  | start : Run maxRetained [] ⟨.make maxRetained, []⟩
  | next {uses : List Use} {s s' : Lending} {u : Use} (run : Run maxRetained uses s)
      (step : Step s u s') : Run maxRetained (uses ++ [u]) s'

def lent (s : Lending) : List Nat := s.leases.map (·.block.number)

def idle (s : Lending) : List Nat := s.pool.idle.map (·.number)

variable {maxRetained : Nat} {uses : List Use} {s s' : Lending} {u : Use}

structure Balanced (maxRetained : Nat) (uses : List Use) (s : Lending) : Prop where
  limit : s.pool.maxRetained = maxRetained
  acquired : s.pool.acquired = uses.countP Use.isAcquired
  reused : s.pool.reused = uses.countP Use.isReused
  inUse : s.pool.inUse = s.leases.length
  ended : s.leases.length + uses.countP Use.ends = uses.countP Use.isAcquired
  available : s.pool.available ≤ maxRetained
  /-- Each block is in one place: with a borrower, idle, or gone. -/
  places : (s.lent ++ s.idle ++ uses.flatMap Use.gone).Perm (List.range s.pool.blocks)

theorem start_balanced : Balanced maxRetained [] ⟨.make maxRetained, []⟩ :=
  ⟨rfl, rfl, rfl, rfl, rfl, Nat.zero_le _, .nil⟩

theorem Balanced.acquire (balanced : Balanced maxRetained uses s) (length : Nat) :
    Balanced maxRetained (uses ++ [.acquired length s.pool.available])
      ⟨(s.pool.acquire length).2, s.leases ++ [(s.pool.acquire length).1]⟩ := by
  obtain ⟨limit, acquired, reused, inUse, ended, available, places⟩ := balanced
  rcases acquire_cases length s.pool with ⟨empty, b, number, _, made⟩ | ⟨b, rest, _, moved, made⟩
  · have nobody : s.pool.available = 0 := by rw [BufferPool.available, empty, List.length_nil]
    rw [made]
    refine ⟨limit, ?_, ?_, ?_, ?_, available, ?_⟩
    · simp [acquired, Use.isAcquired]
    · simp [reused, Use.isReused, nobody]
    · simp [inUse]
    · simp [Use.isAcquired, Use.ends]
      omega
    · rw [List.perm_iff_count] at places ⊢
      intro n
      have before := places n
      simp only [lent, idle, empty, number, Use.gone, List.map_append, List.map_cons, List.map_nil,
        List.flatMap_append, List.flatMap_singleton, List.append_nil, List.count_append,
        List.range_succ] at before ⊢
      omega
  · have waiting : 0 < s.pool.available := by
      have size := moved.length_eq
      simp only [List.length_cons, List.length_map] at size
      rw [BufferPool.available]
      omega
    rw [made]
    refine ⟨limit, ?_, ?_, ?_, ?_, ?_, ?_⟩
    · simp [acquired, Use.isAcquired]
    · simp [reused, Use.isReused, waiting]
    · simp [inUse]
    · simp [Use.isAcquired, Use.ends]
      omega
    · have size := moved.length_eq
      simp only [List.length_cons, List.length_map] at size
      simp only [BufferPool.available] at available ⊢
      omega
    · rw [List.perm_iff_count] at places moved ⊢
      intro n
      have before := places n
      have taken := moved n
      simp [lent, idle, Use.gone, List.count_cons] at before taken ⊢
      omega

theorem Balanced.close {p : BufferPool} {before after : List Lease} {l : Lease}
    (balanced : Balanced maxRetained uses s) (lent : s.leases = before ++ l :: after)
    (ends : u.ends = true) (counts : p.acquired = s.pool.acquired ∧ p.reused = s.pool.reused)
    (inUse : p.inUse = s.pool.inUse - 1) (blocks : p.blocks = s.pool.blocks)
    (limit : p.maxRetained = s.pool.maxRetained) (available : p.available ≤ maxRetained)
    (moved : (p.idle.map (·.number) ++ u.gone).Perm (l.block.number :: s.idle)) :
    Balanced maxRetained (uses ++ [u]) ⟨p, before ++ after⟩ := by
  have still : u.isAcquired = false ∧ u.isReused = false := by
    cases u <;> simp_all [Use.ends, Use.isAcquired, Use.isReused]
  have size : s.leases.length = before.length + after.length + 1 := by simp [lent]; omega
  have open_leases := balanced.inUse
  have ended := balanced.ended
  refine ⟨limit.trans balanced.limit, ?_, ?_, ?_, ?_, available, ?_⟩
  · simp [counts.1, balanced.acquired, still.1]
  · simp [counts.2, balanced.reused, still.2]
  · dsimp only
    rw [List.length_append]
    omega
  · simp [still.1, ends]
    omega
  · have places := balanced.places
    rw [List.perm_iff_count] at places moved ⊢
    intro n
    have there := places n
    have left := moved n
    simp only [Lending.lent, Lending.idle, lent, blocks, List.map_append, List.map_cons,
      List.flatMap_append, List.flatMap_singleton, List.count_append, List.count_cons] at there left ⊢
    omega

theorem Balanced.step (balanced : Balanced maxRetained uses s) (step : Step s u s') :
    Balanced maxRetained (uses ++ [u]) s' := by
  cases step with
  | acquire length => exact balanced.acquire length
  | write lent size =>
    obtain ⟨limit, acquired, reused, inUse, ended, available, places⟩ := balanced
    refine ⟨limit, ?_, ?_, ?_, ?_, available, ?_⟩
    · simpa [Use.isAcquired] using acquired
    · simpa [Use.isReused] using reused
    · simpa [lent] using inUse
    · simpa [Use.isAcquired, Use.ends, lent] using ended
    · simpa [Lending.lent, Lending.idle, Use.gone, lent] using places
  | @drop before after l lent =>
    have available := balanced.available
    have limit := balanced.limit
    refine balanced.close lent rfl ⟨rfl, rfl⟩ rfl rfl rfl ?_ ?_
    · simp only [BufferPool.available, release] at available ⊢
      split
      · rw [List.length_append, List.length_singleton]
        omega
      · exact available
    · by_cases room : s.pool.idle.length < s.pool.maxRetained
      · simp [release, room, BufferPool.available, Use.gone, Lending.idle]
      · simp [release, room, BufferPool.available, Use.gone, Lending.idle]
  | freeze lent =>
    exact balanced.close lent rfl ⟨rfl, rfl⟩ rfl rfl rfl balanced.available
      (List.perm_append_singleton _ _)
  | clear =>
    obtain ⟨limit, acquired, reused, inUse, ended, available, places⟩ := balanced
    refine ⟨limit, ?_, ?_, inUse, ?_, Nat.zero_le _, ?_⟩
    · simpa [Use.isAcquired, clearUnused] using acquired
    · simpa [Use.isReused, clearUnused] using reused
    · simpa [Use.isAcquired, Use.ends] using ended
    · rw [List.perm_iff_count] at places ⊢
      intro n
      have there := places n
      simp only [Lending.lent, Lending.idle, clearUnused, Use.gone, List.map_nil,
        List.flatMap_append, List.flatMap_singleton, List.count_append, List.count_nil] at there ⊢
      omega

theorem run_balanced (run : Run maxRetained uses s) : Balanced maxRetained uses s := by
  induction run with
  | start => exact start_balanced
  | next _ step ih => exact ih.step step

theorem gone_away (balanced : Balanced maxRetained uses s) {number : Nat}
    (gone : number ∈ uses.flatMap Use.gone) : number ∉ s.lent ∧ number ∉ s.idle := by
  have once := balanced.places.nodup_iff.mpr List.nodup_range
  have apart := (List.nodup_append.mp once).2.2
  exact ⟨fun there => apart _ (List.mem_append_left _ there) _ gone rfl,
    fun there => apart _ (List.mem_append_right _ there) _ gone rfl⟩

/-- Each block is with one borrower, or idle, or gone for good, so two borrowers never have the same
one, and what was frozen never comes back. The counts are those of what was done. A buffer has the length
that was asked for and only zeros in it. -/
theorem ledger_balanced (run : Run maxRetained uses s) :
    s.pool.acquired = uses.countP Use.isAcquired ∧
    (s.pool.inUse = s.leases.length ∧
      s.leases.length + uses.countP Use.ends = uses.countP Use.isAcquired ∧
      ∀ l ∈ s.leases, (s.pool.release l).inUse + 1 = s.pool.inUse ∧
        (s.pool.freeze l).2.inUse + 1 = s.pool.inUse) ∧
    s.pool.available ≤ maxRetained ∧
    s.pool.reused = uses.countP Use.isReused ∧
    (s.lent ++ s.idle ++ uses.flatMap Use.gone).Perm (List.range s.pool.blocks) ∧
    s.lent.Nodup ∧
    (∀ number, .frozen number ∈ uses → number ∉ s.lent ∧ number ∉ s.idle) ∧
    ∀ length, (s.pool.acquire length).1.bytes.length = length ∧
      ∀ byte ∈ (s.pool.acquire length).1.bytes, byte = 0 := by
  have balanced := run_balanced run
  have once := balanced.places.nodup_iff.mpr List.nodup_range
  refine ⟨balanced.acquired, ⟨balanced.inUse, balanced.ended, fun l mem => ?_⟩, balanced.available,
    balanced.reused, balanced.places, ?_, fun number frozen => ?_, fun length => ?_⟩
  · have some_lent := List.length_pos_of_mem mem
    have inUse := balanced.inUse
    simp only [release, freeze]
    omega
  · exact (List.nodup_append.mp (List.nodup_append.mp once).1).1
  · exact gone_away balanced (List.mem_flatMap.mpr ⟨_, frozen, List.mem_singleton_self number⟩)
  · have zeros : (s.pool.acquire length).1.bytes = List.replicate length 0 := by
      rcases acquire_cases length s.pool with ⟨_, b, _, zeros, made⟩ | ⟨b, _, zeros, _, made⟩ <;>
        rw [made] <;> exact zeros
    rw [zeros]
    exact ⟨List.length_replicate, fun byte mem => List.eq_of_mem_replicate mem⟩

theorem ledger_balanced_again : ∃ s, Run 1 [.acquired 4 0, .acquired 2 0, .written 0,
      .returned 0 true, .frozen 1, .acquired 3 1] s ∧
    s.lent = [0] ∧ s.leases.map (·.bytes) = [[0, 0, 0]] ∧ s.pool.reused = 1 ∧
    1 ∉ s.lent ∧ 1 ∉ s.idle := by
  have lent : Run 1 _ _ := (Run.start.next (.acquire 4)).next (.acquire 2)
  have written := lent.next (@Step.write _ [] _ _ [7, 7, 7, 7] rfl rfl)
  have ended := (written.next (@Step.drop _ [] _ _ rfl)).next (@Step.freeze _ [] [] _ rfl)
  have run : Run 1 [.acquired 4 0, .acquired 2 0, .written 0, .returned 0 true, .frozen 1,
    .acquired 3 1] _ := ended.next (.acquire 3)
  obtain ⟨_, _, _, reused, _, _, away, _⟩ := ledger_balanced run
  exact ⟨_, run, by decide, by decide, reused.trans (by decide), away 1 (by simp)⟩

end Lending

end BufferPool

end Tickflow
