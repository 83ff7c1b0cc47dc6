import Mathlib.Data.List.Nodup
import Tickflow.HandlerId
/-!
Ids made from a class name. Different numbers give different ids, so among more numbers than there
are ids in use some number is free.
-/
namespace Tickflow

theorem repr_inj {m n : Nat} (same : m.repr = n.repr) : m = n := by
  have digits : Nat.toDigits 10 m = Nat.toDigits 10 n := by
    rw [← Nat.toList_repr, same, Nat.toList_repr]
  rw [← Nat.ofDigitChars_ten_toDigits (n := m), digits, Nat.ofDigitChars_ten_toDigits]

namespace HandlerId

theorem numbered_inj {className : String} {m n : Nat}
    (same : numbered className m = numbered className n) : m = n := by
  have texts := congrArg HandlerId.text same
  exact repr_inj ((String.append_right_inj _).mp texts)

theorem fresh_free (className : String) (taken : List HandlerId) :
    fresh className taken ∉ taken := by
  unfold fresh freeNumber
  cases found : (List.range taken.length).find? fun n => !taken.contains (numbered className n) with
  | some n => simpa using List.find?_some found
  | none =>
    intro last
    have used : ∀ n < taken.length, numbered className n ∈ taken := by
      intro n bound
      simpa using List.find?_eq_none.mp found n (List.mem_range.mpr bound)
    -- Then all of one number more than there are ids would be taken.
    have subset : (List.range (taken.length + 1)).map (numbered className) ⊆ taken := by
      intro id mem
      obtain ⟨n, bound, rfl⟩ := List.mem_map.mp mem
      rw [List.mem_range] at bound
      rcases Nat.lt_or_ge n taken.length with early | late
      · exact used n early
      · have : n = taken.length := by omega
        subst n
        exact last
    have distinct : ((List.range (taken.length + 1)).map (numbered className)).Nodup :=
      List.nodup_range.map fun _ _ same => numbered_inj same
    have bound := distinct.length_le_of_subset subset
    simp only [List.length_map, List.length_range] at bound
    omega

theorem freeNumber_le (className : String) (taken : List HandlerId) :
    freeNumber className taken ≤ taken.length := by
  unfold freeNumber
  cases found : (List.range taken.length).find? fun n => !taken.contains (numbered className n) with
  | some n =>
    have bound := List.mem_of_find?_eq_some found
    rw [List.mem_range] at bound
    exact Nat.le_of_lt bound
  | none => exact Nat.le_refl _

theorem freeNumber_least {className : String} {taken : List HandlerId} {m : Nat}
    (before : m < freeNumber className taken) : numbered className m ∈ taken := by
  unfold freeNumber at before
  cases found : (List.range taken.length).find? fun n => !taken.contains (numbered className n) with
  | some n =>
    rw [found] at before
    obtain ⟨_, _, used⟩ := List.find?_range_eq_some.mp found
    simpa using used m before
  | none =>
    rw [found] at before
    simpa using List.find?_range_eq_none.mp found m before

end HandlerId

end Tickflow
