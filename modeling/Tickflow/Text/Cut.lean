/-!
Cutting texts at separators. Main statements: the two parts of a cut, joined by the separator, are the
text again, and no cut is possible further to the front; the pieces of a text are the texts without a
separator that make it up.
-/
namespace Tickflow.Text

def cut? (sep : List Char) : List Char → Option (List Char × List Char)
  | [] => if sep.isEmpty then some ([], []) else none
  | c :: rest =>
    if sep.isPrefixOf (c :: rest) then some ([], (c :: rest).drop sep.length)
    else (cut? sep rest).map fun p => (c :: p.1, p.2)

theorem eq_of_cut? {sep s a b : List Char} (h : cut? sep s = some (a, b)) : s = a ++ sep ++ b := by
  induction s generalizing a with
  | nil =>
    simp only [cut?] at h
    split at h <;> simp_all [List.isEmpty_iff]
  | cons c rest ih =>
    simp only [cut?] at h
    split at h
    · rename_i hp
      obtain ⟨t, ht⟩ := List.isPrefixOf_iff_prefix.mp hp
      simp only [Option.some.injEq, Prod.mk.injEq] at h
      obtain ⟨rfl, rfl⟩ := h
      simp [← ht]
    · obtain ⟨p, hp, he⟩ := Option.map_eq_some_iff.mp h
      simp only [Prod.mk.injEq] at he
      obtain ⟨rfl, rfl⟩ := he
      simp [ih (a := p.1) (by rw [hp])]

theorem begins {sep s b : List Char} (same : s = sep ++ b) : sep.isPrefixOf s = true := by
  rw [List.isPrefixOf_iff_prefix, same]
  exact List.prefix_append sep b

theorem cut_first {sep s a b : List Char} (found : cut? sep s = some (a, b)) :
    ∀ c d, s = c ++ sep ++ d → a.length ≤ c.length := by
  induction s generalizing a with
  | nil =>
    obtain rfl : a = [] := by
      have parts := eq_of_cut? found
      simp at parts
      exact parts.1
    intro c d _
    exact Nat.zero_le _
  | cons x rest ih =>
    intro c d same
    unfold cut? at found
    split at found
    · cases found
      exact Nat.zero_le _
    · rename_i not_here
      obtain ⟨p, later, parts⟩ := Option.map_eq_some_iff.mp found
      cases parts
      cases c with
      | nil =>
        exact absurd (begins same) not_here
      | cons y c =>
        have same_rest : rest = c ++ sep ++ d := by
          simp only [List.cons_append, List.cons.injEq] at same
          exact same.2
        have shorter := ih (a := p.1) later c d same_rest
        simp only [List.length_cons]
        omega

theorem cut_none {sep s : List Char} (missing : cut? sep s = none) :
    ∀ a b, s ≠ a ++ sep ++ b := by
  induction s with
  | nil =>
    intro a b same
    simp only [List.nil_eq, List.append_eq_nil_iff] at same
    simp [cut?, same.1.2] at missing
  | cons x rest ih =>
    intro a b same
    unfold cut? at missing
    split at missing
    · cases missing
    · rename_i not_here
      cases a with
      | nil =>
        exact absurd (begins same) not_here
      | cons y a =>
        simp only [List.cons_append, List.cons.injEq] at same
        exact ih (Option.map_eq_none_iff.mp missing) a b same.2

theorem cut_iff {sep s a b : List Char} : cut? sep s = some (a, b) ↔
    s = a ++ sep ++ b ∧ ∀ c d, s = c ++ sep ++ d → a.length ≤ c.length := by
  constructor
  · intro found
    exact ⟨eq_of_cut? found, cut_first found⟩
  · rintro ⟨same, least⟩
    cases found : cut? sep s with
    | none => exact absurd same (cut_none found a b)
    | some parts =>
      obtain ⟨c, d⟩ := parts
      have other := eq_of_cut? found
      have left := cut_first found a b same
      have right := least c d other
      rw [other, List.append_assoc, List.append_assoc] at same
      obtain ⟨rfl, tails⟩ := List.append_inj same (by omega)
      rw [List.append_cancel_left tails]

theorem cut_none_iff {sep s : List Char} : cut? sep s = none ↔ ∀ a b, s ≠ a ++ sep ++ b := by
  constructor
  · exact cut_none
  · intro nowhere
    cases found : cut? sep s with
    | none => rfl
    | some parts => exact absurd (eq_of_cut? found) (nowhere parts.1 parts.2)

theorem cut_clear {x : Char} {sep a : List Char} (clear : x ∉ a) (b : List Char) :
    cut? (x :: sep) (a ++ x :: sep ++ b) = some (a, b) := by
  induction a with
  | nil => simp [cut?]
  | cons y a ih =>
    obtain ⟨other, clear⟩ := List.ne_and_not_mem_of_not_mem_cons clear
    have rest := ih clear
    simp only [List.append_assoc, List.cons_append] at rest ⊢
    simp [cut?, List.isPrefixOf, other, rest]

def pieces (sep : Char) : List Char → List (List Char)
  | [] => [[]]
  | c :: rest =>
    if c = sep then [] :: pieces sep rest
    else match pieces sep rest with
      | [] => [[c]]
      | p :: ps => (c :: p) :: ps

theorem pieces_ne_nil (sep : Char) (s : List Char) : pieces sep s ≠ [] := by
  cases s with
  | nil => simp [pieces]
  | cons c rest =>
    simp only [pieces]
    split
    · simp
    · split <;> simp

theorem pieces_clear {sep : Char} {s : List Char} (clear : sep ∉ s) : pieces sep s = [s] := by
  induction s with
  | nil => rfl
  | cons c rest ih =>
    obtain ⟨other, clear⟩ := List.ne_and_not_mem_of_not_mem_cons clear
    have alone := ih clear
    simp [pieces, other.symm, alone]

theorem pieces_append {sep : Char} {a : List Char} (clear : sep ∉ a) (b : List Char) :
    pieces sep (a ++ sep :: b) = a :: pieces sep b := by
  induction a with
  | nil => simp [pieces]
  | cons c a ih =>
    obtain ⟨other, clear⟩ := List.ne_and_not_mem_of_not_mem_cons clear
    have rest := ih clear
    simp [pieces, other.symm, rest]

theorem length_pieces (sep : Char) (s : List Char) : (pieces sep s).length = s.count sep + 1 := by
  induction s with
  | nil => rfl
  | cons c rest ih =>
    by_cases here : c = sep
    · simp [pieces, here, ih]
    · cases parts : pieces sep rest with
      | nil => exact absurd parts (pieces_ne_nil sep rest)
      | cons p ps =>
        rw [parts] at ih
        simp only [pieces, here, parts, ↓reduceIte, List.length_cons] at ih ⊢
        rw [List.count_cons_of_ne here]
        exact ih

theorem pieces_cons {sep : Char} {s p : List Char} {ps : List (List Char)}
    (parts : pieces sep s = p :: ps) :
    sep ∉ p ∧ ((ps = [] ∧ s = p) ∨ ∃ rest, s = p ++ sep :: rest ∧ pieces sep rest = ps) := by
  induction s generalizing p with
  | nil =>
    cases parts
    exact ⟨List.not_mem_nil, .inl ⟨rfl, rfl⟩⟩
  | cons c rest ih =>
    by_cases here : c = sep
    · simp only [pieces, here, ↓reduceIte] at parts
      cases parts
      exact ⟨List.not_mem_nil, .inr ⟨rest, by simp [here], rfl⟩⟩
    · cases later : pieces sep rest with
      | nil => exact absurd later (pieces_ne_nil sep rest)
      | cons q qs =>
        simp only [pieces, here, later, ↓reduceIte] at parts
        cases parts
        obtain ⟨clear, shape⟩ := ih later
        refine ⟨?_, ?_⟩
        · intro mem
          rcases List.mem_cons.mp mem with same | inside
          · exact here same.symm
          · exact clear inside
        · rcases shape with ⟨none_left, same⟩ | ⟨left, same, split⟩
          · exact .inl ⟨none_left, by rw [same]⟩
          · exact .inr ⟨left, by rw [same, List.cons_append], split⟩

end Tickflow.Text
