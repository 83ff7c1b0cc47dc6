import Tickflow.Fault
/-!
Handler ids: texts of letters, digits, `_` and `-`, so that they can also stand in an actor URI. An
id that is not given is made from the class name and the least number that leaves it unused.
-/
namespace Tickflow

def isIdChar (c : Char) : Bool := c.isAlphanum || c == '_' || c == '-'

def isIdText (s : List Char) : Bool := !s.isEmpty && s.all isIdChar

structure HandlerId where
  text : String
  valid : isIdText text.toList = true
  deriving DecidableEq, Repr

namespace HandlerId

def ofText? (s : String) : Except Fault HandlerId :=
  if h : isIdText s.toList = true then .ok ⟨s, h⟩
  else .error (.configuration (.handlerId s))

/-- Word boundaries become `_`, letters become small, and other characters are left out. -/
def snakeChars (first : Bool) : List Char → List Char
  | [] => []
  | c :: rest =>
    (if c.isUpper then (if first then [c.toLower] else ['_', c.toLower])
      else if isIdChar c then [c] else []) ++ snakeChars false rest

def base (className : String) : String :=
  match snakeChars true className.toList with
  | [] => "handler"
  | cs => String.ofList cs

theorem isIdChar_toLower {c : Char} (h : c.isUpper = true) : isIdChar c.toLower = true := by
  have h' : c.val ≥ 'A'.val ∧ c.val ≤ 'Z'.val := of_decide_eq_true h
  have hn : 65 ≤ c.val.toNat ∧ c.val.toNat ≤ 90 := by
    simpa [UInt32.le_iff_toNat_le] using h'
  have hv : c.toLower.val.toNat = c.val.toNat + 32 := by
    have hl : c.toLower.val = c.val + ('a'.val - 'A'.val) :=
      congrArg Char.val (dif_pos h' : c.toLower = _)
    have hd : ('a'.val - 'A'.val).toNat = 32 := by decide
    rw [hl, UInt32.toNat_add]
    omega
  have hl : c.toLower.isLower = true := by
    have hz : 'a'.val.toNat = 97 ∧ 'z'.val.toNat = 122 := by decide
    have hb : c.toLower.val ≥ 'a'.val ∧ c.toLower.val ≤ 'z'.val := by
      constructor <;> simp only [ge_iff_le, UInt32.le_iff_toNat_le] <;> omega
    exact Bool.and_eq_true_iff.mpr ⟨decide_eq_true hb.1, decide_eq_true hb.2⟩
  have ha : c.toLower.isAlpha = (c.toLower.isUpper || c.toLower.isLower) := rfl
  simp [isIdChar, Char.isAlphanum, ha, hl]

theorem all_snakeChars (first : Bool) (s : List Char) :
    (snakeChars first s).all isIdChar = true := by
  induction s generalizing first with
  | nil => rfl
  | cons c rest ih =>
    simp only [snakeChars, List.all_append, ih, Bool.and_true]
    split
    · rename_i h
      have := isIdChar_toLower h
      cases first
      · simp only [Bool.false_eq_true, ↓reduceIte, List.all_cons, this]
        decide
      · simp [this]
    · split <;> simp_all

theorem all_base (className : String) : (base className).toList.all isIdChar = true := by
  simp only [base]
  split
  · decide
  · rename_i cs _
    simpa using all_snakeChars true className.toList

def numbered (className : String) (n : Nat) : HandlerId where
  text := base className ++ "_" ++ n.repr
  valid := by
    have hd : (Nat.toDigits 10 n).all isIdChar = true := by
      rw [List.all_eq_true]
      intro c hc
      have := Nat.isDigit_of_mem_toDigits (by decide) (by decide) hc
      simp [isIdChar, Char.isAlphanum, this]
    simp only [isIdText, String.toList_append, Nat.toList_repr, List.all_append, all_base, hd,
      Bool.and_true, Bool.true_and]
    simp [isIdChar]

/-- The least number whose id is not taken. One of the first `taken.length + 1` is free. -/
def freeNumber (className : String) (taken : List HandlerId) : Nat :=
  ((List.range taken.length).find? fun n => !taken.contains (numbered className n)).getD
    taken.length

def fresh (className : String) (taken : List HandlerId) : HandlerId :=
  numbered className (freeNumber className taken)

end HandlerId

end Tickflow
