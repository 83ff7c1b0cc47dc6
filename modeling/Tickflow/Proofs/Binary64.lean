import Mathlib
import Tickflow.Tick.Clock
/-!
Positive binary64 numbers as what their bits count: the numbers are in the order of their bits.
-/
namespace Tickflow

open Decimal Float.Model Float.Model.UnpackedFloat

namespace Binary64

def bits (x : Float) : Nat := x.toBits.toNat

/-- The first bits that do not belong to a positive finite number. -/
def infinity : Nat := 2047 * 2 ^ 52

def Positive (x : Float) : Prop := 0 < bits x ∧ bits x < infinity

/-- The mantissa has 53 bits, or the exponent is the least one. -/
structure Canonical (mantissa : Nat) (exponent : Int) : Prop where
  positive : 0 < mantissa
  short : mantissa < 2 ^ 53
  least : -1074 ≤ exponent
  full : mantissa < 2 ^ 52 → exponent = -1074

def place (mantissa : Nat) (exponent : Int) : Nat := (exponent + 1074).toNat * 2 ^ 52 + mantissa

theorem ofBits_least {n : Nat} (least : n / 2 ^ 52 = 0) :
    Binary.ofBits n = ⟨n % 2 ^ 52, -1074, false⟩ :=
  if_pos least

theorem ofBits_full {n : Nat} (full : n / 2 ^ 52 ≠ 0) :
    (Binary.ofBits n).mantissa = 2 ^ 52 + n % 2 ^ 52 ∧
      (Binary.ofBits n).exponent = ((n / 2 ^ 52 : Nat) : Int) - 1075 := by
  rw [show Binary.ofBits n = _ from if_neg full]
  exact ⟨rfl, rfl⟩

theorem ofBits_canonical {n : Nat} (positive : 0 < n) :
    Canonical (Binary.ofBits n).mantissa (Binary.ofBits n).exponent ∧
      place (Binary.ofBits n).mantissa (Binary.ofBits n).exponent = n := by
  have parts := Nat.div_add_mod n (2 ^ 52)
  have rest : n % 2 ^ 52 < 2 ^ 52 := Nat.mod_lt _ (by decide)
  unfold place
  by_cases least : n / 2 ^ 52 = 0
  · rw [ofBits_least least]
    dsimp only
    exact ⟨⟨by omega, by omega, by omega, fun _ => rfl⟩, by omega⟩
  · obtain ⟨mantissa, exponent⟩ := ofBits_full least
    rw [mantissa, exponent]
    exact ⟨⟨by omega, by omega, by omega, by omega⟩, by omega⟩

theorem toNat_unpackMantissa (b : BitVec 64) :
    (@unpackMantissa .binary64 b).toNat = b.toNat % 2 ^ 52 := by
  simp [unpackMantissa]

theorem toNat_unpackExponent (b : BitVec 64) :
    (@unpackExponent .binary64 b).toNat = b.toNat / 2 ^ 52 % 2 ^ 11 := by
  simp [unpackExponent, Nat.shiftRight_eq_div_pow]

theorem toNat_unpackSign (b : BitVec 64) : (@unpackSign .binary64 b).toNat = b.toNat / 2 ^ 63 := by
  have bound := b.isLt
  simp [unpackSign, Nat.shiftRight_eq_div_pow]
  omega

theorem toNat_one_append {w : Nat} (v : BitVec w) : (1#1 ++ v).toNat = 2 ^ w + v.toNat := by
  rw [BitVec.toNat_append, ← Nat.shiftLeft_add_eq_or_of_lt v.isLt]
  simp [Nat.shiftLeft_eq]

theorem toNat_bitVec (x : Float) : x.toModel.toBits.toBitVec.toNat = bits x := rfl

theorem finite_congr {s : Sign} {m m' : Nat} {e e' : Int} {above : 0 < m} {above' : 0 < m'}
    (mantissa : m = m') (exponent : e = e') :
    UnpackedFloat.finite s m e above = .finite s m' e' above' := by
  subst mantissa exponent
  rfl

theorem unpack_positive {x : Float} (positive : Positive x) :
    ∃ above, x.toModel.unpack =
      .finite .positive (Binary.ofBits (bits x)).mantissa (Binary.ofBits (bits x)).exponent above := by
  obtain ⟨above, below⟩ := positive
  unfold infinity at below
  have mantissa := toNat_unpackMantissa x.toModel.toBits.toBitVec
  have exponent := toNat_unpackExponent x.toModel.toBits.toBitVec
  have sign := toNat_unpackSign x.toModel.toBits.toBitVec
  rw [toNat_bitVec] at mantissa exponent sign
  have unsigned : Sign.ofBitVec (@unpackSign .binary64 x.toModel.toBits.toBitVec) = .positive := by
    have zero : @unpackSign .binary64 x.toModel.toBits.toBitVec = 0#1 :=
      BitVec.eq_of_toNat_eq (by rw [sign]; simp; omega)
    rw [zero]
    rfl
  have finite : @unpackExponent .binary64 x.toModel.toBits.toBitVec ≠ -1#11 := by
    intro endless
    rw [endless] at exponent
    simp at exponent
    omega
  refine ⟨(ofBits_canonical above).1.positive, ?_⟩
  rw [Float.Model.unpack, UnpackedFloat.unpack]
  simp only [unsigned, finite, ↓reduceIte]
  by_cases least : bits x / 2 ^ 52 = 0
  · have zero : @unpackExponent .binary64 x.toModel.toBits.toBitVec = 0#11 :=
      BitVec.eq_of_toNat_eq (by rw [exponent]; simp; omega)
    have some : @unpackMantissa .binary64 x.toModel.toBits.toBitVec ≠ 0#52 := by
      intro none
      rw [none] at mantissa
      simp at mantissa
      omega
    simp only [zero, some, ↓reduceIte, ↓reduceDIte]
    refine finite_congr ?_ ?_
    · rw [mantissa, ofBits_least least]
    · rw [ofBits_least least]
      rfl
  · have other : @unpackExponent .binary64 x.toModel.toBits.toBitVec ≠ 0#11 := by
      intro none
      rw [none] at exponent
      simp at exponent
      omega
    simp only [other, ↓reduceIte]
    refine finite_congr ?_ ?_
    · rw [toNat_one_append, mantissa, (ofBits_full least).1]
    · rw [exponent, (ofBits_full least).2, Nat.mod_eq_of_lt (by omega)]
      rfl

theorem toNat_packComponents (sign : Sign) (exponent : BitVec 11) (mantissa : BitVec 52) :
    (packComponents .binary64 sign exponent mantissa).toNat =
      sign.toBitVec.toNat * 2 ^ 63 + exponent.toNat * 2 ^ 52 + mantissa.toNat := by
  have join (v w : Nat) (x : BitVec v) (y : BitVec w) :
      (x ++ y).toNat = x.toNat * 2 ^ w + y.toNat := by
    rw [BitVec.toNat_append, ← Nat.shiftLeft_add_eq_or_of_lt y.isLt, Nat.shiftLeft_eq]
  rw [packComponents, join, join]
  change (_ * 2 ^ 11 + _) * 2 ^ 52 + _ = _
  omega

theorem Canonical.log2 {m : Nat} {e : Int} (c : Canonical m e) : m.log2 = 52 ↔ 2 ^ 52 ≤ m := by
  have short := c.short
  have nonzero : m ≠ 0 := c.positive.ne'
  rw [Nat.log2_eq_iff nonzero]
  omega

theorem toNat_pack {m : Nat} {e : Int} (c : Canonical m e) :
    (UnpackedFloat.pack .binary64 (.finite .positive m e c.positive)).toNat =
      min (place m e) infinity := by
  obtain ⟨positive, short, least, full⟩ := id c
  have biased : (e + Format.binary64.exponentBias +
      Format.binary64.mantissaBitsWithoutImplicit).toNat = (e + 1075).toNat := by
    change (e + 1023 + 52).toNat = _
    omega
  rw [UnpackedFloat.pack]
  simp only [biased]
  have plain : Sign.positive.toBitVec.toNat = 0 := rfl
  by_cases huge : 2048 ≤ (e + 1075).toNat + 1
  · have top : (-1#11).toNat = 2047 := by decide
    have none : (0 : BitVec 52).toNat = 0 := rfl
    rw [if_pos huge, packedInfinity, toNat_packComponents, plain, top, none]
    unfold place infinity
    omega
  · rw [if_neg huge]
    by_cases normal : 2 ^ 52 ≤ m
    · have exponent : (BitVec.ofNat 11 (e + 1075).toNat).toNat = (e + 1075).toNat := by
        rw [BitVec.toNat_ofNat]
        omega
      rw [if_pos (by rw [c.log2.mpr normal]; rfl), toNat_packComponents, plain, exponent,
        BitVec.toNat_ofNat]
      unfold place infinity
      omega
    · have subnormal : m.log2 + 1 ≠ Format.binary64.mantissaBits := by
        intro normal'
        have whole : Format.binary64.mantissaBits = 53 := rfl
        exact normal (c.log2.mp (by omega))
      have none : (0#11).toNat = 0 := rfl
      rw [if_neg subnormal, toNat_packComponents, plain, none, BitVec.toNat_ofNat]
      unfold place infinity
      omega

theorem le_def (x y : Float) : x ≤ y ↔ x.toModel.unpack.le y.toModel.unpack = true := by
  change decide (x.toModel.unpack.le y.toModel.unpack = true) = true ↔ _
  rw [decide_eq_true_iff]

theorem compare_isLE {m m' : Nat} {e e' : Int} (c : Canonical m e) (c' : Canonical m' e') :
    ((compare e e').then (compare m m')).isLE = true ↔ place m e ≤ place m' e' := by
  obtain ⟨_, short, least, full⟩ := c
  obtain ⟨_, short', least', full'⟩ := c'
  unfold place
  rcases lt_trichotomy e e' with less | rfl | more
  · rw [compare_lt_iff_lt.mpr less]
    simp
    omega
  · rw [compare_eq_iff_eq.mpr rfl, Ordering.eq_then, Nat.isLE_compare]
    omega
  · rw [compare_gt_iff_gt.mpr more]
    simp
    omega

theorem le_iff {x y : Float} (first : Positive x) (second : Positive y) :
    x ≤ y ↔ bits x ≤ bits y := by
  obtain ⟨above, unpacked⟩ := unpack_positive first
  obtain ⟨above', unpacked'⟩ := unpack_positive second
  obtain ⟨canonical, same⟩ := ofBits_canonical first.1
  obtain ⟨canonical', same'⟩ := ofBits_canonical second.1
  have order := compare_isLE canonical canonical'
  rw [same, same'] at order
  rw [le_def, unpacked, unpacked', ← order]
  simp [UnpackedFloat.le, UnpackedFloat.compare]

theorem unpack_zero : (0.0 : Float).toModel.unpack = .zero .positive := by
  have none : (0.0 : Float).toModel.toBits = 0 := by decide +kernel
  rw [Float.Model.unpack, none]
  rfl

theorem le_zero {x : Float} (finite : isFinite x = true) (other : ¬ Positive x) : x ≤ 0.0 := by
  have bounded : bits x % 2 ^ 63 < infinity := of_decide_eq_true finite
  have word : bits x < 2 ^ 64 := x.toModel.toBits.toBitVec.isLt
  unfold Positive at other
  unfold infinity at bounded other
  rw [le_def, unpack_zero]
  by_cases unsigned : bits x < 2 ^ 63
  · have none : x.toModel.toBits = 0 := UInt64.toNat_inj.mp (show bits x = 0 by omega)
    rw [Float.Model.unpack, none]
    rfl
  · have exponent := toNat_unpackExponent x.toModel.toBits.toBitVec
    have sign := toNat_unpackSign x.toModel.toBits.toBitVec
    rw [toNat_bitVec] at exponent sign
    have negative : Sign.ofBitVec (@unpackSign .binary64 x.toModel.toBits.toBitVec) = .negative := by
      refine if_neg fun zero => ?_
      rw [zero] at sign
      simp at sign
      omega
    have ended : @unpackExponent .binary64 x.toModel.toBits.toBitVec ≠ -1#11 := by
      intro endless
      rw [endless] at exponent
      simp at exponent
      omega
    rw [Float.Model.unpack, UnpackedFloat.unpack]
    simp only [negative, ended, ↓reduceIte]
    split_ifs <;> rfl

theorem not_le_zero {x : Float} (positive : Positive x) : ¬ x ≤ 0.0 := by
  obtain ⟨above, unpacked⟩ := unpack_positive positive
  rw [le_def, unpacked, unpack_zero]
  simp [UnpackedFloat.le, UnpackedFloat.compare]

theorem positive_iff {x : Float} : Positive x ↔ isFinite x = true ∧ ¬ x ≤ 0.0 := by
  constructor
  · intro positive
    refine ⟨decide_eq_true ?_, not_le_zero positive⟩
    obtain ⟨above, below⟩ := positive
    change bits x % 2 ^ 63 < infinity
    unfold infinity at *
    omega
  · rintro ⟨finite, above⟩
    by_contra other
    exact above (le_zero finite other)

/-! Rounding. -/

theorem target_eq (m : Nat) (e : Int) : Format.binary64.targetExponent (totalExponent m e) =
    max ((m.log2 : Int) + e - 52) (-1074) := by
  change max ((m.log2 : Int) + 1 + e - 53) (-1074) = _
  congr 1
  omega

theorem shift_none {q : Nat} {e : Int} (a : Accuracy) (short : q < 2 ^ 53) (least : -1074 ≤ e) :
    shiftToTargetExponent .binary64 q e a = (.ofMantissaAndAccuracy q a, e) := by
  have size : q.log2 ≤ 52 := by
    by_cases zero : q = 0
    · simp [zero]
    · exact Nat.le_of_lt_succ ((Nat.log2_lt zero).mpr short)
  have stays : (max ((q.log2 : Int) + e - 52) (-1074) - e).toNat = 0 := by omega
  rw [shiftToTargetExponent, target_eq, shiftToExponent, stays]
  simp [HShiftRight.hShiftRight, Nat.repeat]

theorem shift_carry {e : Int} (least : -1074 ≤ e) :
    shiftToTargetExponent .binary64 (2 ^ 53) e .exact = (⟨2 ^ 52, false, false⟩, e + 1) := by
  have moves : (max (((2 ^ 53 : Nat).log2 : Int) + e - 52) (-1074) - e).toNat = 1 := by
    rw [Nat.log2_two_pow]
    omega
  rw [shiftToTargetExponent, target_eq, shiftToExponent, moves]
  rfl

theorem roundedMantissa_eq (q : Nat) (a : Accuracy) :
    (ExtendedMantissa.ofMantissaAndAccuracy q a).roundedMantissa = a.roundToNearestEven q := by
  cases a with
  | exact => rfl
  | inexact order => cases order <;> rfl

theorem rounded_le (q : Nat) (a : Accuracy) : a.roundToNearestEven q ≤ q + 1 := by
  rcases a with _ | order
  · exact Nat.le_succ q
  · cases order
    · exact Nat.le_succ q
    · change q + q % 2 ≤ q + 1
      omega
    · exact Nat.le_refl _

theorem le_rounded (q : Nat) (a : Accuracy) : q ≤ a.roundToNearestEven q := by
  rcases a with _ | order
  · exact Nat.le_refl q
  · cases order
    · exact Nat.le_refl q
    · exact Nat.le_add_right q (q % 2)
    · exact Nat.le_succ q

/-- What a rounded mantissa becomes, which may have a digit too many. -/
def settled (r : Nat) (e : Int) : UnpackedFloat :=
  let (em, e') := shiftToTargetExponent .binary64 r e .exact
  if h : em.mantissa = 0 then .zero .positive
  else .finite .positive em.mantissa e' (Nat.pos_of_ne_zero h)

theorem toNat_settled {r : Nat} {e : Int} (short : r ≤ 2 ^ 53) (least : -1074 ≤ e)
    (full : r < 2 ^ 52 → e = -1074) :
    (UnpackedFloat.pack .binary64 (settled r e)).toNat = min (place r e) infinity := by
  rcases Nat.lt_or_eq_of_le short with small | rfl
  · unfold settled
    rw [shift_none _ small least]
    by_cases zero : r = 0
    · subst zero
      rw [full (by decide)]
      decide
    · have c : Canonical r e := ⟨Nat.pos_of_ne_zero zero, small, least, full⟩
      rw [← toNat_pack c]
      simp [ExtendedMantissa.ofMantissaAndAccuracy, zero]
  · have c : Canonical (2 ^ 52) (e + 1) := ⟨by decide, by decide, by omega, by omega⟩
    have same : place (2 ^ 53) e = place (2 ^ 52) (e + 1) := by
      unfold place
      omega
    rw [same, ← toNat_pack c]
    unfold settled
    rw [shift_carry least]
    rfl

/-- Rounding a mantissa counts up the bits, through the carry and up to infinity. -/
theorem toNat_round {q : Nat} {e : Int} {a : Accuracy} (least : -1074 ≤ e)
    (short : q < 2 ^ 53 ∨ q = 2 ^ 53 ∧ a = .exact) (full : q < 2 ^ 52 → e = -1074) :
    (UnpackedFloat.pack .binary64 (roundWithAccuracy .binary64 .positive q e a)).toNat =
      min (place (a.roundToNearestEven q) e) infinity := by
  rcases short with small | ⟨rfl, rfl⟩
  · have same : roundWithAccuracy .binary64 .positive q e a =
        settled (a.roundToNearestEven q) e := by
      rw [roundWithAccuracy, shift_none a small least]
      simp only [roundedMantissa_eq]
      rfl
    have more := le_rounded q a
    have little := rounded_le q a
    rw [same, toNat_settled (by omega) least (by omega)]
  · have same : roundWithAccuracy .binary64 .positive (2 ^ 53) e .exact =
        settled (2 ^ 52) (e + 1) := by
      rw [roundWithAccuracy, shift_carry least]
      rfl
    have carried : place (2 ^ 53) e = place (2 ^ 52) (e + 1) := by
      unfold place
      omega
    rw [same, toNat_settled (by decide) (by omega) (by omega), ← carried]
    rfl

/-! One divided by a positive number. -/

def scale (m : Nat) (e : Int) : Int := max (-53 - (m.log2 : Int) - e) (-1074)

theorem le_scale (m : Nat) (e : Int) : -1074 ≤ scale m e := le_max_right _ _

/-- The quotient in units of its exponent is this over the mantissa. -/
def dividend (m : Nat) (e : Int) : Nat := 2 ^ (-e - scale m e).toNat

def quotient (m : Nat) (e : Int) : Nat := roundDiv (dividend m e) m

def reciprocal (n : Nat) : Nat :=
  min (place (quotient (Binary.ofBits n).mantissa (Binary.ofBits n).exponent)
    (scale (Binary.ofBits n).mantissa (Binary.ofBits n).exponent)) infinity

theorem Canonical.log2_le {m : Nat} {e : Int} (c : Canonical m e) : m.log2 ≤ 52 :=
  Nat.le_of_lt_succ ((Nat.log2_lt c.positive.ne').mpr c.short)

theorem divCore_one {m : Nat} {e : Int} (c : Canonical m e) (small : e ≤ 971) :
    divCore .binary64 (2 ^ 52) (-52) m e = (dividend m e / m, scale m e,
      accuracyOfFraction (dividend m e % m) m) := by
  have size := c.log2_le
  have least := c.least
  have target : min (-52 - e) (Format.binary64.targetExponent
      (totalExponent (2 ^ 52) (-52) - totalExponent m e)) = scale m e := by
    change min (-52 - e) (max ((((2 ^ 52 : Nat).log2 : Int) + 1 + -52 -
      ((m.log2 : Int) + 1 + e)) - 53) (-1074)) = _
    unfold scale
    rw [Nat.log2_two_pow]
    omega
  have shifted : 2 ^ 52 <<< (-52 - e - scale m e).toNat = dividend m e := by
    unfold dividend
    rw [Nat.shiftLeft_eq, ← Nat.pow_add]
    congr 1
    unfold scale
    omega
  rw [divCore]
  simp only [target, shifted]

theorem rounded_fraction (num den : Nat) :
    (accuracyOfFraction (num % den) den).roundToNearestEven (num / den) = roundDiv num den := by
  unfold accuracyOfFraction roundDiv
  by_cases zero : num % den = 0
  · have even : ¬ (den < 2 * (num % den) ∨ 2 * (num % den) = den ∧ num / den % 2 = 1) := by
      rw [zero]
      rintro (less | ⟨rfl, odd⟩)
      · exact Nat.not_lt_zero _ less
      · simp at odd
    rw [if_pos zero, if_neg even]
    rfl
  · simp only [zero, ↓reduceIte]
    rcases lt_trichotomy (2 * (num % den)) den with less | same | more
    · rw [compare_lt_iff_lt.mpr less]
      simp only [Accuracy.roundToNearestEven]
      rw [if_neg (by omega)]
    · rw [compare_eq_iff_eq.mpr same]
      simp only [Accuracy.roundToNearestEven]
      split_ifs <;> omega
    · rw [compare_gt_iff_gt.mpr more]
      simp only [Accuracy.roundToNearestEven]
      rw [if_pos (.inl more)]

theorem unpack_one : ∃ above, (1.0 : Float).toModel.unpack =
    .finite .positive (2 ^ 52) (-52) above := by
  have same : bits 1.0 = 0x3FF0000000000000 := by decide +kernel
  have positive : Positive 1.0 := by
    unfold Positive
    rw [same]
    decide
  obtain ⟨_, unpacked⟩ := unpack_positive positive
  refine ⟨by decide, unpacked.trans (finite_congr ?_ ?_)⟩
  · rw [same]
    rfl
  · rw [same]
    rfl

theorem dividend_le {m : Nat} {e : Int} (c : Canonical m e) :
    dividend m e ≤ 2 ^ 53 * m := by
  have size : (-e - scale m e).toNat ≤ 53 + m.log2 := by
    unfold scale
    omega
  calc dividend m e ≤ 2 ^ (53 + m.log2) := Nat.pow_le_pow_right (by decide) size
    _ = 2 ^ 53 * 2 ^ m.log2 := Nat.pow_add 2 53 m.log2
    _ ≤ 2 ^ 53 * m := Nat.mul_le_mul_left _ (Nat.log2_self_le c.positive.ne')

theorem le_dividend {m : Nat} {e : Int} (more : scale m e ≠ -1074) :
    2 ^ 52 * m ≤ dividend m e := by
  have size : (-e - scale m e).toNat = 52 + (m.log2 + 1) := by
    unfold scale at *
    omega
  calc 2 ^ 52 * m ≤ 2 ^ 52 * 2 ^ (m.log2 + 1) := Nat.mul_le_mul_left _ Nat.lt_log2_self.le
    _ = 2 ^ (52 + (m.log2 + 1)) := (Nat.pow_add 2 52 (m.log2 + 1)).symm
    _ = dividend m e := by rw [dividend, size]

/-- Before it is rounded the quotient has 53 digits, or one more and no fraction. -/
theorem dividend_short {m : Nat} {e : Int} (c : Canonical m e) :
    dividend m e / m < 2 ^ 53 ∨ dividend m e / m = 2 ^ 53 ∧ dividend m e % m = 0 := by
  have bounded := dividend_le c
  rcases Nat.lt_or_eq_of_le bounded with less | same
  · exact .inl (Nat.div_lt_of_lt_mul (by rwa [Nat.mul_comm] at less))
  · rw [same]
    exact .inr ⟨Nat.mul_div_cancel _ c.positive, Nat.mul_mod_left _ _⟩

theorem dividend_full {m : Nat} {e : Int} (c : Canonical m e) (more : scale m e ≠ -1074) :
    2 ^ 52 ≤ dividend m e / m :=
  (Nat.le_div_iff_mul_le c.positive).mpr (le_dividend more)

theorem ofBits_small {n : Nat} (finite : n < infinity) : (Binary.ofBits n).exponent ≤ 971 := by
  unfold infinity at finite
  by_cases least : n / 2 ^ 52 = 0
  · rw [ofBits_least least]
    exact show (-1074 : Int) ≤ 971 by decide
  · rw [(ofBits_full least).2]
    omega

theorem bits_reciprocal {x : Float} (positive : Positive x) :
    bits (1.0 / x) = reciprocal (bits x) := by
  obtain ⟨_, one⟩ := unpack_one
  obtain ⟨_, unpacked⟩ := unpack_positive positive
  obtain ⟨canonical, _⟩ := ofBits_canonical positive.1
  have small := ofBits_small positive.2
  change (UnpackedFloat.pack .binary64
    (UnpackedFloat.div .binary64 (1.0 : Float).toModel.unpack x.toModel.unpack)).toNat = _
  rw [one, unpacked, UnpackedFloat.div, divCore_one canonical small, reciprocal, quotient,
    ← rounded_fraction]
  refine toNat_round (le_scale _ _) ?_ ?_
  · rcases dividend_short canonical with short | ⟨same, whole⟩
    · exact .inl short
    · exact .inr ⟨same, by rw [whole]; rfl⟩
  · intro short
    by_contra more
    have full := dividend_full canonical more
    omega

/-! The quotient falls as the divisor grows. -/

theorem roundDiv_mul {m : Nat} (positive : 0 < m) (k : Nat) : roundDiv (k * m) m = k := by
  have whole : k * m % m = 0 := Nat.mul_mod_left k m
  have same : k * m / m = k := Nat.mul_div_cancel k positive
  unfold roundDiv
  rw [whole, same, if_neg]
  omega

theorem roundDiv_le (num den : Nat) : roundDiv num den ≤ num / den + 1 := by
  unfold roundDiv
  dsimp only
  split_ifs <;> omega

theorem le_roundDiv (num den : Nat) : num / den ≤ roundDiv num den := by
  unfold roundDiv
  dsimp only
  split_ifs <;> omega

theorem roundDiv_mono {num den num' den' : Nat} (positive : 0 < den) (positive' : 0 < den')
    (le : num * den' ≤ num' * den) : roundDiv num den ≤ roundDiv num' den' := by
  have parts := Nat.div_add_mod num den
  have parts' := Nat.div_add_mod num' den'
  have floors : num / den ≤ num' / den' := by
    rw [Nat.le_div_iff_mul_le positive']
    refine Nat.le_of_mul_le_mul_right ?_ positive
    calc num / den * den' * den = num / den * den * den' := Nat.mul_right_comm _ _ _
      _ ≤ num * den' := Nat.mul_le_mul_right den' (Nat.div_mul_le_self num den)
      _ ≤ num' * den := le
  rcases Nat.lt_or_eq_of_le floors with less | same
  · have up := roundDiv_le num den
    have down := le_roundDiv num' den'
    omega
  · -- With equal floors the fractions are in order, and so is what rounds up.
    have fractions : num % den * den' ≤ num' % den' * den := by
      rw [← parts, ← parts', ← same] at le
      nlinarith
    have carries : den < 2 * (num % den) ∨ 2 * (num % den) = den ∧ num / den % 2 = 1 →
        den' < 2 * (num' % den') ∨ 2 * (num' % den') = den' ∧ num' / den' % 2 = 1 := by
      rw [← same]
      rintro (above | ⟨half, odd⟩)
      · left
        nlinarith
      · rcases Nat.lt_or_eq_of_le (show den' ≤ 2 * (num' % den') by nlinarith) with more | tie
        · exact .inl more
        · exact .inr ⟨tie.symm, odd⟩
    unfold roundDiv
    dsimp only
    split_ifs with up up'
    · omega
    · exact absurd (carries up) up'
    · omega
    · omega

theorem quotient_le {m : Nat} {e : Int} (c : Canonical m e) : quotient m e ≤ 2 ^ 53 := by
  rw [← roundDiv_mul c.positive (2 ^ 53)]
  exact roundDiv_mono c.positive c.positive (Nat.mul_le_mul_right m (dividend_le c))

theorem le_quotient {m : Nat} {e : Int} (c : Canonical m e) (more : scale m e ≠ -1074) :
    2 ^ 52 ≤ quotient m e := by
  rw [← roundDiv_mul c.positive (2 ^ 52)]
  exact roundDiv_mono c.positive c.positive (Nat.mul_le_mul_right m (le_dividend more))

theorem place_cases {m m' : Nat} {e e' : Int} (c : Canonical m e) (c' : Canonical m' e')
    (le : place m e ≤ place m' e') : (e < e' ∧ 2 ^ 52 ≤ m') ∨ (e = e' ∧ m ≤ m') := by
  obtain ⟨_, short, least, full⟩ := c
  obtain ⟨_, short', least', full'⟩ := c'
  unfold place at le
  omega

theorem place_quotient_anti {m m' : Nat} {e e' : Int} (c : Canonical m e) (c' : Canonical m' e')
    (small : e' ≤ 971) (le : place m e ≤ place m' e') :
    place (quotient m' e') (scale m' e') ≤ place (quotient m e) (scale m e) := by
  have cases := place_cases c c' le
  have size := c.log2_le
  have falls : scale m' e' ≤ scale m e := by
    unfold scale
    rcases cases with ⟨less, normal⟩ | ⟨rfl, smaller⟩
    · have full := c'.log2.mpr normal
      omega
    · have logs : m.log2 ≤ m'.log2 := (Nat.le_log2 c'.positive.ne').mpr
        ((Nat.log2_self_le c.positive.ne').trans smaller)
      omega
  rcases lt_or_eq_of_le falls with below | same
  · have least' := le_scale m' e'
    have few := quotient_le c'
    have many := le_quotient c (by omega)
    unfold place
    omega
  · have divides : dividend m' e' * m ≤ dividend m e * m' := by
      rcases cases with ⟨less, normal⟩ | ⟨rfl, smaller⟩
      · have twice : (-e' - scale m' e').toNat + 1 ≤ (-e - scale m e).toNat := by
          have full := c'.log2.mpr normal
          unfold scale at *
          omega
        have short := c.short
        calc dividend m' e' * m ≤ dividend m' e' * (2 * m') := Nat.mul_le_mul_left _ (by omega)
          _ = 2 ^ ((-e' - scale m' e').toNat + 1) * m' := by
            rw [dividend, Nat.pow_succ, Nat.mul_assoc]
          _ ≤ dividend m e * m' :=
            Nat.mul_le_mul_right m' (Nat.pow_le_pow_right (by decide) twice)
      · rw [dividend, dividend, same]
        exact Nat.mul_le_mul_left _ smaller
    have less := roundDiv_mono c'.positive c.positive divides
    unfold place
    rw [same]
    exact Nat.add_le_add_left less _

theorem reciprocal_anti {n n' : Nat} (positive : 0 < n) (le : n ≤ n') (finite : n' < infinity) :
    reciprocal n' ≤ reciprocal n := by
  obtain ⟨c, same⟩ := ofBits_canonical positive
  obtain ⟨c', same'⟩ := ofBits_canonical (Nat.lt_of_lt_of_le positive le)
  have falls := place_quotient_anti c c' (ofBits_small finite) (by rwa [same, same'])
  exact min_le_min_right infinity falls

/-! The numbers themselves. -/

def value (n : Nat) : ℚ := (Binary.ofBits n).mantissa * 2 ^ (Binary.ofBits n).exponent

def number (x : Float) : ℚ := value (bits x)

/-- The whole number nearest to `x`, the even one of two. -/
structure Nearest (k : Nat) (x : ℚ) : Prop where
  near : |(k : ℚ) - x| ≤ 1 / 2
  even : |(k : ℚ) - x| = 1 / 2 → k % 2 = 0

theorem roundDiv_nearest (num : Nat) {den : Nat} (positive : 0 < den) :
    Nearest (roundDiv num den) (num / den) := by
  have parts : ((num % den : Nat) : ℚ) + den * (num / den : Nat) = num := by
    exact_mod_cast Nat.mod_add_div num den
  have below : (0 : ℚ) < den := by exact_mod_cast positive
  have split : (num : ℚ) / den = (num / den : Nat) + (num % den : Nat) / den := by
    rw [← parts]
    field_simp
    ring
  have fraction : ((num % den : Nat) : ℚ) / den < 1 :=
    (div_lt_one below).mpr (by exact_mod_cast Nat.mod_lt num positive)
  have half : ((num % den : Nat) : ℚ) / den = 1 / 2 → 2 * (num % den) = den := by
    intro tie
    rw [div_eq_div_iff below.ne' (by norm_num)] at tie
    have tie : ((num % den : Nat) : ℚ) * 2 = 1 * den := tie
    have tie : num % den * 2 = 1 * den := by exact_mod_cast tie
    omega
  rw [split]
  by_cases up : den < 2 * (num % den) ∨ 2 * (num % den) = den ∧ num / den % 2 = 1
  · have rounded : roundDiv num den = num / den + 1 := if_pos up
    have above : (1 : ℚ) / 2 ≤ (num % den : Nat) / den := by
      rw [div_le_div_iff₀ (by norm_num) below]
      have most : den ≤ num % den * 2 := by omega
      have most : (den : ℚ) ≤ (num % den : Nat) * 2 := by exact_mod_cast most
      linarith
    have gap : |((num / den + 1 : Nat) : ℚ) - ((num / den : Nat) + (num % den : Nat) / den)| =
        1 - (num % den : Nat) / den := by
      rw [← abs_of_nonneg (show (0 : ℚ) ≤ 1 - (num % den : Nat) / den by linarith)]
      congr 1
      push_cast
      ring
    rw [rounded]
    refine ⟨by linarith, fun tie => ?_⟩
    have same := half (by linarith)
    omega
  · have rounded : roundDiv num den = num / den := if_neg up
    have least : ((num % den : Nat) : ℚ) / den ≤ 1 / 2 := by
      rw [div_le_div_iff₀ below (by norm_num)]
      have most : num % den * 2 ≤ 1 * den := by omega
      exact_mod_cast most
    have nonneg : (0 : ℚ) ≤ (num % den : Nat) / den := by positivity
    have gap : |((num / den : Nat) : ℚ) - ((num / den : Nat) + (num % den : Nat) / den)| =
        (num % den : Nat) / den := by
      rw [sub_add_cancel_left, abs_neg, abs_of_nonneg nonneg]
    rw [rounded]
    refine ⟨by linarith, fun tie => ?_⟩
    have same := half (by linarith)
    omega

theorem ofBits_place {m : Nat} {e : Int} (c : Canonical m e) :
    (Binary.ofBits (place m e)).mantissa = m ∧ (Binary.ofBits (place m e)).exponent = e := by
  have positive : 0 < place m e := by
    have above := c.positive
    unfold place
    omega
  obtain ⟨canonical, same⟩ := ofBits_canonical positive
  rcases place_cases canonical c same.le with ⟨less, _⟩ | ⟨exponent, less⟩
  · rcases place_cases c canonical same.ge with ⟨more, _⟩ | ⟨exponent, _⟩ <;> omega
  · rcases place_cases c canonical same.ge with ⟨more, _⟩ | ⟨_, more⟩ <;> omega

theorem value_mono {n n' : Nat} (positive : 0 < n) (le : n ≤ n') : value n ≤ value n' := by
  obtain ⟨c, same⟩ := ofBits_canonical positive
  obtain ⟨c', same'⟩ := ofBits_canonical (Nat.lt_of_lt_of_le positive le)
  unfold value
  generalize (Binary.ofBits n).mantissa = m at *
  generalize (Binary.ofBits n').mantissa = m' at *
  generalize (Binary.ofBits n).exponent = e at *
  generalize (Binary.ofBits n').exponent = e' at *
  rcases place_cases c c' (by rwa [same, same']) with ⟨less, normal⟩ | ⟨rfl, smaller⟩
  · have double : m ≤ 2 * m' := by
      have short := c.short
      omega
    calc (m : ℚ) * 2 ^ e ≤ (2 * m' : Nat) * 2 ^ e := by gcongr
      _ = m' * 2 ^ (e + 1) := by
        rw [zpow_add_one₀ (by norm_num)]
        push_cast
        ring
      _ ≤ m' * 2 ^ e' := by
        gcongr
        · norm_num
        · omega
  · gcongr

theorem value_place {r : Nat} {e : Int} (short : r ≤ 2 ^ 53) (least : -1074 ≤ e)
    (full : r < 2 ^ 52 → e = -1074) : value (place r e) = r * 2 ^ e := by
  unfold value
  rcases Nat.eq_zero_or_pos r with rfl | positive
  · rw [full (by decide)]
    have none : (Binary.ofBits (place 0 (-1074))).mantissa = 0 := by decide
    rw [none]
    simp
  · rcases Nat.lt_or_eq_of_le short with small | rfl
    · obtain ⟨mantissa, exponent⟩ := ofBits_place ⟨positive, small, least, full⟩
      rw [mantissa, exponent]
    · have c : Canonical (2 ^ 52) (e + 1) := ⟨by decide, by decide, by omega, by omega⟩
      have carried : place (2 ^ 53) e = place (2 ^ 52) (e + 1) := by
        unfold place
        omega
      obtain ⟨mantissa, exponent⟩ := ofBits_place c
      rw [carried, mantissa, exponent, zpow_add_one₀ (by norm_num)]
      push_cast
      ring

theorem dividend_value {m : Nat} {e : Int} (small : e ≤ 971) :
    (dividend m e : ℚ) = 2 ^ (-e - scale m e) := by
  have nonneg : 0 ≤ -e - scale m e := by
    unfold scale
    omega
  rw [dividend, Nat.cast_pow, Nat.cast_ofNat, ← zpow_natCast, Int.toNat_of_nonneg nonneg]

theorem scale_near {m : Nat} {e : Int} (c : Canonical m e) :
    1 / 2 * (2 : ℚ) ^ scale m e ≤
      2 ^ (-53 : Int) * max (m * 2 ^ e : ℚ)⁻¹ (2 ^ (-1022 : Int)) := by
  rcases max_choice (-53 - (m.log2 : Int) - e) (-1074) with full | least
  · have above : (0 : ℚ) < m * 2 ^ e := by
      have positive := c.positive
      positivity
    have shorter : (m : ℚ) ≤ 2 ^ ((m.log2 : Int) + 1) := by
      have log : m < 2 ^ (m.log2 + 1) := Nat.lt_log2_self
      exact_mod_cast log.le
    calc 1 / 2 * (2 : ℚ) ^ scale m e = 2 ^ (-53 : Int) * (2 ^ ((m.log2 : Int) + 1) * 2 ^ e)⁻¹ := by
          rw [scale, full, ← zpow_add₀ (by norm_num), ← zpow_neg, ← zpow_add₀ (by norm_num),
            show (1 / 2 : ℚ) = 2 ^ (-1 : Int) by norm_num, ← zpow_add₀ (by norm_num)]
          congr 1
          omega
      _ ≤ 2 ^ (-53 : Int) * (m * 2 ^ e : ℚ)⁻¹ := by gcongr
      _ ≤ _ := by
          gcongr
          exact le_max_left _ _
  · calc 1 / 2 * (2 : ℚ) ^ scale m e = 2 ^ (-53 : Int) * 2 ^ (-1022 : Int) := by
          rw [scale, least, show (1 / 2 : ℚ) = 2 ^ (-1 : Int) by norm_num,
            ← zpow_add₀ (by norm_num), ← zpow_add₀ (by norm_num)]
          rfl
      _ ≤ _ := by
          gcongr
          exact le_max_right _ _

theorem quotient_near {m : Nat} {e : Int} (c : Canonical m e) (small : e ≤ 971) :
    |(quotient m e : ℚ) * 2 ^ scale m e - ((m : ℚ) * 2 ^ e)⁻¹| ≤
      2 ^ (-53 : Int) * max (m * 2 ^ e : ℚ)⁻¹ (2 ^ (-1022 : Int)) := by
  have above : (0 : ℚ) < m := by exact_mod_cast c.positive
  have unit : (0 : ℚ) < 2 ^ scale m e := by positivity
  have whole : (m * 2 ^ e : ℚ)⁻¹ = dividend m e / m * 2 ^ scale m e := by
    rw [dividend_value small, zpow_sub₀ (by norm_num), zpow_neg]
    field_simp
  calc |(quotient m e : ℚ) * 2 ^ scale m e - ((m : ℚ) * 2 ^ e)⁻¹|
      = |(quotient m e : ℚ) - dividend m e / m| * 2 ^ scale m e := by
        rw [whole, ← sub_mul, abs_mul, abs_of_pos unit]
    _ ≤ 1 / 2 * 2 ^ scale m e := by
        gcongr
        exact (roundDiv_nearest (dividend m e) c.positive).near
    _ ≤ _ := scale_near c

theorem reciprocal_near {n : Nat} (positive : 0 < n) (small : n < infinity)
    (finite : reciprocal n < infinity) : |value (reciprocal n) - (value n)⁻¹| ≤
      2 ^ (-53 : Int) * max (value n)⁻¹ (2 ^ (-1022 : Int)) := by
  obtain ⟨c, _⟩ := ofBits_canonical positive
  have rounded : reciprocal n = place (quotient (Binary.ofBits n).mantissa
      (Binary.ofBits n).exponent) (scale (Binary.ofBits n).mantissa (Binary.ofBits n).exponent) := by
    unfold reciprocal at *
    omega
  have full : quotient (Binary.ofBits n).mantissa (Binary.ofBits n).exponent < 2 ^ 52 →
      scale (Binary.ofBits n).mantissa (Binary.ofBits n).exponent = -1074 := by
    intro short
    by_contra more
    have long := le_quotient c more
    omega
  rw [rounded, value_place (quotient_le c) (le_scale _ _) full]
  exact quotient_near c (ofBits_small small)

end Binary64

end Tickflow
