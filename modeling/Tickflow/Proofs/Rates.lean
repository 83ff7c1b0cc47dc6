import Tickflow.Proofs.Binary64
import Tickflow.Proofs.Cadence
import Tickflow.Settings
/-!
Which rates a clock can be made with, and which of them keep it from flooding. The period is found by a
division in binary64, so it falls as the rate grows, and each limit lies between two neighbouring rates.
-/
namespace Tickflow

open Decimal Binary64

namespace SoftwareClock

def Admitted (fps : Float) : Prop := isFinite fps = true ∧ ¬ fps ≤ 0.0

/-- One tick in `2 ^ 64` seconds. -/
def slowest : Float := 5.421010862427522e-20

/-- The greatest rate with a period of two nanoseconds. -/
def fastest : Float := 666666666.6666665

def top (n : Nat) : Nat := (Binary.ofBits n).mantissa * 2 ^ (Binary.ofBits n).exponent.toNat
def bottom (n : Nat) : Nat := 2 ^ (-(Binary.ofBits n).exponent).toNat

def nanoseconds (n : Nat) : Nat := roundDiv (top n * 1000000000) (bottom n)

theorem bottom_pos (n : Nat) : 0 < bottom n := Nat.two_pow_pos _

theorem value_fraction (n : Nat) : value n = top n / bottom n := by
  unfold value top bottom
  rcases Int.le_total 0 (Binary.ofBits n).exponent with whole | part
  · obtain ⟨k, exponent⟩ := Int.eq_ofNat_of_zero_le whole
    rw [exponent]
    simp
  · obtain ⟨k, exponent⟩ := Int.eq_ofNat_of_zero_le (Int.neg_nonneg_of_nonpos part)
    rw [show (Binary.ofBits n).exponent = -(k : Int) by omega]
    simp [div_eq_mul_inv]

theorem nanoseconds_mono {n n' : Nat} (positive : 0 < n) (le : n ≤ n') :
    nanoseconds n ≤ nanoseconds n' := by
  have values := value_mono positive le
  have below : (0 : ℚ) < bottom n := by exact_mod_cast bottom_pos n
  have below' : (0 : ℚ) < bottom n' := by exact_mod_cast bottom_pos n'
  rw [value_fraction, value_fraction, div_le_div_iff₀ below below'] at values
  have crossed : top n * bottom n' ≤ top n' * bottom n := by exact_mod_cast values
  refine roundDiv_mono (bottom_pos n) (bottom_pos n') ?_
  calc top n * 1000000000 * bottom n' = top n * bottom n' * 1000000000 := Nat.mul_right_comm _ _ _
    _ ≤ top n' * bottom n * 1000000000 := Nat.mul_le_mul_right _ crossed
    _ = top n' * 1000000000 * bottom n := Nat.mul_right_comm _ _ _

def tooLong : Nat := 1087 * 2 ^ 52

theorem tooLong_iff {n : Nat} (positive : 0 < n) : 2 ^ 64 * bottom n ≤ top n ↔ tooLong ≤ n := by
  obtain ⟨c, same⟩ := ofBits_canonical positive
  obtain ⟨_, short, least, full⟩ := c
  unfold top bottom
  generalize (Binary.ofBits n).mantissa = m at *
  generalize (Binary.ofBits n).exponent = e at *
  have long : tooLong ≤ n ↔ 12 ≤ e := by
    rw [← same]
    unfold tooLong place
    omega
  rw [long]
  constructor
  · intro most
    by_contra less
    have power : 2 ^ e.toNat ≤ 2 ^ 11 := Nat.pow_le_pow_right (by decide) (by omega)
    have some : 0 < 2 ^ (-e).toNat := Nat.two_pow_pos _
    nlinarith
  · intro more
    have none : (-e).toNat = 0 := by omega
    have normal : 2 ^ 52 ≤ m := by omega
    have power : 2 ^ 12 ≤ 2 ^ e.toNat := Nat.pow_le_pow_right (by decide) (by omega)
    calc 2 ^ 64 * 2 ^ (-e).toNat = 2 ^ 52 * 2 ^ 12 := by
          rw [none]
          norm_num
      _ ≤ m * 2 ^ e.toNat := Nat.mul_le_mul normal power

theorem nanoseconds_eq {x : Float} (positive : 0 < bits x) (bounded : bits x ≤ infinity) :
    nanoseconds? x = if tooLong ≤ bits x then none else some (nanoseconds (bits x)) := by
  have fraction : nanoseconds? x = if !isFinite x then none
    else if 2 ^ 64 * bottom (bits x) ≤ top (bits x) then none
    else some (nanoseconds (bits x)) := rfl
  rw [fraction]
  rcases Nat.lt_or_eq_of_le bounded with finite | endless
  · have real : isFinite x = true := (positive_iff.mp ⟨positive, finite⟩).1
    simp only [real, Bool.not_true, Bool.false_eq_true, ↓reduceIte, tooLong_iff positive]
  · have unreal : isFinite x = false := by
      refine decide_eq_false ?_
      change ¬ bits x % 2 ^ 63 < infinity
      rw [endless]
      decide
    have long : tooLong ≤ bits x := by
      rw [endless]
      decide
    simp only [unreal, Bool.not_false, ↓reduceIte, long]

theorem admitted_iff {fps : Float} : Admitted fps ↔ Positive fps := positive_iff.symm

theorem reciprocal_pos {n : Nat} (positive : 0 < n) (finite : n < infinity) : 0 < reciprocal n := by
  have least : 0 < reciprocal (infinity - 1) := by decide +kernel
  have falls := reciprocal_anti positive (Nat.le_sub_one_of_lt finite) (by decide)
  omega

theorem reciprocal_le (n : Nat) : reciprocal n ≤ infinity := min_le_right _ _

theorem slowest_positive : Positive slowest := by
  unfold Positive
  decide +kernel

theorem fastest_positive : Positive fastest := by
  unfold Positive
  decide +kernel

/-- What falls as the rate grows reaches `k` up to a limit that lies between two neighbours. -/
theorem reaches_iff {f : Nat → Nat} {k : Nat} {limit fps : Float}
    (falls : ∀ n n', 0 < n → n ≤ n' → n' < infinity → f n' ≤ f n) (real : Positive limit)
    (here : k ≤ f (bits limit)) (next : f (bits limit + 1) < k) (positive : Positive fps) :
    k ≤ f (bits fps) ↔ fps ≤ limit := by
  rw [le_iff positive real]
  constructor
  · intro reaches
    by_contra faster
    have less := falls (bits limit + 1) (bits fps) (Nat.succ_pos _) (by omega) positive.2
    omega
  · intro slower
    exact here.trans (falls _ _ positive.1 slower real.2)

theorem tooLong_reciprocal {fps : Float} (positive : Positive fps) :
    tooLong ≤ reciprocal (bits fps) ↔ fps ≤ slowest :=
  reaches_iff (fun _ _ => reciprocal_anti) slowest_positive (by decide +kernel)
    (by decide +kernel) positive

theorem two_le_period {fps : Float} (positive : Positive fps) :
    2 ≤ nanoseconds (reciprocal (bits fps)) ↔ fps ≤ fastest := by
  refine reaches_iff (f := fun n => nanoseconds (reciprocal n)) ?_ fastest_positive
    (by decide +kernel) (by decide +kernel) positive
  intro n n' above le finite
  exact nanoseconds_mono (reciprocal_pos (Nat.lt_of_lt_of_le above le) finite)
    (reciprocal_anti above le finite)

theorem period_eq {fps : Float} (admitted : Admitted fps) : nanoseconds? (1.0 / fps) =
    if fps ≤ slowest then none else some (nanoseconds (reciprocal (bits fps))) := by
  have positive := admitted_iff.mp admitted
  have same := bits_reciprocal positive
  have above := reciprocal_pos positive.1 positive.2
  rw [nanoseconds_eq (same ▸ above) (same ▸ reciprocal_le _), same]
  simp only [tooLong_reciprocal positive]

theorem nanoseconds_nearest (n : Nat) : Nearest (nanoseconds n) (10 ^ 9 * value n) := by
  have scaled : (10 ^ 9 * value n : ℚ) = (top n * 1000000000 : Nat) / bottom n := by
    rw [value_fraction]
    push_cast
    ring
  rw [scaled]
  exact roundDiv_nearest _ (bottom_pos n)

theorem not_admitted_iff {fps : Float} :
    (!isFinite fps || decide (fps ≤ 0.0)) = true ↔ ¬ Admitted fps := by
  simp [Admitted, or_iff_not_imp_left]

theorem ports_error {s : Settings} {fault : Fault} (refused : s.ports = .error fault) :
    ∃ first past, fault = .configuration (.oddRange first past) ∨
      fault = .configuration (.emptyRange first past) := by
  unfold Settings.ports at refused
  cases bounds : s.portRange with
  | none =>
    rw [bounds] at refused
    cases refused
  | some b =>
    refine ⟨b.first, b.past, ?_⟩
    simp only [bounds, PortRange.make] at refused
    split_ifs at refused <;> cases refused
    · exact .inl rfl
    · exact .inr rfl

theorem validate_rate (s : Settings) (fps : Float) :
    (s.withFps fps).validate = .error (.configuration (.rate fps)) ↔ ¬ Admitted fps := by
  unfold Settings.validate
  change (if (!isFinite fps || decide (fps ≤ 0.0)) = true then _ else _) = _ ↔ _
  by_cases bad : (!isFinite fps || decide (fps ≤ 0.0)) = true
  · rw [if_pos bad]
    exact iff_of_true rfl (not_admitted_iff.mp bad)
  · rw [if_neg bad]
    refine iff_of_false ?_ (not_admitted_iff.not.mp bad)
    split_ifs
    · simp
    · simp
    · cases ports : (s.withFps fps).ports with
      | ok range => simp [Except.map]
      | error fault =>
        obtain ⟨first, past, rfl | rfl⟩ := ports_error ports <;> simp [Except.map]

theorem make_refused {fps : Float} {id : String} {now : Nat} (refused : ¬ Admitted fps) :
    make fps id now = .error (.fault (.configuration (.clockRate fps))) :=
  if_pos (not_admitted_iff.mpr refused)

theorem make_too_slow {fps : Float} {id : String} {now : Nat} (admitted : Admitted fps)
    (slow : fps ≤ slowest) : make fps id now =
      .error (.panic "cannot convert float seconds to Duration: value is either too big or NaN") := by
  unfold make
  rw [if_neg (not_admitted_iff.not.mpr (not_not.mpr admitted)), period_eq admitted, if_pos slow]

theorem begun_period {fps : Float} (id : String) (now : Nat) (admitted : Admitted fps)
    (quick : ¬ fps ≤ slowest) :
    ∃ period, make fps id now = .ok (begun fps id period now) ∧
      Nearest period (10 ^ 9 * number (1.0 / fps)) ∧ (2 ≤ period ↔ fps ≤ fastest) := by
  have positive := admitted_iff.mp admitted
  refine ⟨nanoseconds (reciprocal (bits fps)), ?_, ?_, two_le_period positive⟩
  · refine make_ok_iff.mpr ⟨admitted.1, admitted.2, _, ?_, rfl⟩
    rw [period_eq admitted, if_neg quick]
  · rw [number, bits_reciprocal positive]
    exact nanoseconds_nearest _

theorem quotient_number {fps : Float} (admitted : Admitted fps) (quick : ¬ fps ≤ slowest) :
    |number (1.0 / fps) - (number fps)⁻¹| ≤
      2 ^ (-53 : Int) * max (number fps)⁻¹ (2 ^ (-1022 : Int)) := by
  have positive := admitted_iff.mp admitted
  have short : ¬ tooLong ≤ reciprocal (bits fps) := (tooLong_reciprocal positive).not.mpr quick
  have finite : reciprocal (bits fps) < infinity := by
    unfold tooLong infinity at *
    omega
  rw [number, bits_reciprocal positive]
  exact reciprocal_near positive.1 positive.2 finite

theorem tick_at_once {c : SoftwareClock} {called : Nat} (sleepless : c.minSleep = 0)
    (behind : c.gridPoint ≤ called) : (c.tick called).2.1 = called := by
  change (c.wakeTime called).1 = called
  have waits := wakeTime_waits called c
  have bounded := wakeTime_bounded called c
  omega

/-- The settings and the clock refuse the same rates, each with its own fault. Of the others, those up
to one tick in `2 ^ 64` seconds abort the clock while it is made, and all above have a clock whose period
is the rounded quotient. Its calls wait exactly when the period has two nanoseconds or more; above that
rate a caller that is behind is let through at once, however often it calls. -/
theorem made_by_rate (fps : Float) (id : String) (now : Nat) :
    (∀ s : Settings,
      (s.withFps fps).validate = .error (.configuration (.rate fps)) ↔ ¬ Admitted fps) ∧
    (¬ Admitted fps → make fps id now = .error (.fault (.configuration (.clockRate fps)))) ∧
    (Admitted fps → fps ≤ slowest → make fps id now =
      .error (.panic "cannot convert float seconds to Duration: value is either too big or NaN")) ∧
    (Admitted fps → ¬ fps ≤ slowest → ∃ start, make fps id now = .ok start ∧
      Nearest start.period (10 ^ 9 * number (1.0 / fps)) ∧
      |number (1.0 / fps) - (number fps)⁻¹| ≤
        2 ^ (-53 : Int) * max (number fps)⁻¹ (2 ^ (-1022 : Int)) ∧
      start.minSleep = start.period / 2 ∧
      (fps ≤ fastest → 0 < start.minSleep ∧ ∀ es c latest, Run start now es c latest →
        ∀ b ∈ beats es, b.called < b.released) ∧
      (¬ fps ≤ fastest → start.minSleep = 0 ∧ ∀ es c latest, Run start now es c latest →
        ∀ called, c.gridPoint ≤ called → (c.tick called).2.1 = called)) := by
  refine ⟨fun s => validate_rate s fps, make_refused, make_too_slow, fun admitted quick => ?_⟩
  obtain ⟨period, made, nearest, two_le⟩ := begun_period id now admitted quick
  have half : (begun fps id period now).minSleep = period / 2 := rfl
  refine ⟨_, made, nearest, quotient_number admitted quick, half, fun slower => ?_, fun faster => ?_⟩
  · have two := two_le.mpr slower
    have sleeps : 0 < (begun fps id period now).minSleep := by omega
    refine ⟨sleeps, fun es c latest run b mem => ?_⟩
    obtain ⟨waits, awake⟩ := (run.remembers made).2.waits b mem
    omega
  · have short := two_le.not.mpr faster
    have sleepless : (begun fps id period now).minSleep = 0 := by omega
    refine ⟨sleepless, fun es c latest run called behind => ?_⟩
    exact tick_at_once ((run.remembers made).1.minSleep.trans sleepless) behind

theorem made_by_rate_video : Admitted 30.0 ∧ ∃ start, make 30.0 "software" 0 = .ok start ∧
    start.period = 33333333 ∧ start.minSleep = 16666666 ∧
    ∀ es c latest, Run start 0 es c latest → ∀ b ∈ beats es, b.called < b.released := by
  have admitted : Admitted 30.0 := ⟨by decide +kernel, by decide +kernel⟩
  have same : make 30.0 "software" 0 = .ok (begun 30.0 "software" 33333333 0) :=
    make_ok_iff.mpr ⟨admitted.1, admitted.2, _, by decide +kernel, rfl⟩
  obtain ⟨_, _, _, made⟩ := made_by_rate 30.0 "software" 0
  obtain ⟨start, begins, _, _, _, paced, _⟩ := made admitted (by decide +kernel)
  obtain rfl : start = begun 30.0 "software" 33333333 0 := by
    rw [begins] at same
    cases same
    rfl
  exact ⟨admitted, _, begins, rfl, rfl, (paced (by decide +kernel)).2⟩

/-- Settings that are in order and name a rate without a clock, and others with a clock that lets two
calls of one instant through. -/
theorem made_by_rate_extremes :
    ((Settings.default.withFps 1e-20).validate = .ok () ∧ make 1e-20 "software" 0 =
      .error (.panic "cannot convert float seconds to Duration: value is either too big or NaN")) ∧
    (Settings.default.withFps 3e9).validate = .ok () ∧ ∃ start, make 3e9 "software" 0 = .ok start ∧
      start.period = 0 ∧ start.minSleep = 0 ∧ (start.tick 1).2.1 = 1 ∧
      ((start.tick 1).2.2.tick 1).2.1 = 1 := by
  have valid (fps : Float) (admitted : Admitted fps) :
      (Settings.default.withFps fps).validate = .ok () :=
    if_neg (not_admitted_iff.not.mpr (not_not.mpr admitted))
  have slow : Admitted 1e-20 := ⟨by decide +kernel, by decide +kernel⟩
  have fast : Admitted 3e9 := ⟨by decide +kernel, by decide +kernel⟩
  refine ⟨⟨valid _ slow, make_too_slow slow (by decide +kernel)⟩, valid _ fast, ?_⟩
  have made : make 3e9 "software" 0 = .ok (begun 3e9 "software" 0 0) :=
    make_ok_iff.mpr ⟨fast.1, fast.2, _, by decide +kernel, rfl⟩
  exact ⟨_, made, rfl, rfl, rfl, rfl⟩

end SoftwareClock

end Tickflow
