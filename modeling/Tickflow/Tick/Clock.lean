import Tickflow.Fault
import Tickflow.Decimal.Reading
/-!
A clock that issues ticks at a steady rate. It plans them on a grid of whole periods, waits at least
half a period every time, and lays the grid anew when it is called more than a period late, so that
no burst of ticks makes up for a delay. Times are whole nanoseconds.
-/
namespace Tickflow

/-- `num / den` rounded to the nearest whole number, a tie to the even one. -/
def roundDiv (num den : Nat) : Nat :=
  let q := num / den
  let r := num % den
  if den < 2 * r ∨ (2 * r = den ∧ q % 2 = 1) then q + 1 else q

/-- Whole nanoseconds of a number of seconds, when it is below `2 ^ 64` seconds. -/
def nanoseconds? (seconds : Float) : Option Nat :=
  let b := Decimal.Binary.ofBits seconds.toBits.toNat
  if !Decimal.isFinite seconds then none
  else
    let num := b.mantissa * Nat.pow 2 b.exponent.toNat
    let den := Nat.pow 2 (-b.exponent).toNat
    if Nat.pow 2 64 * den ≤ num then none else some (roundDiv (num * 1000000000) den)

structure SoftwareClock where
  fps : Float
  id : String
  period : Nat
  minSleep : Nat
  origin : Nat
  baseline : Nat
  scheduled : Nat
  frame : Nat
  lastTick : Option Nat
  deriving DecidableEq, Repr

structure ClockTick where
  frame : Nat
  timestamp : Nat
  delta : Nat
  deriving DecidableEq, Repr

namespace SoftwareClock

def defaultId : String := "software"

/-- A clock that begins at `now`. Its rate must be finite and positive, and its period must be a
time that can be counted. -/
def make (fps : Float) (id : String) (now : Nat) : Except Failure SoftwareClock :=
  if !Decimal.isFinite fps || fps ≤ 0.0 then .error (.fault (.configuration (.clockRate fps)))
  else match nanoseconds? (1.0 / fps) with
    | none => .error (.panic
        "cannot convert float seconds to Duration: value is either too big or NaN")
    | some period => .ok
        { fps, id, period, minSleep := period / 2, origin := now, baseline := now
          scheduled := 0, frame := 0, lastTick := none }

def gridPoint (c : SoftwareClock) : Nat := c.baseline + c.scheduled * c.period

/-- When a call made at `now` wakes, and the grid it leaves. Idealised: instants have no bound. Those
of a machine have one, which the sum of an instant and a period passes at rates below about 1.1e-19. -/
def wakeTime (now : Nat) (c : SoftwareClock) : Nat × SoftwareClock :=
  if c.gridPoint + c.period < now then
    (now + c.minSleep, { c with baseline := now + c.minSleep, scheduled := 0 })
  else (max c.gridPoint (now + c.minSleep), c)

def issue (woken : Nat) (c : SoftwareClock) : ClockTick × SoftwareClock :=
  (⟨c.frame, woken - c.origin, woken - c.lastTick.getD c.origin⟩,
    { c with lastTick := some woken, frame := c.frame + 1, scheduled := c.scheduled + 1 })

def tick (now : Nat) (c : SoftwareClock) : ClockTick × Nat × SoftwareClock :=
  let (woken, c) := c.wakeTime now
  let (t, c) := c.issue woken
  (t, woken, c)

def reset (now : Nat) (c : SoftwareClock) : SoftwareClock :=
  { c with origin := now, baseline := now, scheduled := 0, frame := 0, lastTick := none }

end SoftwareClock

end Tickflow
