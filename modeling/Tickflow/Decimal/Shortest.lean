/-!
Decimal text of binary64 numbers: the fewest digits that read back as the number, the nearest of
those and the upper of two equally near, always in positional notation.
-/
namespace Tickflow.Decimal

/-- The finite number `mantissa * 2 ^ exponent`, without its sign. `atEdge` holds at a power of two,
where the neighbour below is only half as far away as the one above. -/
structure Binary where
  mantissa : Nat
  exponent : Int
  atEdge : Bool
  deriving DecidableEq, Repr

def Binary.ofBits (bits : Nat) : Binary :=
  let fraction := bits % Nat.pow 2 52
  let field := bits / Nat.pow 2 52
  if field = 0 then ⟨fraction, -1074, false⟩
  else ⟨Nat.pow 2 52 + fraction, (field : Int) - 1075, fraction == 0 && decide (1 < field)⟩

/-- The numbers `low`, `value`, `high` in units of `10 ^ grid / scale`: a decimal between `low` and
`high` reads back as `value`, and the ends do so when the mantissa is even. -/
structure Interval where
  low : Nat
  value : Nat
  high : Nat
  scale : Nat
  deriving DecidableEq, Repr

/-- The reals that round to `b`, measured on the decimal grid `10 ^ grid`. -/
def Binary.interval (b : Binary) (grid : Int) : Interval :=
  let up := Nat.pow 2 (b.exponent - 2).toNat * Nat.pow 10 (-grid).toNat
  { low := (4 * b.mantissa - (if b.atEdge then 1 else 2)) * up
    value := 4 * b.mantissa * up
    high := (4 * b.mantissa + 2) * up
    scale := Nat.pow 2 (2 - b.exponent).toNat * Nat.pow 10 grid.toNat }

def Interval.holds (i : Interval) (closed : Bool) (n : Nat) : Bool :=
  if closed then decide (i.low ≤ n * i.scale) && decide (n * i.scale ≤ i.high)
  else decide (i.low < n * i.scale) && decide (n * i.scale < i.high)

/-- The neighbour of the value on the grid that lies in the interval, the nearer one of two, the
upper one of two equally near. -/
def Interval.pick? (i : Interval) (closed : Bool) : Option Nat :=
  let below := i.value / i.scale
  let above := below + 1
  let under := i.value - below * i.scale
  let beyond := above * i.scale - i.value
  match i.holds closed below && decide (0 < below), i.holds closed above with
  | true, true => if under < beyond then some below else some above
  | true, false => some below
  | false, true => some above
  | false, false => none

def Binary.search (b : Binary) : (steps : Nat) → (top : Int) → Nat × Int
  | 0, top => (0, top)
  | steps + 1, top =>
    match (b.interval top).pick? (b.mantissa % 2 == 0) with
    | some digits => (digits, top)
    | none => b.search steps (top - 1)

/-- A power of ten above the number: three bits make at most one digit less. -/
def Binary.topGrid (b : Binary) : Int :=
  let bits : Int := (Nat.log2 b.mantissa : Int) + 1 + b.exponent
  if 0 ≤ bits then bits * 31 / 100 + 1 else bits * 30 / 100 + 1

/-- Digits `d` and grid `k` of the shortest decimal `d * 10 ^ k`; seventeen digits are enough. -/
def Binary.shortest (b : Binary) : Nat × Int :=
  if b.mantissa = 0 then (0, 0) else b.search 40 b.topGrid

def positional (digits : Nat) (grid : Int) : List Char :=
  let text := Nat.toDigits 10 digits
  if digits = 0 then ['0']
  else if 0 ≤ grid then text ++ List.replicate grid.toNat '0'
  else
    let places := (-grid).toNat
    if places < text.length then
      text.take (text.length - places) ++ '.' :: text.drop (text.length - places)
    else '0' :: '.' :: (List.replicate (places - text.length) '0' ++ text)

/-- Shortest positional text: no exponent, no point after a whole number, a sign on negative
numbers and on negative zero. -/
def text (x : Float) : String :=
  let bits := x.toBits.toNat
  let size := bits % Nat.pow 2 63
  let sign := if Nat.pow 2 63 ≤ bits then ['-'] else []
  if 0x7FF * Nat.pow 2 52 < size then "NaN"
  else if size = 0x7FF * Nat.pow 2 52 then String.ofList (sign ++ ['i', 'n', 'f'])
  else
    let (digits, grid) := (Binary.ofBits size).shortest
    String.ofList (sign ++ positional digits grid)

end Tickflow.Decimal
