/-!
Reading decimal text as the nearest binary64 number.
-/
namespace Tickflow.Decimal

/-- Digits of a decimal and the power of ten they are multiplied by. -/
structure Scaled where
  digits : Nat
  exponent : Int
  deriving DecidableEq, Repr

/-- The nearest binary64 number, a tie going to the even mantissa. Decimals beyond the range need no
arithmetic: they are infinite or zero. -/
def Scaled.toFloat (d : Scaled) : Float :=
  if d.digits = 0 then 0.0
  else
    let size : Int := d.exponent + ((Nat.toDigits 10 d.digits).length : Int)
    if 400 < size then 1.0 / 0.0
    else if size < -400 then 0.0
    else if 0 ≤ d.exponent then Float.ofScientific d.digits false d.exponent.toNat
    else Float.ofScientific d.digits true (-d.exponent).toNat

def natOfDigits (s : List Char) : Nat :=
  s.foldl (fun n c => 10 * n + (c.toNat - '0'.toNat)) 0

def integer? (s : List Char) : Option Int :=
  let (negative, digits) := match s with
    | '-' :: r => (true, r)
    | '+' :: r => (false, r)
    | r => (false, r)
  if digits.isEmpty || !digits.all Char.isDigit then none
  else some (if negative then -(natOfDigits digits : Int) else natOfDigits digits)

/-- Digits with at most one point among or beside them, then perhaps an exponent. -/
def scaled? (s : List Char) : Option Scaled :=
  let whole := s.takeWhile Char.isDigit
  let rest := s.dropWhile Char.isDigit
  let (places, rest) := match rest with
    | '.' :: r => (r.takeWhile Char.isDigit, r.dropWhile Char.isDigit)
    | r => ([], r)
  if whole.isEmpty && places.isEmpty then none
  else
    let digits := natOfDigits (whole ++ places)
    let shift : Int := -(places.length : Int)
    match rest with
    | [] => some ⟨digits, shift⟩
    | c :: r =>
      if c = 'e' || c = 'E' then (integer? r).map fun e => ⟨digits, shift + e⟩ else none

def negate (x : Float) : Float := Float.ofBits (x.toBits ^^^ 0x8000000000000000)

def signed (negative : Bool) (x : Float) : Float := if negative then negate x else x

/-- A decimal with an optional sign; `inf`, `infinity` and `nan` are read in any case. -/
def float? (s : List Char) : Option Float :=
  let (negative, body) := match s with
    | '-' :: r => (true, r)
    | '+' :: r => (false, r)
    | r => (false, r)
  let word := String.ofList (body.map Char.toLower)
  if word = "inf" || word = "infinity" then some (signed negative (1.0 / 0.0))
  else if word = "nan" then some (signed negative (0.0 / 0.0))
  else (scaled? body).map fun d => signed negative d.toFloat

def isFinite (x : Float) : Bool := x.toBits.toNat % Nat.pow 2 63 < 0x7FF * Nat.pow 2 52

end Tickflow.Decimal
