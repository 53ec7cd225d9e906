import NaturalOrder.Text.Basic

/-!
# Doubles

What the 64 bits of a double denote. A double is written with the fewest digits that read back as the same
double, and of those with the digits nearest to it.
-/

namespace NaturalOrder

/-- A finite double is the mantissa times two to the exponent. -/
inductive Double
  | finite (negative : Bool) (mantissa : Nat) (exponent : Int)
  | infinite (negative : Bool)
  | nan
  deriving DecidableEq

namespace Double

/-- The mantissa of the smallest normal number. -/
def hiddenBit : Nat := 0x10000000000000

/-- The exponent of all numbers below the smallest normal one. -/
def minExponent : Int := -1074

def ofBits (bits : Nat) : Double :=
  let negative := bits.testBit 63
  let biased := bits / hiddenBit % 2048
  let fraction := bits % hiddenBit
  if biased = 2047 then if fraction = 0 then infinite negative else nan
  else if biased = 0 then finite negative fraction minExponent
  else finite negative (hiddenBit + fraction) (minExponent + biased - 1)

/-! ### The shortest text of a double -/

/-- A number greater than zero as a fraction. -/
structure Ratio where
  num : Nat
  den : Nat

/-- A natural number times a power of two and a power of ten. -/
def Ratio.scaled (n : Nat) (twos tens : Int) : Ratio :=
  { num := n * Nat.pow 2 twos.toNat * Nat.pow 10 tens.toNat
    den := Nat.pow 2 (-twos).toNat * Nat.pow 10 (-tens).toNat }

/-- The numbers that round to a double, in units of a power of ten. The ends belong to them if the
mantissa is even. All three numbers have the same denominator. -/
structure Interval where
  low : Nat
  value : Nat
  high : Nat
  den : Nat
  closed : Bool

/-- The double below a power of two is at half the distance of the one above. -/
def interval (mantissa : Nat) (exponent power : Int) : Interval :=
  let part (n : Nat) := Ratio.scaled n (exponent - 2) (-power)
  let gap := if mantissa = hiddenBit ∧ exponent ≠ minExponent then 1 else 2
  { low := (part (4 * mantissa - gap)).num
    value := (part (4 * mantissa)).num
    high := (part (4 * mantissa + 2)).num
    den := (part 1).den
    closed := mantissa % 2 = 0 }

namespace Interval

variable (i : Interval)

/-- A positive multiple of the unit lies in the interval. -/
def holds (n : Nat) : Bool :=
  0 < n && if i.closed then i.low ≤ n * i.den && n * i.den ≤ i.high
    else i.low < n * i.den && n * i.den < i.high

/-- The multiple of the unit in the interval that is nearest to the value. An even one is taken of
two that are equally near. -/
def nearest? : Option Nat :=
  let below := i.value / i.den
  let above := below + 1
  match i.holds below, i.holds above with
  | false, false => none
  | true, false => some below
  | false, true => some above
  | true, true =>
    match compare (i.value - below * i.den) (above * i.den - i.value) with
    | .lt => some below
    | .gt => some above
    | .eq => some (if below % 2 = 0 then below else above)

end Interval

/-- The largest power of ten that a double can reach, and the number of powers from there down to
the smallest that is ever needed. -/
def maxPower : Int := 309

def powerCount : Nat := 700

/-- The digits of a positive double as a number, and the power of ten of the last one. The largest
power at which some number reads back leaves the fewest digits. -/
def shortest (mantissa : Nat) (exponent : Int) : Nat × Int :=
  let at? (index : Nat) :=
    let power := maxPower - index
    (interval mantissa exponent power).nearest?.map (·, power)
  ((List.range powerCount).findSome? at?).getD (mantissa, 0)

/-- Digits with a decimal point after so many of them. At least one digit stands on each side. -/
def positional (digits : Text) (point : Int) : Text :=
  if point ≤ 0 then
    '0' :: '.' :: List.replicate (-point).toNat '0' ++ digits
  else
    let whole := digits.take point.toNat
    let fraction := digits.drop point.toNat
    whole ++ List.replicate (point.toNat - digits.length) '0' ++ '.' ::
      if fraction = [] then ['0'] else fraction

/-- Digits with a point after the first and an exponent, which has a sign and at least two
digits. -/
def scientific (digits : Text) (exponent : Int) : Text :=
  let fraction := digits.drop 1
  let size := Text.ofNat exponent.natAbs
  digits.take 1 ++ (if fraction = [] then [] else '.' :: fraction) ++
    'e' :: (if exponent < 0 then '-' else '+') :: List.replicate (2 - size.length) '0' ++ size

/-- Numbers from 0.0001 up to 10 to the 16 are written without an exponent. -/
def unsigned (mantissa : Nat) (exponent : Int) : Text :=
  if mantissa = 0 then "0.0".toList
  else
    let (n, power) := shortest mantissa exponent
    let digits := Text.ofNat n
    let leading := power + digits.length - 1
    if -4 ≤ leading ∧ leading < 16 then positional digits (leading + 1)
    else scientific digits leading

def toText : Double → Text
  | finite negative mantissa exponent =>
    (if negative then ['-'] else []) ++ unsigned mantissa exponent
  | infinite negative => (if negative then ['-'] else []) ++ "inf".toList
  | nan => "nan".toList

end Double

end NaturalOrder
