import NaturalOrder.Decimal.Basic

/-!
# The order of decimals

Decimals are ordered by the number that they denote. What is not a number has no order. The
comparison takes no power of ten that is longer than the coefficients, whatever the exponents are.
-/

namespace NaturalOrder

namespace Decimal

/-- The order of two numbers greater than zero. The first digits decide if they stand at different
places. Otherwise both numbers are scaled to the smaller exponent. -/
def compareMagnitudes (c : Nat) (e : Int) (d : Nat) (f : Int) : Ordering :=
  match compare (leadingExponent c e) (leadingExponent d f) with
  | .eq => compare (c * Nat.pow 10 (e - f).toNat) (d * Nat.pow 10 (f - e).toNat)
  | o => o

/-- The sign of a finite decimal, zero for both zeros. -/
def sign (negative : Bool) (coefficient : Nat) : Int :=
  if coefficient = 0 then 0 else if negative then -1 else 1

def compareFinite (m : Bool) (c : Nat) (e : Int) (n : Bool) (d : Nat) (f : Int) : Ordering :=
  match compare (sign m c) (sign n d) with
  | .eq =>
    if c = 0 then .eq
    else if m then compareMagnitudes d f c e
    else compareMagnitudes c e d f
  | o => o

def order : Decimal → Decimal → Except Error Ordering
  | nan .., _ | _, nan .. => .error .undefinedDecimal
  | infinite m, infinite n => .ok (compare n m)
  | infinite m, finite .. => .ok (if m then .lt else .gt)
  | finite .., infinite n => .ok (if n then .gt else .lt)
  | finite m c e, finite n d f => .ok (compareFinite m c e n d f)

end Decimal

/-- Orders two literals by the numbers that they denote, and those of one number by code points. -/
def compareNumeric (a b : Text) : Except Error Ordering := do
  let x ← Decimal.ofLiteral a
  let y ← Decimal.ofLiteral b
  return (← x.order y).then (compare a b)

end NaturalOrder
