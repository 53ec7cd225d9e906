import NaturalOrder.Error
import NaturalOrder.Unicode.Basic

/-!
# Decimals

Decimal numbers of any precision, and the literals that denote them. A literal keeps its sign and
its last place, so equal numbers have many decimals: `-0.00` is minus zero times ten to the -2.
-/

namespace NaturalOrder

inductive Decimal
  | finite (negative : Bool) (coefficient : Nat) (exponent : Int)
  | infinite (negative : Bool)
  /-- Not a number, with the digits that were given for it. -/
  | nan (negative signaling : Bool) (payload : Text)
  deriving DecidableEq

namespace Decimal

/-- The ASCII digit of the same value for a digit of any script. -/
def asciiDigit (c : Char) : Char :=
  match Unicode.digitValue? c with
  | some v => Char.ofNat (0x30 + v)
  | none => c

/-- A literal without the blanks around it and without underscores, in ASCII digits. -/
def plain (literal : Text) : Text :=
  ((Unicode.trimBlanks literal).filter (· ≠ '_')).map asciiDigit

/-- Whether a text starts with a minus sign, and what follows the sign. -/
def splitSign : Text → Bool × Text
  | [] => (false, [])
  | c :: rest =>
    if c = '-' then (true, rest) else if c = '+' then (false, rest) else (false, c :: rest)

/-- The digits of a number, how many of them come after the point, and what follows. -/
structure Mantissa where
  digits : Text
  places : Nat
  rest : Text

def mantissa (s : Text) : Mantissa :=
  let whole := s.takeWhile Char.isDigit
  match s.dropWhile Char.isDigit with
  | [] => ⟨whole, 0, []⟩
  | c :: rest =>
    if c = '.' then
      let fraction := rest.takeWhile Char.isDigit
      ⟨whole ++ fraction, fraction.length, rest.dropWhile Char.isDigit⟩
    else ⟨whole, 0, c :: rest⟩

/-- The exponent that is written after a mantissa. -/
def writtenExponent? : Text → Option Int
  | [] => none
  | c :: rest =>
    let (negative, digits) := splitSign rest
    if (c = 'e' ∨ c = 'E') ∧ digits ≠ [] ∧ digits.all Char.isDigit then
      some (if negative then -Text.toNat digits else Text.toNat digits)
    else none

/-- Infinity, or not a number with the digits after it, in letters of any case. -/
def special? (negative : Bool) (s : Text) : Option Decimal :=
  let s := s.map Char.toLower
  if s = "inf".toList ∨ s = "infinity".toList then some (.infinite negative)
  else
    let (signaling, s) := if s.head? = some 's' then (true, s.tail) else (false, s)
    let payload := s.drop 3
    if s.take 3 = "nan".toList ∧ payload.all Char.isDigit then
      some (.nan negative signaling (payload.dropWhile (· = '0')))
    else none

/-- The power of ten of the first digit. -/
def leadingExponent (coefficient : Nat) (exponent : Int) : Int :=
  exponent + (Text.ofNat coefficient).length - 1

def maxLeadingExponent : Int := 999999999999999999

def minExponent : Int := -1999999999999999997

/-- A written exponent must not take a decimal out of its range. -/
def scale (negative : Bool) (coefficient : Nat) (exponent : Int) : Except Error Decimal :=
  if leadingExponent coefficient exponent ≤ maxLeadingExponent ∧ minExponent ≤ exponent then
    .ok (.finite negative coefficient exponent)
  else .error .undefinedDecimal

def ofLiteral (literal : Text) : Except Error Decimal :=
  let (negative, s) := splitSign (plain literal)
  let m := mantissa s
  if m.digits = [] then
    match special? negative s with
    | some d => .ok d
    | none => .error .notDecimal
  else if m.rest = [] then .ok (.finite negative (Text.toNat m.digits) (-m.places))
  else match writtenExponent? m.rest with
    | some e => scale negative (Text.toNat m.digits) (e - m.places)
    | none => .error .notDecimal

end Decimal

end NaturalOrder
