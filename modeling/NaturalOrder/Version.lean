import NaturalOrder.Error
import NaturalOrder.Unicode.Basic

/-!
# Versions

A version is three numbers, and before the final release also the level of the release and a serial
number: `1.2.3b4` is the fourth beta.
-/

namespace NaturalOrder

structure Version where
  major : Int
  minor : Int
  micro : Int
  level : Text
  serial : Int
  deriving DecidableEq

namespace Version

def finalLevel : Text := "final".toList

def toText (v : Version) : Except Error Text := do
  let major ← Text.numeral v.major
  let minor ← Text.numeral v.minor
  let micro ← Text.numeral v.micro
  let numbers := major ++ '.' :: minor ++ '.' :: micro
  if v.level = [] ∨ v.level = finalLevel then return numbers
  else return numbers ++ v.level.take 1 ++ (← Text.numeral v.serial)

/-- The level that is meant by the letter after the numbers. -/
def levelOf : Option Char → Text
  | some 'a' => "alpha".toList
  | some 'b' => "beta".toList
  | some 'c' => "candidate".toList
  | some 'r' => "candidate".toList
  | _ => finalLevel

def isDigit (c : Char) : Bool := (Unicode.digitValue? c).isSome

/-- The number that a row of digits of any script denotes, within the limit on their count. -/
def number (digits : Text) : Except Error Nat :=
  if Error.digitLimit < digits.length then .error (.tooManyDigits digits.length)
  else .ok (digits.foldl (fun n c => 10 * n + (Unicode.digitValue? c).getD 0) 0)

/-- The digits at the start of a text and what follows the full stop after them. -/
def field? (s : Text) : Option (Text × Text) :=
  match s.span isDigit with
  | ([], _) => none
  | (_, []) => none
  | (digits, c :: rest) => if c = '.' then some (digits, rest) else none

/-- The parts of a version in the order in which they are written. -/
structure Parts where
  major : Text
  minor : Text
  micro : Text
  level : Text
  serial : Text

/-- The parts of the version that a text starts with. The level goes on up to the next digit. -/
def parts? (s : Text) : Option Parts := do
  let (major, s) ← field? s
  let (minor, s) ← field? s
  let (micro, s) := s.span isDigit
  if micro = [] then none
  let (level, s) := s.span (!isDigit ·)
  return { major, minor, micro, level, serial := s.takeWhile isDigit }

def ofText (s : Text) : Except Error Version :=
  match parts? s with
  | none => .error .notVersion
  | some p => do
    let major ← number p.major
    let minor ← number p.minor
    let micro ← number p.micro
    let serial ← number p.serial
    return { major, minor, micro, level := levelOf p.level.head?, serial }

/-- The version of this library. -/
def current : Version := ⟨1, 0, 0, finalLevel, 0⟩

end Version

end NaturalOrder
