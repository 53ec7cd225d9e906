/-!
# Classes of characters

Most classes are given by ranges of code points. Blanks are dropped at both ends of an identifier or a number.
Digits and the pairs of upper and lower case letters come in rows, so that the first one of a row gives the
others.
-/

namespace NaturalOrder.Unicode

/-- Some range, given by its first and last code point, holds the character. -/
def inRanges (ranges : List (Nat × Nat)) (c : Char) : Bool :=
  let n := c.toNat
  ranges.any fun r => r.1 ≤ n && n ≤ r.2

/-! ### Blanks -/

/-- Besides the separators these are the ASCII controls from tab to carriage return and from file to unit
separator, and the next line control. -/
def blankRanges : List (Nat × Nat) := [
  (0x9, 0xD), (0x1C, 0x20), (0x85, 0x85), (0xA0, 0xA0), (0x1680, 0x1680), (0x2000, 0x200A),
  (0x2028, 0x2029), (0x202F, 0x202F), (0x205F, 0x205F), (0x3000, 0x3000)]

def isBlank (c : Char) : Bool := inRanges blankRanges c

/-- The text without the blanks at both its ends. -/
def trimBlanks (cs : List Char) : List Char :=
  ((cs.dropWhile isBlank).reverse.dropWhile isBlank).reverse

/-! ### Decimal digits -/

/-- The digit zero of each script, ASCII left out. -/
def scriptZeros : List Nat := [
  0x660, 0x6F0, 0x7C0, 0x966, 0x9E6, 0xA66, 0xAE6, 0xB66, 0xBE6, 0xC66, 0xCE6, 0xD66, 0xDE6, 0xE50,
  0xED0, 0xF20, 0x1040, 0x1090, 0x17E0, 0x1810, 0x1946, 0x19D0, 0x1A80, 0x1A90, 0x1B50, 0x1BB0,
  0x1C40, 0x1C50, 0xA620, 0xA8D0, 0xA900, 0xA9D0, 0xA9F0, 0xAA50, 0xABF0, 0xFF10, 0x104A0, 0x10D30,
  0x11066, 0x110F0, 0x11136, 0x111D0, 0x112F0, 0x11450, 0x114D0, 0x11650, 0x116C0, 0x11730, 0x118E0,
  0x11950, 0x11C50, 0x11D50, 0x11DA0, 0x16A60, 0x16AC0, 0x16B50, 0x1D7CE, 0x1D7D8, 0x1D7E2, 0x1D7EC,
  0x1D7F6, 0x1E140, 0x1E2F0, 0x1E950, 0x1FBF0]

/-- The value of a decimal digit of any script. -/
def digitValue? (c : Char) : Option Nat :=
  let n := c.toNat
  if n < 0x80 then if c.isDigit then some (n - 0x30) else none
  else (scriptZeros.find? fun first => first ≤ n && n < first + 10).map (n - ·)

theorem digitValue?_of_isDigit {c : Char} (h : c.isDigit) : digitValue? c = some (c.toNat - 0x30) := by
  have hc : c.toNat ≤ 0x39 := (Char.isDigit_iff_toNat.1 h).2
  have hascii : c.toNat < 0x80 := by omega
  unfold digitValue?
  dsimp only
  rw [if_pos hascii, if_pos h]

/-! ### Runs of case pairs -/

/-- Every `stride`-th code point from `first` to `last`, mapped to the one that is as far from
`image` as it is from `first`. -/
structure CaseRun where
  first : Nat
  last : Nat
  stride : Nat
  image : Nat

namespace CaseRun

def map? (r : CaseRun) (n : Nat) : Option Nat :=
  if r.first ≤ n ∧ n ≤ r.last ∧ (n - r.first) % r.stride = 0 then some (r.image + (n - r.first))
  else none

/-- The image of a code point under the first run that maps it. -/
def image? (runs : List CaseRun) (n : Nat) : Option Nat := runs.findSome? (·.map? n)

end CaseRun

end NaturalOrder.Unicode
