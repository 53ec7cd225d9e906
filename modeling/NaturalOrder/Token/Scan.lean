import NaturalOrder.Error
import NaturalOrder.Token.Basic

/-!
# Scanning

What the next token of a text is depends on the characters from its start on and on none before.

A number starts with a digit, a decimal point and a digit, a minus sign and a digit, or all three in
this order. It goes on as long as there are digits, with at most one decimal point in all of it. Any
other text goes on up to the start of the next number.
-/

namespace NaturalOrder

/-- How a number starts: how many characters it takes to see that it is one, and whether the
decimal point is among them. -/
structure NumberStart where
  length : Nat
  pointUsed : Bool
  deriving DecidableEq

namespace Token

/-- The text is a single character of a class. -/
def isOne (ofClass : Char → Bool) : Text → Bool
  | [c] => ofClass c
  | _ => false

def isSign (c : Char) : Bool := c = '-'

def isDecimalPoint (c : Char) : Bool := c = '.'

def startsWithDigit : Text → Bool
  | [] => false
  | c :: _ => c.isDigit

def numberStart? : Text → Option NumberStart
  | [] => none
  | c :: rest =>
    if c.isDigit then some ⟨1, false⟩
    else if isDecimalPoint c then if startsWithDigit rest then some ⟨2, true⟩ else none
    else if isSign c then
      match rest with
      | [] => none
      | d :: rest =>
        if d.isDigit then some ⟨2, false⟩
        else if isDecimalPoint d && startsWithDigit rest then some ⟨3, true⟩
        else none
    else none

/-- The number of characters that continue a number, given whether its decimal point is used. -/
def numberLength (pointUsed : Bool) : Text → Nat
  | [] => 0
  | c :: rest =>
    if isDecimalPoint c then if pointUsed then 0 else numberLength true rest + 1
    else if c.isDigit then numberLength pointUsed rest + 1
    else 0

/-- The number of characters before the first start of a number. -/
def textLength : Text → Nat
  | [] => 0
  | c :: rest => if (numberStart? (c :: rest)).isSome then 0 else textLength rest + 1

/-- The kind and the length of the first token of a text. -/
def scan : Text → Kind × Nat
  | [] => (.empty, 0)
  | c :: rest =>
    match numberStart? (c :: rest) with
    | some start =>
      (.numeric, start.length + numberLength start.pointUsed ((c :: rest).drop start.length))
    | none => (.text, textLength rest + 1)

end Token

/-- The token that starts at a position of a text. -/
def nextToken (value : Text) (position : Int) : Except Error Token :=
  if 0 ≤ position ∧ position ≤ value.length then
    let (kind, length) := Token.scan (value.drop position.toNat)
    .ok ⟨kind, value, position, position + length⟩
  else .error (.position value position)

namespace Token

theorem one_le_length_of_numberStart? {s : Text} {start : NumberStart}
    (h : numberStart? s = some start) : 1 ≤ start.length := by
  cases s with
  | nil => simp [numberStart?] at h
  | cons c rest => unfold numberStart? at h; split at h <;> grind

theorem one_le_scan_length {c : Char} {rest : Text} : 1 ≤ (scan (c :: rest)).2 := by
  simp only [scan]
  split
  · next h => exact Nat.le_add_right_of_le (one_le_length_of_numberStart? h)
  · exact Nat.le_add_left ..

end Token

/-- A token that is not empty ends after the position it starts at, which is in the text. -/
theorem stop_of_nextToken {s : Text} {i : Int} {t : Token} (h : nextToken s i = .ok t)
    (ht : t.kind ≠ .empty) : i < t.stop ∧ i < s.length := by
  unfold nextToken at h
  split at h
  · next hi =>
    simp only [Except.ok.injEq] at h
    subst h
    cases hs : s.drop i.toNat with
    | nil => simp [hs, Token.scan] at ht
    | cons a rest =>
      have h₁ : 1 ≤ (Token.scan (a :: rest)).2 := Token.one_le_scan_length
      have h₂ : (s.drop i.toNat).length ≠ 0 := by simp [hs]
      simp only [List.length_drop] at h₂
      simp only
      omega
  · simp at h

/-! ### Scanning at any offset

Negative offsets count from the end, and nothing checks that an offset is the start of a token.
-/

namespace Token

/-- The characters in which the start of a number is looked for. From a negative offset on these are
all but the last character of the text. -/
def window (value : Text) (offset : Int) : Text :=
  if 0 ≤ offset then value.sliceFrom offset
  else if offset.natAbs ≤ value.length then value.slice offset (-1)
  else []

/-- How the number starts at an offset, if one does. -/
def numberStartAt? (value : Text) (offset : Int) : Option NumberStart :=
  numberStart? (window value offset)

/-- The end of the number that goes on at an offset. Reading from a negative offset goes on with the
whole text when it reaches the end. -/
def numberEnd (value : Text) (offset : Int) (pointUsed : Bool) : Except Error Int :=
  if 0 ≤ offset then
    .ok (offset + numberLength pointUsed (value.sliceFrom offset))
  else if offset.natAbs ≤ value.length then
    .ok (offset + numberLength pointUsed (value.sliceFrom offset ++ value))
  else .error (.noItem "string" offset)

end Token

end NaturalOrder
