/-!
# Texts, their slices and numbers in decimal

A text is the list of its characters, and its order is the lexicographic order of their code points. Offsets
count characters. Surrogates are no characters: a string in which one stands alone is left out, as it is no text
and has no form in UTF-8.
-/

namespace NaturalOrder

abbrev Text := List Char

namespace Text

variable (s : Text)

/-- The number of characters before an offset. A negative offset counts from the end. -/
def before (offset : Int) : Nat :=
  if 0 ≤ offset then offset.toNat else s.length - offset.natAbs

/-- The characters from one offset up to another, as far as the text has them. -/
def slice (start stop : Int) : Text := (s.take (s.before stop)).drop (s.before start)

/-- The characters from an offset to the end. -/
def sliceFrom (start : Int) : Text := s.drop (s.before start)

/-- The character at an offset, if the offset lies in the text. -/
def at? (offset : Int) : Option Char :=
  if 0 ≤ offset then s[offset.toNat]?
  else if offset.natAbs ≤ s.length then s[s.length - offset.natAbs]? else none

/-- The number of bytes that a text takes in UTF-8. -/
def byteSize : Text → Nat
  | [] => 0
  | c :: rest => c.utf8Size + byteSize rest

/-- The text before the first mark, and the text after it if there is a mark. -/
def cut (mark : Char) : Text × Option Text :=
  match s.span (· ≠ mark) with
  | (first, []) => (first, none)
  | (first, _ :: rest) => (first, some rest)

@[simp] theorem before_natCast (n : Nat) : s.before n = n := by simp [before]

theorem slice_natCast_add (n k : Nat) : s.slice n (n + k) = (s.drop n).take k := by
  rw [slice, ← Int.natCast_add, before_natCast, before_natCast, List.drop_take, Nat.add_sub_cancel_left]

/-! ### Integers in decimal -/

/-- The shortest decimal digits of a number. -/
def ofNat (n : Nat) : Text := Nat.toDigits 10 n

/-- The decimal digits of an integer, after a minus sign if it is negative. -/
def ofInt (n : Int) : Text := if n < 0 then '-' :: ofNat n.natAbs else ofNat n.natAbs

/-- The number that a row of ASCII digits denotes. -/
def toNat (digits : Text) : Nat := Nat.ofDigitChars 10 digits 0

theorem toNat_ofNat (n : Nat) : toNat (ofNat n) = n := Nat.ofDigitChars_ten_toDigits

theorem ofNat_ne_nil (n : Nat) : ofNat n ≠ [] := Nat.toDigits_ne_nil

theorem toNat_append (u v : Text) : toNat (u ++ v) = Nat.pow 10 v.length * toNat u + toNat v := by
  rw [toNat, Nat.ofDigitChars_append, Nat.ofDigitChars_eq_ofDigitChars_zero]
  rfl

/-- Digits denote a number below the power of ten of their count. -/
theorem toNat_lt {digits : Text} (h : ∀ c ∈ digits, c.isDigit) :
    toNat digits < Nat.pow 10 digits.length := by
  induction digits with
  | nil => decide
  | cons c rest ih =>
    have hc : c.toNat ≤ 0x39 := (Char.isDigit_iff_toNat.1 (h c (by simp))).2
    have hd : toNat [c] ≤ 9 := by
      show 10 * 0 + (c.toNat - 0x30) ≤ 9
      omega
    have hr := ih fun d hd => h d (List.mem_cons_of_mem c hd)
    calc toNat (c :: rest) = Nat.pow 10 rest.length * toNat [c] + toNat rest := toNat_append [c] rest
      _ < Nat.pow 10 rest.length * toNat [c] + Nat.pow 10 rest.length := Nat.add_lt_add_left hr _
      _ ≤ Nat.pow 10 rest.length * 9 + Nat.pow 10 rest.length :=
        Nat.add_le_add_right (Nat.mul_le_mul_left _ hd) _
      _ = Nat.pow 10 (c :: rest).length := by rw [← Nat.mul_succ]; rfl

end Text

end NaturalOrder
