import NaturalOrder.Proofs.Numeral

/-!
# Texts without signs and points

In such a text a number is a run of digits, and any other token is what stands between two of them. So
the first character of a text tells the kind of its first token (`IsBare.scan_kind_eq_numeric`), and no
token is followed by one of its own kind (`IsBare.drop_textLength`).
-/

namespace NaturalOrder
open Token

/-- Whether the first character of a text is a digit, if there is one. -/
def digitFirst? (s : Text) : Option Bool := s.head?.map Char.isDigit

theorem digitFirst?_append (u v : Text) : digitFirst? (u ++ v) = (digitFirst? u).or (digitFirst? v) := by
  rw [digitFirst?, List.head?_append, Option.map_or]
  rfl

/-- There is neither a sign nor a point in a text. -/
def IsBare (s : Text) : Prop := '-' ∉ s ∧ '.' ∉ s

instance (s : Text) : Decidable (IsBare s) := inferInstanceAs (Decidable (_ ∧ _))

section
variable {s : Text}

theorem IsBare.drop (h : IsBare s) (n : Nat) : IsBare (s.drop n) :=
  ⟨fun hc => h.1 (List.mem_of_mem_drop hc), fun hc => h.2 (List.mem_of_mem_drop hc)⟩

theorem IsBare.numberStart?_isSome (h : IsBare s) :
    (numberStart? s).isSome ↔ digitFirst? s = some true := by
  cases s with
  | nil => exact iff_of_false (by decide) (by decide)
  | cons c rest =>
    have hp : isDecimalPoint c = false := by
      simpa [isDecimalPoint, eq_comm] using List.ne_of_not_mem_cons h.2
    rw [numberStart?_of_ne_sign (List.ne_of_not_mem_cons h.1).symm, unsignedStart?, hp]
    cases hd : c.isDigit <;> simp [digitFirst?, hd]

theorem IsBare.scan_kind_eq_numeric (h : IsBare s) :
    (scan s).1 = .numeric ↔ digitFirst? s = some true := by
  rw [← h.numberStart?_isSome]
  cases s with
  | nil => exact iff_of_false (by decide) (by decide)
  | cons c rest => cases hn : numberStart? (c :: rest) <;> simp [scan, hn]

theorem IsBare.drop_textLength (h : IsBare s) : digitFirst? (s.drop (textLength s)) ≠ some false := by
  induction s with
  | nil => decide
  | cons c rest ih =>
    rw [textLength]
    split
    · next hn => rw [List.drop_zero, h.numberStart?_isSome.1 hn]; decide
    · exact ih (h.drop 1)

theorem digitFirst?_eq_none : digitFirst? s = none ↔ s = [] := by
  rw [digitFirst?, Option.map_eq_none_iff, List.head?_eq_none_iff]

theorem digitFirst?_take_scan (s : Text) : digitFirst? (s.take (scan s).2) = digitFirst? s := by
  cases s with
  | nil => rfl
  | cons c rest =>
    have hpos := scan_length_pos (List.cons_ne_nil c rest)
    rw [digitFirst?, List.head?_take, if_neg (by omega)]
    rfl

/-- After a token that does not start with a digit there is a digit, or the end of the text. -/
theorem IsBare.digitFirst?_drop_scan (h : IsBare s) (hd : digitFirst? s = some false) :
    digitFirst? (s.drop (scan s).2) ≠ some false := by
  cases s with
  | nil => cases hd
  | cons c rest =>
    have hn : numberStart? (c :: rest) = none := by
      rw [← Option.not_isSome_iff_eq_none, h.numberStart?_isSome, hd]
      decide
    rw [scan, hn]
    exact (h.drop 1).drop_textLength

end

end NaturalOrder
