import NaturalOrder.Decimal.Basic
import NaturalOrder.Proofs.Tokens

/-!
# Numerals

A `Numeral` is a number as texts write it: ASCII digits, a decimal point at any place among them or
none, and a minus sign before them or none. Each token of a number is a numeral (`exists_numeral`), and
each numeral is the literal of a finite decimal (`Numeral.ofLiteral_text`).
-/

namespace NaturalOrder
open Token

structure Numeral where
  negative : Bool
  whole : Text
  /-- The digits after the point, if there is a point. -/
  fraction? : Option Text
  isDigit : ∀ c ∈ whole ++ fraction?.getD [], c.isDigit
  digits_ne_nil : whole ++ fraction?.getD [] ≠ []

namespace Numeral

def digits (n : Numeral) : Text := n.whole ++ n.fraction?.getD []

def places (n : Numeral) : Nat := (n.fraction?.getD []).length

def sign (negative : Bool) : Text := if negative then ['-'] else []

/-- A decimal point and the digits after it. -/
def pointed : Option Text → Text
  | none => []
  | some f => '.' :: f

def text (n : Numeral) : Text := sign n.negative ++ (n.whole ++ pointed n.fraction?)

def decimal (n : Numeral) : Decimal := .finite n.negative (Text.toNat n.digits) (-n.places)

end Numeral

section
variable {c : Char}

/-- The characters of numerals. -/
def IsNumeralChar (c : Char) : Prop := c.isDigit ∨ c = '-' ∨ c = '.'

theorem isDigit_toNat (h : c.isDigit) : 0x30 ≤ c.toNat ∧ c.toNat ≤ 0x39 := Char.isDigit_iff_toNat.1 h

theorem IsNumeralChar.isBlank_eq_false (h : IsNumeralChar c) : Unicode.isBlank c = false := by
  rcases h with h | rfl | rfl
  · have := isDigit_toNat h
    simp only [Unicode.isBlank, Unicode.inRanges, Unicode.blankRanges, List.any_cons, List.any_nil,
      Bool.or_eq_false_iff, Bool.and_eq_false_iff, decide_eq_false_iff_not, Bool.or_false]
    omega
  · decide
  · decide

theorem IsNumeralChar.asciiDigit_eq (h : IsNumeralChar c) : Decimal.asciiDigit c = c := by
  rcases h with h | rfl | rfl
  · have := isDigit_toNat h
    rw [Decimal.asciiDigit, Unicode.digitValue?_of_isDigit h]
    show Char.ofNat (0x30 + (c.toNat - 0x30)) = c
    rw [Nat.add_sub_cancel' this.1, Char.ofNat_toNat]
  · decide
  · decide

theorem IsNumeralChar.ne_underscore (h : IsNumeralChar c) : c ≠ '_' := by
  rintro rfl
  revert h
  unfold IsNumeralChar
  decide

theorem dropWhile_isBlank_eq {s : Text} (h : ∀ c ∈ s, IsNumeralChar c) :
    s.dropWhile Unicode.isBlank = s := by
  cases s with
  | nil => rfl
  | cons c rest =>
    exact List.dropWhile_cons_of_neg (by simp [(h c (by simp)).isBlank_eq_false])

/-- Nothing about a numeral has to be made plain. -/
theorem plain_eq {s : Text} (h : ∀ c ∈ s, IsNumeralChar c) : Decimal.plain s = s := by
  have ht : Unicode.trimBlanks s = s := by
    unfold Unicode.trimBlanks
    rw [dropWhile_isBlank_eq h, dropWhile_isBlank_eq (by simpa using h), List.reverse_reverse]
  have hf : s.filter (· ≠ '_') = s :=
    List.filter_eq_self.2 fun c hc => by simpa using (h c hc).ne_underscore
  have hm : s.map Decimal.asciiDigit = s.map id :=
    List.map_congr_left fun c hc => (h c hc).asciiDigit_eq
  rw [Decimal.plain, ht, hf, hm, List.map_id]

end

namespace Numeral
variable (n : Numeral)

theorem isNumeralChar_of_mem_text : ∀ c ∈ n.text, IsNumeralChar c := by
  intro c hc
  have hd := fun h => n.isDigit c (List.mem_append.2 h)
  simp only [text, List.mem_append] at hc
  rcases hc with hc | hc | hc
  · unfold sign at hc
    split at hc
    · exact .inr (.inl (by simpa using hc))
    · simp at hc
  · exact .inl (hd (.inl hc))
  · cases hf : n.fraction? with
    | none => simp [hf, pointed] at hc
    | some f =>
      rw [hf, pointed, List.mem_cons] at hc
      rcases hc with rfl | hc
      · exact .inr (.inr rfl)
      · exact .inl (hd (.inr (by simpa [hf] using hc)))

theorem splitSign_text : Decimal.splitSign n.text = (n.negative, n.whole ++ pointed n.fraction?) := by
  unfold text sign
  cases n.negative with
  | true => rfl
  | false =>
    cases hw : n.whole with
    | nil =>
      cases hf : n.fraction? with
      | none => exact absurd (by simp [hw, hf]) n.digits_ne_nil
      | some f => rfl
    | cons c w =>
      have hc : c.isDigit := n.isDigit c (by simp [hw])
      have h₁ : c ≠ '-' := by rintro rfl; exact absurd hc (by decide)
      have h₂ : c ≠ '+' := by rintro rfl; exact absurd hc (by decide)
      simp [Decimal.splitSign, h₁, h₂]

theorem mantissa_body :
    Decimal.mantissa (n.whole ++ pointed n.fraction?) = ⟨n.digits, n.places, []⟩ := by
  have hw : ∀ c ∈ n.whole, c.isDigit := fun c hc => n.isDigit c (by simp [hc])
  have hd : ∀ c ∈ n.fraction?.getD [], c.isDigit := fun c hc => n.isDigit c (by simp [hc])
  unfold Decimal.mantissa digits places
  rw [List.takeWhile_append_of_pos hw, List.dropWhile_append_of_pos hw]
  cases hf : n.fraction? with
  | none => simp [pointed]
  | some f =>
    rw [hf] at hd
    have hp : ('.' :: f).takeWhile Char.isDigit = [] := List.takeWhile_cons_of_neg (by decide)
    have hq : ('.' :: f).dropWhile Char.isDigit = '.' :: f := List.dropWhile_cons_of_neg (by decide)
    have ht : f.takeWhile Char.isDigit = f := by simpa using @List.takeWhile_append_of_pos _ _ f [] hd
    have hr : f.dropWhile Char.isDigit = [] := by simpa using @List.dropWhile_append_of_pos _ _ f [] hd
    simp [pointed, hp, hq, ht, hr]

/-- A numeral is a literal for the decimal with its sign, digits and places. -/
theorem ofLiteral_text : Decimal.ofLiteral n.text = .ok n.decimal := by
  unfold Decimal.ofLiteral
  rw [plain_eq n.isNumeralChar_of_mem_text, splitSign_text]
  have hd : n.digits ≠ [] := n.digits_ne_nil
  simp only [mantissa_body, hd, ↓reduceIte]
  rfl

end Numeral

/-! ## Tokens of numbers -/

namespace Token
open Numeral

/-- The digits after a decimal point, if a point follows the digits at the start of a text. -/
def fractionOf? (s : Text) : Option Text :=
  match s.dropWhile Char.isDigit with
  | [] => none
  | c :: rest => if c = '.' then some (rest.takeWhile Char.isDigit) else none

/-- How a number without a sign starts, if one does. -/
def unsignedStart? : Text → Option NumberStart
  | [] => none
  | c :: rest =>
    if c.isDigit then some ⟨1, false⟩
    else if isDecimalPoint c && startsWithDigit rest then some ⟨2, true⟩
    else none

section
variable {s : Text}

theorem isDecimalPoint_iff {c : Char} : isDecimalPoint c = true ↔ c = '.' := by simp [isDecimalPoint]

theorem not_isDecimalPoint {c : Char} (h : c.isDigit) : ¬ isDecimalPoint c = true := by
  rw [isDecimalPoint_iff]
  rintro rfl
  exact absurd h (by decide)

theorem take_numberLength_true (s : Text) : s.take (numberLength true s) = s.takeWhile Char.isDigit := by
  induction s with
  | nil => rfl
  | cons c rest ih =>
    rw [numberLength, List.takeWhile_cons]
    by_cases hp : isDecimalPoint c = true
    · rw [isDecimalPoint_iff] at hp
      subst hp
      rfl
    · by_cases hd : c.isDigit = true
      · simp [hp, hd, ih]
      · simp [hp, hd]

/-- A number goes on with digits, and where a point follows with the point and the digits after it. -/
theorem take_numberLength_false (s : Text) :
    s.take (numberLength false s) = s.takeWhile Char.isDigit ++ pointed (fractionOf? s) := by
  induction s with
  | nil => rfl
  | cons c rest ih =>
    rw [numberLength, List.takeWhile_cons]
    by_cases hp : isDecimalPoint c = true
    · rw [isDecimalPoint_iff] at hp
      subst hp
      have hf : fractionOf? ('.' :: rest) = some (rest.takeWhile Char.isDigit) := rfl
      rw [hf, ← take_numberLength_true]
      rfl
    · by_cases hd : c.isDigit = true
      · have hf : fractionOf? (c :: rest) = fractionOf? rest := by
          unfold fractionOf?; rw [List.dropWhile_cons_of_pos hd]
        simp [hp, hd, ih, hf]
      · have hf : fractionOf? (c :: rest) = none := by
          unfold fractionOf?
          rw [List.dropWhile_cons_of_neg hd]
          exact if_neg fun h => hp (isDecimalPoint_iff.2 h)
        simp [hp, hd, hf, pointed]

theorem isDigit_of_mem_takeWhile {s : Text} {c : Char} (h : c ∈ s.takeWhile Char.isDigit) : c.isDigit := by
  induction s with
  | nil => simp at h
  | cons d rest ih =>
    by_cases hd : d.isDigit = true
    · rw [List.takeWhile_cons_of_pos hd, List.mem_cons] at h
      rcases h with rfl | h
      · exact hd
      · exact ih h
    · simp [List.takeWhile_cons_of_neg hd] at h

theorem isDigit_of_mem_fractionOf? {c : Char} (h : c ∈ (fractionOf? s).getD []) : c.isDigit := by
  unfold fractionOf? at h
  split at h
  · simp at h
  · split at h
    · exact isDigit_of_mem_takeWhile h
    · simp at h

theorem takeWhile_ne_nil (h : startsWithDigit s) : s.takeWhile Char.isDigit ≠ [] := by
  cases s with
  | nil => simp [startsWithDigit] at h
  | cons c rest =>
    have hc : c.isDigit = true := h
    rw [List.takeWhile_cons_of_pos hc]
    exact List.cons_ne_nil _ _

theorem numberStart?_sign (rest : Text) :
    numberStart? ('-' :: rest) = (unsignedStart? rest).map fun u => ⟨u.length + 1, u.pointUsed⟩ := by
  cases rest with
  | nil => rfl
  | cons d rest =>
    rw [numberStart?, if_neg (by decide), if_neg (by decide), if_pos (by decide), unsignedStart?]
    split
    · rfl
    · split <;> rfl

theorem numberStart?_of_ne_sign {c : Char} (hc : c ≠ '-') (rest : Text) :
    numberStart? (c :: rest) = unsignedStart? (c :: rest) := by
  have hs : ¬ isSign c = true := by simpa [isSign] using hc
  cases rest with
  | nil => simp [numberStart?, unsignedStart?, hs, startsWithDigit]
  | cons d rest =>
    rw [numberStart?, unsignedStart?, if_neg hs]
    by_cases hp : isDecimalPoint c = true <;> simp [hp]

/-- To see that a number starts takes none of its characters away. -/
theorem length_of_unsignedStart? {u : NumberStart} (h : unsignedStart? s = some u) :
    u.length + numberLength u.pointUsed (s.drop u.length) = numberLength false s := by
  cases s with
  | nil => cases h
  | cons c rest =>
    rw [unsignedStart?] at h
    split at h
    · next hc =>
      cases h
      rw [numberLength, if_neg (not_isDecimalPoint hc), if_pos hc, Nat.add_comm]
      rfl
    split at h
    · next hc =>
      cases h
      rw [Bool.and_eq_true] at hc
      cases rest with
      | nil => exact absurd hc.2 (by decide)
      | cons d rest =>
        have hd : d.isDigit = true := hc.2
        rw [numberLength, if_pos hc.1, if_neg (by decide), numberLength, if_neg (not_isDecimalPoint hd),
          if_pos hd]
        show 2 + numberLength true rest = _
        omega
    · cases h

/-- The numeral that stands at the start of a text. -/
def numeralOf (negative : Bool) (s : Text) (h : (unsignedStart? s).isSome) : Numeral where
  negative
  whole := s.takeWhile Char.isDigit
  fraction? := fractionOf? s
  isDigit c hc := by
    rcases List.mem_append.1 hc with hc | hc
    · exact isDigit_of_mem_takeWhile hc
    · exact isDigit_of_mem_fractionOf? hc
  digits_ne_nil := by
    cases s with
    | nil => cases h
    | cons c rest =>
      by_cases hc : c.isDigit = true
      · rw [List.takeWhile_cons_of_pos hc]
        exact List.append_ne_nil_of_left_ne_nil (List.cons_ne_nil _ _) _
      · have hp : (isDecimalPoint c && startsWithDigit rest) = true := by
          simpa [unsignedStart?, hc] using h
        rw [Bool.and_eq_true, isDecimalPoint_iff] at hp
        obtain ⟨rfl, hr⟩ := hp
        exact List.append_ne_nil_of_right_ne_nil _ (takeWhile_ne_nil hr)

theorem text_numeralOf (negative : Bool) (h : (unsignedStart? s).isSome) :
    (numeralOf negative s h).text = sign negative ++ s.take (numberLength false s) := by
  rw [take_numberLength_false]
  rfl

/-- A number is a sign or none, and after it the characters that continue a number. -/
theorem body_of_numberStart? {start : NumberStart} (h : numberStart? s = some start) :
    ∃ negative body, s = sign negative ++ body ∧ (unsignedStart? body).isSome ∧
      start.length + numberLength start.pointUsed (s.drop start.length) =
        (sign negative).length + numberLength false body := by
  cases s with
  | nil => cases h
  | cons c rest =>
    by_cases hc : c = '-'
    · subst hc
      rw [numberStart?_sign, Option.map_eq_some_iff] at h
      obtain ⟨u, hu, rfl⟩ := h
      refine ⟨true, rest, rfl, by rw [hu]; rfl, ?_⟩
      rw [← length_of_unsignedStart? hu, List.drop_succ_cons]
      show u.length + 1 + numberLength u.pointUsed (rest.drop u.length) = 1 + _
      omega
    · rw [numberStart?_of_ne_sign hc] at h
      refine ⟨false, c :: rest, rfl, by rw [h]; rfl, ?_⟩
      rw [← length_of_unsignedStart? h]
      exact (Nat.zero_add _).symm

theorem exists_numberStart? (h : (scan s).1 = .numeric) :
    ∃ start, numberStart? s = some start ∧
      (scan s).2 = start.length + numberLength start.pointUsed (s.drop start.length) := by
  cases s with
  | nil => simp [scan] at h
  | cons c rest =>
    cases hs : numberStart? (c :: rest) with
    | none => simp [scan, hs] at h
    | some start => exact ⟨start, rfl, by simp [scan, hs]⟩

/-- The token of a number is a numeral. -/
theorem exists_numeral (h : (scan s).1 = .numeric) : ∃ n : Numeral, s.take (scan s).2 = n.text := by
  obtain ⟨start, hs, hl⟩ := exists_numberStart? h
  obtain ⟨negative, body, rfl, hb, hlen⟩ := body_of_numberStart? hs
  refine ⟨numeralOf negative body hb, ?_⟩
  rw [hl, hlen, text_numeralOf, List.take_length_add_append]

end

end Token

end NaturalOrder
