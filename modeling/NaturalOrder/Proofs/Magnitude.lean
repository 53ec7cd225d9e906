import Mathlib.Algebra.Order.Field.Power
import Mathlib.Algebra.Order.Field.Rat
import Mathlib.Tactic.Linarith
import Mathlib.Tactic.Positivity
import NaturalOrder.Decimal.Order
import NaturalOrder.Proofs.Numeral

/-!
# Numbers by what they denote

`Decimal.value` is the rational number that a finite decimal denotes. Comparing two decimals by their
leading exponents and then at a common scale is comparing these numbers (`Decimal.order_finite`). So on
numerals the comparison of literals is `numeralOrder`, a total order of all texts in which only equal
texts are equal.
-/

namespace NaturalOrder

namespace Decimal

/-- The number that a finite decimal denotes. Other decimals are given the value zero. -/
def value : Decimal → ℚ
  | finite m c e => if m then -(c * 10 ^ e) else c * 10 ^ e
  | infinite _ => 0
  | nan .. => 0

section
variable {c d : Nat} {e f : Int}

theorem lt_pow_length_ofNat (c : Nat) : c < 10 ^ (Text.ofNat c).length :=
  (Nat.length_toDigits_le_iff (by decide) Nat.length_toDigits_pos).1 (Nat.le_refl _)

theorem pow_length_ofNat_le (hc : c ≠ 0) : 10 ^ ((Text.ofNat c).length - 1) ≤ c := by
  by_cases h : (Text.ofNat c).length = 1
  · rw [h]
    exact Nat.one_le_iff_ne_zero.2 hc
  · have hpos : 0 < (Text.ofNat c).length := Nat.length_toDigits_pos
    refine Nat.le_of_not_lt fun hlt => ?_
    have := (Nat.length_toDigits_le_iff (b := 10) (by decide) (by omega)).2 hlt
    rw [Text.ofNat] at hpos h this
    omega

theorem pow_leadingExponent_le (hc : c ≠ 0) (e : Int) :
    (10 : ℚ) ^ leadingExponent c e ≤ c * 10 ^ e := by
  have hpos : 0 < (Text.ofNat c).length := Nat.length_toDigits_pos
  have he : leadingExponent c e = (((Text.ofNat c).length - 1 : Nat) : Int) + e := by
    unfold leadingExponent; omega
  have hle : (10 : ℚ) ^ ((Text.ofNat c).length - 1) ≤ c := by exact_mod_cast pow_length_ofNat_le hc
  rw [he, zpow_add₀ (by norm_num), zpow_natCast]
  exact mul_le_mul_of_nonneg_right hle (by positivity)

theorem lt_pow_leadingExponent (c : Nat) (e : Int) :
    (c : ℚ) * 10 ^ e < 10 ^ (leadingExponent c e + 1) := by
  have he : leadingExponent c e + 1 = ((Text.ofNat c).length : Int) + e := by
    unfold leadingExponent; omega
  have hlt : (c : ℚ) < 10 ^ (Text.ofNat c).length := by exact_mod_cast lt_pow_length_ofNat c
  rw [he, zpow_add₀ (by norm_num), zpow_natCast]
  exact mul_lt_mul_of_pos_right hlt (by positivity)

/-- A number that starts at a lower place is smaller. -/
theorem lt_of_leadingExponent_lt (hd : d ≠ 0) (h : leadingExponent c e < leadingExponent d f) :
    (c : ℚ) * 10 ^ e < d * 10 ^ f :=
  calc (c : ℚ) * 10 ^ e < 10 ^ (leadingExponent c e + 1) := lt_pow_leadingExponent c e
    _ ≤ 10 ^ leadingExponent d f := zpow_le_zpow_right₀ (by norm_num) h
    _ ≤ d * 10 ^ f := pow_leadingExponent_le hd f

theorem cast_scaled (c : Nat) (e f : Int) :
    ((c * Nat.pow 10 (e - f).toNat : Nat) : ℚ) * 10 ^ min e f = c * 10 ^ e := by
  have hp : (Nat.pow 10 (e - f).toNat : ℚ) = 10 ^ ((e - f).toNat : Int) := by
    rw [zpow_natCast]; exact Nat.cast_pow 10 _
  rw [Nat.cast_mul, hp, mul_assoc, ← zpow_add₀ (by norm_num)]
  congr 2
  omega

theorem compare_scaled {x y : Nat} {k : ℚ} (hk : 0 < k) :
    compare ((x : ℚ) * k) (y * k) = compare x y := by
  rcases Nat.lt_trichotomy x y with h | rfl | h
  · rw [compare_lt_iff_lt.2 h]
    exact compare_lt_iff_lt.2 (mul_lt_mul_of_pos_right (by exact_mod_cast h) hk)
  · rw [compare_eq_iff_eq.2 rfl, compare_eq_iff_eq.2 rfl]
  · rw [compare_gt_iff_gt.2 h]
    exact compare_gt_iff_gt.2 (mul_lt_mul_of_pos_right (by exact_mod_cast h) hk)

theorem compareMagnitudes_eq (hc : c ≠ 0) (hd : d ≠ 0) :
    compareMagnitudes c e d f = compare ((c : ℚ) * 10 ^ e) (d * 10 ^ f) := by
  unfold compareMagnitudes
  split
  · have h := compare_scaled (x := c * Nat.pow 10 (e - f).toNat) (y := d * Nat.pow 10 (f - e).toNat)
      (k := 10 ^ min e f) (by positivity)
    rw [← h, cast_scaled, min_comm, cast_scaled]
  · next hne =>
    rcases Int.lt_trichotomy (leadingExponent c e) (leadingExponent d f) with h | h | h
    · rw [compare_lt_iff_lt.2 h, compare_lt_iff_lt.2 (lt_of_leadingExponent_lt hd h)]
    · exact absurd (compare_eq_iff_eq.2 h) hne
    · rw [compare_gt_iff_gt.2 h, compare_gt_iff_gt.2 (lt_of_leadingExponent_lt hc h)]

theorem compare_neg (x y : ℚ) : compare (-x) (-y) = compare y x := by
  rcases lt_trichotomy x y with h | rfl | h
  · rw [compare_gt_iff_gt.2 h, compare_gt_iff_gt.2 (neg_lt_neg h)]
  · rw [compare_eq_iff_eq.2 rfl, compare_eq_iff_eq.2 rfl]
  · rw [compare_lt_iff_lt.2 h, compare_lt_iff_lt.2 (neg_lt_neg h)]

end

/-! The sign of a decimal is that of its value. -/

section
variable {m n : Bool} {c d : Nat} (e f : Int)

theorem neg_one_le_sign : -1 ≤ sign m c := by
  unfold sign
  split
  · decide
  · split <;> decide

theorem sign_le_one : sign m c ≤ 1 := by
  unfold sign
  split
  · decide
  · split <;> decide

theorem value_eq_zero (h : sign m c = 0) : (finite m c e).value = 0 := by
  have hc : c = 0 := by
    unfold sign at h
    split at h
    · assumption
    · cases m <;> simp at h
  subst hc
  cases m <;> simp [value]

theorem value_pos (h : 0 < sign m c) : 0 < (finite m c e).value := by
  unfold sign at h
  split at h
  · simp at h
  · next hc =>
    have hc : (0 : ℚ) < c := by exact_mod_cast Nat.pos_of_ne_zero hc
    cases m with
    | true => simp at h
    | false =>
      show (0 : ℚ) < c * 10 ^ e
      positivity

theorem value_neg (h : sign m c < 0) : (finite m c e).value < 0 := by
  unfold sign at h
  split at h
  · simp at h
  · next hc =>
    have hc : (0 : ℚ) < c := by exact_mod_cast Nat.pos_of_ne_zero hc
    cases m with
    | true =>
      show -((c : ℚ) * 10 ^ e) < 0
      exact neg_lt_zero.2 (by positivity)
    | false => simp at h

theorem value_lt_of_sign_lt (h : sign m c < sign n d) :
    (finite m c e).value < (finite n d f).value := by
  rcases lt_trichotomy (sign m c) 0 with hm | hm | hm
  · have hv := value_neg e hm
    rcases lt_trichotomy (sign n d) 0 with hn | hn | hn
    · have h₁ := neg_one_le_sign (m := m) (c := c)
      omega
    · rwa [value_eq_zero f hn]
    · exact hv.trans (value_pos f hn)
  · rw [value_eq_zero e hm]
    exact value_pos f (hm ▸ h)
  · have h₁ := sign_le_one (m := n) (c := d)
    omega

/-- Finite decimals are ordered by the numbers that they denote. -/
theorem compareFinite_eq (m : Bool) (c : Nat) (n : Bool) (d : Nat) :
    compareFinite m c e n d f = compare (finite m c e).value (finite n d f).value := by
  unfold compareFinite
  rcases Int.lt_trichotomy (sign m c) (sign n d) with h | h | h
  · rw [compare_lt_iff_lt.2 h, compare_lt_iff_lt.2 (value_lt_of_sign_lt e f h)]
  · rw [compare_eq_iff_eq.2 h]
    by_cases hc : c = 0
    · have hm : sign m c = 0 := if_pos hc
      rw [value_eq_zero e hm, value_eq_zero f (h ▸ hm), compare_eq_iff_eq.2 rfl]
      exact if_pos hc
    · have hd : d ≠ 0 := by rintro rfl; cases m <;> simp [sign, hc] at h
      obtain rfl : m = n := by cases m <;> cases n <;> simp [sign, hc, hd] at h ⊢
      cases m with
      | true => simp [hc, value, compare_neg, compareMagnitudes_eq hd hc]
      | false => simp [hc, value, compareMagnitudes_eq hc hd]
  · rw [compare_gt_iff_gt.2 h, compare_gt_iff_gt.2 (value_lt_of_sign_lt f e h)]

end

theorem order_finite (m : Bool) (c : Nat) (e : Int) (n : Bool) (d : Nat) (f : Int) :
    (finite m c e).order (finite n d f) = .ok (compare (finite m c e).value (finite n d f).value) := by
  rw [← compareFinite_eq]
  rfl

end Decimal

/-- The number that a literal denotes. Texts that are no literals of a number are given the value zero. -/
def literalValue (s : Text) : ℚ :=
  match Decimal.ofLiteral s with
  | .ok d => d.value
  | .error _ => 0

/-- Texts by the numbers that they denote, and those of one number by code points. -/
def numeralOrder : Text → Text → Ordering := compareLex (compareOn literalValue) compare

instance : Std.TransCmp numeralOrder :=
  inferInstanceAs (Std.TransCmp (compareLex (compareOn literalValue) compare))

theorem numeralOrder_eq_eq {a b : Text} : numeralOrder a b = .eq ↔ a = b := by
  constructor
  · intro h
    exact Std.LawfulEqOrd.eq_of_compare (compareLex_eq_eq.1 h).2
  · rintro rfl
    exact Std.ReflCmp.compare_self

theorem numeralOrder_of_value_lt {a b : Text} (h : literalValue a < literalValue b) :
    numeralOrder a b = .lt := by
  have hv : compareOn literalValue a b = .lt := compare_lt_iff_lt.2 h
  rw [numeralOrder, compareLex, hv]
  rfl

theorem Numeral.literalValue_text (n : Numeral) : literalValue n.text = n.decimal.value := by
  unfold literalValue
  rw [n.ofLiteral_text]

/-- The comparison of two numerals does not fail. -/
theorem compareNumeric_text (n k : Numeral) :
    compareNumeric n.text k.text = .ok (numeralOrder n.text k.text) := by
  simp only [compareNumeric, n.ofLiteral_text, k.ofLiteral_text, bind, Except.bind]
  simp only [Numeral.decimal, Decimal.order_finite]
  show Except.ok _ = Except.ok ((compare (literalValue n.text) (literalValue k.text)).then _)
  rw [n.literalValue_text, k.literalValue_text]
  rfl

/-! ### Numerals by their digits before the point -/

namespace Numeral
variable {n k : Numeral}

/-- The number that a numeral denotes without its sign. -/
def magnitude (n : Numeral) : ℚ := Text.toNat n.digits * 10 ^ (-n.places : ℤ)

theorem decimal_value (n : Numeral) :
    n.decimal.value = if n.negative then -n.magnitude else n.magnitude := rfl

theorem magnitude_eq (n : Numeral) :
    n.magnitude = Text.toNat n.whole + (Text.toNat (n.fraction?.getD []) : ℚ) / 10 ^ n.places := by
  have hp : (Nat.pow 10 n.places : ℚ) = 10 ^ n.places := Nat.cast_pow 10 _
  have hd : (Text.toNat n.digits : ℚ) =
      10 ^ n.places * Text.toNat n.whole + Text.toNat (n.fraction?.getD []) := by
    rw [← hp]
    exact_mod_cast Text.toNat_append n.whole (n.fraction?.getD [])
  rw [magnitude, hd, zpow_neg, zpow_natCast, ← div_eq_mul_inv, add_div,
    mul_div_cancel_left₀ _ (by positivity)]

theorem whole_le_magnitude (n : Numeral) : (Text.toNat n.whole : ℚ) ≤ n.magnitude := by
  rw [magnitude_eq]
  exact le_add_of_nonneg_right (by positivity)

/-- The digits after the point are less than one. -/
theorem magnitude_lt (n : Numeral) : n.magnitude < Text.toNat n.whole + 1 := by
  have hf : Text.toNat (n.fraction?.getD []) < Nat.pow 10 n.places :=
    Text.toNat_lt fun c hc => n.isDigit c (List.mem_append_right _ hc)
  have hp : (Nat.pow 10 n.places : ℚ) = 10 ^ n.places := Nat.cast_pow 10 _
  have hlt : (Text.toNat (n.fraction?.getD []) : ℚ) < 10 ^ n.places := by
    rw [← hp]
    exact_mod_cast hf
  have hone : (Text.toNat (n.fraction?.getD []) : ℚ) / 10 ^ n.places < 1 :=
    (div_lt_one (by positivity)).2 hlt
  rw [magnitude_eq]
  linarith

theorem magnitude_lt_of_whole_lt (h : Text.toNat n.whole < Text.toNat k.whole) :
    n.magnitude < k.magnitude :=
  calc n.magnitude < Text.toNat n.whole + 1 := n.magnitude_lt
    _ ≤ Text.toNat k.whole := by exact_mod_cast h
    _ ≤ k.magnitude := k.whole_le_magnitude

theorem numeralOrder_of_whole_lt (h : Text.toNat n.whole < Text.toNat k.whole)
    (hn : n.negative = false) (hk : k.negative = false) : numeralOrder n.text k.text = .lt := by
  refine numeralOrder_of_value_lt ?_
  rw [literalValue_text, literalValue_text, decimal_value, decimal_value, hn, hk]
  exact magnitude_lt_of_whole_lt h

/-- Negative numerals have the order of their magnitudes reversed. -/
theorem numeralOrder_of_lt_whole (h : Text.toNat n.whole < Text.toNat k.whole)
    (hn : n.negative = true) (hk : k.negative = true) : numeralOrder k.text n.text = .lt := by
  refine numeralOrder_of_value_lt ?_
  rw [literalValue_text, literalValue_text, decimal_value, decimal_value, hn, hk]
  exact neg_lt_neg (magnitude_lt_of_whole_lt h)

end Numeral

end NaturalOrder
