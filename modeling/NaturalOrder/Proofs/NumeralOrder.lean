import Mathlib.Order.Defs.Unbundled
import NaturalOrder.Proofs.FirstToken
import NaturalOrder.Proofs.Magnitude

/-!
# Numerals by their sign, digits and places

The number that a numeral denotes is read from its characters (`Numeral.value`), and its decimal denotes this
number whatever its length is (`Numeral.decimal_value_eq`). Numerals of one number are told apart by their
spelling, and the two together are a strict total order of the literals (`compareNumeric_by_value`).
-/

namespace NaturalOrder

namespace Text

/-- Texts are compared by the code points of their characters. -/
theorem compare_eq_lt {a b : Text} : compare a b = .lt ↔ a < b := by
  induction a generalizing b with
  | nil => cases b <;> simp
  | cons c a ih =>
    cases b with
    | nil => simp
    | cons d b =>
      have hcd : compare c d = .lt ↔ c < d := compareOfLessAndEq_eq_lt
      rw [List.compare_cons_cons, List.cons_lt_cons_iff, Ordering.then_eq_lt, ih, hcd,
        Std.LawfulEqOrd.compare_eq_iff_eq]

theorem toNat_eq_zero {digits : Text} (h : ∀ c ∈ digits, c.isDigit) :
    toNat digits = 0 ↔ ∀ c ∈ digits, c = '0' := by
  induction digits with
  | nil => simp [toNat]
  | cons c rest ih =>
    have hc : 0x30 ≤ c.toNat := (isDigit_toNat (h c (by simp))).1
    have hfirst : toNat [c] = 0 ↔ c = '0' := by
      show 10 * 0 + (c.toNat - 0x30) = 0 ↔ c = '0'
      rw [← Char.toNat_inj]
      show _ ↔ c.toNat = 0x30
      omega
    have happ : toNat (c :: rest) = Nat.pow 10 rest.length * toNat [c] + toNat rest :=
      toNat_append [c] rest
    have hpow : Nat.pow 10 rest.length ≠ 0 := Nat.ne_of_gt (Nat.pow_pos (by decide))
    rw [happ, Nat.add_eq_zero_iff, Nat.mul_eq_zero, or_iff_right hpow, hfirst,
      ih fun d hd => h d (List.mem_cons_of_mem c hd), List.forall_mem_cons]

end Text

namespace Numeral
variable (n k : Numeral)

/-- The sign, the number that all digits denote, and a power of ten for each digit after the point. -/
def value : ℚ := (-1) ^ n.negative.toNat * Text.toNat n.digits / 10 ^ n.places

theorem decimal_value_eq : n.decimal.value = n.value := by
  rw [decimal_value, value, magnitude, zpow_neg, zpow_natCast, ← div_eq_mul_inv]
  cases n.negative with
  | true =>
    rw [if_pos rfl, Bool.toNat_true, pow_one, neg_one_mul, neg_div]
  | false =>
    rw [if_neg Bool.false_ne_true, Bool.toNat_false, pow_zero, one_mul]

/-- Zero has no sign and no length: it is what all numerals of zeros denote. -/
theorem value_eq_zero : n.value = 0 ↔ ∀ c ∈ n.digits, c = '0' := by
  have hsign : (-1 : ℚ) ^ n.negative.toNat ≠ 0 := pow_ne_zero _ (by norm_num)
  have hpow : (10 : ℚ) ^ n.places ≠ 0 := pow_ne_zero _ (by norm_num)
  rw [value, div_eq_zero_iff, or_iff_left hpow, mul_eq_zero, or_iff_right hsign, Nat.cast_eq_zero]
  exact Text.toNat_eq_zero n.isDigit

theorem numeralOrder_eq_lt : numeralOrder n.text k.text = .lt ↔
    n.value < k.value ∨ n.value = k.value ∧ n.text < k.text := by
  have hv : compareOn literalValue n.text k.text = compare n.value k.value := by
    rw [compareOn, literalValue_text, literalValue_text, decimal_value_eq, decimal_value_eq]
  rw [numeralOrder, compareLex, Ordering.then_eq_lt, hv, compare_lt_iff_lt, compare_eq_iff_eq,
    Text.compare_eq_lt]

end Numeral

/-! ### The literals in order -/

theorem IsNumeral.compareNumeric_eq {a b : Text} (ha : IsNumeral a) (hb : IsNumeral b) :
    compareNumeric a b = .ok (numeralOrder a b) := by
  obtain ⟨n, rfl⟩ := ha
  obtain ⟨k, rfl⟩ := hb
  exact compareNumeric_text n k

/-- One literal comes before another one. -/
def Precedes (a b : {s : Text // IsNumeral s}) : Prop := compareNumeric a b = .ok .lt

theorem precedes_iff {a b : {s : Text // IsNumeral s}} :
    Precedes a b ↔ numeralOrder a b = .lt := by
  rw [Precedes, a.2.compareNumeric_eq b.2, Except.ok.injEq]

instance : IsStrictTotalOrder {s : Text // IsNumeral s} Precedes where
  irrefl a h := by
    have hself : numeralOrder a a = .eq := numeralOrder_eq_eq.2 rfl
    rw [precedes_iff, hself] at h
    cases h
  trans a b c hab hbc := by
    rw [precedes_iff] at *
    exact Std.TransCmp.lt_trans hab hbc
  trichotomous a b hab hba := by
    rw [precedes_iff] at hab hba
    refine Subtype.ext (numeralOrder_eq_eq.1 ?_)
    cases h : numeralOrder a b with
    | lt => exact absurd h hab
    | eq => rfl
    | gt => exact absurd (Std.OrientedCmp.lt_of_gt h) hba

/-- A literal is exactly the number of its sign, digits and places, which is zero only if all its digits are.
Literals are compared by these numbers, and then by code points, which is a strict total order. -/
theorem compareNumeric_by_value :
    (∀ n : Numeral, ∃ m c e, Decimal.ofLiteral n.text = .ok (.finite m c e) ∧
      (Decimal.finite m c e).value = n.value ∧ (n.value = 0 ↔ ∀ c ∈ n.digits, c = '0')) ∧
    (∀ n k : Numeral, ∃ o, compareNumeric n.text k.text = .ok o ∧
      (o = .lt ↔ n.value < k.value ∨ n.value = k.value ∧ n.text < k.text) ∧
      (o = .eq ↔ n.text = k.text) ∧ compareNumeric k.text n.text = .ok o.swap) ∧
    IsStrictTotalOrder {s : Text // IsNumeral s} fun a b => compareNumeric a b = .ok .lt := by
  refine ⟨?_, ?_, inferInstanceAs (IsStrictTotalOrder _ Precedes)⟩
  · intro n
    exact ⟨_, _, _, n.ofLiteral_text, n.decimal_value_eq, n.value_eq_zero⟩
  · intro n k
    have hswap : numeralOrder k.text n.text = (numeralOrder n.text k.text).swap :=
      Std.OrientedCmp.eq_swap
    refine ⟨_, compareNumeric_text n k, n.numeralOrder_eq_lt k, numeralOrder_eq_eq, ?_⟩
    rw [compareNumeric_text k n, hswap]

end NaturalOrder
