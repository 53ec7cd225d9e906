import NaturalOrder.Proofs.Refinement
import NaturalOrder.Proofs.Segmentation

/-!
# Cancelling a common start

`Cuts s n e` says that whole tokens of `s` lead from the offset `n` to the offset `e`. Where they lead to the
end of a start of the text, what comes after it has no part in them: a number that ends there or before does
not reach further, and text before such a number ends where it would without the rest (`Cuts.scan_eq`). So
two texts with a common start that ends a token in both are compared as what comes after it
(`compareNatural_append_left`).
-/

namespace NaturalOrder
open Token

/-- Whole tokens of a text lead from one offset to another. -/
inductive Cuts (s : Text) : Nat → Nat → Prop
  | refl (n : Nat) : Cuts s n n
  | step {n e : Nat} (h : Cuts s (n + (scan (s.drop n)).2) e) : Cuts s n e

/-- A token of a text ends at an offset. -/
def TokenEndsAt (s : Text) (n : Nat) : Prop :=
  ∃ ts, tokenize s 0 = .ok ts ∧ ∃ t ∈ ts, t.stop = n

section
variable {s p u v w : Text} {n e k : Nat} {t : Token}

namespace Cuts

theorem le (h : Cuts s n e) : n ≤ e := by
  induction h with
  | refl n => exact Nat.le_refl n
  | step _ ih => omega

/-- An offset that is not reached yet is reached from the end of the next token. -/
theorem next (h : Cuts s n e) (hn : n < e) : Cuts s (n + (scan (s.drop n)).2) e := by
  cases h with
  | refl => exact absurd hn (Nat.lt_irrefl n)
  | step h => exact h

theorem of_mem (ht : t ∈ tokensFrom s n) (he : t.stop = e) : Cuts s n e := by
  fun_induction tokensFrom s n with
  | case1 n hlt ih =>
    rcases List.mem_cons.1 ht with rfl | ht
    · obtain rfl : n + (scan (s.drop n)).2 = e := by rw [tokenAt_stop] at he; omega
      exact .step (.refl _)
    · exact .step (ih ht)
  | case2 n hlt =>
    obtain rfl := List.mem_singleton.1 ht
    obtain rfl : n + (scan (s.drop n)).2 = e := by rw [tokenAt_stop] at he; omega
    exact .step (.refl _)

end Cuts

theorem TokenEndsAt.cuts (h : TokenEndsAt s n) : Cuts s 0 n := by
  obtain ⟨ts, hts, t, ht, hn⟩ := h
  cases (tokenize_zero s).symm.trans hts
  exact .of_mem ht hn

theorem drop_append_of_lt (hk : k < p.length) : (p ++ v).drop k = p.drop k ++ v :=
  List.drop_append_of_le_length (Nat.le_of_lt hk)

namespace Cuts

theorem startsNumber (h : Cuts (p ++ v) k p.length) (hk : k < p.length)
    (hnum : (tokenAt (p ++ v) k).kind = .numeric) : StartsNumber (p.drop k) := by
  -- its end is within `p` as well, so there is a numeral at the start of what is left of `p`
  have hle := (h.next hk).le
  obtain ⟨i, hi⟩ := exists_numeral hnum
  rw [drop_append_of_lt hk] at hi hle
  rw [List.take_append_of_le_length (by rw [List.length_drop]; omega)] at hi
  rw [← List.take_append_drop (scan (p.drop k ++ v)).2 (p.drop k), hi]
  exact i.startsNumber_append _

/-- Where tokens lead to the end of `p`, what comes after it has no part in the first of them. -/
theorem scan_eq (h : Cuts (p ++ v) k p.length) (hk : k < p.length) :
    scan (p.drop k ++ v) = scan (p.drop k) := by
  have hnext := h.next hk
  rcases hs : scan (p.drop k ++ v) with ⟨kind, j⟩
  have hat : scan ((p ++ v).drop k) = (kind, j) := by rw [drop_append_of_lt hk, hs]
  rw [hat] at hnext
  have hle : k + j ≤ p.length := hnext.le
  have hj : j ≤ (p.drop k).length := by rw [List.length_drop]; omega
  cases kind with
  | empty =>
    have := congrArg List.length (scan_kind_eq_empty.1 (congrArg Prod.fst hs))
    rw [List.length_append, List.length_drop, List.length_nil] at this
    omega
  | numeric =>
    obtain ⟨-, hn, he⟩ := scan_eq_numeric_iff.1 hs
    rw [List.take_append_of_le_length hj] at hn he
    rw [List.drop_append_of_le_length hj] at he
    refine (scan_eq_numeric_iff.2 ⟨hj, hn, fun c hc => he c ?_⟩).symm
    rw [List.head?_append, hc]
    rfl
  | text =>
    obtain ⟨hpos, -, hi, -⟩ := scan_eq_text_iff.1 hs
    refine (scan_eq_text_iff.2 ⟨hpos, hj, fun i hij hn => hi i hij ?_, fun hlt => ?_⟩).symm
    · rw [List.drop_append_of_le_length (by omega)]
      exact hn.append v
    · -- what ends the text is a number, which has to end within `p` itself
      rw [List.length_drop] at hlt
      have hne := kind_ne_text_of_tokenAt_text (congrArg Prod.fst hat)
      rw [hat] at hne
      rw [List.drop_drop]
      refine startsNumber (v := v) hnext (by omega) ?_
      cases hnum : (tokenAt (p ++ v) (k + j)).kind with
      | empty =>
        have := (tokenAt_kind_eq_empty (by rw [List.length_append]; omega)).1 hnum
        rw [List.length_append] at this
        omega
      | numeric => rfl
      | text => exact absurd hnum hne

theorem tokenAt_content (h : Cuts (p ++ v) k p.length) (hk : k < p.length) :
    (tokenAt (p ++ v) k).content = (tokenAt p k).content := by
  rw [content_eq_iff, tokenAt_kind, tokenAt_kind, tokenAt_value, tokenAt_value, drop_append_of_lt hk,
    h.scan_eq hk, List.take_append_of_le_length (scan_length_le _)]
  exact ⟨rfl, rfl⟩

theorem firstDifference_eq {k : Nat} (hv : Cuts (p ++ v) k p.length) (hw : Cuts (p ++ w) k p.length) :
    firstDifference (tokensFrom (p ++ v) k) (tokensFrom (p ++ w) k) =
      firstDifference (tokensFrom (p ++ v) p.length) (tokensFrom (p ++ w) p.length) := by
  by_cases hk : k < p.length
  · have hc := (hv.tokenAt_content hk).trans (hw.tokenAt_content hk).symm
    have hpos := scan_length_pos (s := (p ++ v).drop k) (by simp; omega)
    have hw' := hw.next hk
    rw [← scan_length_eq_of_content hc] at hw'
    rw [firstDifference_of_content_eq (by simp; omega) (by simp; omega) hc]
    exact firstDifference_eq (hv.next hk) hw'
  · rw [Nat.le_antisymm hv.le (Nat.le_of_not_lt hk)]
termination_by p.length - k

end Cuts

/-! ### What comes after a common start -/

theorem tokenAt_append_content (p v : Text) (n : Nat) :
    (tokenAt (p ++ v) (p.length + n)).content = (tokenAt v n).content := by
  simp only [content, tokenAt_kind, tokenAt_value, List.drop_length_add_append]

end

namespace Collator
variable {m : Type → Type} [Monad m] (c : Collator m) (p : Text) {v w : Text}

theorem orderTokens_append (n : Nat) :
    c.orderTokens (tokenAt (p ++ v) (p.length + n)) (tokenAt (p ++ w) (p.length + n)) =
      c.orderTokens (tokenAt v n) (tokenAt w n) := by
  simp only [orderTokens, tokenAt_kind, tokenAt_value, tokenAt_remainder, List.drop_length_add_append]

/-- What comes before the tokens of two texts makes no difference to their order. -/
theorem settle_append {n : Nat} (hv : n ≤ v.length) (hw : n ≤ w.length) :
    c.settle (firstDifference (tokensFrom (p ++ v) (p.length + n)) (tokensFrom (p ++ w) (p.length + n))) =
      c.settle (firstDifference (tokensFrom v n) (tokensFrom w n)) := by
  induction n, hv, hw using common_induction with
  | differ n hv hw h =>
    rw [firstDifference_of_content_ne h, firstDifference_of_content_ne]
    · exact c.orderTokens_append p n
    · rwa [tokenAt_append_content, tokenAt_append_content]
  | ends n hv hw hnv hnw =>
    rw [firstDifference_of_length_le hnv hnw, firstDifference_of_length_le (by simp; omega) (by simp; omega)]
  | same n hv hw _ _ h ih =>
    have hc : (tokenAt (p ++ v) (p.length + n)).content = (tokenAt (p ++ w) (p.length + n)).content := by
      rw [tokenAt_append_content, tokenAt_append_content, h]
    rw [firstDifference_of_content_eq hv (Nat.le_of_lt hw) h,
      firstDifference_of_content_eq (by simp; omega) (by simp; omega) hc, List.drop_length_add_append,
      Nat.add_assoc]
    exact ih

variable [LawfulMonad m] [MonadExceptOf Error m]

/-- A common start that ends a token in both texts makes no difference to their order. -/
theorem compareNatural_append_left (hc : ∀ s, c.compare s s = pure .eq) (p a b : Text)
    (h : p = [] ∨ TokenEndsAt (p ++ a) p.length ∧ TokenEndsAt (p ++ b) p.length) :
    c.compareNatural (some (p ++ a)) (some (p ++ b)) = c.compareNatural (some a) (some b) := by
  rcases h with rfl | ⟨ha, hb⟩
  · rfl
  · rw [compareNatural_eq_settle hc, compareNatural_eq_settle hc, ha.cuts.firstDifference_eq hb.cuts]
    exact c.settle_append p (Nat.zero_le _) (Nat.zero_le _)

/-- After the number in both texts the shorter rest comes first, though not by code points. -/
theorem compareNatural_append_left_version :
    (∀ s, (ofOrder "length" (compareOn List.length) : Collator (Except Error)).compare s s = pure .eq) ∧
      TokenEndsAt ("x-1.5".toList ++ "-rc".toList) "x-1.5".toList.length ∧
      TokenEndsAt ("x-1.5".toList ++ ".2".toList) "x-1.5".toList.length ∧
      (ofOrder "length" (compareOn List.length) : Collator (Except Error)).compareNatural
        (some ("x-1.5".toList ++ "-rc".toList)) (some ("x-1.5".toList ++ ".2".toList)) =
      (ofOrder "length" (compareOn List.length)).compareNatural (some "-rc".toList) (some ".2".toList) ∧
      (ofOrder "length" (compareOn List.length) : Collator (Except Error)).compareNatural
        (some "-rc".toList) (some ".2".toList) = pure .gt := by
  have hc : ∀ s, (ofOrder "length" (compareOn List.length) : Collator (Except Error)).compare s s =
      pure .eq := fun s => congrArg pure Std.ReflCmp.compare_self
  have ha : TokenEndsAt ("x-1.5".toList ++ "-rc".toList) "x-1.5".toList.length :=
    ⟨_, tokenize_zero _, ⟨.numeric, "x-1.5-rc".toList, 1, 5⟩, by decide +kernel, rfl⟩
  have hb : TokenEndsAt ("x-1.5".toList ++ ".2".toList) "x-1.5".toList.length :=
    ⟨_, tokenize_zero _, ⟨.numeric, "x-1.5.2".toList, 1, 5⟩, by decide +kernel, rfl⟩
  exact ⟨hc, ha, hb, compareNatural_append_left _ hc _ _ _ (.inr ⟨ha, hb⟩), by decide +kernel⟩

end Collator

end NaturalOrder
