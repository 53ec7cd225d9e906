import Mathlib.Logic.Function.Iterate
import NaturalOrder.Proofs.FirstToken
import NaturalOrder.Proofs.Refinement

/-!
# Natural order as a collator

Natural order by a collator is a collator itself. What such a collator is asked for are two texts that a
comparison has cut out: two tokens of text, or all that is left from two tokens of different kinds on. Cut
out, these are again single tokens, or start with tokens of these kinds, so the question goes on to the
inner collator as it is (`natural_orderTokens`). Natural order by natural order is thus natural order, however
often it is applied (`compareNatural_iterate_natural`).
-/

namespace NaturalOrder
open Token

variable {m : Type → Type} [Monad m] [LawfulMonad m]

namespace Collator
variable {c : Collator m} {a b : Text} {p : Nat}

/-- Code points that have broken a tie once find no other. -/
theorem collate_bind_then (c : Collator m) (a b : Text) :
    (do return (← c.collate a b).then (Ord.compare a b)) = c.collate a b := by
  have h : ∀ o x : Ordering, (o.then x).then x = o.then x := by decide
  unfold collate
  rw [bind_assoc]
  refine bind_congr fun o => ?_
  rw [pure_bind, h]

variable [MonadExceptOf Error m]

theorem natural_collate (h : c.compareNatural (some a) (some b) = c.collate a b) :
    c.natural.collate a b = c.collate a b := by
  rw [← collate_bind_then c a b, ← h]
  rfl

/-- Texts whose first tokens are not the same are compared at once. -/
theorem compareNatural_of_content_ne (hc : ∀ s, c.compare s s = pure .eq)
    (h : (tokenAt a 0).content ≠ (tokenAt b 0).content) :
    c.compareNatural (some a) (some b) = c.orderTokens (tokenAt a 0) (tokenAt b 0) :=
  compareNatural_of_fork hc (firstDifference_of_content_ne h)

theorem compareNatural_of_kind_ne (hc : ∀ s, c.compare s s = pure .eq) (h : (scan a).1 ≠ (scan b).1) :
    c.compareNatural (some a) (some b) = c.collate a b := by
  have hk : (tokenAt a 0).kind ≠ (tokenAt b 0).kind := h
  rw [compareNatural_of_content_ne hc fun he => hk (content_eq_iff.1 he).1, orderTokens, if_pos hk,
    tokenAt_remainder, tokenAt_remainder]
  rfl

/-- A text that is a single token of text is collated with another one as a whole. -/
theorem compareNatural_of_text (hc : ∀ s, c.compare s s = pure .eq) (ha : scan a = (.text, a.length))
    (hb : scan b = (.text, b.length)) (hne : a ≠ b) :
    c.compareNatural (some a) (some b) = c.collate a b := by
  have hv : ∀ {s : Text}, scan s = (.text, s.length) →
      (tokenAt s 0).kind = .text ∧ (tokenAt s 0).value = s := by
    intro s hs
    rw [tokenAt_kind, tokenAt_value, List.drop_zero, hs]
    exact ⟨rfl, List.take_length⟩
  obtain ⟨hak, hav⟩ := hv ha
  obtain ⟨hbk, hbv⟩ := hv hb
  have hc' : (tokenAt a 0).content ≠ (tokenAt b 0).content := by
    intro he
    rw [content_eq_iff, hav, hbv] at he
    exact hne he.2
  rw [compareNatural_of_content_ne hc hc', orderTokens, if_neg (not_not_intro (hak.trans hbk.symm)),
    if_neg (by rw [hak]; decide), hav, hbv]

theorem natural_compare_self (hc : ∀ s, c.compare s s = pure .eq) (s : Text) :
    c.natural.compare s s = pure .eq :=
  compareNatural_self hc s

/-- Where two texts part, natural order as a collator leaves the order to the inner collator. -/
theorem natural_orderTokens (hc : ∀ s, c.compare s s = pure .eq) (h : Fork a b p) :
    c.natural.orderTokens (tokenAt a p) (tokenAt b p) = c.orderTokens (tokenAt a p) (tokenAt b p) := by
  unfold orderTokens
  by_cases hk : (tokenAt a p).kind = (tokenAt b p).kind
  · rw [if_neg (not_not_intro hk), if_neg (not_not_intro hk)]
    cases hx : (tokenAt a p).kind with
    | empty => exact absurd hx (h.kind_ne_empty hk)
    | numeric => rfl
    | text =>
      have hcut : ∀ {s : Text}, (tokenAt s p).kind = .text →
          scan (tokenAt s p).value = (.text, (tokenAt s p).value.length) := by
        intro s hs
        rw [length_tokenAt_value, tokenAt_value, scan_take]
        exact Prod.ext hs rfl
      rw [if_neg (by decide), if_neg (by decide)]
      refine natural_collate (compareNatural_of_text hc (hcut hx) (hcut (hk ▸ hx)) (h.value_ne hk))
  · rw [if_pos hk, if_pos hk, tokenAt_remainder, tokenAt_remainder]
    exact natural_collate (compareNatural_of_kind_ne hc hk)

theorem compareNatural_natural (hc : ∀ s, c.compare s s = pure .eq) (a b : Option Text) :
    c.natural.compareNatural a b = c.compareNatural a b := by
  cases a with
  | none => cases b <;> rfl
  | some a =>
    cases b with
    | none => rfl
    | some b =>
      rcases fork_or_eq_zero a b with ⟨rfl, -⟩ | ⟨p, hp, hd⟩
      · rw [compareNatural_self hc, compareNatural_self (natural_compare_self hc)]
      · rw [compareNatural_of_fork hc hd, compareNatural_of_fork (natural_compare_self hc) hd,
          natural_orderTokens hc hp]

/-- However often natural order is taken as the collator for natural order again, the comparison stays
the same. -/
theorem compareNatural_iterate_natural (c : Collator m) (hc : ∀ s, c.compare s s = pure .eq) (k : Nat)
    (a b : Option Text) : (natural^[k] c).compareNatural a b = c.compareNatural a b := by
  induction k generalizing c with
  | zero => rfl
  | succ k ih =>
    rw [Function.iterate_succ_apply, ih c.natural (natural_compare_self hc), compareNatural_natural hc]

/-- Also a failure of the innermost collator comes out unchanged. -/
theorem compareNatural_iterate_natural_failing :
    (∀ s, failing.compare s s = pure .eq) ∧
      (natural^[3] failing).compareNatural (some "v1-x".toList) (some "v1-2".toList) =
        .error (.collator "collator called".toList) := by
  have hc : ∀ s, failing.compare s s = pure .eq := fun s => if_pos rfl
  refine ⟨hc, ?_⟩
  rw [compareNatural_iterate_natural failing hc]
  decide +kernel

end Collator

end NaturalOrder
