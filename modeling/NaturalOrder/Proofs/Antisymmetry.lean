import NaturalOrder.Proofs.Refinement

/-!
# Natural order by a collator that always answers

With such a collator the comparison always answers as well, and `naturalOrder` is its answer. It is
antisymmetric if the collator is (`compareNatural_antisymm`). It finds no two texts equal, whatever the
collator does, since the tokens at which two texts part are never ordered as equal
(`tokenOrder_ne_eq`).
-/

namespace NaturalOrder
open Token

section
variable (f : Text → Text → Ordering)

/-- The order of a collator, with code points for what it finds equal. -/
abbrev collationOrder : Text → Text → Ordering := compareLex f compare

/-- The order of two tokens that differ, by a collator that always answers. -/
def tokenOrder (x y : Token) : Ordering :=
  if x.kind ≠ y.kind then collationOrder f x.remainder y.remainder
  else if x.kind = .numeric then numeralOrder x.value y.value
  else collationOrder f x.value y.value

def textOrder (a b : Text) : Ordering :=
  match firstDifference (tokensFrom a 0) (tokensFrom b 0) with
  | none => .eq
  | some (x, y) => tokenOrder f x y

def naturalOrder : Option Text → Option Text → Ordering
  | none, none => .eq
  | none, some _ => .gt
  | some _, none => .lt
  | some a, some b => textOrder f a b

end

section
variable {f : Text → Text → Ordering} {a b : Text} {p : Nat}

theorem collationOrder_ne_eq (h : a ≠ b) : collationOrder f a b ≠ .eq := fun he =>
  h (Std.LawfulEqOrd.eq_of_compare (compareLex_eq_eq.1 he).2)

/-- Where two texts part, their tokens are not equal in order. -/
theorem tokenOrder_ne_eq (h : Fork a b p) : tokenOrder f (tokenAt a p) (tokenAt b p) ≠ .eq := by
  unfold tokenOrder
  split
  · rw [tokenAt_remainder, tokenAt_remainder]
    exact collationOrder_ne_eq h.drop_ne
  · next hk =>
    have hv := h.value_ne (not_not.1 hk)
    split
    · exact mt numeralOrder_eq_eq.1 hv
    · exact collationOrder_ne_eq hv

theorem tokenOrder_swap [Std.OrientedCmp f] (x y : Token) : tokenOrder f y x = (tokenOrder f x y).swap := by
  unfold tokenOrder
  by_cases hk : x.kind = y.kind
  · rw [if_neg (not_not_intro hk), if_neg (not_not_intro hk.symm), ← hk]
    split <;> exact Std.OrientedCmp.eq_swap
  · rw [if_pos hk, if_pos (Ne.symm hk)]
    exact Std.OrientedCmp.eq_swap

theorem textOrder_eq_eq : textOrder f a b = .eq ↔ a = b := by
  unfold textOrder
  rcases fork_or_eq_zero a b with ⟨hab, h⟩ | ⟨p, hp, h⟩
  · rw [h]
    exact ⟨fun _ => hab, fun _ => rfl⟩
  · rw [h]
    constructor
    · intro he
      exact absurd he (tokenOrder_ne_eq hp)
    · rintro rfl
      exact absurd rfl hp.ne

theorem textOrder_swap [Std.OrientedCmp f] (a b : Text) : textOrder f b a = (textOrder f a b).swap := by
  unfold textOrder
  rw [firstDifference_swap (tokensFrom a 0)]
  cases firstDifference (tokensFrom a 0) (tokensFrom b 0) with
  | none => rfl
  | some xy => exact tokenOrder_swap xy.1 xy.2

theorem naturalOrder_eq_eq {a b : Option Text} : naturalOrder f a b = .eq ↔ a = b := by
  cases a <;> cases b <;> simp [naturalOrder, textOrder_eq_eq]

theorem naturalOrder_swap [Std.OrientedCmp f] (a b : Option Text) :
    naturalOrder f b a = (naturalOrder f a b).swap := by
  cases a with
  | none => cases b <;> rfl
  | some a =>
    cases b with
    | none => rfl
    | some b => exact textOrder_swap a b

end

namespace Collator
variable {m : Type → Type} [Monad m] [LawfulMonad m] (shown : String) {f : Text → Text → Ordering}

theorem collate_ofOrder (a b : Text) :
    (ofOrder shown f : Collator m).collate a b = pure (collationOrder f a b) := by
  rw [collate, ofOrder, pure_bind]
  rfl

theorem orderTokens_ofOrder (x y : Token) :
    (ofOrder shown f : Collator m).orderTokens x y = pure (tokenOrder f x y) := by
  unfold orderTokens tokenOrder
  rw [collate_ofOrder, collate_ofOrder]
  split
  · rfl
  · split <;> rfl

variable [MonadExceptOf Error m]

theorem compareNatural_ofOrder (hf : ∀ s, f s s = .eq) (a b : Option Text) :
    (ofOrder shown f : Collator m).compareNatural a b = pure (naturalOrder f a b) := by
  cases a with
  | none => cases b <;> rfl
  | some a =>
    cases b with
    | none => rfl
    | some b =>
      have hc : ∀ s, (ofOrder shown f : Collator m).compare s s = pure .eq :=
        fun s => congrArg pure (hf s)
      rw [compareNatural_eq_settle hc, naturalOrder, textOrder]
      cases firstDifference (tokensFrom a 0) (tokensFrom b 0) with
      | none => rfl
      | some xy => exact orderTokens_ofOrder shown xy.1 xy.2

/-- By an antisymmetric collator natural order is antisymmetric, finds nothing equal but a text and
itself, and puts a missing text after all texts. -/
theorem compareNatural_antisymm (f : Text → Text → Ordering) [Std.OrientedCmp f] (a b : Option Text) :
    (∃ o, (ofOrder shown f : Collator m).compareNatural a b = pure o ∧
      (ofOrder shown f : Collator m).compareNatural b a = pure o.swap ∧ (o = .eq ↔ a = b)) ∧
    ∀ s, (ofOrder shown f : Collator m).compareNatural none (some s) = pure .gt := by
  have hf : ∀ s, f s s = .eq := fun _ => Std.ReflCmp.compare_self
  refine ⟨⟨naturalOrder f a b, compareNatural_ofOrder shown hf a b, ?_, naturalOrder_eq_eq⟩, fun s => rfl⟩
  rw [compareNatural_ofOrder shown hf, naturalOrder_swap a b]

theorem compareNatural_antisymm_zeros :
    Std.OrientedCmp (compareOn List.length : Text → Text → Ordering) ∧
      ∃ o, (ofOrder "length" (compareOn List.length) : Collator (Except Error)).compareNatural
          (some "-0".toList) (some "0.0".toList) = pure o ∧
        (ofOrder "length" (compareOn List.length) : Collator (Except Error)).compareNatural
          (some "0.0".toList) (some "-0".toList) = pure o.swap ∧
        o ≠ .eq := by
  refine ⟨inferInstance, ?_⟩
  obtain ⟨⟨o, h, hs, ho⟩, -⟩ := compareNatural_antisymm (m := Except Error) "length"
    (compareOn List.length) (some "-0".toList) (some "0.0".toList)
  exact ⟨o, h, hs, fun he => absurd (ho.1 he) (by decide)⟩

end Collator

end NaturalOrder
