import NaturalOrder.Comparison
import NaturalOrder.Proofs.FirstDifference
import NaturalOrder.Proofs.Magnitude

/-!
# The comparison as a comparison of token lists

The comparison reads both texts at once and stops early. `compareNatural_eq_settle` says that it is
nevertheless decided by the token lists of both texts as a whole: by the first tokens that differ in kind
or characters. All that is asked of the collator is that it finds each text equal to itself, without any
effect. On different texts it may fail or change a state.
-/

namespace NaturalOrder
open Token

variable {m : Type → Type} [Monad m]

namespace Collator
variable (c : Collator m)

/-- The order of two tokens that differ. -/
def orderTokens (x y : Token) : m Ordering :=
  if x.kind ≠ y.kind then c.collate x.remainder y.remainder
  else if x.kind = .numeric then pure (numeralOrder x.value y.value)
  else c.collate x.value y.value

/-- The order of two lists of tokens, given their first difference. -/
def settle : Option (Token × Token) → m Ordering
  | none => pure .eq
  | some (x, y) => c.orderTokens x y

variable [LawfulMonad m] {c} {a b : Text}

theorem collate_self {note : m Unit} (h : c.compare a a = note >>= fun _ => pure .eq) :
    c.collate a a = note >>= fun _ => pure .eq := by
  have ha : Ord.compare a a = .eq := Std.ReflCmp.compare_self
  rw [collate, h, bind_assoc]
  refine bind_congr fun _ => ?_
  rw [pure_bind, ha]
  rfl

theorem then_compare_ne_eq (h : a ≠ b) (o : Ordering) : o.then (Ord.compare a b) ≠ .eq := by
  rw [Ne, Ordering.then_eq_eq]
  exact fun ho => h (Std.LawfulEqOrd.eq_of_compare ho.2)

/-- Different texts are never collated as equal, so nothing comes after that. -/
theorem collate_bind_of_ne (h : a ≠ b) (next : m Ordering) :
    (do match ← c.collate a b with
        | .eq => next
        | o => pure o) = c.collate a b := by
  conv => rhs; rw [← bind_pure (c.collate a b)]
  unfold collate
  rw [bind_assoc, bind_assoc]
  refine bind_congr fun o => ?_
  rw [pure_bind, pure_bind]
  have := then_compare_ne_eq h o
  cases ho : o.then (Ord.compare a b) with
  | lt => rfl
  | eq => exact absurd ho this
  | gt => rfl

end Collator

section
variable {a b : Text} {n k : Nat}

/-- Tokens of numbers are always literals. -/
theorem compareNumeric_tokenAt (hx : (tokenAt a n).kind = .numeric) (hy : (tokenAt b k).kind = .numeric) :
    compareNumeric (tokenAt a n).value (tokenAt b k).value =
      .ok (numeralOrder (tokenAt a n).value (tokenAt b k).value) := by
  obtain ⟨i, hi⟩ := exists_numeral hx
  obtain ⟨j, hj⟩ := exists_numeral hy
  rw [tokenAt_value, tokenAt_value, hi, hj]
  exact compareNumeric_text i j

end

theorem forM_pure [LawfulMonad m] {α : Type} (l : List α) :
    (forM l fun _ => (pure () : m Unit)) = pure () := by
  induction l with
  | nil => rfl
  | cons x l ih => rw [List.forM_cons, pure_bind, ih]

namespace Progress
variable [MonadExceptOf Error m] {c : Collator m} {a b : Text} {n k : Nat}

theorem finished_iff : Progress.finished ⟨a, b, n, k⟩ = true ↔ a.length ≤ n ∧ b.length ≤ k := by
  simp [finished]

theorem round_of_kind_ne (ha : n ≤ a.length) (hb : k ≤ b.length)
    (h : (tokenAt a n).kind ≠ (tokenAt b k).kind) :
    Progress.round ⟨a, b, n, k⟩ = .ok (.remainders (a.drop n) (b.drop k)) := by
  simp only [round, nextToken_eq ha, nextToken_eq hb, bind, Except.bind]
  rw [if_pos h, tokenAt_remainder, tokenAt_remainder]
  rfl

theorem round_of_numeric (ha : n ≤ a.length) (hb : k ≤ b.length)
    (hx : (tokenAt a n).kind = .numeric) (hy : (tokenAt b k).kind = .numeric) :
    Progress.round ⟨a, b, n, k⟩ = .ok (.numbers (tokenAt a n).value (tokenAt b k).value
      ⟨a, b, (n + (scan (a.drop n)).2 : Nat), (k + (scan (b.drop k)).2 : Nat)⟩) := by
  simp only [round, nextToken_eq ha, nextToken_eq hb, bind, Except.bind]
  rw [if_neg (not_not_intro (hx.trans hy.symm)), hx]
  rfl

theorem round_of_text (ha : n ≤ a.length) (hb : k ≤ b.length)
    (hx : (tokenAt a n).kind = .text) (hy : (tokenAt b k).kind = .text) :
    Progress.round ⟨a, b, n, k⟩ = .ok (.texts (tokenAt a n).value (tokenAt b k).value
      ⟨a, b, (n + (scan (a.drop n)).2 : Nat), (k + (scan (b.drop k)).2 : Nat)⟩) := by
  simp only [round, nextToken_eq ha, nextToken_eq hb, bind, Except.bind]
  rw [if_neg (not_not_intro (hx.trans hy.symm)), hx]
  rfl

theorem compare_of_finished {p : Progress} (h : p.finished = true) : p.compare c = pure .eq := by
  rw [compare, if_pos h]

/-- The rest of a comparison, given its next round. -/
def finish (c : Collator m) : Round → m Ordering
  | .exhausted => pure .eq
  | .remainders a b => c.collate a b
  | .numbers a b next =>
    match compareNumeric a b with
    | .error e => throw e
    | .ok .eq => next.compare c
    | .ok o => pure o
  | .texts a b next => do
    match ← c.collate a b with
    | .eq => next.compare c
    | o => pure o

theorem compare_of_round {p : Progress} {r : Round} (hf : ¬ p.finished = true) (hr : p.round = .ok r) :
    p.compare c = finish c r := by
  rw [compare, if_neg hf]
  split
  · next h => rw [h] at hr; cases hr
  all_goals next h => rw [h] at hr; cases hr; rfl

variable [LawfulMonad m]

theorem compare_of_content_ne (ha : n ≤ a.length) (hb : n ≤ b.length)
    (h : (tokenAt a n).content ≠ (tokenAt b n).content) :
    Progress.compare c ⟨a, b, n, n⟩ = c.orderTokens (tokenAt a n) (tokenAt b n) := by
  have hf : ¬ Progress.finished ⟨a, b, n, n⟩ = true := by
    intro hf
    rw [finished_iff] at hf
    refine h ?_
    simp [content, tokenAt_kind, List.drop_eq_nil_iff.2 hf.1, List.drop_eq_nil_iff.2 hf.2]
  unfold Collator.orderTokens
  by_cases hk : (tokenAt a n).kind = (tokenAt b n).kind
  · have hv : (tokenAt a n).value ≠ (tokenAt b n).value := fun hv => h (content_eq_iff.2 ⟨hk, hv⟩)
    rw [if_neg (not_not_intro hk)]
    cases hx : (tokenAt a n).kind with
    | empty =>
      have hn := (tokenAt_kind_eq_empty ha).1 hx
      have hn' := (tokenAt_kind_eq_empty hb).1 (hk ▸ hx)
      exact absurd (finished_iff.2 ⟨by omega, by omega⟩) hf
    | numeric =>
      have hy : (tokenAt b n).kind = .numeric := hk ▸ hx
      rw [compare_of_round hf (round_of_numeric ha hb hx hy)]
      simp only [finish, compareNumeric_tokenAt hx hy]
      have hne := mt numeralOrder_eq_eq.1 hv
      split <;> simp_all
    | text =>
      rw [compare_of_round hf (round_of_text ha hb hx (hk ▸ hx))]
      exact Collator.collate_bind_of_ne hv _
  · rw [compare_of_round hf (round_of_kind_ne ha hb hk), if_pos hk, tokenAt_remainder,
      tokenAt_remainder]
    rfl

/-- Past the same token in both texts the comparison goes on where that token ends. About a token of text
the collator has been asked then. -/
theorem compare_of_content_eq {note : Text → m Unit}
    (hc : ∀ s, c.compare s s = note s >>= fun _ => pure .eq) (ha : n < a.length) (hb : n ≤ b.length)
    (h : (tokenAt a n).content = (tokenAt b n).content) :
    Progress.compare c ⟨a, b, n, n⟩ = forM (tokenAt a n).texts note >>= fun _ =>
      Progress.compare c ⟨a, b, (n + (scan (a.drop n)).2 : Nat), (n + (scan (a.drop n)).2 : Nat)⟩ := by
  obtain ⟨hk, hv⟩ := content_eq_iff.1 h
  have hl := scan_length_eq_of_content h
  have hf : ¬ Progress.finished ⟨a, b, n, n⟩ = true := by
    intro hf
    rw [finished_iff] at hf
    omega
  cases hx : (tokenAt a n).kind with
  | empty => exact absurd ((tokenAt_kind_eq_empty (Nat.le_of_lt ha)).1 hx) (by omega)
  | numeric =>
    have hy : (tokenAt b n).kind = .numeric := hk ▸ hx
    have ht : (tokenAt a n).texts = [] := if_neg (by rw [hx]; decide)
    rw [compare_of_round hf (round_of_numeric (Nat.le_of_lt ha) hb hx hy), ht, List.forM_nil, pure_bind]
    simp only [finish, compareNumeric_tokenAt hx hy, numeralOrder_eq_eq.2 hv, hl]
  | text =>
    have ht : (tokenAt a n).texts = [(tokenAt a n).value] := if_pos hx
    rw [compare_of_round hf (round_of_text (Nat.le_of_lt ha) hb hx (hk ▸ hx)), ht, List.forM_cons,
      List.forM_nil, bind_assoc]
    simp only [finish, hv, Collator.collate_self (hc _), bind_assoc, pure_bind, hl]

/-- From any offset on, the collator is asked about the texts in common, and then the comparison is decided
by the first tokens that differ. -/
theorem compare_eq_forM_settle {note : Text → m Unit}
    (hc : ∀ s, c.compare s s = note s >>= fun _ => pure .eq) {n : Nat} (ha : n ≤ a.length)
    (hb : n ≤ b.length) :
    Progress.compare c ⟨a, b, n, n⟩ =
      forM (commonTexts (tokensFrom a n) (tokensFrom b n)) note >>= fun _ =>
        c.settle (firstDifference (tokensFrom a n) (tokensFrom b n)) := by
  induction n, ha, hb using common_induction with
  | differ n ha hb h =>
    rw [compare_of_content_ne ha hb h, firstDifference_of_content_ne h, commonTexts_of_content_ne h,
      List.forM_nil, pure_bind]
    rfl
  | ends n ha hb hna hnb =>
    rw [compare_of_finished (finished_iff.2 ⟨hna, hnb⟩), firstDifference_of_length_le hna hnb,
      commonTexts_of_length_le hna hnb, List.forM_nil, pure_bind]
    rfl
  | same n ha hb _ _ h ih =>
    have hb := Nat.le_of_lt hb
    rw [compare_of_content_eq hc ha hb h, firstDifference_of_content_eq ha hb h,
      commonTexts_of_content_eq ha hb h, ih, List.forM_append, bind_assoc]

/-- From any offset on, the comparison is decided by the first tokens that differ. -/
theorem compare_eq_settle (hc : ∀ s, c.compare s s = pure .eq) {n : Nat} (ha : n ≤ a.length)
    (hb : n ≤ b.length) :
    Progress.compare c ⟨a, b, n, n⟩ =
      c.settle (firstDifference (tokensFrom a n) (tokensFrom b n)) := by
  have hn : ∀ s, c.compare s s = (pure () : m Unit) >>= fun _ => pure .eq := fun s => by
    rw [hc, pure_bind]
  rw [compare_eq_forM_settle hn ha hb, forM_pure, pure_bind]

end Progress

namespace Collator
variable [LawfulMonad m] [MonadExceptOf Error m] {c : Collator m}

theorem compareNatural_eq_settle (hc : ∀ s, c.compare s s = pure .eq) (a b : Text) :
    c.compareNatural (some a) (some b) =
      c.settle (firstDifference (tokensFrom a 0) (tokensFrom b 0)) :=
  Progress.compare_eq_settle hc (Nat.zero_le _) (Nat.zero_le _)

theorem compareNatural_self (hc : ∀ s, c.compare s s = pure .eq) (a : Text) :
    c.compareNatural (some a) (some a) = pure .eq := by
  rw [compareNatural_eq_settle hc]
  rcases fork_or_eq_zero a a with ⟨-, h⟩ | ⟨p, hp, -⟩
  · rw [h]; rfl
  · exact absurd rfl hp.ne

theorem compareNatural_of_fork (hc : ∀ s, c.compare s s = pure .eq) {a b : Text} {p : Nat}
    (h : firstDifference (tokensFrom a 0) (tokensFrom b 0) = some (tokenAt a p, tokenAt b p)) :
    c.compareNatural (some a) (some b) = c.orderTokens (tokenAt a p) (tokenAt b p) := by
  rw [compareNatural_eq_settle hc, h]
  rfl

/-- The comparison by the full token lists. Where the lists do not differ, neither do the texts, and the
answer is that they are equal. Otherwise both texts have a token at the first index with a difference,
these two tokens start at one offset, and they decide: numbers by what they denote, other text by the
collator, and tokens of two kinds, of which one may be the empty token, by collating all that is left
from that offset on. -/
theorem compareNatural_at_first_difference (c : Collator m) (hc : ∀ s, c.compare s s = pure .eq)
    (a b : Text) :
    ∃ xs ys, tokenize a 0 = .ok xs ∧ tokenize b 0 = .ok ys ∧
      ((∀ i, ¬ DifferFirstAt xs ys i) → a = b ∧ c.compareNatural (some a) (some b) = pure .eq) ∧
      ∀ i, DifferFirstAt xs ys i →
        ∃ x y, ∃ p : Nat, xs[i]? = some x ∧ ys[i]? = some y ∧ x.start = p ∧ y.start = p ∧
          ((x.kind = .numeric ∧ y.kind = .numeric ∧ ∃ o, compareNumeric x.value y.value = .ok o ∧
              c.compareNatural (some a) (some b) = pure o) ∨
            (x.kind = .text ∧ y.kind = .text ∧
              c.compareNatural (some a) (some b) = c.collate x.value y.value) ∨
            (x.kind ≠ y.kind ∧
              c.compareNatural (some a) (some b) = c.collate (a.drop p) (b.drop p))) := by
  refine ⟨_, _, tokenize_zero a, tokenize_zero b, fun h => ?_, fun i hi => ?_⟩
  · rcases fork_or_eq_zero a b with ⟨rfl, -⟩ | ⟨p, -, hd⟩
    · exact ⟨rfl, compareNatural_self hc a⟩
    · obtain ⟨i, hi, -⟩ := differFirstAt_of_firstDifference hd
      exact absurd hi (h i)
  · rcases fork_or_eq_zero a b with ⟨rfl, -⟩ | ⟨p, hp, hd⟩
    · exact absurd hi DifferFirstAt.irrefl
    obtain ⟨j, hj, hx, hy⟩ := differFirstAt_of_firstDifference hd
    obtain rfl := hi.unique hj
    refine ⟨_, _, p, hx, hy, rfl, rfl, ?_⟩
    rw [compareNatural_of_fork hc hd]
    by_cases hk : (tokenAt a p).kind = (tokenAt b p).kind
    · cases h : (tokenAt a p).kind with
      | empty => exact absurd h (hp.kind_ne_empty hk)
      | numeric =>
        have hn := hk ▸ h
        refine .inl ⟨rfl, hn, _, compareNumeric_tokenAt h hn, ?_⟩
        rw [orderTokens, if_neg (not_not_intro hk), if_pos h]
      | text =>
        refine .inr (.inl ⟨rfl, hk ▸ h, ?_⟩)
        rw [orderTokens, if_neg (not_not_intro hk), if_neg (by rw [h]; decide)]
    · refine .inr (.inr ⟨hk, ?_⟩)
      rw [orderTokens, if_pos hk, tokenAt_remainder, tokenAt_remainder]

/-- A collator that has no answer for different texts. -/
def failing : Collator (Except Error) where
  shown := "failing"
  compare a b := if a = b then pure .eq else throw (.collator "collator called".toList)

/-- Numbers are compared without the collator. -/
theorem compareNatural_at_first_difference_numbers :
    (∀ s, failing.compare s s = pure .eq) ∧
      ∃ o, compareNumeric "-1.50".toList "-1.5".toList = .ok o ∧
        failing.compareNatural (some "v-1.50".toList) (some "v-1.5-rc".toList) = pure o := by
  have hc : ∀ s, failing.compare s s = pure .eq := fun s => if_pos rfl
  have ha : tokenize "v-1.50".toList 0 = .ok [⟨.text, "v-1.50".toList, 0, 1⟩,
      ⟨.numeric, "v-1.50".toList, 1, 6⟩, ⟨.empty, "v-1.50".toList, 6, 6⟩] := by decide +kernel
  have hb : tokenize "v-1.5-rc".toList 0 = .ok [⟨.text, "v-1.5-rc".toList, 0, 1⟩,
      ⟨.numeric, "v-1.5-rc".toList, 1, 5⟩, ⟨.text, "v-1.5-rc".toList, 5, 8⟩,
      ⟨.empty, "v-1.5-rc".toList, 8, 8⟩] := by decide +kernel
  obtain ⟨xs, ys, hx, hy, -, h⟩ :=
    compareNatural_at_first_difference failing hc "v-1.50".toList "v-1.5-rc".toList
  cases ha.symm.trans hx
  cases hb.symm.trans hy
  obtain ⟨x, y, p, hx, hy, -, -, h⟩ := h 1 (by decide)
  cases hx
  cases hy
  refine ⟨hc, ?_⟩
  rcases h with ⟨-, -, o, ho, h⟩ | ⟨hk, -⟩ | ⟨hk, -⟩
  · exact ⟨o, ho, h⟩
  · cases hk
  · exact absurd rfl hk

end Collator

end NaturalOrder
