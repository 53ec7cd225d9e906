import NaturalOrder.Proofs.Tokens

/-!
# Where two texts part

Up to the first tokens that differ in kind or characters, two texts have the same tokens at the same
offsets. `fork_or_eq` says so for all texts that are alike up to some offset: either they are the same
text, or there is a `Fork`, and the first difference of their token lists is the pair of tokens there.
-/

namespace NaturalOrder
open Token

/-- The first tokens at one place of two lists that differ in kind or characters. -/
def firstDifference : List Token → List Token → Option (Token × Token)
  | x :: xs, y :: ys => if x.content = y.content then firstDifference xs ys else some (x, y)
  | _, _ => none

/-- The characters of a token of text. Other tokens have none. -/
def Token.texts (t : Token) : List Text := if t.kind = .text then [t.value] else []

/-- The texts between numbers that two lists of tokens have in common before their first difference. -/
def commonTexts : List Token → List Token → List Text
  | x :: xs, y :: ys => if x.content = y.content then x.texts ++ commonTexts xs ys else []
  | _, _ => []

/-- Two lists of tokens have the same kinds and characters before the index `i` and others at `i`, where
one of the lists may have ended. -/
def DifferFirstAt (xs ys : List Token) (i : Nat) : Prop :=
  (∀ j < i, xs[j]?.map content = ys[j]?.map content) ∧ xs[i]?.map content ≠ ys[i]?.map content

instance (xs ys : List Token) (i : Nat) : Decidable (DifferFirstAt xs ys i) :=
  inferInstanceAs (Decidable (_ ∧ _))

/-- Two texts are alike up to an offset, and their tokens there are not. -/
structure Fork (a b : Text) (p : Nat) : Prop where
  le_left : p ≤ a.length
  le_right : p ≤ b.length
  same : a.take p = b.take p
  ne : (tokenAt a p).content ≠ (tokenAt b p).content

section
variable {xs ys : List Token} {x y : Token} {i j : Nat}

theorem DifferFirstAt.unique (hi : DifferFirstAt xs ys i) (hj : DifferFirstAt xs ys j) : i = j := by
  rcases Nat.lt_trichotomy i j with h | h | h
  · exact absurd (hj.1 i h) hi.2
  · exact h
  · exact absurd (hi.1 j h) hj.2

theorem DifferFirstAt.irrefl : ¬ DifferFirstAt xs xs i := fun h => h.2 rfl

/-- The pair of tokens that differ stands at the first index with a difference. -/
theorem differFirstAt_of_firstDifference (h : firstDifference xs ys = some (x, y)) :
    ∃ i, DifferFirstAt xs ys i ∧ xs[i]? = some x ∧ ys[i]? = some y := by
  fun_induction firstDifference xs ys with
  | case1 u us v vs huv ih =>
    obtain ⟨i, ⟨hlt, hne⟩, hx, hy⟩ := ih h
    refine ⟨i + 1, ⟨fun j hj => ?_, by simpa using hne⟩, by simpa using hx, by simpa using hy⟩
    cases j with
    | zero => simp [huv]
    | succ j => simpa using hlt j (by omega)
  | case2 u us v vs huv =>
    cases h
    exact ⟨0, ⟨fun j hj => absurd hj (Nat.not_lt_zero j), by simpa using huv⟩, rfl, rfl⟩
  | case3 => cases h

theorem firstDifference_of_differFirstAt (h : DifferFirstAt xs ys i) (hx : xs[i]? = some x)
    (hy : ys[i]? = some y) : firstDifference xs ys = some (x, y) := by
  induction i generalizing xs ys with
  | zero =>
    cases xs with
    | nil => cases hx
    | cons u us =>
      cases ys with
      | nil => cases hy
      | cons v vs =>
        cases hx
        cases hy
        exact if_neg fun huv => h.2 (congrArg some huv)
  | succ i ih =>
    cases xs with
    | nil => cases hx
    | cons u us =>
      cases ys with
      | nil => cases hy
      | cons v vs =>
        have huv : u.content = v.content := Option.some.inj (h.1 0 (Nat.succ_pos i))
        rw [firstDifference, if_pos huv]
        exact ih ⟨fun j hj => h.1 (j + 1) (Nat.succ_lt_succ hj), h.2⟩ hx hy

theorem firstDifference_swap (xs ys : List Token) :
    firstDifference ys xs = (firstDifference xs ys).map Prod.swap := by
  fun_induction firstDifference xs ys with
  | case1 u us v vs huv ih => rw [firstDifference, if_pos huv.symm, ih]
  | case2 u us v vs huv => rw [firstDifference, if_neg (Ne.symm huv)]; rfl
  | case3 xs ys h =>
    cases xs with
    | nil => cases ys <;> rfl
    | cons u us =>
      cases ys with
      | nil => rfl
      | cons v vs => exact absurd rfl (h u us v vs rfl)

theorem firstDifference_symm (h : firstDifference xs ys = some (x, y)) :
    firstDifference ys xs = some (y, x) := by
  rw [firstDifference_swap xs, h]
  rfl

end

section
variable {a b : Text} {n : Nat}

theorem scan_length_eq_of_content (h : (tokenAt a n).content = (tokenAt b n).content) :
    (scan (a.drop n)).2 = (scan (b.drop n)).2 := by
  rw [← length_tokenAt_value, ← length_tokenAt_value, (content_eq_iff.1 h).2]

/-- Two texts that are alike up to an offset and have the same token there are alike up to its end. -/
theorem take_stop_eq (hs : a.take n = b.take n) (h : (tokenAt a n).content = (tokenAt b n).content) :
    a.take (n + (scan (a.drop n)).2) = b.take (n + (scan (a.drop n)).2) := by
  have hv := (content_eq_iff.1 h).2
  rw [tokenAt_value, tokenAt_value, ← scan_length_eq_of_content h] at hv
  rw [List.take_add, List.take_add, hs, hv]

theorem eq_length_of_content (ha : n ≤ a.length) (hb : n ≤ b.length)
    (h : (tokenAt a n).content = (tokenAt b n).content) : n = a.length ↔ n = b.length := by
  rw [← tokenAt_kind_eq_empty ha, ← tokenAt_kind_eq_empty hb, (content_eq_iff.1 h).1]

theorem firstDifference_of_content_ne (h : (tokenAt a n).content ≠ (tokenAt b n).content) :
    firstDifference (tokensFrom a n) (tokensFrom b n) = some (tokenAt a n, tokenAt b n) := by
  obtain ⟨xs, hx⟩ := tokensFrom_eq_cons a n
  obtain ⟨ys, hy⟩ := tokensFrom_eq_cons b n
  rw [hx, hy, firstDifference, if_neg h]

theorem commonTexts_of_content_ne (h : (tokenAt a n).content ≠ (tokenAt b n).content) :
    commonTexts (tokensFrom a n) (tokensFrom b n) = [] := by
  obtain ⟨xs, hx⟩ := tokensFrom_eq_cons a n
  obtain ⟨ys, hy⟩ := tokensFrom_eq_cons b n
  rw [hx, hy, commonTexts, if_neg h]

theorem firstDifference_of_content_eq (ha : n < a.length) (hb : n ≤ b.length)
    (h : (tokenAt a n).content = (tokenAt b n).content) :
    firstDifference (tokensFrom a n) (tokensFrom b n) =
      firstDifference (tokensFrom a (n + (scan (a.drop n)).2))
        (tokensFrom b (n + (scan (a.drop n)).2)) := by
  have hb' : n < b.length := by
    have := eq_length_of_content (Nat.le_of_lt ha) hb h
    omega
  rw [tokensFrom_of_lt ha, tokensFrom_of_lt hb', firstDifference, if_pos h,
    ← scan_length_eq_of_content h]

/-- At the end of both texts there is no difference left. -/
theorem firstDifference_of_length_le (ha : a.length ≤ n) (hb : b.length ≤ n) :
    firstDifference (tokensFrom a n) (tokensFrom b n) = none := by
  have h : (tokenAt a n).content = (tokenAt b n).content := by
    simp [content, tokenAt_kind, List.drop_eq_nil_iff.2 ha, List.drop_eq_nil_iff.2 hb]
  rw [tokensFrom, if_neg (Nat.not_lt.2 ha), tokensFrom, if_neg (Nat.not_lt.2 hb), firstDifference, if_pos h]
  rfl

theorem commonTexts_of_length_le (ha : a.length ≤ n) (hb : b.length ≤ n) :
    commonTexts (tokensFrom a n) (tokensFrom b n) = [] := by
  have hx : (tokenAt a n).texts = [] := by
    simp [texts, tokenAt_kind, List.drop_eq_nil_iff.2 ha, scan]
  rw [tokensFrom, if_neg (Nat.not_lt.2 ha), tokensFrom, if_neg (Nat.not_lt.2 hb), commonTexts, hx]
  split <;> rfl

theorem commonTexts_of_content_eq (ha : n < a.length) (hb : n ≤ b.length)
    (h : (tokenAt a n).content = (tokenAt b n).content) :
    commonTexts (tokensFrom a n) (tokensFrom b n) = (tokenAt a n).texts ++
      commonTexts (tokensFrom a (n + (scan (a.drop n)).2)) (tokensFrom b (n + (scan (a.drop n)).2)) := by
  have hb' : n < b.length := by
    have := eq_length_of_content (Nat.le_of_lt ha) hb h
    omega
  rw [tokensFrom_of_lt ha, tokensFrom_of_lt hb', commonTexts, if_pos h, ← scan_length_eq_of_content h]

/-- Induction along the tokens that two texts have in common from an offset on: up to a difference, or to the
end of both. -/
theorem common_induction {motive : (n : Nat) → n ≤ a.length → n ≤ b.length → Prop}
    (differ : ∀ n ha hb, (tokenAt a n).content ≠ (tokenAt b n).content → motive n ha hb)
    (ends : ∀ n ha hb, a.length ≤ n → b.length ≤ n → motive n ha hb)
    (same : ∀ n (ha : n < a.length) (hb : n < b.length) ha' hb',
      (tokenAt a n).content = (tokenAt b n).content → motive (n + (scan (a.drop n)).2) ha' hb' →
      motive n (Nat.le_of_lt ha) (Nat.le_of_lt hb))
    (n : Nat) (ha : n ≤ a.length) (hb : n ≤ b.length) : motive n ha hb := by
  by_cases h : (tokenAt a n).content = (tokenAt b n).content
  · have hn := eq_length_of_content ha hb h
    rcases Nat.lt_or_ge n a.length with hlt | hge
    · have hpos := scan_length_pos (s := a.drop n) (by simp; omega)
      have hb' := tokenAt_stop_le hb
      rw [← scan_length_eq_of_content h] at hb'
      exact same n hlt (by omega) (tokenAt_stop_le ha) hb' h (common_induction differ ends same _ _ _)
    · exact ends n ha hb hge (by omega)
  · exact differ n ha hb h
termination_by a.length - n

/-- Texts that are alike up to an offset are the same, or part at some offset after it. -/
theorem fork_or_eq {n : Nat} (ha : n ≤ a.length) (hb : n ≤ b.length) (hs : a.take n = b.take n) :
    (a = b ∧ firstDifference (tokensFrom a n) (tokensFrom b n) = none) ∨
      ∃ p, Fork a b p ∧
        firstDifference (tokensFrom a n) (tokensFrom b n) = some (tokenAt a p, tokenAt b p) := by
  induction n, ha, hb using common_induction with
  | differ n ha hb h => exact .inr ⟨n, ⟨ha, hb, hs, h⟩, firstDifference_of_content_ne h⟩
  | ends n ha hb hna hnb =>
    rw [List.take_of_length_le hna, List.take_of_length_le hnb] at hs
    exact .inl ⟨hs, firstDifference_of_length_le hna hnb⟩
  | same n ha hb _ _ h ih =>
    rw [firstDifference_of_content_eq ha (Nat.le_of_lt hb) h]
    exact ih (take_stop_eq hs h)

theorem fork_or_eq_zero (a b : Text) :
    (a = b ∧ firstDifference (tokensFrom a 0) (tokensFrom b 0) = none) ∨
      ∃ p, Fork a b p ∧
        firstDifference (tokensFrom a 0) (tokensFrom b 0) = some (tokenAt a p, tokenAt b p) :=
  fork_or_eq (Nat.zero_le _) (Nat.zero_le _) rfl

/-- Two texts part at once, or at the end of a token that they have in common. -/
theorem eq_or_exists_content_eq {n p : Nat} (ha : n ≤ a.length) (hb : n ≤ b.length)
    (h : firstDifference (tokensFrom a n) (tokensFrom b n) = some (tokenAt a p, tokenAt b p)) :
    p = n ∨ ∃ q < a.length, (tokenAt a q).content = (tokenAt b q).content ∧
      p = q + (scan (a.drop q)).2 := by
  induction n, ha, hb using common_induction with
  | differ n ha hb hne =>
    rw [firstDifference_of_content_ne hne] at h
    have hs := congrArg (·.1.start) (Option.some.inj h)
    exact .inl (Int.ofNat_inj.1 hs).symm
  | ends n ha hb hna hnb =>
    rw [firstDifference_of_length_le hna hnb] at h
    cases h
  | same n ha hb _ _ hc ih =>
    rw [firstDifference_of_content_eq ha (Nat.le_of_lt hb) hc] at h
    rcases ih h with hp | hq
    · exact .inr ⟨n, ha, hc, hp⟩
    · exact .inr hq

/-- The first tokens with a difference in the token lists of two texts are the first difference. -/
theorem exists_differFirstAt_iff {P : Token → Token → Prop} :
    (∃ xs ys i x y, tokenize a 0 = .ok xs ∧ tokenize b 0 = .ok ys ∧ DifferFirstAt xs ys i ∧
        xs[i]? = some x ∧ ys[i]? = some y ∧ P x y) ↔
      ∃ xy ∈ firstDifference (tokensFrom a 0) (tokensFrom b 0), P xy.1 xy.2 := by
  constructor
  · rintro ⟨xs, ys, i, x, y, hxs, hys, hi, hx, hy, hk⟩
    cases (tokenize_zero a).symm.trans hxs
    cases (tokenize_zero b).symm.trans hys
    exact ⟨(x, y), firstDifference_of_differFirstAt hi hx hy, hk⟩
  · rintro ⟨⟨x, y⟩, hd, hk⟩
    obtain ⟨i, hi, hx, hy⟩ := differFirstAt_of_firstDifference hd
    exact ⟨_, _, i, x, y, tokenize_zero a, tokenize_zero b, hi, hx, hy, hk⟩

end

namespace Fork
variable {a b : Text} {p : Nat}

theorem symm (h : Fork a b p) : Fork b a p := ⟨h.le_right, h.le_left, h.same.symm, h.ne.symm⟩

theorem drop_ne (h : Fork a b p) : a.drop p ≠ b.drop p := by
  intro hd
  refine h.ne ?_
  simp only [content, tokenAt_value, tokenAt_kind, hd]

theorem value_ne (h : Fork a b p) (hk : (tokenAt a p).kind = (tokenAt b p).kind) :
    (tokenAt a p).value ≠ (tokenAt b p).value :=
  fun hv => h.ne (content_eq_iff.2 ⟨hk, hv⟩)

/-- Where two texts part, at least one of them goes on. -/
theorem kind_ne_empty (h : Fork a b p) (hk : (tokenAt a p).kind = (tokenAt b p).kind) :
    (tokenAt a p).kind ≠ .empty := by
  intro he
  have ha := (tokenAt_kind_eq_empty h.le_left).1 he
  have hb := (tokenAt_kind_eq_empty h.le_right).1 (hk ▸ he)
  refine h.drop_ne ?_
  rw [List.drop_eq_nil_iff.2 (by omega), List.drop_eq_nil_iff.2 (by omega)]

end Fork

end NaturalOrder
