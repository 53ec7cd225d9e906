import NaturalOrder.Proofs.CommonStart

/-!
# Numbers within text

Where a text ends with a character that is part of no numeral, whatever comes after it and starts a
number changes none of its tokens (`scan_append`), which lead to the end of it (`cuts_append`). So two texts
with such a start in common are compared from there on, and numbers that stand there are compared as wholes
(`compareNatural_embedded_numbers`).
-/

namespace NaturalOrder
open Token Numeral

section
variable {p u v w : Text} {k : Nat}

/-! ### A start in common -/

/-- No number that is in sight at the start of a text reaches its last character. -/
theorem StartsNumber.of_append (hu : u ≠ []) (hc : ∀ c ∈ u.getLast?, ¬ IsNumeralChar c)
    (h : StartsNumber (u ++ w)) : StartsNumber u := by
  obtain ⟨lead, hl, d, rest, he, hd⟩ := h
  have hnum : ∀ c ∈ lead ++ [d], IsNumeralChar c := by
    intro c hc
    simp only [List.mem_append, List.mem_singleton] at hc
    rcases hc with hc | rfl
    · refine .inr ?_
      simp only [List.mem_cons, List.not_mem_nil, or_false] at hl
      rcases hl with rfl | rfl | rfl | rfl <;> simp at hc <;> simp [hc]
    · exact .inl hd
  rw [List.append_cons, List.append_eq_append_iff] at he
  rcases he with ⟨as, he, -⟩ | ⟨bs, he, -⟩
  · have hlast := List.getLast?_eq_some_getLast hu
    refine absurd (hnum (u.getLast hu) ?_) (hc _ hlast)
    rw [he]
    exact List.mem_append_left as (List.getLast_mem hu)
  · exact ⟨lead, hl, d, bs, by simp [he], hd⟩

theorem not_isNumeral (hc : ∀ c ∈ u.getLast?, ¬ IsNumeralChar c) : ¬ IsNumeral u := by
  rintro ⟨n, rfl⟩
  have hn : n.text ≠ [] := by
    intro h
    have := n.startsNumber_append []
    rw [h] at this
    exact not_startsNumber_nil this
  exact hc _ (List.getLast?_eq_some_getLast hn) (n.isNumeralChar_of_mem_text _ (List.getLast_mem hn))

theorem scan_append (hu : u ≠ []) (hc : ∀ c ∈ u.getLast?, ¬ IsNumeralChar c) (hw : StartsNumber w) :
    scan (u ++ w) = scan u := by
  rcases h : scan u with ⟨kind, k⟩
  cases kind with
  | empty => exact absurd (scan_kind_eq_empty.1 (congrArg Prod.fst h)) hu
  | numeric =>
    obtain ⟨hk, hn, he⟩ := scan_eq_numeric_iff.1 h
    have hlt : k < u.length := by
      refine Nat.lt_of_le_of_ne hk fun hk => not_isNumeral hc ?_
      rwa [hk, List.take_length] at hn
    refine scan_eq_numeric_iff.2 ⟨by rw [List.length_append]; omega, ?_, ?_⟩
    · rwa [List.take_append_of_le_length hk]
    · rw [List.take_append_of_le_length hk, List.drop_append_of_le_length hk]
      intro c hmem
      rw [List.head?_append_of_ne_nil _ (by simp; omega)] at hmem
      exact he c hmem
  | text =>
    obtain ⟨hpos, hk, hi, hs⟩ := scan_eq_text_iff.1 h
    refine scan_eq_text_iff.2 ⟨hpos, by rw [List.length_append]; omega, ?_, ?_⟩
    · intro i hik hn
      rw [List.drop_append_of_le_length (by omega)] at hn
      refine hi i hik (.of_append (by simp; omega) ?_ hn)
      rw [List.getLast?_drop, if_neg (by omega)]
      exact hc
    · intro _
      rw [List.drop_append_of_le_length hk]
      rcases Nat.lt_or_ge k u.length with hlt | hge
      · exact (hs hlt).append w
      · rwa [List.drop_of_length_le hge]

/-- Tokens lead to the end of a start of a text if it does not end with a part of a number. -/
theorem cuts_append {k : Nat} (hp : ∀ c ∈ p.getLast?, ¬ IsNumeralChar c) (hw : StartsNumber w)
    (hk : k ≤ p.length) : Cuts (p ++ w) k p.length := by
  by_cases hlt : k < p.length
  · have hne : p.drop k ≠ [] := by simp; omega
    have hlast : ∀ c ∈ (p.drop k).getLast?, ¬ IsNumeralChar c := by
      rw [List.getLast?_drop, if_neg (by omega)]
      exact hp
    have hpos := scan_length_pos hne
    refine .step ?_
    rw [drop_append_of_lt hlt, scan_append hne hlast hw]
    exact cuts_append hp hw (tokenAt_stop_le hk)
  · rw [Nat.le_antisymm hk (Nat.le_of_not_lt hlt)]
    exact .refl _
termination_by p.length - k

/-! ### The number after it -/

/-- Digits and what follows them, if no digit does, start with a numeral that has these digits before its
point. -/
theorem exists_numeral_of_digits (negative : Bool) {digits rest : Text} (hne : digits ≠ [])
    (hd : ∀ c ∈ digits, c.isDigit) (hr : ∀ c ∈ rest.head?, ¬ c.isDigit) :
    ∃ n : Numeral, n.negative = negative ∧ n.whole = digits ∧ ∃ k,
      scan (sign negative ++ (digits ++ rest)) = (.numeric, k) ∧
      (sign negative ++ (digits ++ rest)).take k = n.text := by
  have hw : (digits ++ rest).takeWhile Char.isDigit = digits := by
    rw [List.takeWhile_append_of_pos hd]
    cases rest with
    | nil => simp
    | cons c rest => rw [List.takeWhile_cons_of_neg (hr c rfl), List.append_nil]
  have hs : (unsignedStart? (digits ++ rest)).isSome := by
    obtain ⟨d, ds, rfl⟩ := List.exists_cons_of_ne_nil hne
    have hd : d.isDigit = true := hd d List.mem_cons_self
    simp [unsignedStart?, hd]
  refine ⟨numeralOf negative _ hs, rfl, hw, _, scan_sign_append negative hs, ?_⟩
  rw [text_numeralOf, List.take_length_add_append]

theorem tokenAt_append_of_numeric (p : Text) (h : scan w = (.numeric, k)) :
    StartsNumber w ∧ (tokenAt (p ++ w) p.length).kind = .numeric ∧
      (tokenAt (p ++ w) p.length).value = w.take k := by
  refine ⟨?_, ?_, ?_⟩
  · obtain ⟨-, ⟨n, hn⟩, -⟩ := scan_eq_numeric_iff.1 h
    rw [← List.take_append_drop k w, ← hn]
    exact n.startsNumber_append _
  · rw [tokenAt_kind, List.drop_left, h]
  · rw [tokenAt_value, List.drop_left, h]

end

namespace Collator
variable {m : Type → Type} [Monad m] [LawfulMonad m] [MonadExceptOf Error m] {c : Collator m}

/-- Where two texts go on with numbers after a start in common, the numbers decide if they differ. -/
theorem compareNatural_append_of_numeric (hc : ∀ s, c.compare s s = pure .eq) {p v w : Text} {j k : Nat}
    (hp : ∀ x ∈ p.getLast?, ¬ IsNumeralChar x) (hv : scan v = (.numeric, j)) (hw : scan w = (.numeric, k))
    (h : numeralOrder (v.take j) (w.take k) = .lt) :
    c.compareNatural (some (p ++ v)) (some (p ++ w)) = pure .lt := by
  obtain ⟨hvs, hvk, hvv⟩ := tokenAt_append_of_numeric p hv
  obtain ⟨hws, hwk, hwv⟩ := tokenAt_append_of_numeric p hw
  have hne : (tokenAt (p ++ v) p.length).content ≠ (tokenAt (p ++ w) p.length).content := by
    intro he
    have ho := numeralOrder_eq_eq.2 (content_eq_iff.1 he).2
    rw [hvv, hwv, h] at ho
    cases ho
  have hd := (cuts_append hp hvs (Nat.zero_le _)).firstDifference_eq (cuts_append hp hws (Nat.zero_le _))
  rw [firstDifference_of_content_ne hne] at hd
  rw [compareNatural_of_fork hc hd, orderTokens, if_neg (not_not_intro (hvk.trans hwk.symm)), if_pos hvk,
    hvv, hwv, h]

/-- After a start in common and the same sign, if any, digits are compared as parts of the numerals that
they start. -/
theorem compareNatural_append_digits (hc : ∀ s, c.compare s s = pure .eq) (negative : Bool) {p u v s t : Text}
    (hp : ∀ x ∈ p.getLast?, ¬ IsNumeralChar x) (hu : u ≠ [] ∧ ∀ x ∈ u, x.isDigit)
    (hv : v ≠ [] ∧ ∀ x ∈ v, x.isDigit) (hs : ∀ x ∈ s.head?, ¬ x.isDigit) (ht : ∀ x ∈ t.head?, ¬ x.isDigit)
    (h : ∀ n k : Numeral, n.negative = negative → k.negative = negative → n.whole = u → k.whole = v →
      numeralOrder n.text k.text = .lt) :
    c.compareNatural (some (p ++ (sign negative ++ (u ++ s)))) (some (p ++ (sign negative ++ (v ++ t)))) =
      pure .lt := by
  obtain ⟨n, hn, hnu, i, hi, hit⟩ := exists_numeral_of_digits negative hu.1 hu.2 hs
  obtain ⟨k, hk, hkv, j, hj, hjt⟩ := exists_numeral_of_digits negative hv.1 hv.2 ht
  refine compareNatural_append_of_numeric hc hp hi hj ?_
  rw [hit, hjt]
  exact h n k hn hk hnu hkv

/-- Numbers within text are ordered by magnitude, with a sign by magnitude in reverse, whatever comes
before them in both texts and after them in each. It takes that what comes before does not end with a
part of a number and that what comes after does not start with a digit. -/
theorem compareNatural_embedded_numbers (c : Collator m) (hc : ∀ s, c.compare s s = pure .eq)
    (p u v s t : Text) (hp : ∀ x ∈ p.getLast?, ¬ IsNumeralChar x)
    (hu : u ≠ [] ∧ ∀ x ∈ u, x.isDigit) (hv : v ≠ [] ∧ ∀ x ∈ v, x.isDigit)
    (huv : Text.toNat u < Text.toNat v)
    (hs : ∀ x ∈ s.head?, ¬ x.isDigit) (ht : ∀ x ∈ t.head?, ¬ x.isDigit) :
    c.compareNatural (some (p ++ u ++ s)) (some (p ++ v ++ t)) = pure .lt ∧
      c.compareNatural (some (p ++ ['-'] ++ v ++ t)) (some (p ++ ['-'] ++ u ++ s)) = pure .lt := by
  constructor
  · rw [List.append_assoc, List.append_assoc]
    refine compareNatural_append_digits hc false hp hu hv hs ht fun n k hn hk hnu hkv => ?_
    exact numeralOrder_of_whole_lt (by rwa [hnu, hkv]) hn hk
  · rw [List.append_assoc, List.append_assoc, List.append_assoc, List.append_assoc]
    refine compareNatural_append_digits hc true hp hv hu ht hs fun n k hn hk hnv hku => ?_
    exact numeralOrder_of_lt_whole (by rwa [hnv, hku]) hk hn

/-- Zeros in front, a point after the digits and signs elsewhere make no difference. -/
theorem compareNatural_embedded_numbers_labels :
    (∀ s, failing.compare s s = pure .eq) ∧ (∀ x ∈ "-.5 --x".toList.getLast?, ¬ IsNumeralChar x) ∧
      (∀ x ∈ "007".toList, x.isDigit) ∧ (∀ x ∈ "10".toList, x.isDigit) ∧
      Text.toNat "007".toList < Text.toNat "10".toList ∧
      (∀ x ∈ ".99.1".toList.head?, ¬ x.isDigit) ∧ (∀ x ∈ "-3".toList.head?, ¬ x.isDigit) ∧
      failing.compareNatural (some ("-.5 --x".toList ++ "007".toList ++ ".99.1".toList))
        (some ("-.5 --x".toList ++ "10".toList ++ "-3".toList)) = pure .lt ∧
      failing.compareNatural (some ("-.5 --x".toList ++ ['-'] ++ "10".toList ++ "-3".toList))
        (some ("-.5 --x".toList ++ ['-'] ++ "007".toList ++ ".99.1".toList)) = pure .lt := by
  have hc : ∀ s, failing.compare s s = pure .eq := fun s => if_pos rfl
  have hp : ∀ x ∈ "-.5 --x".toList.getLast?, ¬ IsNumeralChar x := by
    rintro x ⟨⟩
    unfold IsNumeralChar
    decide
  have hu : ∀ x ∈ "007".toList, x.isDigit := List.all_eq_true.1 (by decide)
  have hv : ∀ x ∈ "10".toList, x.isDigit := List.all_eq_true.1 (by decide)
  have huv : Text.toNat "007".toList < Text.toNat "10".toList := by decide
  have hs : ∀ x ∈ ".99.1".toList.head?, ¬ x.isDigit := by rintro x ⟨⟩; decide
  have ht : ∀ x ∈ "-3".toList.head?, ¬ x.isDigit := by rintro x ⟨⟩; decide
  obtain ⟨h, h'⟩ := compareNatural_embedded_numbers failing hc _ _ _ _ _ hp ⟨by decide, hu⟩
    ⟨by decide, hv⟩ huv hs ht
  exact ⟨hc, hp, hu, hv, huv, hs, ht, h, h'⟩

end Collator

end NaturalOrder
