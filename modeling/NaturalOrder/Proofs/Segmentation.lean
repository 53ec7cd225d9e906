import Mathlib.Data.List.Chain
import NaturalOrder.Proofs.FirstDifference
import NaturalOrder.Proofs.FirstToken

/-!
# Segmentations

A `Segmentation` cuts a text from a position on into numbers that go on as far as they can and text in
which no number starts. Every text has one from each of its positions, namely the tokens
(`segmentation_tokensFrom`), and no other (`Segmentation.eq_tokensFrom`): the first token of a segmentation
is the one that the scanner finds, and the others are a segmentation from its end on.
-/

namespace NaturalOrder
open Token

/-- Tokens of a text that leave out no character from a position on and take none twice. The last token
and no other is empty. -/
structure Segmentation (s : Text) (position : Int) (ts : List Token) : Prop where
  source : ∀ t ∈ ts, t.source = s
  start : ts.head?.map (·.start) = some position
  adjacent : ts.IsChain fun x y => x.stop = y.start
  last : ∃ t ∈ ts.getLast?, t.kind = .empty ∧ t.start = s.length ∧ t.stop = s.length
  inner : ∀ t ∈ ts.dropLast, t.kind ≠ .empty ∧ t.start < t.stop
  numeric : ∀ t ∈ ts, t.kind = .numeric → IsNumeral t.value ∧ EndsBefore t.value (s.sliceFrom t.stop)
  text : ∀ t ∈ ts, t.kind = .text → ∀ i : Nat, t.start ≤ i → i < t.stop → ¬ StartsNumber (s.drop i)
  alternating : ts.IsChain fun x y => ¬ (x.kind = .text ∧ y.kind = .text)

section
variable {s : Text} {n k : Nat} {p : Int} {t u : Token} {ts us : List Token}

theorem Token.value_eq (hs : t.source = s) (hn : t.start = n) (hk : t.stop = n + k) :
    t.value = (s.drop n).take k := by
  rw [value, hs, hn, hk, Text.slice_natCast_add]

theorem sliceFrom_stop (hk : p = n + k) : s.sliceFrom p = (s.drop n).drop k := by
  rw [hk, ← Int.natCast_add, Text.sliceFrom, Text.before_natCast, List.drop_drop]

theorem Token.startsNumber_of_isNumeral (hs : t.source = s) (hn : t.start = n) (hv : IsNumeral t.value) :
    StartsNumber (s.drop n) := by
  obtain ⟨i, hi⟩ := hv
  rw [value, Text.slice, hs, hn, Text.before_natCast, List.drop_take] at hi
  have h := i.startsNumber_append ((s.drop n).drop (s.before t.stop - n))
  rwa [hi, List.take_append_drop] at h

namespace Segmentation

theorem tail (h : Segmentation s p (t :: u :: us)) : Segmentation s t.stop (u :: us) where
  source x hx := h.source x (List.mem_cons_of_mem t hx)
  start := congrArg some (List.isChain_cons_cons.1 h.adjacent).1.symm
  adjacent := h.adjacent.tail
  last := by simpa [List.getLast?_cons_cons] using h.last
  inner x hx := h.inner x (List.mem_cons_of_mem t hx)
  numeric x hx := h.numeric x (List.mem_cons_of_mem t hx)
  text x hx := h.text x (List.mem_cons_of_mem t hx)
  alternating := h.alternating.tail

theorem ne_nil (h : Segmentation s p ts) : ts ≠ [] := by
  rintro rfl
  cases h.start

theorem start_eq (h : Segmentation s p (t :: ts)) : t.start = p := Option.some.inj h.start

theorem cons (h : Segmentation s t.stop us) (hs : t.source = s) (hk : t.kind ≠ .empty)
    (hlt : t.start < t.stop)
    (hn : t.kind = .numeric → IsNumeral t.value ∧ EndsBefore t.value (s.sliceFrom t.stop))
    (ht : t.kind = .text → ∀ i : Nat, t.start ≤ i → i < t.stop → ¬ StartsNumber (s.drop i))
    (ha : t.kind = .text → ∀ u ∈ us.head?, u.kind ≠ .text) : Segmentation s t.start (t :: us) := by
  obtain ⟨u, vs, rfl⟩ := List.exists_cons_of_ne_nil h.ne_nil
  refine ⟨?_, rfl, ?_, ?_, ?_, ?_, ?_, ?_⟩
  · exact List.forall_mem_cons.2 ⟨hs, h.source⟩
  · exact List.isChain_cons_cons.2 ⟨h.start_eq.symm, h.adjacent⟩
  · simpa [List.getLast?_cons_cons] using h.last
  · exact List.forall_mem_cons.2 ⟨⟨hk, hlt⟩, h.inner⟩
  · exact List.forall_mem_cons.2 ⟨hn, h.numeric⟩
  · exact List.forall_mem_cons.2 ⟨ht, h.text⟩
  · exact List.isChain_cons_cons.2 ⟨fun hu => ha hu.1 u rfl hu.2, h.alternating⟩

theorem singleton (hs : t.source = s) (hk : t.kind = .empty) (h₁ : t.start = s.length)
    (h₂ : t.stop = s.length) : Segmentation s s.length [t] where
  source := by simp [hs]
  start := congrArg some h₁
  adjacent := .singleton t
  last := ⟨t, rfl, hk, h₁, h₂⟩
  inner := by simp
  numeric := by simp [hk]
  text := by simp [hk]
  alternating := .singleton t

theorem of_singleton (h : Segmentation s p [t]) :
    t.kind = .empty ∧ t.start = s.length ∧ t.stop = s.length := by
  obtain ⟨u, hu, h⟩ := h.last
  cases hu
  exact h

theorem le_length (h : Segmentation s p ts) : p ≤ s.length := by
  induction ts generalizing p with
  | nil => exact absurd rfl h.ne_nil
  | cons t us ih =>
    rw [← h.start_eq]
    cases us with
    | nil => exact Int.le_of_eq h.of_singleton.2.1
    | cons u us =>
      have hlt := (h.inner t List.mem_cons_self).2
      have := ih h.tail
      omega

theorem eq_length_of_empty (h : Segmentation s p (t :: us)) (hk : t.kind = .empty) : p = s.length := by
  rw [← h.start_eq]
  cases us with
  | nil => exact h.of_singleton.2.1
  | cons u us => exact absurd hk (h.inner t List.mem_cons_self).1

end Segmentation

/-! ### The tokens are a segmentation -/

theorem scan_eq_of_kind {kind : Kind} (hk : (tokenAt s n).kind = kind) :
    scan (s.drop n) = (kind, (scan (s.drop n)).2) :=
  Prod.ext hk rfl

theorem tokenAt_numeric (hk : (tokenAt s n).kind = .numeric) :
    IsNumeral (tokenAt s n).value ∧ EndsBefore (tokenAt s n).value (s.sliceFrom (tokenAt s n).stop) := by
  rw [sliceFrom_stop tokenAt_stop, tokenAt_value]
  exact (scan_eq_numeric_iff.1 (scan_eq_of_kind hk)).2

theorem tokenAt_text (hk : (tokenAt s n).kind = .text) {i : Nat} (hi : n ≤ i)
    (hlt : i < n + (scan (s.drop n)).2) : ¬ StartsNumber (s.drop i) := by
  obtain ⟨-, -, h, -⟩ := scan_eq_text_iff.1 (scan_eq_of_kind hk)
  have hs := h (i - n) (by omega)
  rwa [List.drop_drop, Nat.add_sub_cancel' hi] at hs

theorem kind_ne_text_of_startsNumber (h : StartsNumber (s.drop n)) : (tokenAt s n).kind ≠ .text := by
  intro hk
  have hpos := (scan_eq_text_iff.1 (scan_eq_of_kind hk)).1
  exact tokenAt_text hk (Nat.le_refl n) (by omega) h

/-- After text comes a number or the end of all text. -/
theorem kind_ne_text_of_tokenAt_text (hk : (tokenAt s n).kind = .text) :
    (tokenAt s (n + (scan (s.drop n)).2)).kind ≠ .text := by
  obtain ⟨-, hle, -, h⟩ := scan_eq_text_iff.1 (scan_eq_of_kind hk)
  rcases Nat.lt_or_ge (scan (s.drop n)).2 (s.drop n).length with hlt | hge
  · refine kind_ne_text_of_startsNumber ?_
    rw [← List.drop_drop]
    exact h hlt
  · rw [tokenAt_kind, ← List.drop_drop, List.drop_of_length_le hge]
    decide

theorem segmentation_tokensFrom (hn : n ≤ s.length) : Segmentation s n (tokensFrom s n) := by
  fun_induction tokensFrom s n with
  | case1 n hlt ih =>
    have hpos : 0 < (scan (s.drop n)).2 := scan_length_pos (by simp; omega)
    have hk : (tokenAt s n).kind ≠ .empty := fun hk => by
      have := (tokenAt_kind_eq_empty hn).1 hk
      omega
    refine Segmentation.cons (ih (tokenAt_stop_le hn)) rfl hk ?_ tokenAt_numeric ?_ ?_
    · simp only [tokenAt_start, tokenAt_stop]
      omega
    · intro ht i hi hi'
      simp only [tokenAt_start, tokenAt_stop] at hi hi'
      exact tokenAt_text ht (by omega) (by omega)
    · intro ht u hu
      obtain ⟨us, h⟩ := tokensFrom_eq_cons s (n + (scan (s.drop n)).2)
      rw [h] at hu
      cases hu
      exact kind_ne_text_of_tokenAt_text ht
  | case2 n hlt =>
    obtain rfl : n = s.length := by omega
    exact .singleton rfl ((tokenAt_kind_eq_empty hn).2 rfl) rfl (by simp [scan])

/-! ### There is no other segmentation -/

namespace Segmentation

/-- The first token of a segmentation is the one that the scanner finds. -/
theorem head_eq (h : Segmentation s n (t :: u :: us)) : t = tokenAt s n := by
  obtain ⟨hk, hlt⟩ := h.inner t List.mem_cons_self
  have hs := h.source t List.mem_cons_self
  have hn := h.start_eq
  have hle := h.tail.le_length
  obtain ⟨k, hstop⟩ : ∃ k : Nat, t.stop = n + k := ⟨(t.stop - n).toNat, by omega⟩
  have hv := Token.value_eq hs hn hstop
  have hscan : scan (s.drop n) = (t.kind, k) := by
    cases hkind : t.kind with
    | empty => exact absurd hkind hk
    | numeric =>
      obtain ⟨hi, he⟩ := h.numeric t List.mem_cons_self hkind
      rw [hv] at hi
      rw [hv, sliceFrom_stop hstop] at he
      refine scan_eq_numeric_iff.2 ⟨?_, hi, he⟩
      rw [List.length_drop]
      omega
    | text =>
      refine scan_eq_text_iff.2 ⟨by omega, by rw [List.length_drop]; omega, ?_, ?_⟩
      · intro i hi
        rw [List.drop_drop]
        exact h.text t List.mem_cons_self hkind (n + i) (by omega) (by omega)
      · intro hlt
        rw [List.length_drop] at hlt
        have hu := h.tail.start_eq
        rw [List.drop_drop]
        -- the next token is neither the end of the text, which is further away, nor text
        have hnum : u.kind = .numeric := by
          cases hukind : u.kind with
          | empty => have := h.tail.eq_length_of_empty hukind; omega
          | numeric => rfl
          | text => exact absurd ⟨hkind, hukind⟩ (List.isChain_cons_cons.1 h.alternating).1
        refine Token.startsNumber_of_isNumeral (h.source u (by simp)) (by omega) ?_
        exact (h.numeric u (by simp) hnum).1
  have hat : tokenAt s n = ⟨t.kind, s, n, n + k⟩ := by rw [tokenAt, hscan]
  rw [hat, ← hstop, ← hn, ← hs]

theorem eq_tokensFrom (h : Segmentation s n ts) : ts = tokensFrom s n := by
  induction ts generalizing n with
  | nil => exact absurd rfl h.ne_nil
  | cons t us ih =>
    cases us with
    | nil =>
      obtain ⟨hk, h₁, h₂⟩ := h.of_singleton
      obtain rfl : n = s.length := Int.ofNat_inj.1 (h.start_eq.symm.trans h₁)
      have hs : t.source = s := h.source t List.mem_cons_self
      have hat : tokenAt s s.length = ⟨.empty, s, s.length, s.length⟩ := by simp [tokenAt, scan]
      have ht : t = ⟨t.kind, t.source, t.start, t.stop⟩ := rfl
      rw [ht, hk, hs, h₁, h₂, tokensFrom_length, hat]
    | cons u us =>
      have hlt := (h.inner t List.mem_cons_self).2
      have hle := h.tail.le_length
      have hn := h.start_eq
      obtain rfl := h.head_eq
      rw [tokensFrom_of_lt (by omega)]
      exact congrArg _ (ih h.tail)

end Segmentation

end

/-- Tokenizing gives a segmentation, and there is no other. -/
theorem tokenize_segmentation (s : Text) (position : Int) (h : 0 ≤ position ∧ position ≤ s.length) :
    ∃ ts, tokenize s position = .ok ts ∧ ∀ us, us = ts ↔ Segmentation s position us := by
  obtain ⟨n, rfl⟩ := Int.eq_ofNat_of_zero_le h.1
  have hn : n ≤ s.length := Int.ofNat_le.1 h.2
  refine ⟨tokensFrom s n, tokenize_eq hn, fun us => ⟨?_, Segmentation.eq_tokensFrom⟩⟩
  rintro rfl
  exact segmentation_tokensFrom hn

/-- A cut within a number is no segmentation, whether or not the second part is a numeral as well. -/
theorem tokenize_segmentation_version :
    (0 ≤ (2 : Int) ∧ (2 : Int) ≤ "v-1.23.4-".toList.length) ∧
      Segmentation "v-1.23.4-".toList 2 [⟨.numeric, "v-1.23.4-".toList, 2, 6⟩,
        ⟨.numeric, "v-1.23.4-".toList, 6, 8⟩, ⟨.text, "v-1.23.4-".toList, 8, 9⟩,
        ⟨.empty, "v-1.23.4-".toList, 9, 9⟩] ∧
      ¬ Segmentation "v-1.23.4-".toList 2 [⟨.numeric, "v-1.23.4-".toList, 2, 5⟩,
        ⟨.numeric, "v-1.23.4-".toList, 5, 8⟩, ⟨.text, "v-1.23.4-".toList, 8, 9⟩,
        ⟨.empty, "v-1.23.4-".toList, 9, 9⟩] := by
  have hp : 0 ≤ (2 : Int) ∧ (2 : Int) ≤ "v-1.23.4-".toList.length := by decide
  have ht : tokenize "v-1.23.4-".toList 2 = .ok [⟨.numeric, "v-1.23.4-".toList, 2, 6⟩,
      ⟨.numeric, "v-1.23.4-".toList, 6, 8⟩, ⟨.text, "v-1.23.4-".toList, 8, 9⟩,
      ⟨.empty, "v-1.23.4-".toList, 9, 9⟩] := by decide +kernel
  obtain ⟨ts, h, hs⟩ := tokenize_segmentation "v-1.23.4-".toList 2 hp
  cases ht.symm.trans h
  exact ⟨hp, (hs _).1 rfl, fun h => absurd ((hs _).2 h) (by decide)⟩

end NaturalOrder
