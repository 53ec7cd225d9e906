import NaturalOrder.Proofs.Segmentation

/-!
# Lookahead

Three characters tell whether a number starts (`StartsNumber.take`). So the scanner looks no further than
three characters past the end of a token, and where two texts agree up to there (`AgreeUpTo`) they have the
same token, whatever else stands around it (`nextToken_eq_of_slice_eq`). Taken out of its text, a token needs
none of these three: it is the only token of its own characters (`tokenize_value`).
-/

namespace NaturalOrder
open Token

/-- Two texts have the same first characters up to a number of them, or are the same if they have fewer. -/
def AgreeUpTo (k : Nat) (u v : Text) : Prop := u.take k = v.take k

section
variable {s u v : Text} {i j k : Nat} {kind : Kind}

theorem StartsNumber.take (h : StartsNumber s) : StartsNumber (s.take 3) := by
  obtain ⟨lead, hl, d, rest, rfl, hd⟩ := h
  refine ⟨lead, hl, d, rest.take (2 - lead.length), ?_, hd⟩
  simp only [List.mem_cons, List.not_mem_nil, or_false] at hl
  rcases hl with rfl | rfl | rfl | rfl <;> rfl

theorem EndsBefore.of_head?_eq (h : EndsBefore s u) (hv : u.head? = v.head?) : EndsBefore s v := by
  rw [EndsBefore, ← hv]
  exact h

namespace AgreeUpTo

theorem symm (h : AgreeUpTo k u v) : AgreeUpTo k v u := Eq.symm h

theorem mono (h : AgreeUpTo k u v) (hj : j ≤ k) : AgreeUpTo j u v := by
  have hjk := congrArg (List.take j) h
  rwa [List.take_take, List.take_take, Nat.min_eq_left hj] at hjk

theorem drop (h : AgreeUpTo (i + k) u v) : AgreeUpTo k (u.drop i) (v.drop i) := by
  have hi := congrArg (List.drop i) h
  rwa [List.drop_take, List.drop_take, Nat.add_sub_cancel_left] at hi

theorem min_length (h : AgreeUpTo k u v) : min k u.length = min k v.length := by
  rw [← List.length_take, ← List.length_take, h]

theorem head?_eq (h : AgreeUpTo k u v) (hk : 0 < k) : u.head? = v.head? := by
  have hhead := congrArg List.head? h
  have hne : k ≠ 0 := Nat.ne_of_gt hk
  rwa [List.head?_take, List.head?_take, if_neg hne, if_neg hne] at hhead

theorem startsNumber (h : AgreeUpTo 3 u v) (hu : StartsNumber u) : StartsNumber v := by
  have hv := hu.take
  rw [h] at hv
  have hrest := hv.append (v.drop 3)
  rwa [List.take_append_drop] at hrest

/-- Texts that agree up to three characters past the end of a token have the same token. -/
theorem scan_eq (h : AgreeUpTo (k + 3) u v) (hu : scan u = (kind, k)) : scan v = (kind, k) := by
  have hlen := h.min_length
  have hafter : AgreeUpTo 3 (u.drop k) (v.drop k) := h.drop
  cases kind with
  | empty =>
    have hnil := scan_kind_eq_empty.1 (congrArg Prod.fst hu)
    rw [hnil, List.length_nil] at hlen
    obtain rfl : v = [] := List.length_eq_zero_iff.1 (by omega)
    rwa [hnil] at hu
  | numeric =>
    obtain ⟨hk, hnum, hend⟩ := scan_eq_numeric_iff.1 hu
    have htake : u.take k = v.take k := h.mono (Nat.le_add_right k 3)
    rw [htake] at hnum hend
    exact scan_eq_numeric_iff.2 ⟨by omega, hnum, hend.of_head?_eq (hafter.head?_eq (by decide))⟩
  | text =>
    obtain ⟨hpos, hk, hnone, hnext⟩ := scan_eq_text_iff.1 hu
    refine scan_eq_text_iff.2 ⟨hpos, by omega, fun i hi hv => hnone i hi ?_, fun hlt => ?_⟩
    · have hi3 : AgreeUpTo 3 (u.drop i) (v.drop i) := (h.mono (by omega : i + 3 ≤ k + 3)).drop
      exact hi3.symm.startsNumber hv
    · exact hafter.startsNumber (hnext (by omega))

end AgreeUpTo

end

/-- The next token depends on nothing before it, and on three characters at most after it. -/
theorem nextToken_eq_of_slice_eq (s₁ s₂ : Text) (p₁ p₂ : Int) (h₁ : 0 ≤ p₁ ∧ p₁ ≤ s₁.length)
    (h₂ : 0 ≤ p₂ ∧ p₂ ≤ s₂.length) :
    ∃ (kind : Kind) (n : Nat), nextToken s₁ p₁ = .ok ⟨kind, s₁, p₁, p₁ + n⟩ ∧
      (s₁.slice p₁ (p₁ + n + 3) = s₂.slice p₂ (p₂ + n + 3) →
        nextToken s₂ p₂ = .ok ⟨kind, s₂, p₂, p₂ + n⟩) := by
  obtain ⟨i, hi, rfl⟩ := exists_offset h₁
  obtain ⟨j, hj, rfl⟩ := exists_offset h₂
  rcases hs : scan (s₁.drop i) with ⟨kind, n⟩
  refine ⟨kind, n, ?_, fun h => ?_⟩
  · rw [nextToken_eq hi, tokenAt, hs]
  · have hagree : AgreeUpTo (n + 3) (s₁.drop i) (s₂.drop j) := by
      rw [Int.add_assoc, Int.add_assoc] at h
      have hn : ((n : Int) + 3) = ((n + 3 : Nat) : Int) := rfl
      rwa [hn, Text.slice_natCast_add, Text.slice_natCast_add] at h
    rw [nextToken_eq hj, tokenAt, hagree.scan_eq hs]

/-- Neither the number before the text nor what comes after the next start of a number matters. Two
characters after the text would not do. -/
theorem nextToken_eq_of_slice_eq_point :
    (0 ≤ (1 : Int) ∧ (1 : Int) ≤ "7ab-.5".toList.length) ∧
      (0 ≤ (3 : Int) ∧ (3 : Int) ≤ "-.xab-.5.6".toList.length) ∧
      Text.slice "7ab-.5".toList 1 (1 + 2 + 3) = Text.slice "-.xab-.5.6".toList 3 (3 + 2 + 3) ∧
      nextToken "-.xab-.5.6".toList 3 = .ok ⟨.text, "-.xab-.5.6".toList, 3, 5⟩ ∧
      Text.slice "7ab-.5".toList 1 (1 + 2 + 2) = Text.slice "ab-.x".toList 0 (0 + 2 + 2) ∧
      nextToken "ab-.x".toList 0 = .ok ⟨.text, "ab-.x".toList, 0, 5⟩ := by
  have h₁ : 0 ≤ (1 : Int) ∧ (1 : Int) ≤ "7ab-.5".toList.length := by decide
  have h₂ : 0 ≤ (3 : Int) ∧ (3 : Int) ≤ "-.xab-.5.6".toList.length := by decide
  have hs : Text.slice "7ab-.5".toList 1 (1 + 2 + 3) = Text.slice "-.xab-.5.6".toList 3 (3 + 2 + 3) := by decide
  obtain ⟨kind, n, hfirst, hsecond⟩ := nextToken_eq_of_slice_eq _ _ 1 3 h₁ h₂
  have ht : nextToken "7ab-.5".toList 1 = .ok ⟨.text, "7ab-.5".toList, 1, 3⟩ := by decide
  rw [ht] at hfirst
  simp only [Except.ok.injEq, Token.mk.injEq, true_and] at hfirst
  obtain ⟨rfl, hn⟩ := hfirst
  obtain rfl : n = 2 := by omega
  exact ⟨h₁, h₂, hs, hsecond hs, by decide, by decide⟩

/-! ### Tokens by themselves -/

section
variable {s : Text} {kind : Kind}

/-- A text that is a single token. -/
theorem tokensFrom_of_scan_eq_length (hk : kind ≠ .empty) (h : scan s = (kind, s.length)) :
    tokensFrom s 0 = [⟨kind, s, 0, s.length⟩, ⟨.empty, s, s.length, s.length⟩] := by
  have hne : s ≠ [] := fun hs => hk ((congrArg Prod.fst h).symm.trans (scan_kind_eq_empty.2 hs))
  have hfirst : tokenAt s 0 = ⟨kind, s, 0, s.length⟩ := by simp [tokenAt, h]
  have hlast : tokenAt s s.length = ⟨.empty, s, s.length, s.length⟩ := by simp [tokenAt, scan]
  rw [tokensFrom_of_lt (List.length_pos_iff.2 hne), List.drop_zero, h, Nat.zero_add, tokensFrom_length,
    hfirst, hlast]

end

/-- Taken out of its text, a token is the only one of its characters. -/
theorem tokenize_value (s : Text) (position : Int) (h : 0 ≤ position ∧ position ≤ s.length) :
    ∃ ts, tokenize s position = .ok ts ∧ ∀ t ∈ ts, t.kind ≠ .empty →
      tokenize t.value 0 = .ok [⟨t.kind, t.value, 0, t.value.length⟩,
        ⟨.empty, t.value, t.value.length, t.value.length⟩] := by
  obtain ⟨n, hn, rfl⟩ := exists_offset h
  refine ⟨tokensFrom s n, tokenize_eq hn, fun t ht hk => ?_⟩
  obtain ⟨m, -, rfl⟩ := exists_tokenAt_of_mem hn ht
  have hscan : scan (tokenAt s m).value = ((tokenAt s m).kind, (tokenAt s m).value.length) := by
    rw [length_tokenAt_value, tokenAt_value, scan_take]
    rfl
  rw [tokenize_zero, tokensFrom_of_scan_eq_length hk hscan]

/-- The text ends before a sign that starts a number and the number before its second point, which neither of
them has by itself. -/
theorem tokenize_value_signs :
    (0 ≤ (1 : Int) ∧ (1 : Int) ≤ "v-.-.5.6".toList.length) ∧
      tokenize "v-.-.5.6".toList 1 = .ok [⟨.text, "v-.-.5.6".toList, 1, 3⟩,
        ⟨.numeric, "v-.-.5.6".toList, 3, 6⟩, ⟨.numeric, "v-.-.5.6".toList, 6, 8⟩,
        ⟨.empty, "v-.-.5.6".toList, 8, 8⟩] ∧
      tokenize "-.".toList 0 = .ok [⟨.text, "-.".toList, 0, 2⟩, ⟨.empty, "-.".toList, 2, 2⟩] ∧
      tokenize "-.5".toList 0 = .ok [⟨.numeric, "-.5".toList, 0, 3⟩, ⟨.empty, "-.5".toList, 3, 3⟩] := by
  have hp : 0 ≤ (1 : Int) ∧ (1 : Int) ≤ "v-.-.5.6".toList.length := by decide
  have ht : tokenize "v-.-.5.6".toList 1 = .ok [⟨.text, "v-.-.5.6".toList, 1, 3⟩,
      ⟨.numeric, "v-.-.5.6".toList, 3, 6⟩, ⟨.numeric, "v-.-.5.6".toList, 6, 8⟩,
      ⟨.empty, "v-.-.5.6".toList, 8, 8⟩] := by decide +kernel
  obtain ⟨ts, hts, hself⟩ := tokenize_value "v-.-.5.6".toList 1 hp
  cases ht.symm.trans hts
  refine ⟨hp, ht, ?_, ?_⟩
  · exact hself ⟨.text, "v-.-.5.6".toList, 1, 3⟩ (by decide) (by decide)
  · exact hself ⟨.numeric, "v-.-.5.6".toList, 3, 6⟩ (by decide) (by decide)

end NaturalOrder
