import NaturalOrder.Proofs.Segmentation

/-!
# Resuming a scan

The tokens of a text from the start of one of them on are those that a scan from there on finds
(`exists_tokensFrom_eq`). From within text it finds the same ones too, but for the start of the first: as no
number starts in text, what is left of it ends where all of it does (`scan_drop_of_text`). So a scan can stop
at such a place and go on later (`tokenize_resume`). Within a number it cannot: what is left of one may have a
point less and go on further than all of it.
-/

namespace NaturalOrder
open Token

section
variable {s : Text} {n i k : Nat}

/-- What is left of text is text up to the same place. -/
theorem scan_drop_of_text (h : scan s = (.text, k)) (hi : i < k) : scan (s.drop i) = (.text, k - i) := by
  obtain ⟨-, hk, hnone, hnext⟩ := scan_eq_text_iff.1 h
  refine scan_eq_text_iff.2 ⟨by omega, by rw [List.length_drop]; omega, fun j hj => ?_, fun hlt => ?_⟩
  · rw [List.drop_drop]
    exact hnone (i + j) (by omega)
  · rw [List.length_drop] at hlt
    rw [List.drop_drop, Nat.add_sub_cancel' (Nat.le_of_lt hi)]
    exact hnext (by omega)

theorem tokensFrom_of_text (hk : (tokenAt s n).kind = .text) (hi : i < (scan (s.drop n)).2) :
    tokensFrom s (n + i) =
      ⟨.text, s, (n + i : Nat), (n + (scan (s.drop n)).2 : Nat)⟩ ::
        tokensFrom s (n + (scan (s.drop n)).2) := by
  have hscan : scan (s.drop (n + i)) = (.text, (scan (s.drop n)).2 - i) := by
    rw [← List.drop_drop]
    exact scan_drop_of_text (scan_eq_of_kind hk) hi
  have hlen := scan_length_le (s.drop n)
  rw [List.length_drop] at hlen
  have hstop : n + i + ((scan (s.drop n)).2 - i) = n + (scan (s.drop n)).2 := by omega
  rw [tokensFrom_of_lt (by omega), tokenAt, hscan, ← Int.natCast_add, hstop]

end

/-- From the start of a token or from within text on, a text has the tokens from there on. -/
theorem tokenize_resume (s : Text) (q p : Int) (hq : 0 ≤ q) (hqp : q ≤ p) (hp : p ≤ s.length) :
    ∃ ts, tokenize s q = .ok ts ∧ ∀ us t vs, ts = us ++ t :: vs →
      (t.start = p → tokenize s p = .ok (t :: vs)) ∧
      (t.kind = .text → t.start < p → p < t.stop → tokenize s p = .ok ({ t with start := p } :: vs)) := by
  obtain ⟨n, hn, rfl⟩ := exists_offset ⟨hq, Int.le_trans hqp hp⟩
  obtain ⟨k, hk, rfl⟩ := exists_offset ⟨Int.le_trans hq hqp, hp⟩
  refine ⟨tokensFrom s n, tokenize_eq hn, fun us t vs hts => ?_⟩
  obtain ⟨m, hm, rfl, hfrom⟩ := exists_tokensFrom_eq hn hts
  rw [tokenize_eq hk]
  constructor
  · intro hstart
    obtain rfl : m = k := Int.ofNat_inj.1 hstart
    rw [hfrom]
  · intro hkind hlt hstop
    rw [tokenAt_start] at hlt
    rw [tokenAt_stop] at hstop
    obtain ⟨i, rfl⟩ := Nat.exists_eq_add_of_le (Int.ofNat_le.1 (Int.le_of_lt hlt))
    have hi : i < (scan (s.drop m)).2 := by omega
    have hpos : m < s.length := by
      have hlen := tokenAt_stop_le hm
      omega
    have htail : vs = tokensFrom s (m + (scan (s.drop m)).2) := by
      rw [tokensFrom_of_lt hpos] at hfrom
      exact (List.cons.inj hfrom).2.symm
    rw [tokensFrom_of_text hkind hi, ← htail, ← hkind]
    rfl

/-- From within the text and from its end on, the scan goes on as it would have. From within the number after
it, it finds a longer number than what is left of this one. -/
theorem tokenize_resume_point :
    (0 ≤ (1 : Int) ∧ (1 : Int) ≤ 3 ∧ (3 : Int) ≤ "v1-.-2.3.4".toList.length) ∧
      tokenize "v1-.-2.3.4".toList 1 = .ok [⟨.numeric, "v1-.-2.3.4".toList, 1, 2⟩,
        ⟨.text, "v1-.-2.3.4".toList, 2, 4⟩, ⟨.numeric, "v1-.-2.3.4".toList, 4, 8⟩,
        ⟨.numeric, "v1-.-2.3.4".toList, 8, 10⟩, ⟨.empty, "v1-.-2.3.4".toList, 10, 10⟩] ∧
      tokenize "v1-.-2.3.4".toList 3 = .ok [⟨.text, "v1-.-2.3.4".toList, 3, 4⟩,
        ⟨.numeric, "v1-.-2.3.4".toList, 4, 8⟩, ⟨.numeric, "v1-.-2.3.4".toList, 8, 10⟩,
        ⟨.empty, "v1-.-2.3.4".toList, 10, 10⟩] ∧
      tokenize "v1-.-2.3.4".toList 4 = .ok [⟨.numeric, "v1-.-2.3.4".toList, 4, 8⟩,
        ⟨.numeric, "v1-.-2.3.4".toList, 8, 10⟩, ⟨.empty, "v1-.-2.3.4".toList, 10, 10⟩] ∧
      tokenize "v1-.-2.3.4".toList 7 = .ok [⟨.numeric, "v1-.-2.3.4".toList, 7, 10⟩,
        ⟨.empty, "v1-.-2.3.4".toList, 10, 10⟩] := by
  have hp : 0 ≤ (1 : Int) ∧ (1 : Int) ≤ 3 ∧ (3 : Int) ≤ "v1-.-2.3.4".toList.length := by decide
  have ht : tokenize "v1-.-2.3.4".toList 1 = .ok [⟨.numeric, "v1-.-2.3.4".toList, 1, 2⟩,
      ⟨.text, "v1-.-2.3.4".toList, 2, 4⟩, ⟨.numeric, "v1-.-2.3.4".toList, 4, 8⟩,
      ⟨.numeric, "v1-.-2.3.4".toList, 8, 10⟩, ⟨.empty, "v1-.-2.3.4".toList, 10, 10⟩] := by decide +kernel
  obtain ⟨us, hus, hwithin⟩ := tokenize_resume _ 1 3 hp.1 hp.2.1 hp.2.2
  obtain ⟨vs, hvs, hstart⟩ := tokenize_resume "v1-.-2.3.4".toList 1 4 hp.1 (by decide) (by decide)
  cases ht.symm.trans hus
  cases ht.symm.trans hvs
  refine ⟨hp, ht, ?_, ?_, by decide +kernel⟩
  · exact (hwithin [_] ⟨.text, _, 2, 4⟩ _ rfl).2 rfl (by decide) (by decide)
  · exact (hstart [_, _] ⟨.numeric, _, 4, 8⟩ _ rfl).1 rfl

end NaturalOrder
