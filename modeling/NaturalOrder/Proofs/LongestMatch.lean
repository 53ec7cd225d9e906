import Mathlib.Order.Bounds.Defs
import NaturalOrder.Proofs.Segmentation

/-!
# Numbers as longest matches

The scanner looks at three characters to see that a number starts, and then goes on as long as it may. Here
is what it finds by the numerals alone. Where a text starts with a numeral, the next token is the longest one
that it starts with, as no numeral goes on past the place where another one ends (`length_le_of_endsBefore`).
Anywhere else the next token is text up to the first place at which a numeral starts
(`nextToken_longest_match`).
-/

namespace NaturalOrder
open Token Numeral

/-- Some characters at the start of a text are a numeral. -/
def OpensWithNumeral (s : Text) : Prop := ∃ u, u <+: s ∧ IsNumeral u

/-- The longest of the numerals that a text starts with. -/
structure IsLongestNumeral (u s : Text) : Prop where
  isPrefix : u <+: s
  isNumeral : IsNumeral u
  length_le : ∀ v, v <+: s → IsNumeral v → v.length ≤ u.length

section
variable {s u v rest : Text} {n k : Nat}

theorem opensWithNumeral_iff : OpensWithNumeral s ↔ StartsNumber s := by
  constructor
  · rintro ⟨_, ⟨rest, rfl⟩, i, rfl⟩
    exact i.startsNumber_append rest
  · intro h
    obtain ⟨negative, body, rfl, hb⟩ := startsNumber_iff.1 h
    refine ⟨(numeralOf negative body hb).text, ?_, _, rfl⟩
    rw [text_numeralOf]
    exact (List.prefix_append_right_inj _).2 (List.take_prefix _ _)

theorem EndsBefore.of_isPrefix (h : EndsBefore v rest) (hu : u <+: rest) : EndsBefore v u := by
  intro c hc
  refine h c ?_
  cases u with
  | nil => cases hc
  | cons d u =>
    obtain ⟨w, rfl⟩ := hu
    exact hc

/-- A text that starts with two numerals, of which one cannot go on: the other one is not longer. -/
theorem length_le_of_endsBefore (hv : IsNumeral v) (he : EndsBefore v rest) (hu : IsNumeral u)
    (h : u <+: v ++ rest) : u.length ≤ v.length := by
  refine Nat.le_of_not_lt fun hlt => ?_
  have hvu : v <+: u := List.prefix_of_prefix_length_le (List.prefix_append v rest) h (Nat.le_of_lt hlt)
  obtain ⟨w, rfl⟩ := hvu
  have hw : w <+: rest := (List.prefix_append_right_inj v).1 h
  -- the scanner would stop after each of the two
  obtain ⟨i, rfl⟩ := hv
  obtain ⟨j, hj⟩ := hu
  have hfirst := i.scan_text_append (he.of_isPrefix hw)
  have hboth : scan (j.text ++ []) = (.numeric, j.text.length) :=
    j.scan_text_append (by simp [EndsBefore])
  rw [List.append_nil, hj, hfirst, List.length_append] at hboth
  simp only [Prod.mk.injEq, true_and] at hboth
  rw [List.length_append] at hlt
  omega

theorem isLongestNumeral_of_scan (h : scan s = (.numeric, k)) : IsLongestNumeral (s.take k) s := by
  obtain ⟨-, hnum, hend⟩ := scan_eq_numeric_iff.1 h
  refine ⟨List.take_prefix k s, hnum, ?_⟩
  intro v hv hi
  refine length_le_of_endsBefore hnum hend hi ?_
  rwa [List.take_append_drop]

theorem scan_kind_eq_numeric_iff : (scan s).1 = .numeric ↔ OpensWithNumeral s := by
  constructor
  · intro h
    have hlong := isLongestNumeral_of_scan (s := s) (k := (scan s).2) (Prod.ext h rfl)
    exact ⟨_, hlong.isPrefix, hlong.isNumeral⟩
  · intro h
    rw [opensWithNumeral_iff] at h
    cases hk : (scan s).1 with
    | numeric => rfl
    | empty =>
      rw [scan_kind_eq_empty.1 hk] at h
      exact absurd h not_startsNumber_nil
    | text =>
      obtain ⟨hpos, -, hnone, -⟩ := scan_eq_text_iff.1 (Prod.ext hk rfl : scan s = (.text, (scan s).2))
      exact absurd h (hnone 0 hpos)

/-- Text ends where the next numeral starts, or else at the end of all text. -/
theorem stop_of_scan_text (hn : n < s.length) (h : scan (s.drop n) = (.text, k)) :
    IsLeast {i | n < i ∧ OpensWithNumeral (s.drop i)} (n + k) ∨
      (∀ i, n < i → ¬ OpensWithNumeral (s.drop i)) ∧ n + k = s.length := by
  obtain ⟨hpos, hle, hnone, hnext⟩ := scan_eq_text_iff.1 h
  rw [List.length_drop] at hle hnext
  have hinside : ∀ i, n < i → i < n + k → ¬ OpensWithNumeral (s.drop i) := by
    intro i hi hik
    have hi' := hnone (i - n) (by omega)
    rwa [List.drop_drop, Nat.add_sub_cancel' (Nat.le_of_lt hi), ← opensWithNumeral_iff] at hi'
  rcases Nat.lt_or_ge k (s.length - n) with hlt | hge
  · refine .inl ⟨⟨by omega, ?_⟩, ?_⟩
    · rw [opensWithNumeral_iff, ← List.drop_drop]
      exact hnext hlt
    · rintro i ⟨hi, hopens⟩
      exact Nat.le_of_not_lt fun hik => hinside i hi hik hopens
  · refine .inr ⟨?_, by omega⟩
    intro i hi
    rcases Nat.lt_or_ge i (n + k) with hik | hik
    · exact hinside i hi hik
    · rw [List.drop_of_length_le (by omega), opensWithNumeral_iff]
      exact not_startsNumber_nil

end

/-- Before the end of a text the next token is the longest numeral from there on. If there is none, it is the
text up to the next one. -/
theorem nextToken_longest_match (s : Text) (n : Nat) (hn : n < s.length) :
    ∃ t, nextToken s n = .ok t ∧ t.source = s ∧ t.start = n ∧
      (OpensWithNumeral (s.drop n) → t.kind = .numeric ∧ IsLongestNumeral t.value (s.drop n)) ∧
      (¬ OpensWithNumeral (s.drop n) → t.kind = .text ∧
        ((∃ i : Nat, IsLeast {i | n < i ∧ OpensWithNumeral (s.drop i)} i ∧ t.stop = i) ∨
          (∀ i, n < i → ¬ OpensWithNumeral (s.drop i)) ∧ t.stop = s.length)) := by
  refine ⟨tokenAt s n, nextToken_eq (Nat.le_of_lt hn), rfl, rfl, ?_, ?_⟩
  · intro h
    have hk : (tokenAt s n).kind = .numeric := scan_kind_eq_numeric_iff.2 h
    refine ⟨hk, ?_⟩
    rw [tokenAt_value]
    exact isLongestNumeral_of_scan (scan_eq_of_kind hk)
  · intro h
    have hk : (tokenAt s n).kind = .text := by
      cases hk : (tokenAt s n).kind with
      | text => rfl
      | numeric => exact absurd (scan_kind_eq_numeric_iff.1 hk) h
      | empty => exact absurd ((tokenAt_kind_eq_empty (Nat.le_of_lt hn)).1 hk) (Nat.ne_of_lt hn)
    refine ⟨hk, ?_⟩
    rw [tokenAt_stop]
    rcases stop_of_scan_text hn (scan_eq_of_kind hk) with hleast | ⟨hnone, hend⟩
    · exact .inl ⟨_, hleast, (Int.natCast_add _ _).symm⟩
    · exact .inr ⟨hnone, by omega⟩

/-- A sign and a point open a numeral only before a digit, and a numeral has one point. -/
theorem nextToken_longest_match_points :
    (0 < "-.-.5.7".toList.length ∧ 2 < "-.-.5.7".toList.length) ∧
      IsLeast {i | 0 < i ∧ OpensWithNumeral ("-.-.5.7".toList.drop i)} 2 ∧
      IsLongestNumeral "-.5".toList "-.5.7".toList := by
  have h₀ : 0 < "-.-.5.7".toList.length := by decide
  have h₂ : 2 < "-.-.5.7".toList.length := by decide
  have hopens : OpensWithNumeral ("-.-.5.7".toList.drop 2) := opensWithNumeral_iff.2 (by decide)
  have hnot : ¬ OpensWithNumeral ("-.-.5.7".toList.drop 0) := mt opensWithNumeral_iff.1 (by decide)
  refine ⟨⟨h₀, h₂⟩, ?_, ?_⟩
  · obtain ⟨t, ht, -, -, -, htext⟩ := nextToken_longest_match _ 0 h₀
    obtain ⟨-, ⟨i, hleast, hi⟩ | ⟨hnone, -⟩⟩ := htext hnot
    · cases ht
      cases hi
      exact hleast
    · exact absurd hopens (hnone 2 (by decide))
  · obtain ⟨t, ht, -, -, hnumeric, -⟩ := nextToken_longest_match _ 2 h₂
    cases ht
    exact (hnumeric hopens).2

end NaturalOrder
