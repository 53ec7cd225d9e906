import NaturalOrder.Value.Basic

/-!
# Excerpts of values

Of a value that is too long to be shown, the start and the end are meant to be shown, with dots in between
(`Text.Abridges`). This is so wherever there is room for an end (`Text.abridges_excerpt`), and so for
everything that messages show (`Text.length_shown_le`). In fewer than four characters there is none, and there
the whole text follows the dots (`Value.inspect_abridges_iff`).
-/

namespace NaturalOrder

namespace Text
variable {size : Nat} {s t : Text}

/-- A text that fits is shown in full, and of any other its start and its end around the dots, in just so many
characters. The dots are there even where they do not fit. -/
def Abridges (size : Nat) (s t : Text) : Prop :=
  if s.length ≤ size then t = s
  else ∃ head tail, head <+: s ∧ tail <:+ s ∧ t = head ++ ellipsis ++ tail ∧ t.length = max size 3

theorem Abridges.length_le (h : Abridges size s t) : t.length ≤ max size 3 := by
  unfold Abridges at h
  split at h
  · next hfit =>
    subst h
    exact Nat.le_trans hfit (Nat.le_max_left size 3)
  · obtain ⟨head, tail, -, -, -, hlength⟩ := h
    exact Nat.le_of_eq hlength

theorem excerpt_of_length_le (h : s.length ≤ size) : excerpt size s = s := if_pos h

theorem excerpt_of_room (hs : size < s.length) (hroom : 4 ≤ size) : ∃ head tail, head <+: s ∧ tail <:+ s ∧
    excerpt size s = head ++ ellipsis ++ tail ∧ head.length + tail.length = size - 3 := by
  have htail : size - 3 - (size - 3) / 2 ≠ 0 := by omega
  refine ⟨s.take ((size - 3) / 2), s.drop (s.length - (size - 3 - (size - 3) / 2)),
    List.take_prefix _ s, List.drop_suffix _ s, ?_, ?_⟩
  · rw [excerpt, if_neg (Nat.not_le.2 hs)]
    dsimp only
    rw [if_neg htail]
  · rw [List.length_take, List.length_drop]
    omega

theorem excerpt_of_no_room (hs : size < s.length) (hroom : size < 4) : excerpt size s = ellipsis ++ s := by
  have hsize : size - 3 = 0 := by omega
  rw [excerpt, if_neg (Nat.not_le.2 hs), hsize]
  rfl

theorem abridges_excerpt (h : s.length ≤ size ∨ 4 ≤ size) : Abridges size s (excerpt size s) := by
  unfold Abridges
  split
  · next hfit => exact excerpt_of_length_le hfit
  · next hfit =>
    have hroom : 4 ≤ size := h.resolve_left hfit
    obtain ⟨head, tail, hhead, htail, heq, hlength⟩ := excerpt_of_room (Nat.lt_of_not_le hfit) hroom
    refine ⟨head, tail, hhead, htail, heq, ?_⟩
    have hdots : ellipsis.length = 3 := rfl
    rw [heq, List.length_append, List.length_append, hdots]
    omega

theorem abridges_excerpt_iff : Abridges size s (excerpt size s) ↔ s.length ≤ size ∨ 4 ≤ size := by
  refine ⟨fun habridges => Decidable.byContradiction fun h => ?_, abridges_excerpt⟩
  obtain ⟨hfit, hroom⟩ := not_or.1 h
  have hlength := habridges.length_le
  have hdots : ellipsis.length = 3 := rfl
  rw [excerpt_of_no_room (Nat.lt_of_not_le hfit) (Nat.lt_of_not_le hroom), List.length_append, hdots] at hlength
  omega

/-- No text is too long to be shown in a message. -/
theorem length_shown_le (s : Text) : (shown s).length ≤ excerptSize :=
  (abridges_excerpt (.inr (by decide))).length_le

end Text

namespace Value
open Text

theorem inspect_of_written {v : Value} {s : Text} (size : Nat) (h : v.written = .ok s) :
    v.inspect size = .ok (s.excerpt size) := by
  rw [inspect, h]
  rfl

/-- A value is shown as it is meant to be if it fits or there is room for an end of it. Else the dots stand
before all of it. What cannot be written cannot be shown. -/
theorem inspect_abridges_iff (v : Value) (size : Nat) :
    match v.written with
    | .ok s => ∃ t, v.inspect size = .ok t ∧
        (Abridges size s t ↔ s.length ≤ size ∨ 4 ≤ size) ∧
        (s.length ≤ size ∨ 4 ≤ size ∨ t = ellipsis ++ s)
    | .error e => v.inspect size = .error e := by
  cases h : v.written with
  | ok s =>
    refine ⟨_, inspect_of_written size h, abridges_excerpt_iff, ?_⟩
    by_cases hfit : s.length ≤ size
    · exact .inl hfit
    · by_cases hroom : 4 ≤ size
      · exact .inr (.inl hroom)
      · exact .inr (.inr (excerpt_of_no_room (Nat.lt_of_not_le hfit) (Nat.lt_of_not_le hroom)))
  | error e =>
    rw [inspect, h]
    rfl

/-- In three characters the dots are all that should be shown of `'abcd'`. -/
theorem not_abridges_inspect_three :
    ∃ s t, (text "abcd".toList).written = .ok s ∧ (text "abcd".toList).inspect 3 = .ok t ∧
      ¬ Abridges 3 s t ∧ t = "...'abcd'".toList := by
  have hquoted : Text.quoted "abcd".toList = "'abcd'".toList := by decide +kernel
  have hwritten : (text "abcd".toList).written = .ok "'abcd'".toList := congrArg Except.ok hquoted
  refine ⟨_, _, hwritten, inspect_of_written 3 hwritten, fun h => ?_, rfl⟩
  exact absurd h.length_le (by decide)

end Value

end NaturalOrder
