import NaturalOrder.Unicode.Basic
import NaturalOrder.Unicode.Lowercase

/-!
# Lowercase and the case of ASCII letters

A function of characters makes no difference between the two cases of an ASCII letter if it makes none for
each of the 26 (`Unicode.apply_toLower`). This is so for all that decides how a text is put into lowercase,
the search for the neighbours of a sigma included. So the lowercase form of a text stays the same when its
ASCII letters are put into lowercase first (`Unicode.lowercaseText_map_toLower`).
-/

namespace NaturalOrder.Unicode

variable {c d : Char}

theorem toLower_eq_self (h : c.toNat < 0x41 ∨ 0x5A < c.toNat) : c.toLower = c := by
  rw [← Char.toNat_inj, toNat_toLower, if_neg (by omega)]

/-- What is the same for each letter from A to Z and its lowercase form is so for all characters. -/
theorem apply_toLower {α : Type} {p : Char → α}
    (h : ∀ i < 26, p (Char.ofNat (0x61 + i)) = p (Char.ofNat (0x41 + i))) (c : Char) :
    p c.toLower = p c := by
  by_cases hc : 0x41 ≤ c.toNat ∧ c.toNat ≤ 0x5A
  · have hi := h (c.toNat - 0x41) (by omega)
    have hupper : 0x41 + (c.toNat - 0x41) = c.toNat := by omega
    have hlower : 0x61 + (c.toNat - 0x41) = c.toLower.toNat := by
      rw [toNat_toLower, if_pos hc]
      omega
    rwa [hupper, hlower, Char.ofNat_toNat, Char.ofNat_toNat] at hi
  · rw [toLower_eq_self (by omega)]

theorem isAlpha_toLower (c : Char) : c.toLower.isAlpha = c.isAlpha := apply_toLower (by decide) c

theorem isAlphanum_toLower (c : Char) : c.toLower.isAlphanum = c.isAlphanum := apply_toLower (by decide) c

theorem isDigit_toLower (c : Char) : c.toLower.isDigit = c.isDigit := apply_toLower (by decide) c

theorem isBlank_toLower (c : Char) : isBlank c.toLower = isBlank c := apply_toLower (by decide) c

theorem lowercase_toLower (c : Char) : lowercase c.toLower = lowercase c := apply_toLower (by decide) c

theorem isCaseIgnorable_toLower (c : Char) : isCaseIgnorable c.toLower = isCaseIgnorable c :=
  apply_toLower (by decide) c

theorem isCased_toLower (c : Char) : isCased c.toLower = isCased c := apply_toLower (by decide) c

theorem toLower_eq_iff (hd : ¬ d.isAlpha) : c.toLower = d ↔ c = d := by
  have hletters : ∀ i < 26, (Char.ofNat (0x61 + i)).isAlpha ∧ (Char.ofNat (0x41 + i)).isAlpha := by decide
  refine decide_eq_decide.1 (apply_toLower (p := fun e => decide (e = d)) (fun i hi => ?_) c)
  have hlower : Char.ofNat (0x61 + i) ≠ d := fun h => hd (h ▸ (hletters i hi).1)
  have hupper : Char.ofNat (0x41 + i) ≠ d := fun h => hd (h ▸ (hletters i hi).2)
  rw [decide_eq_false hlower, decide_eq_false hupper]

theorem meetsCased_map_toLower (s : List Char) : meetsCased (s.map Char.toLower) = meetsCased s := by
  have hskip : isCaseIgnorable ∘ Char.toLower = isCaseIgnorable := funext isCaseIgnorable_toLower
  rw [meetsCased, meetsCased, List.dropWhile_map, hskip]
  cases s.dropWhile isCaseIgnorable with
  | nil => rfl
  | cons c rest => exact isCased_toLower c

theorem lowercaseAfter_map_toLower (before s : List Char) :
    lowercaseAfter (before.map Char.toLower) (s.map Char.toLower) = lowercaseAfter before s := by
  induction s generalizing before with
  | nil => rfl
  | cons c s ih =>
    have hsigma : c.toLower = 'Σ' ↔ c = 'Σ' := toLower_eq_iff (by decide)
    have hrest := ih (c :: before)
    rw [List.map_cons] at hrest ⊢
    simp only [lowercaseAfter, hsigma, meetsCased_map_toLower, lowercase_toLower, hrest]

/-- Whether a capital sigma is final does not depend on the case of the letters around it. -/
theorem lowercaseText_map_toLower (s : List Char) : lowercaseText (s.map Char.toLower) = lowercaseText s :=
  lowercaseAfter_map_toLower [] s

end NaturalOrder.Unicode
