import NaturalOrder.Proofs.RootKey

/-!
# The case of ASCII letters

Texts that differ in the case of ASCII letters alone (`SameButCase`) differ first in two letters of which one
is in lowercase and the other is not (`SameButCase.exists_first_difference`, `Unicode.isUpper_of_toLower_eq`).
Case is no matter for what a character decomposes or folds to and for the order of marks, so such texts stay
so in canonical order (`SameButCase.canonical`). Their lowercase forms are the same
(`SameButCase.lowercaseText_eq`).
-/

namespace NaturalOrder

/-- Two texts are the same but for the case of their ASCII letters. -/
def SameButCase (s t : Text) : Prop := s.map Char.toLower = t.map Char.toLower

instance (s t : Text) : Decidable (SameButCase s t) := inferInstanceAs (Decidable (_ = _))

namespace Unicode
variable {c d : Char}

/-! ### Characters -/

theorem eq_or_ascii_of_toLower_eq (h : c.toLower = d.toLower) :
    c = d ∨ c.toNat < 0x80 ∧ d.toNat < 0x80 := by
  have hn := congrArg Char.toNat h
  rw [toNat_toLower, toNat_toLower] at hn
  rw [← Char.toNat_inj]
  split at hn <;> split at hn <;> omega

theorem combiningClass_toLower (c : Char) : combiningClass c.toLower = combiningClass c :=
  apply_toLower (by decide) c

theorem isMark_toLower (c : Char) : isMark c.toLower = isMark c := apply_toLower (by decide) c

theorem toLower_of_isMark (h : isMark c = true) : c.toLower = c := by
  refine toLower_eq_self (.inr (Nat.not_le.1 fun hle => ?_))
  rw [not_isMark_of_lt (by omega)] at h
  cases h

theorem foldCase_toLower (c : Char) : foldCase c.toLower = foldCase c := apply_toLower (by decide) c

theorem decompose_of_ascii (h : c.toNat < 0x80) : decompose c = [c] := if_pos (by omega)

theorem sameButCase_decompose (h : c.toLower = d.toLower) : SameButCase (decompose c) (decompose d) := by
  rcases eq_or_ascii_of_toLower_eq h with rfl | ⟨hc, hd⟩
  · exact rfl
  · rw [decompose_of_ascii hc, decompose_of_ascii hd]
    exact congrArg (fun l => [l]) h

theorem isUpper_of_ascii (h : c.toNat < 0x80) : isUpper c = decide (0x41 ≤ c.toNat ∧ c.toNat ≤ 0x5A) := by
  rw [isUpper, lowercase, if_pos h, Bool.eq_iff_iff, bne_iff_ne, decide_eq_true_eq, Ne, List.singleton_inj,
    ← Char.toNat_inj, toNat_toLower]
  split <;> omega

theorem isLower_eq (c : Char) : c.isLower = decide (0x61 ≤ c.toNat ∧ c.toNat ≤ 0x7A) := by
  show (decide ('a'.val ≤ c.val) && decide (c.val ≤ 'z'.val)) = _
  rw [Bool.eq_iff_iff, Bool.and_eq_true, decide_eq_true_eq, decide_eq_true_eq, decide_eq_true_eq]
  rfl

/-- Of two letters that differ in case alone one is in lowercase and the other is not. -/
theorem isUpper_of_toLower_eq (h : c.toLower = d.toLower) (hne : c ≠ d) :
    isUpper c = !c.isLower ∧ isUpper d = c.isLower := by
  obtain ⟨hc, hd⟩ := (eq_or_ascii_of_toLower_eq h).resolve_left hne
  have hn := congrArg Char.toNat h
  have hne' := mt Char.toNat_inj.1 hne
  rw [toNat_toLower, toNat_toLower] at hn
  rw [isUpper_of_ascii hc, isUpper_of_ascii hd, isLower_eq, ← decide_not, decide_eq_decide, decide_eq_decide]
  split at hn <;> split at hn <;> omega

/-! ### Texts -/

theorem insertMark_map_toLower (c : Char) (s : Text) :
    insertMark c.toLower (s.map Char.toLower) = (insertMark c s).map Char.toLower := by
  induction s with
  | nil => rfl
  | cons d s ih =>
    rw [List.map_cons, insertMark, insertMark, isMark_toLower, combiningClass_toLower,
      combiningClass_toLower, ih]
    split <;> rfl

theorem reorderMarks_map_toLower (s : Text) :
    reorderMarks (s.map Char.toLower) = (reorderMarks s).map Char.toLower := by
  induction s with
  | nil => rfl
  | cons c s ih =>
    show insertMark c.toLower (reorderMarks (s.map Char.toLower)) =
      (insertMark c (reorderMarks s)).map Char.toLower
    rw [ih, insertMark_map_toLower]

end Unicode

namespace SameButCase
variable {s t u v : Text} {c : Char}

theorem lowercaseText_eq (h : SameButCase s t) : Unicode.lowercaseText s = Unicode.lowercaseText t := by
  rw [← Unicode.lowercaseText_map_toLower s, h, Unicode.lowercaseText_map_toLower]

theorem eq_nil (h : SameButCase [] t) : t = [] := List.map_eq_nil_iff.1 h.symm

theorem exists_cons (h : SameButCase (c :: s) t) :
    ∃ d u, t = d :: u ∧ c.toLower = d.toLower ∧ SameButCase s u := by
  obtain ⟨d, u, rfl, hd, hu⟩ := List.map_eq_cons_iff.1 h.symm
  exact ⟨d, u, rfl, hd.symm, hu.symm⟩

theorem append (h : SameButCase s t) (h' : SameButCase u v) : SameButCase (s ++ u) (t ++ v) := by
  rw [SameButCase, List.map_append, List.map_append, h, h']

theorem flatMap_decompose (h : SameButCase s t) :
    SameButCase (s.flatMap Unicode.decompose) (t.flatMap Unicode.decompose) := by
  induction s generalizing t with
  | nil =>
    obtain rfl := h.eq_nil
    rfl
  | cons c s ih =>
    obtain ⟨d, u, rfl, hd, hu⟩ := h.exists_cons
    rw [List.flatMap_cons, List.flatMap_cons]
    exact (Unicode.sameButCase_decompose hd).append (ih hu)

/-- Texts that are the same but for case stay so in canonical order. -/
theorem canonical (h : SameButCase s t) : SameButCase (Unicode.canonical s) (Unicode.canonical t) := by
  rw [SameButCase, Unicode.canonical, Unicode.canonical, ← Unicode.reorderMarks_map_toLower,
    h.flatMap_decompose, Unicode.reorderMarks_map_toLower]

theorem exists_first_difference (h : SameButCase s t) (hne : s ≠ t) :
    ∃ p x y u v, s = p ++ x :: u ∧ t = p ++ y :: v ∧ x ≠ y := by
  induction s generalizing t with
  | nil => exact absurd h.eq_nil.symm hne
  | cons x s ih =>
    obtain ⟨y, t, rfl, -, hrest⟩ := h.exists_cons
    by_cases hxy : x = y
    · subst hxy
      obtain ⟨p, a, b, u, v, rfl, rfl, hab⟩ := ih hrest fun hst => hne (congrArg (x :: ·) hst)
      exact ⟨x :: p, a, b, u, v, rfl, rfl, hab⟩
    · exact ⟨[], x, y, s, t, rfl, rfl, hxy⟩

end SameButCase

end NaturalOrder
