import NaturalOrder.Collator.Root
import NaturalOrder.Proofs.BareText
import NaturalOrder.Proofs.Lowercase

/-!
# Keys of the root collation

A digit decomposes and folds to itself, and nothing else decomposes or folds to a text that starts with
a digit. So a key starts with a digit where the text does (`digitFirst?_base`). No mark moves over a
character that is none, so that in front of one the key of a text falls into two (`ofText_append`), and so
it does in front of a digit (`base_append`).
-/

namespace NaturalOrder

theorem not_isDigit_of_lt {c : Char} (h : 0x39 < c.toNat) : c.isDigit = false := by
  rw [Bool.eq_false_iff]
  exact fun hd => absurd (Char.isDigit_iff_toNat.1 hd).2 (Nat.not_le.2 h)

theorem not_isDigit_ofNat {n : Nat} (h : 0x39 < n) : (Char.ofNat n).isDigit = false := by
  by_cases hn : n.isValidChar
  · rw [Char.ofNat, dif_pos hn]
    exact not_isDigit_of_lt h
  · rw [Char.ofNat, dif_neg hn]
    decide

namespace Unicode
variable {c d : Char} {s u v : Text}

/-! ### Characters -/

theorem combiningClass_of_lt (h : c.toNat < 0x300) : combiningClass c = 0 := if_pos h

theorem not_isMark_of_lt (h : c.toNat < 0x300) : isMark c = false := by
  rw [isMark, combiningClass_of_lt h]
  rfl

theorem isMark_of_lt (h : combiningClass d < combiningClass c) : isMark c = true := by
  simp only [isMark, bne_iff_ne]
  omega

theorem not_isMark_of_isDigit (h : c.isDigit) : isMark c = false :=
  not_isMark_of_lt (Nat.lt_of_le_of_lt (Char.isDigit_iff_toNat.1 h).2 (by decide))

theorem not_isDigit_of_isMark (h : isMark c = true) : c.isDigit = false := by
  rw [Bool.eq_false_iff]
  intro hd
  rw [not_isMark_of_isDigit hd] at h
  cases h

theorem decompositions_head : ∀ p ∈ decompositions, ∃ n ∈ p.2.head?, 0x39 < n := by decide +kernel

theorem fullFoldings_head : ∀ p ∈ fullFoldings, ∃ n ∈ p.2.head?, 0x39 < n := by decide +kernel

theorem foldingRuns_image : ∀ r ∈ foldingRuns, 0x39 < r.image := by decide +kernel

theorem digitFirst?_map_ofNat {ns : List Nat} (h : ∃ n ∈ ns.head?, 0x39 < n) :
    digitFirst? (ns.map Char.ofNat) = some false := by
  obtain ⟨n, hn, hlt⟩ := h
  rw [digitFirst?, List.head?_map, hn]
  exact congrArg some (not_isDigit_ofNat hlt)

theorem digitFirst?_lookup {table : List (Nat × List Nat)} {n : Nat} {ns : List Nat}
    (ht : ∀ p ∈ table, ∃ n ∈ p.2.head?, 0x39 < n) (h : table.lookup n = some ns) :
    digitFirst? (ns.map Char.ofNat) = some false := by
  obtain ⟨l₁, l₂, rfl, -⟩ := List.lookup_eq_some_iff.1 h
  exact digitFirst?_map_ofNat (ht (n, ns) (by simp))

/-- A character decomposes to something that starts with a digit only if it is one. -/
theorem digitFirst?_decompose (c : Char) : digitFirst? (decompose c) = some c.isDigit := by
  simp only [decompose]
  split
  · rfl
  · next hn =>
    rw [not_isDigit_of_lt (by omega)]
    split
    · refine digitFirst?_map_ofNat ?_
      unfold hangulParts
      split <;> exact ⟨_, rfl, by omega⟩
    · split
      · next h => exact digitFirst?_lookup decompositions_head h
      · exact congrArg some (not_isDigit_of_lt (by omega))

theorem digitFirst?_foldCase (c : Char) : digitFirst? (foldCase c) = some c.isDigit := by
  simp only [foldCase]
  split
  · exact congrArg some (isDigit_toLower c)
  · next hn =>
    rw [not_isDigit_of_lt (by omega)]
    split
    · next h => exact digitFirst?_lookup fullFoldings_head h
    · split
      · next folded h =>
        obtain ⟨r, hr, hm⟩ := List.exists_of_findSome?_eq_some h
        refine congrArg some (not_isDigit_ofNat ?_)
        have := foldingRuns_image r hr
        unfold CaseRun.map? at hm
        split at hm
        · cases hm
          omega
        · cases hm
      · exact congrArg some (not_isDigit_of_lt (by omega))

/-! ### Texts -/

/-- Nothing at the start of a text attaches to what stands before it. -/
def Detached (s : Text) : Prop := ∀ d ∈ s.head?, isMark d = false

theorem detached_cons (h : isMark c = false) (s : Text) : Detached (c :: s) := by
  rintro _ ⟨⟩
  exact h

theorem insertMark_append (hv : Detached v) (c : Char) (u : Text) :
    insertMark c (u ++ v) = insertMark c u ++ v := by
  induction u with
  | nil =>
    cases v with
    | nil => rfl
    | cons d rest =>
      have hd : isMark d = false := hv d rfl
      simp [insertMark, hd]
  | cons d u ih =>
    rw [List.cons_append, insertMark, insertMark]
    split
    · rw [ih, List.cons_append]
    · rfl

theorem detached_insertMark (h : isMark c = false) (s : Text) : insertMark c s = c :: s := by
  have hc : combiningClass c = 0 := by simpa [isMark] using h
  cases s with
  | nil => rfl
  | cons d rest => simp [insertMark, hc]

/-- Only a mark stands in front of a character that has been put in front of a text. -/
theorem exists_head?_insertMark (c : Char) (s : Text) :
    ∃ e ∈ (insertMark c s).head?, e = c ∨ isMark e = true := by
  cases s with
  | nil => exact ⟨c, rfl, .inl rfl⟩
  | cons d rest =>
    rw [insertMark]
    split
    · next h => exact ⟨d, rfl, .inr (Bool.and_eq_true_iff.1 h).1⟩
    · exact ⟨c, rfl, .inl rfl⟩

/-- A text has a mark at its start in canonical order only if it has one there before. -/
theorem detached_reorderMarks_iff : Detached (reorderMarks v) ↔ Detached v := by
  cases v with
  | nil => rfl
  | cons d rest =>
    constructor
    · intro h
      obtain ⟨e, he, rfl | hm⟩ := exists_head?_insertMark d (reorderMarks rest)
      · rintro _ ⟨⟩
        exact h e he
      · rw [h e he] at hm
        cases hm
    · intro hv
      have hd : isMark d = false := hv d rfl
      show Detached (insertMark d (reorderMarks rest))
      rw [detached_insertMark hd]
      exact hv

/-- Marks stay on their side of a place where nothing attaches to what stands before. -/
theorem reorderMarks_append (hv : Detached v) (u : Text) :
    reorderMarks (u ++ v) = reorderMarks u ++ reorderMarks v := by
  induction u with
  | nil => rfl
  | cons c u ih =>
    show insertMark c (reorderMarks (u ++ v)) = insertMark c (reorderMarks u) ++ reorderMarks v
    rw [ih, insertMark_append (detached_reorderMarks_iff.2 hv)]

theorem digitFirst?_flatMap_decompose (s : Text) : digitFirst? (s.flatMap decompose) = digitFirst? s := by
  cases s with
  | nil => rfl
  | cons c rest =>
    rw [List.flatMap_cons, digitFirst?_append, digitFirst?_decompose]
    rfl

theorem digitFirst?_insertMark (c : Char) (s : Text) : digitFirst? (insertMark c s) = some c.isDigit := by
  cases s with
  | nil => rfl
  | cons d rest =>
    rw [insertMark]
    split
    · next h =>
      simp only [Bool.and_eq_true, decide_eq_true_eq] at h
      -- only a mark moves past a mark
      rw [not_isDigit_of_isMark (isMark_of_lt h.2)]
      exact congrArg some (not_isDigit_of_isMark h.1)
    · rfl

theorem digitFirst?_canonical (s : Text) : digitFirst? (canonical s) = digitFirst? s := by
  rw [← digitFirst?_flatMap_decompose s, canonical]
  cases s.flatMap decompose with
  | nil => rfl
  | cons c rest => exact digitFirst?_insertMark c (reorderMarks rest)

theorem detached_of_digitFirst? (h : digitFirst? s ≠ some false) : Detached s := by
  cases s with
  | nil => exact fun d hd => nomatch hd
  | cons c rest =>
    cases hc : c.isDigit with
    | true => exact detached_cons (not_isMark_of_isDigit hc) rest
    | false => exact absurd (congrArg some hc) h

theorem canonical_append (u : Text) (hv : Detached (canonical v)) :
    canonical (u ++ v) = canonical u ++ canonical v := by
  rw [canonical, List.flatMap_append, reorderMarks_append (detached_reorderMarks_iff.1 hv)]
  rfl

end Unicode

namespace Letter
variable {v : Text}

theorem split_cons (c : Char) (s : Text) :
    split (c :: s) = if Unicode.isMark c then (c :: (split s).1, (split s).2)
      else ([], ⟨c, (split s).1⟩ :: (split s).2) := rfl

theorem split_of_detached (hv : Unicode.Detached v) : (split v).1 = [] := by
  cases v with
  | nil => rfl
  | cons c v =>
    have hc : Unicode.isMark c = false := hv c rfl
    rw [split_cons, hc]
    rfl

theorem split_append (u : Text) (hv : Unicode.Detached v) :
    split (u ++ v) = ((split u).1, (split u).2 ++ (split v).2) := by
  induction u with
  | nil => exact Prod.ext (split_of_detached hv) rfl
  | cons c u ih =>
    rw [List.cons_append, split_cons, split_cons, ih]
    split <;> rfl

theorem ofCanonical_append (u : Text) (hv : Unicode.Detached v) :
    ofCanonical (u ++ v) = ofCanonical u ++ ofCanonical v := by
  have hs := split_append u hv
  have h := split_of_detached hv
  unfold ofCanonical
  rcases hu : split u with ⟨marks, letters⟩
  rcases hw : split v with ⟨first, others⟩
  rw [hu, hw] at hs
  rw [hw] at h
  obtain rfl : first = [] := h
  rw [hs]
  cases marks <;> rfl

/-- The first letter has the first character as its base, a mark or not. -/
theorem ofCanonical_cons (c : Char) (s : Text) : ofCanonical (c :: s) = ⟨c, (split s).1⟩ :: (split s).2 := by
  rw [ofCanonical, split_cons]
  cases Unicode.isMark c <;> rfl

theorem head?_ofCanonical (s : Text) : (ofCanonical s).head?.map (·.base) = s.head? := by
  cases s with
  | nil => rfl
  | cons c rest =>
    rw [ofCanonical_cons]
    rfl

end Letter

namespace CollationKey
variable {u v : Text}

/-- Keys are put together level by level. -/
instance : Append CollationKey :=
  ⟨fun k l => ⟨k.base ++ l.base, k.accents ++ l.accents, k.cases ++ l.cases⟩⟩

theorem ofLetters_append (k l : List Letter) : ofLetters (k ++ l) = ofLetters k ++ ofLetters l := by
  rw [ofLetters, List.flatMap_append, List.map_append, List.map_append]
  rfl

theorem ofText_append (u : Text) (hv : Unicode.Detached (Unicode.canonical v)) :
    ofText (u ++ v) = ofText u ++ ofText v := by
  rw [ofText, Unicode.canonical_append u hv, Letter.ofCanonical_append _ hv, ofLetters_append]
  rfl

theorem base_append (u : Text) (hv : digitFirst? v ≠ some false) :
    (ofText (u ++ v)).base = (ofText u).base ++ (ofText v).base := by
  have hd : Unicode.Detached (Unicode.canonical v) := by
    refine Unicode.detached_of_digitFirst? ?_
    rwa [Unicode.digitFirst?_canonical]
  rw [ofText_append u hd]
  rfl

/-- Keys start with a digit where the texts do. -/
theorem digitFirst?_base (s : Text) : digitFirst? (ofText s).base = digitFirst? s := by
  rw [← Unicode.digitFirst?_canonical s]
  unfold ofText ofLetters
  conv => rhs; rw [digitFirst?, ← Letter.head?_ofCanonical]
  cases Letter.ofCanonical (Unicode.canonical s) with
  | nil => rfl
  | cons l letters =>
    rw [List.flatMap_cons, digitFirst?_append, Unicode.digitFirst?_foldCase]
    rfl

end CollationKey

end NaturalOrder
