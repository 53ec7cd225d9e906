import NaturalOrder.Proofs.AsciiCase
import NaturalOrder.Proofs.KeyAppend

/-!
# Accents and case in the root collation

Texts that are the same but for the case of ASCII letters have the same letters but for the case of their
bases, so their keys agree at the first two levels (`CollationKey.base_accents_of_sameButCase`), and the third
goes by the first letter that differs (`rootOrder_of_first_difference`). Marks that come after a starter are
all of the accents of its letter (`Unicode.exists_starter`, `Letter.exists_accented`). So a text comes before
the same text with accents put in, whatever the case of its letters is (`Collator.root_accents_before_case`).
-/

namespace NaturalOrder

namespace Unicode
variable {c d : Char} {s u : Text}

theorem canonical_eq_nil : Unicode.canonical s = [] ↔ s = [] := by
  rw [← digitFirst?_eq_none, digitFirst?_canonical, digitFirst?_eq_none]

theorem canonical_cons_of_ascii (h : c.toNat < 0x80) (s : Text) :
    Unicode.canonical (c :: s) = c :: Unicode.canonical s := by
  rw [Unicode.canonical, List.flatMap_cons, decompose_of_ascii h]
  exact detached_insertMark (not_isMark_of_lt (by omega)) _

/-- A mark at the end moves only if another mark comes to stand there. -/
theorem isMark_getLast?_insertMark (c : Char) (h : ∃ d ∈ s.getLast?, isMark d = true) :
    ∃ d ∈ (insertMark c s).getLast?, isMark d = true := by
  induction s with
  | nil =>
    obtain ⟨d, hd, -⟩ := h
    cases hd
  | cons e s ih =>
    rw [insertMark]
    split
    · next he =>
      rw [Bool.and_eq_true, decide_eq_true_eq] at he
      cases s with
      | nil => exact ⟨c, rfl, isMark_of_lt he.2⟩
      | cons f s =>
        rw [List.getLast?_cons_cons] at h
        obtain ⟨d, hd, hmark⟩ := ih h
        refine ⟨d, ?_, hmark⟩
        rw [List.getLast?_cons, hd]
        rfl
    · obtain ⟨d, hd, hmark⟩ := h
      refine ⟨d, ?_, hmark⟩
      rw [List.getLast?_cons_cons]
      exact hd

theorem isMark_getLast?_reorderMarks (s : Text) (hd : isMark d = true) :
    ∃ e ∈ (reorderMarks (s ++ [d])).getLast?, isMark e = true := by
  induction s with
  | nil => exact ⟨d, rfl, hd⟩
  | cons c s ih => exact isMark_getLast?_insertMark c ih

/-- Where a text ends in a starter, what follows it is decomposed and put in order by itself. -/
theorem exists_starter (hu : ∃ c ∈ (Unicode.canonical u).getLast?, isMark c = false) :
    ∃ p c, isMark c = false ∧ ∀ w, Unicode.canonical (u ++ w) = p ++ c :: Unicode.canonical w := by
  obtain ⟨e, he, hstarter⟩ := hu
  rcases List.eq_nil_or_concat' (u.flatMap decompose) with hnil | ⟨p, c, hparts⟩
  · rw [Unicode.canonical, hnil] at he
    cases he
  · have hc : isMark c = false := by
      rw [Bool.eq_false_iff]
      intro hmark
      obtain ⟨d, hd, hdmark⟩ := isMark_getLast?_reorderMarks p hmark
      rw [Unicode.canonical, hparts] at he
      obtain rfl := Option.mem_unique he hd
      rw [hstarter] at hdmark
      cases hdmark
    refine ⟨reorderMarks p, c, hc, fun w => ?_⟩
    have hcons : reorderMarks (c :: w.flatMap decompose) = c :: Unicode.canonical w := detached_insertMark hc _
    rw [Unicode.canonical, List.flatMap_append, hparts, List.append_assoc, List.singleton_append,
      reorderMarks_append (detached_cons hc _), hcons]

end Unicode

namespace Letter
variable {c : Char} {m s t u : Text}

/-- The letter with its base in lowercase, if that is in ASCII. -/
def toLower (l : Letter) : Letter := { l with base := l.base.toLower }

theorem split_map_toLower (s : Text) :
    split (s.map Char.toLower) = ((split s).1, (split s).2.map toLower) := by
  induction s with
  | nil => rfl
  | cons c s ih =>
    rw [List.map_cons, split_cons, split_cons, Unicode.isMark_toLower, ih]
    split
    · next h => rw [Unicode.toLower_of_isMark h]
    · rfl

theorem ofCanonical_map_toLower (s : Text) :
    ofCanonical (s.map Char.toLower) = (ofCanonical s).map toLower := by
  cases s with
  | nil => rfl
  | cons c s =>
    rw [List.map_cons, ofCanonical_cons, split_map_toLower, ofCanonical_cons]
    rfl

theorem map_toLower_ofCanonical (h : SameButCase s t) :
    (ofCanonical s).map toLower = (ofCanonical t).map toLower := by
  rw [← ofCanonical_map_toLower, ← ofCanonical_map_toLower, h]

theorem split_of_forall_isMark (hm : ∀ c ∈ m, Unicode.isMark c = true) : split m = (m, []) := by
  induction m with
  | nil => rfl
  | cons c m ih =>
    obtain ⟨hc, hm⟩ := List.forall_mem_cons.1 hm
    rw [split_cons, if_pos hc, ih hm]

/-- The marks after a starter are those of its letter. -/
theorem ofCanonical_accented (p : Text) (hc : Unicode.isMark c = false)
    (hm : ∀ d ∈ m, Unicode.isMark d = true) : ofCanonical (p ++ c :: m) = ofCanonical p ++ [⟨c, m⟩] := by
  rw [ofCanonical_append p (Unicode.detached_cons hc m), ofCanonical_cons, split_of_forall_isMark hm]

/-- Where a text ends in a starter, the marks that are put after it are accents of its last letter. -/
theorem exists_accented (hu : ∃ c ∈ (Unicode.canonical u).getLast?, Unicode.isMark c = false) :
    ∃ letters c, ∀ w, (∀ d ∈ Unicode.canonical w, Unicode.isMark d = true) →
      ofCanonical (Unicode.canonical (u ++ w)) = letters ++ [⟨c, Unicode.canonical w⟩] := by
  obtain ⟨p, c, hc, hcanonical⟩ := Unicode.exists_starter hu
  refine ⟨ofCanonical p, c, fun w hw => ?_⟩
  rw [hcanonical, ofCanonical_accented p hc hw]

end Letter

namespace CollationKey
variable {s t : Text}

theorem base_map_toLower (letters : List Letter) :
    (ofLetters (letters.map Letter.toLower)).base = (ofLetters letters).base := by
  show (letters.map Letter.toLower).flatMap (fun l => Unicode.foldCase l.base) = _
  rw [List.flatMap_map]
  exact List.flatMap_congr fun l _ => Unicode.foldCase_toLower l.base

theorem accents_map_toLower (letters : List Letter) :
    (ofLetters (letters.map Letter.toLower)).accents = (ofLetters letters).accents := by
  show (letters.map Letter.toLower).map (·.marks) = _
  rw [List.map_map]
  rfl

/-- The case of ASCII letters is seen at the third level only. -/
theorem base_accents_of_sameButCase (h : SameButCase s t) :
    (ofText s).base = (ofText t).base ∧ (ofText s).accents = (ofText t).accents := by
  have hletters := Letter.map_toLower_ofCanonical h.canonical
  constructor
  · rw [ofText, ← base_map_toLower, hletters, base_map_toLower]
    rfl
  · rw [ofText, ← accents_map_toLower, hletters, accents_map_toLower]
    rfl

/-- An ASCII letter is seen at the third level at the place of its letter. -/
theorem exists_cases_append (p : Text) {c : Char} (h : c.toNat < 0x80) (s : Text) :
    ∃ cs, (ofText (p ++ c :: s)).cases = (ofText p).cases ++ Unicode.isUpper c :: cs := by
  have hcanonical := Unicode.canonical_cons_of_ascii h s
  have hdetached : Unicode.Detached (Unicode.canonical (c :: s)) := by
    rw [hcanonical]
    exact Unicode.detached_cons (Unicode.not_isMark_of_lt (by omega)) _
  rw [ofText_append p hdetached]
  refine ⟨(ofLetters (Letter.split (Unicode.canonical s)).2).cases, ?_⟩
  show (ofText p).cases ++ (ofText (c :: s)).cases = _
  rw [ofText, ofText, hcanonical, Letter.ofCanonical_cons]
  rfl

end CollationKey

section
variable {a b p r s u v w : Text} {x y : Char}

theorem rootOrder_of_accents_lt (hbase : (CollationKey.ofText a).base = (CollationKey.ofText b).base)
    (h : compare (CollationKey.ofText a).accents (CollationKey.ofText b).accents = .lt) :
    rootOrder a b = .lt := by
  rw [rootOrder_eq_order, CollationKey.order, hbase, h, Std.ReflOrd.compare_self]
  rfl

theorem rootOrder_of_sameButCase (h : SameButCase a b) :
    rootOrder a b = compare (CollationKey.ofText a).cases (CollationKey.ofText b).cases := by
  obtain ⟨hbase, haccents⟩ := CollationKey.base_accents_of_sameButCase h
  rw [rootOrder_eq_order, CollationKey.order, hbase, haccents, Std.ReflOrd.compare_self, Std.ReflOrd.compare_self]
  rfl

/-- Marks after a starter are seen at the second level only, as more accents of one letter. -/
theorem base_accents_accented (hu : ∃ c ∈ (Unicode.canonical u).getLast?, Unicode.isMark c = false)
    (hw : w ≠ []) (hmarks : ∀ c ∈ Unicode.canonical w, Unicode.isMark c = true)
    (hv : Unicode.Detached (Unicode.canonical v)) :
    (CollationKey.ofText (u ++ v)).base = (CollationKey.ofText (u ++ w ++ v)).base ∧
      compare (CollationKey.ofText (u ++ v)).accents (CollationKey.ofText (u ++ w ++ v)).accents = .lt := by
  obtain ⟨letters, c, hletters⟩ := Letter.exists_accented hu
  have hplain : CollationKey.ofText u =
      CollationKey.ofLetters letters ++ CollationKey.ofLetters [⟨c, []⟩] := by
    have h := hletters [] nofun
    rw [List.append_nil] at h
    rw [CollationKey.ofText, h, CollationKey.ofLetters_append]
    rfl
  have haccented : CollationKey.ofText (u ++ w) =
      CollationKey.ofLetters letters ++ CollationKey.ofLetters [⟨c, Unicode.canonical w⟩] := by
    rw [CollationKey.ofText, hletters w hmarks, CollationKey.ofLetters_append]
  obtain ⟨d, ds, hds⟩ := List.exists_cons_of_ne_nil (mt Unicode.canonical_eq_nil.1 hw)
  rw [CollationKey.ofText_append u hv, CollationKey.ofText_append (u ++ w) hv, hplain, haccented]
  refine ⟨rfl, ?_⟩
  show compare ((CollationKey.ofLetters letters).accents ++ [[]] ++ (CollationKey.ofText v).accents)
    ((CollationKey.ofLetters letters).accents ++ [Unicode.canonical w] ++ (CollationKey.ofText v).accents) = .lt
  rw [List.append_assoc, List.append_assoc, compare_append_left, hds]
  rfl

theorem rootOrder_of_first_difference (h : SameButCase (p ++ x :: r) (p ++ y :: s)) (hne : x ≠ y) :
    rootOrder (p ++ x :: r) (p ++ y :: s) = if x.isLower then .lt else .gt := by
  have hmap := h
  rw [SameButCase, List.map_append, List.map_append, List.append_cancel_left_eq] at hmap
  have hxy : x.toLower = y.toLower := (List.cons.inj hmap).1
  obtain ⟨hx, hy⟩ := (Unicode.eq_or_ascii_of_toLower_eq hxy).resolve_left hne
  obtain ⟨us, hus⟩ := CollationKey.exists_cases_append p hx r
  obtain ⟨vs, hvs⟩ := CollationKey.exists_cases_append p hy s
  obtain ⟨hux, huy⟩ := Unicode.isUpper_of_toLower_eq hxy hne
  rw [rootOrder_of_sameButCase h, hus, hvs, compare_append_left, List.compare_cons_cons, hux, huy]
  cases x.isLower <;> rfl

end

namespace Collator

/-- A text comes before the same text with marks put in after a starter, whatever the case of the ASCII letters
in both of them is. Of two texts that differ in this case alone, the one with the lowercase letter at the first
difference comes first. -/
theorem root_accents_before_case :
    (∀ u w v a b : Text, (∃ c ∈ (Unicode.canonical u).getLast?, Unicode.isMark c = false) →
      w ≠ [] → (∀ c ∈ Unicode.canonical w, Unicode.isMark c = true) →
      Unicode.Detached (Unicode.canonical v) → SameButCase a (u ++ v) → SameButCase b (u ++ w ++ v) →
      ((root : Collator Id).compare a b).run = .lt) ∧
    ∀ a b : Text, a ≠ b → SameButCase a b →
      (((root : Collator Id).compare a b).run = .lt ↔
        ∃ p x y r s, a = p ++ x :: r ∧ b = p ++ y :: s ∧ x ≠ y ∧ x.isLower) := by
  constructor
  · intro u w v a b hu hw hmarks hv ha hb
    obtain ⟨hbase, haccents⟩ := base_accents_accented hu hw hmarks hv
    obtain ⟨habase, haaccents⟩ := CollationKey.base_accents_of_sameButCase ha
    obtain ⟨hbbase, hbaccents⟩ := CollationKey.base_accents_of_sameButCase hb
    refine rootOrder_of_accents_lt ?_ ?_
    · rw [habase, hbbase, hbase]
    · rw [haaccents, hbaccents, haccents]
  · intro a b hne h
    show rootOrder a b = .lt ↔ _
    constructor
    · intro hlt
      obtain ⟨p, x, y, r, s, rfl, rfl, hxy⟩ := h.exists_first_difference hne
      refine ⟨p, x, y, r, s, rfl, rfl, hxy, ?_⟩
      by_contra hlower
      rw [rootOrder_of_first_difference h hxy, if_neg hlower] at hlt
      cases hlt
    · rintro ⟨p, x, y, r, s, rfl, rfl, hxy, hlower⟩
      rw [rootOrder_of_first_difference h hxy, if_pos hlower]

/-- Capitals come first if the other text has accents, and a capital at the end is not seen if there is one in
the other text before. -/
theorem root_accents_before_case_capitals :
    (∃ c ∈ (Unicode.canonical "\u00e9te".toList).getLast?, Unicode.isMark c = false) ∧
      (∀ c ∈ Unicode.canonical "\u0301\u0323".toList, Unicode.isMark c = true) ∧
      Unicode.Detached (Unicode.canonical "s".toList) ∧
      SameButCase "\u00e9TES".toList "\u00e9tes".toList ∧
      ((root : Collator Id).compare "\u00e9TES".toList "\u00e9te\u0301\u0323s".toList).run = .lt ∧
      SameButCase "\u00e9teS".toList "\u00e9tEs".toList ∧
      ((root : Collator Id).compare "\u00e9teS".toList "\u00e9tEs".toList).run = .lt := by
  have hu : ∃ c ∈ (Unicode.canonical "\u00e9te".toList).getLast?, Unicode.isMark c = false :=
    ⟨'e', by decide +kernel, by decide⟩
  have hmarks : ∀ c ∈ Unicode.canonical "\u0301\u0323".toList, Unicode.isMark c = true :=
    List.all_eq_true.1 (by decide +kernel)
  have hv : Unicode.Detached (Unicode.canonical "s".toList) := by
    rintro _ ⟨⟩
    decide
  have hcapitals : SameButCase "\u00e9TES".toList "\u00e9tes".toList := by decide
  have hcase : SameButCase "\u00e9teS".toList "\u00e9tEs".toList := by decide
  obtain ⟨haccents, hfirst⟩ := root_accents_before_case
  refine ⟨hu, hmarks, hv, hcapitals, ?_, hcase, ?_⟩
  · exact haccents "\u00e9te".toList "\u0301\u0323".toList "s".toList _ _ hu (by decide) hmarks hv
      hcapitals rfl
  · exact (hfirst _ _ (by decide) hcase).2
      ⟨"\u00e9t".toList, 'e', 'E', "S".toList, "s".toList, rfl, rfl, by decide, by decide⟩

end Collator

end NaturalOrder
