import Mathlib.Data.List.DropRight
import NaturalOrder.Proofs.LocaleId

/-!
# Spellings of locale identifiers

A `Spelling` is a way to write an identifier: the marks that are written and the parts after them. No two
spellings are the same text (`Spelling.text_injective`), as no part has the mark in it that ends it. Blanks at
both ends apart, the texts that are read as identifiers are those that are spelled in some way
(`LocaleId.parse?_spelled`). A spelling that loses the blanks at its end is a spelling still
(`Spelling.trimmed`). So what is printed can always be read, and gives the same identifier
unless it ends in blanks (`LocaleId.WellFormed.parse?_toText_iff`).
-/

namespace NaturalOrder
open Text

namespace Unicode
variable {s u v : Text} {c : Char}

def AllBlank (s : Text) : Prop := ∀ c ∈ s, isBlank c

theorem allBlank_nil : AllBlank [] := fun _ hc => absurd hc List.not_mem_nil

theorem trimBlanks_append (hu : AllBlank u) (hv : AllBlank v) :
    trimBlanks (u ++ s ++ v) = trimBlanks s := by
  have hv' : ∀ c ∈ v.reverse, isBlank c := fun c hc => hv c (List.mem_reverse.1 hc)
  rw [trimBlanks, trimBlanks, List.append_assoc, List.dropWhile_append_of_pos hu, List.dropWhile_append]
  split
  · next hs =>
    have hnil : v.dropWhile isBlank = [] := List.dropWhile_eq_nil_iff.2 hv
    rw [hnil, List.isEmpty_iff.1 hs]
  · rw [List.reverse_append, List.dropWhile_append_of_pos hv']

theorem exists_allBlank_append (s : Text) :
    ∃ u v, AllBlank u ∧ AllBlank v ∧ s = u ++ trimBlanks s ++ v := by
  refine ⟨s.takeWhile isBlank, (s.dropWhile isBlank).rtakeWhile isBlank, fun c => List.mem_takeWhile_imp,
    fun c => List.mem_rtakeWhile_imp, ?_⟩
  have htrim : trimBlanks s = (s.dropWhile isBlank).rdropWhile isBlank := rfl
  rw [htrim, List.append_assoc, List.rdropWhile_append_rtakeWhile, List.takeWhile_append_dropWhile]

theorem trimBlanks_eq_rdropWhile (h : ∀ c ∈ s.head?, ¬ isBlank c) : trimBlanks s = s.rdropWhile isBlank := by
  rw [trimBlanks, dropWhile_isBlank h]
  rfl

theorem rdropWhile_append_cons (hc : ¬ isBlank c) :
    (u ++ c :: v).rdropWhile isBlank = u ++ c :: v.rdropWhile isBlank := by
  induction v using List.reverseRecOn with
  | nil => exact List.rdropWhile_concat_neg _ _ _ hc
  | append_singleton v d ih =>
    have hassoc : u ++ c :: (v ++ [d]) = u ++ c :: v ++ [d] := by simp
    rw [hassoc]
    by_cases hd : isBlank d
    · rw [List.rdropWhile_concat_pos _ _ _ hd, List.rdropWhile_concat_pos _ _ _ hd, ih]
    · rw [List.rdropWhile_concat_neg _ _ _ hd, List.rdropWhile_concat_neg _ _ _ hd, hassoc]

end Unicode

/-- A way to write a locale identifier. A part that is empty differs from one that is missing. -/
@[ext]
structure Spelling where
  language : Text
  /-- The mark that is written before the territory, and the territory. -/
  territory : Option (Char × Text)
  encoding : Option Text
  modifier : Option Text
  language_plain : ∀ c ∈ language, c.isAlpha
  territory_plain : ∀ p ∈ territory, (p.1 = '_' ∨ p.1 = '-') ∧ p.2 ≠ [] ∧ ∀ c ∈ p.2, c.isAlphanum
  encoding_plain : ∀ e ∈ encoding, '@' ∉ e
  modifier_plain : ∀ m ∈ modifier, '\n' ∉ m

namespace Spelling
variable (w : Spelling)

/-- The territory after its mark. -/
def place : Option (Char × Text) → Text
  | none => []
  | some (mark, t) => mark :: t

def text : Text :=
  w.language ++ place w.territory ++ afterMark '.' w.encoding ++ afterMark '@' w.modifier

/-- What is spelled. The parts that are missing are empty. -/
def id : LocaleId where
  language := w.language
  territory := (w.territory.map (·.2)).getD []
  encoding := w.encoding.getD []
  modifier := w.modifier.getD []

variable {w} {v : Spelling} {s : Text}

theorem place_eq (p : Option (Char × Text)) :
    place p = afterMark ((p.map (·.1)).getD '_') (p.map (·.2)) := by
  cases p <;> rfl

theorem place_map (mark : Char) (t : Option Text) : place (t.map ((mark, ·))) = afterMark mark t := by
  cases t <;> rfl

/-! ### Each part ends at its mark -/

theorem head?_place {c : Char} (h : c ∈ (place w.territory).head?) : c = '_' ∨ c = '-' := by
  rcases hp : w.territory with _ | ⟨mark, t⟩
  · rw [hp] at h
    cases h
  · rw [hp] at h
    cases h
    exact (w.territory_plain _ hp).1

theorem forall_mem_place {c : Char} (h : c ∈ w.language ++ place w.territory) :
    c.isAlphanum ∨ c = '_' ∨ c = '-' := by
  rcases List.mem_append.1 h with h | h
  · exact .inl (by rw [Char.isAlphanum, w.language_plain c h, Bool.true_or])
  · rcases hp : w.territory with _ | ⟨mark, t⟩
    · rw [hp] at h
      cases h
    · rw [hp] at h
      obtain ⟨hmark, -, ht⟩ := w.territory_plain _ hp
      rcases List.mem_cons.1 h with rfl | h
      · exact .inr hmark
      · exact .inl (ht c h)

theorem dot_not_mem : '.' ∉ w.language ++ place w.territory := by
  intro h
  exact absurd (forall_mem_place h) (by decide)

theorem at_not_mem : '@' ∉ w.language ++ place w.territory ++ afterMark '.' w.encoding := by
  intro h
  rcases List.mem_append.1 h with h | h
  · exact absurd (forall_mem_place h) (by decide)
  · refine forall_mem_afterMark (p := (· ≠ '@')) (by decide) (fun e he c hc hat => ?_) '@' h rfl
    exact w.encoding_plain e he (hat ▸ hc)

theorem span_language :
    (w.language ++ place w.territory).span Char.isAlpha = (w.language, place w.territory) := by
  refine span_append w.language_plain fun c hc => ?_
  rcases head?_place hc with rfl | rfl <;> decide

theorem place_injective {p q : Option (Char × Text)} (h : place p = place q) : p = q := by
  cases p with
  | none =>
    cases q with
    | none => rfl
    | some q => cases h
  | some p =>
    cases q with
    | none => cases h
    | some q =>
      obtain ⟨hmark, ht⟩ := List.cons.inj h
      exact congrArg some (Prod.ext hmark ht)

/-- Two spellings are never the same text. -/
theorem text_injective (h : w.text = v.text) : w = v := by
  have hat := cut_append_afterMark w.at_not_mem w.modifier
  have hdot := cut_append_afterMark w.dot_not_mem w.encoding
  have hspan := w.span_language
  rw [text, text] at h
  rw [h, cut_append_afterMark v.at_not_mem] at hat
  obtain ⟨hcode, hmodifier⟩ := Prod.mk.inj hat
  rw [← hcode, cut_append_afterMark v.dot_not_mem] at hdot
  obtain ⟨hplace, hencoding⟩ := Prod.mk.inj hdot
  rw [← hplace, v.span_language] at hspan
  obtain ⟨hlanguage, hterritory⟩ := Prod.mk.inj hspan
  exact Spelling.ext hlanguage.symm (place_injective hterritory).symm hencoding.symm hmodifier.symm

end Spelling

namespace LocaleId
open Spelling

variable {w : Spelling} {s m : Text} {l : LocaleId}

/-! ### What is read is spelled -/

theorem exists_place (s : Text) :
    ∃ p : Option (Char × Text), s = place p ++ (splitTerritory s).2 ∧
      ∀ x ∈ p, (x.1 = '_' ∨ x.1 = '-') ∧ x.2 ≠ [] ∧ ∀ c ∈ x.2, c.isAlphanum := by
  cases s with
  | nil => exact ⟨none, rfl, nofun⟩
  | cons c rest =>
    rw [splitTerritory]
    split
    · next h =>
      rw [List.span_eq_takeWhile_dropWhile]
      refine ⟨some (c, rest.takeWhile Char.isAlphanum), ?_, ?_⟩
      · simp [place, List.takeWhile_append_dropWhile]
      · rintro _ ⟨⟩
        exact ⟨h.1, h.2, fun d => List.mem_takeWhile_imp⟩
    · exact ⟨none, rfl, nofun⟩

theorem exists_encoding (s : Text) :
    ∃ e : Option Text, s = afterMark '.' e ++ (splitEncoding s).2 ∧ ∀ x ∈ e, '@' ∉ x := by
  cases s with
  | nil => exact ⟨none, rfl, nofun⟩
  | cons c rest =>
    rw [splitEncoding]
    split
    · next h =>
      subst h
      rw [List.span_eq_takeWhile_dropWhile]
      refine ⟨some (rest.takeWhile (· ≠ '@')), ?_, ?_⟩
      · simp [afterMark, List.takeWhile_append_dropWhile]
      · rintro _ ⟨⟩ hat
        simpa using List.mem_takeWhile_imp hat
    · exact ⟨none, rfl, nofun⟩

theorem exists_modifier (h : modifier? s = some m) :
    ∃ o : Option Text, s = afterMark '@' o ∧ ∀ x ∈ o, '\n' ∉ x := by
  cases s with
  | nil => exact ⟨none, rfl, nofun⟩
  | cons c rest =>
    rw [modifier?] at h
    split at h
    · next hc =>
      obtain ⟨rfl, hline⟩ := hc
      refine ⟨some rest, rfl, ?_⟩
      rintro _ ⟨⟩
      exact hline
    · cases h

theorem exists_spelling (h : parse? s = some l) : ∃ w : Spelling, w.text = Unicode.trimBlanks s := by
  have hspan : (Unicode.trimBlanks s).span Char.isAlpha =
      ((Unicode.trimBlanks s).takeWhile Char.isAlpha, (Unicode.trimBlanks s).dropWhile Char.isAlpha) :=
    List.span_eq_takeWhile_dropWhile _ _
  obtain ⟨p, hplace, hp⟩ := exists_place ((Unicode.trimBlanks s).dropWhile Char.isAlpha)
  obtain ⟨e, hencoding, he⟩ :=
    exists_encoding (splitTerritory ((Unicode.trimBlanks s).dropWhile Char.isAlpha)).2
  obtain ⟨m, hm⟩ : ∃ m, modifier? (splitEncoding
      (splitTerritory ((Unicode.trimBlanks s).dropWhile Char.isAlpha)).2).2 = some m := by
    rw [parse?, hspan] at h
    obtain ⟨m, hm, -⟩ := Option.map_eq_some_iff.1 h
    exact ⟨m, hm⟩
  obtain ⟨o, hmodifier, ho⟩ := exists_modifier hm
  refine ⟨⟨(Unicode.trimBlanks s).takeWhile Char.isAlpha, p, e, o,
    fun c => List.mem_takeWhile_imp, hp, he, ho⟩, ?_⟩
  rw [text, List.append_assoc, List.append_assoc, ← hmodifier, ← hencoding, ← hplace,
    List.takeWhile_append_dropWhile]

theorem parse?_of_text (h : w.text = Unicode.trimBlanks s) : parse? s = some w.id := by
  have hmark : (w.territory.map (·.1)).getD '_' = '_' ∨ (w.territory.map (·.1)).getD '_' = '-' := by
    cases hp : w.territory with
    | none => exact .inl rfl
    | some p => exact (w.territory_plain p hp).1
  refine parse?_of_trimBlanks (h.symm.trans ?_) hmark w.language_plain ?_ w.encoding_plain w.modifier_plain
  · rw [text, place_eq]
  · intro t ht
    obtain ⟨p, hp, rfl⟩ := Option.map_eq_some_iff.1 ht
    exact (w.territory_plain p hp).2

/-- A text is read as an identifier if and only if it is spelled as one, blanks at both its ends apart. There
is one way only to spell it, and what is read is what is spelled. -/
theorem parse?_spelled (s : Text) :
    (parse? s ≠ none ↔ ∃ w : Spelling, w.text = Unicode.trimBlanks s) ∧
      ∀ w : Spelling, w.text = Unicode.trimBlanks s →
        parse? s = some w.id ∧ ∀ v : Spelling, v.text = Unicode.trimBlanks s → v = w := by
  refine ⟨⟨?_, ?_⟩, ?_⟩
  · intro h
    obtain ⟨l, hl⟩ := Option.ne_none_iff_exists'.1 h
    exact exists_spelling hl
  · rintro ⟨w, hw⟩
    rw [parse?_of_text hw]
    exact Option.some_ne_none w.id
  · intro w hw
    exact ⟨parse?_of_text hw, fun v hv => text_injective (hv.trans hw.symm)⟩

/-- Neither the second point nor the second at sign is a mark, and an encoding may have a line feed in it. -/
theorem parse?_spelled_marks :
    ∃ w : Spelling, w.text = Unicode.trimBlanks "\u00a0sr-RS.utf8\n.x@la@tin\t".toList ∧
      w.territory = some ('-', "RS".toList) ∧
      parse? "\u00a0sr-RS.utf8\n.x@la@tin\t".toList =
        some ⟨"sr".toList, "RS".toList, "utf8\n.x".toList, "la@tin".toList⟩ ∧
      ∀ v : Spelling, v.text = Unicode.trimBlanks "\u00a0sr-RS.utf8\n.x@la@tin\t".toList → v = w := by
  have hlanguage : ∀ c ∈ "sr".toList, c.isAlpha := List.all_eq_true.1 (by decide)
  have hplace : ∀ p ∈ some ('-', "RS".toList), (p.1 = '_' ∨ p.1 = '-') ∧ p.2 ≠ [] ∧
      ∀ c ∈ p.2, c.isAlphanum := by
    rintro _ ⟨⟩
    exact ⟨.inr rfl, by decide, List.all_eq_true.1 (by decide)⟩
  have hw : Spelling.text ⟨"sr".toList, some ('-', "RS".toList), some "utf8\n.x".toList, some "la@tin".toList,
      hlanguage, hplace, by decide, by decide⟩ =
      Unicode.trimBlanks "\u00a0sr-RS.utf8\n.x@la@tin\t".toList := rfl
  obtain ⟨hread, hunique⟩ := (parse?_spelled "\u00a0sr-RS.utf8\n.x@la@tin\t".toList).2 _ hw
  exact ⟨_, hw, rfl, hread, hunique⟩

end LocaleId

namespace Spelling
variable {w : Spelling}

/-! ### What is printed is spelled -/

theorem not_isBlank_of_mem_place {c : Char} (h : c ∈ w.language ++ place w.territory) :
    ¬ Unicode.isBlank c := by
  rcases forall_mem_place h with h | rfl | rfl
  · exact not_isBlank_of_isAlphanum h
  · decide
  · decide

theorem not_isBlank_of_mem_head? : ∀ c ∈ w.text.head?, ¬ Unicode.isBlank c := by
  refine LocaleId.head?_append_of_forall (LocaleId.head?_append_of_forall ?_ ?_) ?_
  · exact fun c hc => not_isBlank_of_mem_place (List.mem_of_mem_head? hc)
  · intro c hc
    rw [head?_afterMark hc]
    decide
  · intro c hc
    rw [head?_afterMark hc]
    decide

theorem trimBlanks_text : Unicode.trimBlanks w.text = w.text.rdropWhile Unicode.isBlank :=
  Unicode.trimBlanks_eq_rdropWhile not_isBlank_of_mem_head?

/-- The spelling without the blanks at its end. Only the part after the last mark can have any. -/
def trimmed (w : Spelling) : Spelling :=
  { w with
    encoding := if w.modifier = none then w.encoding.map (·.rdropWhile Unicode.isBlank) else w.encoding
    modifier := w.modifier.map (·.rdropWhile Unicode.isBlank)
    encoding_plain := by
      intro e he hat
      split at he
      · obtain ⟨x, hx, rfl⟩ := Option.map_eq_some_iff.1 he
        exact w.encoding_plain x hx ((List.rdropWhile_prefix _ _).subset hat)
      · exact w.encoding_plain e he hat
    modifier_plain := by
      intro m hm hline
      obtain ⟨x, hx, rfl⟩ := Option.map_eq_some_iff.1 hm
      exact w.modifier_plain x hx ((List.rdropWhile_prefix _ _).subset hline) }

theorem text_trimmed (w : Spelling) : w.trimmed.text = Unicode.trimBlanks w.text := by
  rw [trimBlanks_text]
  cases hm : w.modifier with
  | some m =>
    simp only [text, trimmed, hm, Option.map_some, afterMark, if_neg (Option.some_ne_none m)]
    exact (Unicode.rdropWhile_append_cons (by decide)).symm
  | none =>
    simp only [text, trimmed, hm, Option.map_none, afterMark, if_true, List.append_nil]
    cases w.encoding with
    | some e => exact (Unicode.rdropWhile_append_cons (by decide)).symm
    | none =>
      simp only [Option.map_none, List.append_nil]
      exact (List.rdropWhile_eq_self_iff.2 fun hne => not_isBlank_of_mem_place (List.getLast_mem hne)).symm

theorem exists_text_eq_trimBlanks (w : Spelling) : ∃ v : Spelling, v.text = Unicode.trimBlanks w.text :=
  ⟨w.trimmed, w.text_trimmed⟩

theorem length_marked_le (mark mark' : Char) (part : Option Text) :
    (LocaleId.marked mark (part.getD [])).length ≤ (afterMark mark' part).length := by
  cases part with
  | none => exact Nat.le_refl 0
  | some x =>
    rw [Option.getD_some, LocaleId.marked]
    split
    · exact Nat.zero_le _
    · exact Nat.le_refl _

/-- An identifier is printed without the marks of the parts that are empty. -/
theorem length_toText_id_le : w.id.toText.length ≤ w.text.length := by
  have ht := length_marked_le '_' ((w.territory.map (·.1)).getD '_') (w.territory.map (·.2))
  have he := length_marked_le '.' '.' w.encoding
  have hm := length_marked_le '@' '@' w.modifier
  simp only [LocaleId.toText, id, text, place_eq, List.length_append]
  omega

end Spelling

namespace LocaleId
open Spelling

variable {l : LocaleId}

theorem WellFormed.exists_spelling (h : l.WellFormed) : ∃ w : Spelling, w.text = l.toText := by
  refine ⟨{
    language := l.language
    territory := (given? l.territory).map (('_', ·))
    encoding := given? l.encoding
    modifier := given? l.modifier
    language_plain := h.language
    territory_plain := ?_
    encoding_plain := fun e he => (ne_nil_of_mem_given? he).2 ▸ h.encoding
    modifier_plain := fun m hm => (ne_nil_of_mem_given? hm).2 ▸ h.modifier }, ?_⟩
  · intro p hp
    obtain ⟨t, ht, rfl⟩ := Option.map_eq_some_iff.1 hp
    obtain ⟨hne, rfl⟩ := ne_nil_of_mem_given? ht
    exact ⟨.inl rfl, hne, h.territory⟩
  · rw [toText_eq, text, place_map]

/-- What is printed of an identifier can be read, and gives the same identifier if and only if it does not end
in a blank. -/
theorem WellFormed.parse?_toText_iff (h : l.WellFormed) :
    parse? l.toText ≠ none ∧
      (parse? l.toText = some l ↔ ∀ c ∈ l.toText.getLast?, ¬ Unicode.isBlank c) := by
  obtain ⟨w, hw⟩ := h.exists_spelling
  obtain ⟨v, hv⟩ := w.exists_text_eq_trimBlanks
  have htrim := w.trimBlanks_text
  have hhead := w.not_isBlank_of_mem_head?
  rw [hw] at hv htrim hhead
  have hread := parse?_of_text hv
  refine ⟨?_, ?_, ?_⟩
  · rw [hread]
    exact Option.some_ne_none v.id
  · intro hself
    have hid : v.id = l := Option.some.inj (hread.symm.trans hself)
    -- the printed form is not longer than what is left of it, so nothing was dropped
    have hlen := v.length_toText_id_le
    rw [hid, hv, htrim] at hlen
    have heq := (List.rdropWhile_prefix _ _).eq_of_length_le hlen
    intro c hc
    obtain ⟨hne, rfl⟩ := List.mem_getLast?_eq_getLast hc
    exact List.rdropWhile_eq_self_iff.1 heq hne
  · intro hlast
    exact h.parse?_toText (Unicode.trimBlanks_eq_self hhead hlast)

/-- The encoding loses the last of its blanks. -/
theorem WellFormed.parse?_toText_iff_blank :
    WellFormed ⟨"nb".toList, [], "x \u3000".toList, []⟩ ∧
      parse? (toText ⟨"nb".toList, [], "x \u3000".toList, []⟩) ≠ none ∧
      parse? (toText ⟨"nb".toList, [], "x \u3000".toList, []⟩) ≠
        some ⟨"nb".toList, [], "x \u3000".toList, []⟩ := by
  have h : WellFormed ⟨"nb".toList, [], "x \u3000".toList, []⟩ :=
    ⟨List.all_eq_true.1 (by decide), nofun, by decide, by decide⟩
  obtain ⟨hread, hiff⟩ := h.parse?_toText_iff
  refine ⟨h, hread, fun hself => ?_⟩
  exact hiff.1 hself '\u3000' (by decide) (by decide)

end LocaleId

end NaturalOrder
