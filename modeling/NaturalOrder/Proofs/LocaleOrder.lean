import Mathlib.Logic.Relation
import NaturalOrder.Proofs.AsciiCase
import NaturalOrder.Proofs.LocaleSpelling
import NaturalOrder.Proofs.Transitivity

/-!
# The order of locale identifiers

Identifiers are ordered by language, territory and modifier in lowercase, so those that are the same in these
are equal (`LocaleId.order_eq_eq`) and stand alike to all others. A text that can be read as an identifier may
be spelled in other ways: between blanks, with the other mark before its territory, with its letters in
another case, or with another encoding or none (`Respelled`). Each such change leaves a text that is read as
an identifier which is the same in these parts (`Respelled.readAlike`), as reading goes by classes of
characters that are closed under case (`LocaleId.parse?_map_toLower`). So no row of changes makes a difference
to the order (`LocaleRef.order_respelled`).
-/

namespace NaturalOrder
open Relation

namespace Unicode

theorem trimBlanks_map_toLower (s : Text) :
    trimBlanks (s.map Char.toLower) = (trimBlanks s).map Char.toLower := by
  have hblank : isBlank ∘ Char.toLower = isBlank := funext isBlank_toLower
  rw [trimBlanks, trimBlanks, List.dropWhile_map, hblank, ← List.map_reverse, List.dropWhile_map, hblank,
    ← List.map_reverse]

end Unicode

namespace LocaleId
variable {k l m : LocaleId} {s t u v : Text}

instance : Std.TransCmp order :=
  inferInstanceAs <| Std.TransCmp <|
    compareLex (compareOn fun l : LocaleId => Unicode.lowercaseText l.language) <|
      compareLex (compareOn fun l => Unicode.lowercaseText l.territory)
        (compareOn fun l => Unicode.lowercaseText l.modifier)

/-- Identifiers that differ in case and in their encoding at most. -/
structure SameLocale (k l : LocaleId) : Prop where
  language : Unicode.lowercaseText k.language = Unicode.lowercaseText l.language
  territory : Unicode.lowercaseText k.territory = Unicode.lowercaseText l.territory
  modifier : Unicode.lowercaseText k.modifier = Unicode.lowercaseText l.modifier

theorem order_eq_eq : k.order l = .eq ↔ SameLocale k l := by
  simp only [order, Ordering.then_eq_eq, Std.LawfulEqOrd.compare_eq_iff_eq]
  constructor
  · rintro ⟨hlanguage, hterritory, hmodifier⟩
    exact ⟨hlanguage, hterritory, hmodifier⟩
  · rintro ⟨hlanguage, hterritory, hmodifier⟩
    exact ⟨hlanguage, hterritory, hmodifier⟩

theorem SameLocale.trans (h : SameLocale k l) (h' : SameLocale l m) : SameLocale k m :=
  ⟨h.language.trans h'.language, h.territory.trans h'.territory, h.modifier.trans h'.modifier⟩

/-! ### Reading regardless of case -/

/-- The identifier with its ASCII letters in lowercase. -/
def toLower (l : LocaleId) : LocaleId where
  language := l.language.map Char.toLower
  territory := l.territory.map Char.toLower
  encoding := l.encoding.map Char.toLower
  modifier := l.modifier.map Char.toLower

theorem SameLocale.of_toLower_eq (h : k.toLower = l.toLower) : SameLocale k l where
  language := SameButCase.lowercaseText_eq (congrArg LocaleId.language h)
  territory := SameButCase.lowercaseText_eq (congrArg LocaleId.territory h)
  modifier := SameButCase.lowercaseText_eq (congrArg LocaleId.modifier h)

theorem span_map_toLower {p : Char → Bool} (hp : ∀ c, p c.toLower = p c) (s : Text) :
    (s.map Char.toLower).span p = ((s.span p).1.map Char.toLower, (s.span p).2.map Char.toLower) := by
  have hcomp : p ∘ Char.toLower = p := funext hp
  rw [List.span_eq_takeWhile_dropWhile, List.span_eq_takeWhile_dropWhile, List.takeWhile_map,
    List.dropWhile_map, hcomp]

theorem splitTerritory_map_toLower (s : Text) :
    splitTerritory (s.map Char.toLower) =
      ((splitTerritory s).1.map Char.toLower, (splitTerritory s).2.map Char.toLower) := by
  cases s with
  | nil => rfl
  | cons c rest =>
    have hspan := span_map_toLower Unicode.isAlphanum_toLower rest
    have hcomp : Char.isAlphanum ∘ Char.toLower = Char.isAlphanum := funext Unicode.isAlphanum_toLower
    have hline : c.toLower = '_' ↔ c = '_' := Unicode.toLower_eq_iff (by decide)
    have hhyphen : c.toLower = '-' ↔ c = '-' := Unicode.toLower_eq_iff (by decide)
    simp only [List.map_cons, splitTerritory, hline, hhyphen, List.takeWhile_map, hcomp, ne_eq,
      List.map_eq_nil_iff, hspan]
    split <;> rfl

theorem splitEncoding_map_toLower (s : Text) :
    splitEncoding (s.map Char.toLower) =
      ((splitEncoding s).1.map Char.toLower, (splitEncoding s).2.map Char.toLower) := by
  cases s with
  | nil => rfl
  | cons c rest =>
    have hat : ∀ d : Char, d.toLower ≠ '@' ↔ d ≠ '@' := fun d =>
      not_congr (Unicode.toLower_eq_iff (by decide))
    have hspan := span_map_toLower (p := (decide <| · ≠ '@')) (fun d => decide_eq_decide.2 (hat d)) rest
    have hdot : c.toLower = '.' ↔ c = '.' := Unicode.toLower_eq_iff (by decide)
    simp only [List.map_cons, splitEncoding, hdot, hspan]
    split <;> rfl

theorem modifier?_map_toLower (s : Text) :
    modifier? (s.map Char.toLower) = (modifier? s).map (List.map Char.toLower) := by
  cases s with
  | nil => rfl
  | cons c rest =>
    have hat : c.toLower = '@' ↔ c = '@' := Unicode.toLower_eq_iff (by decide)
    have hline : '\n' ∈ rest.map Char.toLower ↔ '\n' ∈ rest := by
      have hself : ∀ d : Char, d.toLower = '\n' ↔ d = '\n' := fun d => Unicode.toLower_eq_iff (by decide)
      simp only [List.mem_map, hself, exists_eq_right]
    simp only [List.map_cons, modifier?, hat, hline]
    split <;> rfl

/-- Whether a text is read as an identifier does not depend on case, which its parts keep. -/
theorem parse?_map_toLower (s : Text) : parse? (s.map Char.toLower) = (parse? s).map toLower := by
  simp only [parse?, Unicode.trimBlanks_map_toLower, span_map_toLower Unicode.isAlpha_toLower,
    splitTerritory_map_toLower, splitEncoding_map_toLower, modifier?_map_toLower, Option.map_map]
  rfl

/-! ### Texts that are read alike -/

/-- Two texts are read as identifiers that differ in case and in their encoding at most. -/
def ReadAlike (s t : Text) : Prop := ∃ k l, parse? s = some k ∧ parse? t = some l ∧ SameLocale k l

theorem readAlike_of_parse?_eq (hs : parse? s ≠ none) (h : parse? t = parse? s) : ReadAlike s t := by
  obtain ⟨l, hl⟩ := Option.ne_none_iff_exists'.1 hs
  exact ⟨l, l, hl, h.trans hl, ⟨rfl, rfl, rfl⟩⟩

namespace ReadAlike

theorem trans (h : ReadAlike s t) (h' : ReadAlike t u) : ReadAlike s u := by
  obtain ⟨k, l, hk, hl, hkl⟩ := h
  obtain ⟨l', m, hl', hm, hlm⟩ := h'
  cases hl.symm.trans hl'
  exact ⟨k, m, hk, hm, hkl.trans hlm⟩

theorem parse?_ne_none (h : ReadAlike s t) : parse? t ≠ none := by
  obtain ⟨k, l, -, hl, -⟩ := h
  rw [hl]
  exact Option.some_ne_none l

theorem sameLocale (h : ReadAlike s t) : SameLocale (ofText s) (ofText t) := by
  obtain ⟨k, l, hk, hl, hkl⟩ := h
  rw [ofText, ofText, hk, hl]
  exact hkl

end ReadAlike

theorem readAlike_of_sameButCase (hs : parse? s ≠ none) (h : SameButCase s t) : ReadAlike s t := by
  obtain ⟨k, hk⟩ := Option.ne_none_iff_exists'.1 hs
  have hlower := parse?_map_toLower s
  rw [h, parse?_map_toLower, hk] at hlower
  obtain ⟨l, hl, hkl⟩ := Option.map_eq_some_iff.1 hlower
  exact ⟨k, l, hk, hl, .of_toLower_eq hkl.symm⟩

theorem parse?_append_blanks (hu : Unicode.AllBlank u) (hv : Unicode.AllBlank v) :
    parse? (u ++ s ++ v) = parse? s := by
  rw [parse?, parse?, Unicode.trimBlanks_append hu hv]

/-- Between blanks a spelling is read as what is left of it without those at its own end. -/
theorem parse?_spelling (w : Spelling) (hu : Unicode.AllBlank u) (hv : Unicode.AllBlank v) :
    parse? (u ++ w.text ++ v) = some w.trimmed.id := by
  rw [parse?_append_blanks hu hv]
  exact parse?_of_text w.text_trimmed

theorem exists_spelling_append (hs : parse? s ≠ none) :
    ∃ u v, Unicode.AllBlank u ∧ Unicode.AllBlank v ∧ ∃ w : Spelling, s = u ++ w.text ++ v := by
  obtain ⟨l, hl⟩ := Option.ne_none_iff_exists'.1 hs
  obtain ⟨w, hw⟩ := exists_spelling hl
  obtain ⟨u, v, hu, hv, huv⟩ := Unicode.exists_allBlank_append s
  exact ⟨u, v, hu, hv, w, by rwa [hw]⟩

end LocaleId

namespace Spelling

/-- The same spelling, but for the mark before the territory. -/
def withMark (w : Spelling) (mark : Char) (hmark : mark = '_' ∨ mark = '-') : Spelling :=
  { w with
    territory := w.territory.map fun p => (mark, p.2)
    territory_plain := by
      intro p hp
      obtain ⟨q, hq, rfl⟩ := Option.map_eq_some_iff.1 hp
      exact ⟨hmark, (w.territory_plain q hq).2⟩ }

/-- The same spelling, but for the encoding, which may be missing. -/
def withEncoding (w : Spelling) (encoding : Option Text) (hplain : ∀ e ∈ encoding, '@' ∉ e) : Spelling :=
  { w with encoding := encoding, encoding_plain := hplain }

theorem id_trimmed_withMark (w : Spelling) {mark : Char} (hmark : mark = '_' ∨ mark = '-') :
    (w.withMark mark hmark).trimmed.id = w.trimmed.id := by
  have hterritory : (w.territory.map fun p => (mark, p.2)).map (·.2) = w.territory.map (·.2) := by
    rw [Option.map_map]
    rfl
  simp only [id, trimmed, withMark, hterritory]
  rfl

end Spelling

/-- A text that is read as an identifier is spelled in another way. -/
inductive Respelled : Text → Text → Prop
  | blanks {s u v : Text} (hu : Unicode.AllBlank u) (hv : Unicode.AllBlank v) : Respelled s (u ++ s ++ v)
  | mark {u v : Text} (hu : Unicode.AllBlank u) (hv : Unicode.AllBlank v) (w : Spelling) {mark : Char}
      (hmark : mark = '_' ∨ mark = '-') :
      Respelled (u ++ w.text ++ v) (u ++ (w.withMark mark hmark).text ++ v)
  | letterCase {s t : Text} (h : SameButCase s t) : Respelled s t
  | encoding {u v : Text} (hu : Unicode.AllBlank u) (hv : Unicode.AllBlank v) (w : Spelling)
      {e : Option Text} (hplain : ∀ x ∈ e, '@' ∉ x) :
      Respelled (u ++ w.text ++ v) (u ++ (w.withEncoding e hplain).text ++ v)

section
open LocaleId
variable {s t : Text}

theorem Respelled.readAlike (h : Respelled s t) (hs : parse? s ≠ none) : ReadAlike s t := by
  cases h with
  | blanks hu hv => exact readAlike_of_parse?_eq hs (parse?_append_blanks hu hv)
  | mark hu hv w hmark =>
    refine readAlike_of_parse?_eq hs ?_
    rw [parse?_spelling _ hu hv, parse?_spelling w hu hv, w.id_trimmed_withMark]
  | letterCase h => exact readAlike_of_sameButCase hs h
  | encoding hu hv w hplain =>
    exact ⟨_, _, parse?_spelling w hu hv, parse?_spelling _ hu hv, ⟨rfl, rfl, rfl⟩⟩

/-- A text that is respelled again and again is still read as the same locale. -/
theorem readAlike_of_respelled (h : ReflTransGen Respelled s t) (hs : parse? s ≠ none) : ReadAlike s t := by
  induction h with
  | refl => exact readAlike_of_parse?_eq hs rfl
  | tail _ hstep ih => exact ih.trans (hstep.readAlike ih.parse?_ne_none)

end

namespace LocaleRef
open LocaleId

instance : Std.TransCmp order := transCmp_comap LocaleId.order id

/-- The order of identifiers is a total preorder, by which those are equal that have the same language,
territory and modifier in lowercase. A text that cannot be read is a language. One that can be read stands
where it stands in any other spelling. -/
theorem order_respelled :
    Std.TransCmp order ∧
      (∀ x y, order x y = .eq ↔ SameLocale x.id y.id) ∧
      (∀ s, parse? s = none → (text s).id = { language := s }) ∧
      ∀ s, parse? s ≠ none →
        (∃ u v, Unicode.AllBlank u ∧ Unicode.AllBlank v ∧ ∃ w : Spelling, s = u ++ w.text ++ v) ∧
        ∀ t, ReflTransGen Respelled s t → ∀ x,
          order (text t) x = order (text s) x ∧ order x (text t) = order x (text s) := by
  refine ⟨inferInstance, fun x y => order_eq_eq, fun s hs => ?_, fun s hs => ⟨?_, fun t ht x => ?_⟩⟩
  · show (parse? s).getD _ = _
    rw [hs]
    rfl
  · exact exists_spelling_append hs
  · have heq : order (text s) (text t) = .eq := order_eq_eq.2 (readAlike_of_respelled ht hs).sameLocale
    exact ⟨(Std.TransCmp.congr_left heq).symm, (Std.TransCmp.congr_right heq).symm⟩

/-- The sigma is final after a letter in either case. -/
theorem order_respelled_sigma :
    parse? "el-gr@oΣ".toList ≠ none ∧
      ReflTransGen Respelled "el-gr@oΣ".toList "\u00a0EL_GR.utf8\n @OΣ\t".toList ∧
      order (text "\u00a0EL_GR.utf8\n @OΣ\t".toList)
        (parts ⟨"EL".toList, "Gr".toList, [], "oς".toList⟩) = .eq := by
  have hs : parse? "el-gr@oΣ".toList ≠ none := by decide
  let w : Spelling := {
    language := "EL".toList
    territory := some ('-', "GR".toList)
    encoding := none
    modifier := some "OΣ".toList
    language_plain := List.all_eq_true.1 (by decide)
    territory_plain := by
      rintro _ ⟨⟩
      exact ⟨.inr rfl, by decide, List.all_eq_true.1 (by decide)⟩
    encoding_plain := nofun
    modifier_plain := by decide }
  have hcase : Respelled "el-gr@oΣ".toList "EL-GR@OΣ".toList := .letterCase (by decide)
  have hmark : Respelled "EL-GR@OΣ".toList "EL_GR@OΣ".toList := .mark (u := []) (v := []) nofun nofun w (.inl rfl)
  have hencoding : Respelled "EL_GR@OΣ".toList "EL_GR.utf8\n @OΣ".toList :=
    .encoding (u := []) (v := []) nofun nofun (w.withMark '_' (.inl rfl)) (e := some "utf8\n ".toList)
      (by decide)
  have hu : Unicode.AllBlank ['\u00a0'] := List.all_eq_true.1 (by decide)
  have hv : Unicode.AllBlank ['\t'] := List.all_eq_true.1 (by decide)
  have hframe : ['\u00a0'] ++ "EL_GR.utf8\n @OΣ".toList ++ ['\t'] = "\u00a0EL_GR.utf8\n @OΣ\t".toList := by
    decide
  have hblanks : Respelled "EL_GR.utf8\n @OΣ".toList "\u00a0EL_GR.utf8\n @OΣ\t".toList :=
    hframe ▸ .blanks hu hv
  have ht := (((ReflTransGen.single hcase).tail hmark).tail hencoding).tail hblanks
  obtain ⟨-, -, -, hread⟩ := order_respelled
  refine ⟨hs, ht, ?_⟩
  rw [((hread _ hs).2 _ ht _).1]
  decide +kernel

end LocaleRef

end NaturalOrder
