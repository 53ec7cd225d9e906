import NaturalOrder.Locale.Platform
import NaturalOrder.Proofs.LocaleSpelling

/-!
# Names of the C locale

The basic platform has the C locale alone, but under many names: with a codeset, which may have a territory
before it and a modifier after it (`Platform.hasCodeset_append`). What it gives, for a name or for the
environment, is a name that stands for itself (`Platform.nameInC_full`). Many of these names are identifiers as
well (`Spelling.NamesC`). Printed again, such a name loses the blanks at its end and then an at sign with nothing
after it, and what is left of it is still a name that stands for itself (`Platform.nameInC_toText`).
-/

namespace NaturalOrder
open Text

/-- After the first at sign there is nothing. -/
def EndsOpen (name : Text) : Prop := (name.cut '@').2 = some []

instance (name : Text) : Decidable (EndsOpen name) := inferInstanceAs (Decidable (_ = _))

section
variable {name u w m : Text}

theorem EndsOpen.eq_append (h : EndsOpen name) : ∃ u, '@' ∉ u ∧ name = u ++ ['@'] := by
  obtain ⟨hu, hname⟩ := cut_eq name '@'
  rw [h] at hname
  exact ⟨_, hu, hname⟩

theorem not_endsOpen_append_modifier (hm : m ≠ []) : ¬ EndsOpen (u ++ '@' :: m) := by
  intro h
  obtain ⟨v, hv, heq⟩ := h.eq_append
  have hinit : u ++ '@' :: m.dropLast = v := by
    have := congrArg List.dropLast heq
    rwa [List.dropLast_append_of_ne_nil (List.cons_ne_nil '@' m), List.dropLast_cons_of_ne_nil hm,
      List.dropLast_concat] at this
  exact hv (hinit ▸ List.mem_append_right u List.mem_cons_self)

theorem not_endsOpen_append (hw : w ≠ []) (hat : '@' ∉ w) : ¬ EndsOpen (u ++ w) := by
  intro h
  obtain ⟨v, -, heq⟩ := h.eq_append
  have hlast : w.getLast hw = '@' := by
    have := congrArg List.getLast? heq
    rw [List.getLast?_append, List.getLast?_eq_some_getLast hw, List.getLast?_concat] at this
    exact Option.some.inj this
  exact hat (hlast ▸ List.getLast_mem hw)

end

/-- Of the name nothing is lost but blanks at its end and an at sign before them. -/
def TrimsTo (name rest : Text) : Prop :=
  ∃ v, Unicode.AllBlank v ∧ (name = rest ++ v ∨ name = rest ++ '@' :: v)

theorem TrimsTo.refl (name : Text) : TrimsTo name name :=
  ⟨[], Unicode.allBlank_nil, .inl (List.append_nil name).symm⟩

theorem Text.byteSize_mono {s t : Text} (h : s <+: t) : s.byteSize ≤ t.byteSize := by
  obtain ⟨u, rfl⟩ := h
  induction s with
  | nil => exact Nat.zero_le _
  | cons c s ih => exact Nat.add_le_add_left ih c.utf8Size

theorem LocaleId.WellFormed.not_endsOpen_toText {l : LocaleId} (h : l.WellFormed) : ¬ EndsOpen l.toText := by
  rw [toText_eq, EndsOpen, cut_append_afterMark h.at_not_mem_code]
  exact fun hopen => (ne_nil_of_mem_given? hopen).1 rfl

/-- Nothing but letters, digits and underscores. -/
def IsWord (s : Text) : Prop := ∀ c ∈ s, c.isAlphanum ∨ c = '_'

theorem IsWord.not_mem {s : Text} (h : IsWord s) {c : Char} (hc : ¬ (c.isAlphanum ∨ c = '_')) : c ∉ s :=
  fun hmem => hc (h c hmem)

/-- The C locale of a territory, or of none. -/
theorem isWord_C {territory : Option Text} (ht : ∀ t ∈ territory, ∀ c ∈ t, c.isAlphanum) :
    IsWord (['C'] ++ afterMark '_' territory) := by
  refine List.forall_mem_append.2 ⟨List.forall_mem_singleton.2 (by decide), forall_mem_afterMark (.inr rfl) ?_⟩
  intro t hmem c hc
  exact .inl (ht t hmem c hc)

namespace Platform
variable {name place s u v : Text} {codeset modifier : Option Text} {size : Nat}

/-! ### Paths and codesets -/

theorem length_splitOn_ne_one (h : '/' ∈ s) : (s.splitOn '/').length ≠ 1 := by
  obtain ⟨u, v, rfl⟩ := List.append_of_mem h
  rw [List.splitOn_append_cons_of_beq u v (beq_self_eq_true '/'), List.length_append]
  have hu := List.length_pos_iff.2 (List.splitOn_ne_nil '/' u)
  have hv := List.length_pos_iff.2 (List.splitOn_ne_nil '/' v)
  omega

/-- A path starts with a slash if it has any. -/
theorem not_mem_of_isPath {c : Char} (hc : c ≠ '/') (h : isPath (c :: s)) : '/' ∉ c :: s := by
  have hhead : ((c :: s).splitOn '/').head? ≠ some [] := by
    rw [List.splitOn_cons_eq_if_modifyHead, if_neg (by simpa using hc)]
    cases s.splitOn '/' with
    | nil => nofun
    | cons part rest => exact fun h => List.cons_ne_nil c part (Option.some.inj h)
  rw [isPath, Bool.and_eq_true, Bool.or_eq_true, decide_eq_true_eq, decide_eq_true_eq] at h
  intro hmem
  exact h.1.elim (length_splitOn_ne_one hmem) hhead

theorem isPath_of_not_mem (h : '/' ∉ name) (hdots : name ≠ "..".toList) : isPath name := by
  rw [isPath, List.splitOn_eq_singleton h, Bool.and_eq_true]
  refine ⟨rfl, ?_⟩
  simpa using fun h => hdots h.symm

theorem isInstalledCodeset_of_not_mem (h : '/' ∉ s) :
    isInstalledCodeset s = codesets.contains (plainCodeset s) := by
  rw [isInstalledCodeset, List.splitOn_eq_singleton h]
  simp

theorem plainCodeset_append_of_allBlank (hv : Unicode.AllBlank v) : plainCodeset (s ++ v) = plainCodeset s := by
  have hdropped : v.filter (fun c => c.isAlphanum || "_-.,:".toList.contains c) = [] := by
    refine List.filter_eq_nil_iff.2 fun c hc hkept => ?_
    rcases Bool.or_eq_true _ _ ▸ hkept with hkept | hkept
    · exact not_isBlank_of_isAlphanum hkept (hv c hc)
    · have hmarks : "_-.,:".toList.all fun c => !Unicode.isBlank c := by decide
      have := List.all_eq_true.1 hmarks c (List.contains_iff_mem.1 hkept)
      rw [hv c hc] at this
      cases this
  rw [plainCodeset, plainCodeset, List.filter_append, hdropped, List.append_nil]

theorem isPlaceInC_of_not_mem (h : '/' ∉ place) : isPlaceInC place = decide ((place.cut '_').1 = ['C']) := by
  have hself : (place.cut '_').1.dropWhile (· = '/') = (place.cut '_').1 := by
    cases hs : (place.cut '_').1 with
    | nil => rfl
    | cons c rest =>
      refine List.dropWhile_cons_of_neg fun hc => h ?_
      rw [(cut_eq place '_').2, hs, ← of_decide_eq_true hc]
      exact List.mem_cons_self
  rw [isPlaceInC, hself]

/-! ### Names with a codeset -/

theorem hasCodeset_append (hdot : '.' ∉ place) (hat : '@' ∉ place ++ afterMark '.' codeset) :
    hasCodeset (place ++ afterMark '.' codeset ++ afterMark '@' modifier) size ↔
      isPlaceInC place ∧ (∃ s ∈ codeset, isInstalledCodeset s) ∧
        isPath (place ++ afterMark '.' codeset ++ afterMark '@' modifier) ∧ size ≤ nameLimit := by
  simp only [hasCodeset, cut_append_afterMark hat, cut_append_afterMark hdot, Bool.and_eq_true,
    decide_eq_true_eq, Option.any_eq_true, Option.mem_def, and_assoc]

/-- The names of the C locale start with its letter, after the slashes of a path. -/
theorem head?_of_hasCodeset (h : hasCodeset name size) : ∀ c ∈ name.head?, c = 'C' ∨ c = '/' := by
  have hname := (cut_eq name '@').2
  rcases hat : name.cut '@' with ⟨code, modifier⟩
  have hcode := (cut_eq code '.').2
  rcases hdot : code.cut '.' with ⟨place, codeset⟩
  have hplace := (cut_eq place '_').2
  rw [hat] at hname
  rw [hdot] at hcode
  simp only [hasCodeset, hat, hdot, isPlaceInC, Bool.and_eq_true, decide_eq_true_eq] at h
  obtain ⟨⟨⟨hlanguage, -⟩, -⟩, -⟩ := h
  intro c hc
  rw [hname, hcode, hplace] at hc
  cases hl : (place.cut '_').1 with
  | nil =>
    rw [hl] at hlanguage
    cases hlanguage
  | cons d rest =>
    rw [hl] at hc hlanguage
    obtain rfl : d = c := Option.some.inj hc
    by_cases hd : d = '/'
    · exact .inr hd
    · rw [List.dropWhile_cons_of_neg (by simpa using hd)] at hlanguage
      exact .inl (List.cons.inj hlanguage).1

theorem not_hasCodeset_of_not_mem (h : '.' ∉ name) : ¬ hasCodeset name size := by
  have hcode : '.' ∉ (name.cut '@').1 := fun hmem => h ((cut_eq name '@').2 ▸ List.mem_append_left _ hmem)
  simp only [hasCodeset, cut_of_not_mem hcode]
  simp

end Platform

/-! ### Names that are spelled as identifiers -/

namespace Spelling
variable {w : Spelling} {v : Text} {size : Nat}

theorem endsOpen_text_iff : EndsOpen w.text ↔ w.modifier = some [] := by
  rw [EndsOpen, text, cut_append_afterMark w.at_not_mem]

/-- The spelling is that of a name of the C locale with a codeset. -/
structure NamesC (w : Spelling) : Prop where
  language : w.language = ['C']
  mark : ∀ p ∈ w.territory, p.1 = '_'
  codeset : ∃ e ∈ w.encoding, Platform.codesets.contains (Platform.plainCodeset e)
  slash : '/' ∉ w.text

theorem slash_not_mem_place : '/' ∉ w.language ++ place w.territory :=
  fun h => absurd (forall_mem_place h) (by decide)

theorem isPlaceInC_iff : Platform.isPlaceInC (w.language ++ place w.territory) ↔
    w.language = ['C'] ∧ ∀ p ∈ w.territory, p.1 = '_' := by
  have hline : '_' ∉ w.language := fun h => absurd (w.language_plain '_' h) (by decide)
  rw [Platform.isPlaceInC_of_not_mem slash_not_mem_place, decide_eq_true_eq]
  rcases hp : w.territory with _ | ⟨mark, t⟩
  · rw [place, List.append_nil, cut_of_not_mem hline]
    simp
  · obtain ⟨hmark, -, ht⟩ := w.territory_plain _ hp
    rcases hmark with rfl | rfl
    · have hcut : (w.language ++ place (some ('_', t))).cut '_' = (w.language, some t) :=
        cut_append_afterMark hline (some t)
      rw [hcut]
      simp
    · have hnone : '_' ∉ w.language ++ place (some ('-', t)) := by
        intro h
        rcases List.mem_append.1 h with h | h
        · exact hline h
        · rcases List.mem_cons.1 h with h | h
          · exact absurd h (by decide)
          · exact absurd (ht '_' h) (by decide)
      rw [cut_of_not_mem hnone]
      have hmem : '-' ∈ w.language ++ place (some ('-', t)) := List.mem_append_right _ List.mem_cons_self
      constructor
      · intro h
        rw [show w.language ++ place (some ('-', t)) = ['C'] from h] at hmem
        exact absurd hmem (by decide)
      · rintro ⟨-, h⟩
        cases h _ rfl

/-- With blanks at its end, the codeset of a name is the encoding that is spelled, perhaps with these blanks. -/
theorem exists_codeset (hv : Unicode.AllBlank v) (h : Platform.hasCodeset (w.text ++ v) size) :
    Platform.isPlaceInC (w.language ++ place w.territory) ∧ Platform.isPath (w.text ++ v) ∧
      ∃ e ∈ w.encoding, ∃ x, Unicode.AllBlank x ∧ e ++ x <:+: w.text ++ v ∧
        Platform.isInstalledCodeset (e ++ x) := by
  have hnot : ∀ c, ¬ Unicode.isBlank c → c ∉ v := fun c hc hmem => hc (hv c hmem)
  cases hm : w.modifier with
  | some m =>
    have htext : w.text ++ v = w.language ++ place w.territory ++ afterMark '.' w.encoding ++
        afterMark '@' (some (m ++ v)) := by
      rw [text, hm]
      simp [afterMark]
    rw [htext] at h ⊢
    obtain ⟨hplace, ⟨e, he, hcodeset⟩, hpath, -⟩ := (Platform.hasCodeset_append w.dot_not_mem w.at_not_mem).1 h
    refine ⟨hplace, hpath, e, he, [], Unicode.allBlank_nil, ?_, by rwa [List.append_nil]⟩
    rw [Option.mem_def.1 he]
    exact ⟨w.language ++ place w.territory ++ ['.'], afterMark '@' (some (m ++ v)), by simp [afterMark]⟩
  | none =>
    cases he : w.encoding with
    | some e =>
      have htext : w.text ++ v = w.language ++ place w.territory ++ afterMark '.' (some (e ++ v)) ++
          afterMark '@' none := by
        rw [text, hm, he]
        simp [afterMark]
      have hat : '@' ∉ w.language ++ place w.territory ++ afterMark '.' (some (e ++ v)) := by
        have hself := w.at_not_mem
        rw [he] at hself
        have hsplit : w.language ++ place w.territory ++ afterMark '.' (some (e ++ v)) =
            w.language ++ place w.territory ++ afterMark '.' (some e) ++ v := by simp [afterMark]
        rw [hsplit]
        exact fun hmem => (List.mem_append.1 hmem).elim hself (hnot '@' (by decide))
      rw [htext] at h ⊢
      obtain ⟨hplace, ⟨_, ⟨⟩, hcodeset⟩, hpath, -⟩ := (Platform.hasCodeset_append w.dot_not_mem hat).1 h
      refine ⟨hplace, hpath, e, rfl, v, hv, ?_, hcodeset⟩
      exact ⟨w.language ++ place w.territory ++ ['.'], [], by simp [afterMark]⟩
    | none =>
      refine absurd h (Platform.not_hasCodeset_of_not_mem fun hmem => ?_)
      rw [text, hm, he, afterMark, afterMark, List.append_nil, List.append_nil] at hmem
      exact (List.mem_append.1 hmem).elim w.dot_not_mem (hnot '.' (by decide))

theorem NamesC.of_hasCodeset (hv : Unicode.AllBlank v) (h : Platform.hasCodeset (w.text ++ v) size) :
    NamesC w := by
  obtain ⟨hplace, hpath, e, he, x, hx, hpart, hcodeset⟩ := exists_codeset hv h
  obtain ⟨hlanguage, hmark⟩ := isPlaceInC_iff.1 hplace
  have hslash : '/' ∉ w.text ++ v := by
    rw [text, hlanguage] at hpath ⊢
    exact Platform.not_mem_of_isPath (by decide) hpath
  rw [Platform.isInstalledCodeset_of_not_mem fun hmem => hslash (hpart.subset hmem),
    Platform.plainCodeset_append_of_allBlank hx] at hcodeset
  exact ⟨hlanguage, hmark, ⟨e, he, hcodeset⟩, fun hmem => hslash (List.mem_append_left v hmem)⟩

namespace NamesC

theorem toText_id (h : NamesC w) : w.id.toText =
    w.language ++ place w.territory ++ afterMark '.' w.encoding ++ afterMark '@' (given? w.id.modifier) := by
  have hterritory : place w.territory = afterMark '_' (given? ((w.territory.map (·.2)).getD [])) := by
    rcases hp : w.territory with _ | ⟨mark, t⟩
    · rfl
    · obtain rfl : mark = '_' := h.mark _ hp
      rw [Option.map_some, Option.getD_some, given?, if_neg (w.territory_plain _ hp).2.1]
      rfl
  have hencoding : given? (w.encoding.getD []) = w.encoding := by
    obtain ⟨e, he, hcodeset⟩ := h.codeset
    refine given?_getD fun hempty => ?_
    obtain rfl : e = [] := Option.some.inj ((Option.mem_def.1 he).symm.trans hempty)
    exact absurd hcodeset (by decide)
  rw [LocaleId.toText_eq, hterritory]
  show w.language ++ _ ++ afterMark '.' (given? (w.encoding.getD [])) ++ _ = _
  rw [hencoding]
  rfl

/-- The identifier is printed as the name is written, but for an at sign with nothing after it. -/
theorem text_eq (h : NamesC w) : w.text = w.id.toText ∨ EndsOpen w.text ∧ w.text = w.id.toText ++ ['@'] := by
  rw [h.toText_id, endsOpen_text_iff, text]
  show _ = _ ++ afterMark '@' (given? (w.modifier.getD [])) ∨ _
  by_cases hm : w.modifier = some []
  · refine .inr ⟨hm, ?_⟩
    have hid : given? w.id.modifier = none := if_pos (congrArg (Option.getD · []) hm)
    rw [hm, hid, afterMark, afterMark, List.append_nil]
  · rw [given?_getD hm]
    exact .inl rfl

theorem toText_start (h : NamesC w) : w.id.toText <+: w.text := by
  rcases h.text_eq with heq | ⟨-, heq⟩
  · exact ⟨[], by rw [heq, List.append_nil]⟩
  · exact ⟨['@'], heq.symm⟩

theorem hasCodeset_toText (h : NamesC w) (hsize : size ≤ Platform.nameLimit) :
    Platform.hasCodeset w.id.toText size := by
  have hslash : '/' ∉ w.id.toText := fun hmem => h.slash (h.toText_start.subset hmem)
  have hdots : w.id.toText ≠ "..".toList := by
    rw [h.toText_id, h.language]
    exact fun heq => absurd (List.cons.inj heq).1 (by decide)
  obtain ⟨e, he, hcodeset⟩ := h.codeset
  have hpath := Platform.isPath_of_not_mem hslash hdots
  have he' : '/' ∉ e := by
    refine fun hmem => h.slash (List.mem_append_left _ (List.mem_append_right _ ?_))
    rw [Option.mem_def.1 he]
    exact List.mem_cons_of_mem _ hmem
  rw [h.toText_id] at hpath ⊢
  refine (Platform.hasCodeset_append w.dot_not_mem w.at_not_mem).2
    ⟨isPlaceInC_iff.2 ⟨h.language, h.mark⟩, ⟨e, he, ?_⟩, hpath, hsize⟩
  rwa [Platform.isInstalledCodeset_of_not_mem he']

end NamesC

end Spelling

namespace Environment
variable {env : Environment}

/-- The variables hold no NULs, as none can. -/
structure NulFree (env : Environment) : Prop where
  lcAll : '\x00' ∉ env.lcAll.symbols
  lcCollate : '\x00' ∉ env.lcCollate.symbols
  lang : '\x00' ∉ env.lang.symbols

theorem wanted_cases (env : Environment) : env.wanted = .text ['C'] ∨
    env.wanted ≠ .text [] ∧ env.wanted ∈ [env.lcAll, env.lcCollate, env.lang] := by
  unfold wanted
  cases h : [env.lcAll, env.lcCollate, env.lang].find? (· ≠ .text []) with
  | none => exact .inl rfl
  | some value => exact .inr ⟨by simpa using List.find?_some h, List.mem_of_find?_eq_some h⟩

theorem NulFree.nul_not_mem_wanted (h : env.NulFree) : '\x00' ∉ env.wanted.symbols := by
  rcases env.wanted_cases with hwanted | ⟨-, hmem⟩
  · rw [hwanted]
    decide
  · have hall : ∀ value ∈ [env.lcAll, env.lcCollate, env.lang], '\x00' ∉ value.symbols := by
      simpa using ⟨h.lcAll, h.lcCollate, h.lang⟩
    exact hall _ hmem

end Environment

namespace Platform
variable {env : Environment} {name full : Text} {territory modifier : Option Text} {l : LocaleId}
  {size : Nat} {r : Refusal}

theorem exists_namesC (h : hasCodeset name size) (hparse : LocaleId.parse? name = some l) :
    ∃ (w : Spelling) (v : Text), w.NamesC ∧ w.id = l ∧ w.text = Unicode.trimBlanks name ∧
      Unicode.AllBlank v ∧ name = w.text ++ v := by
  obtain ⟨w, hw⟩ := LocaleId.exists_spelling hparse
  obtain ⟨u, v, hu, hv, hname⟩ := Unicode.exists_allBlank_append name
  have hid : w.id = l := Option.some.inj ((LocaleId.parse?_of_text hw).symm.trans hparse)
  have hnil : u = [] := by
    cases u with
    | nil => rfl
    | cons c rest =>
      have hc := hu c List.mem_cons_self
      rcases head?_of_hasCodeset h c (by rw [hname]; rfl) with rfl | rfl
      · exact absurd hc (by decide)
      · exact absurd hc (by decide)
  rw [hnil, List.nil_append, ← hw] at hname
  rw [hname] at h
  exact ⟨w, v, .of_hasCodeset hv h, hid, hw, hv, hname⟩

/-! ### What the basic platform accepts -/

theorem nameInC_eq_ok_iff : nameInC name = .ok full ↔
    (name = ['C'] ∨ name = "POSIX".toList) ∧ full = ['C'] ∨
      isCodesetName name ∧ '\x00' ∉ name ∧ full = name := by
  have hplain : name = ['C'] ∨ name = "POSIX".toList → '\x00' ∉ name ∧ ¬ isCodesetName name := by
    rintro (rfl | rfl) <;> decide
  unfold nameInC
  split_ifs with hnul hC hcodeset
  · exact ⟨nofun, by grind⟩
  · rw [Except.ok.injEq]
    grind
  · rw [Except.ok.injEq]
    grind
  · exact ⟨nofun, by grind⟩

/-- A full name stands for itself. -/
theorem nameInC_full (h : nameInC name = .ok full) : nameInC full = .ok full := by
  rcases nameInC_eq_ok_iff.1 h with ⟨-, rfl⟩ | ⟨-, -, rfl⟩
  · rfl
  · exact h

theorem ne_nil_of_nameInC (h : nameInC name = .ok full) : name ≠ [] := by
  rintro rfl
  cases h

theorem refusal_of_nameInC (h : nameInC name = .error r) :
    r = if '\x00' ∈ name then .embeddedNul else .notInstalled := by
  unfold nameInC at h
  split_ifs at h ⊢ <;> exact (Except.error.inj h).symm

/-- A full name that is an identifier is printed as a full name again. Without blanks and an at sign at its end
it is printed as it is. -/
theorem nameInC_toText (h : nameInC name = .ok name) (hparse : LocaleId.parse? name = some l) :
    nameInC l.toText = .ok l.toText ∧ l.language = ['C'] ∧ TrimsTo name l.toText ∧
      (l.toText = name ↔ Unicode.trimBlanks name = name ∧ ¬ EndsOpen name) := by
  rcases nameInC_eq_ok_iff.1 h with ⟨-, rfl⟩ | ⟨hcodeset, hnul, -⟩
  · obtain rfl : ⟨['C'], [], [], []⟩ = l := Option.some.inj ((by decide +kernel : _ = _).trans hparse)
    exact ⟨rfl, rfl, .refl _, by decide⟩
  · obtain ⟨w, v, hw, rfl, htrim, hv, hname⟩ := exists_namesC hcodeset hparse
    have hstart : w.id.toText <+: name := by
      rw [hname]
      exact hw.toText_start.trans (List.prefix_append _ _)
    have hsize : w.id.toText.byteSize ≤ nameLimit := by
      rw [isCodesetName, hasCodeset, Bool.and_eq_true] at hcodeset
      exact (byteSize_mono hstart).trans (of_decide_eq_true hcodeset.2)
    refine ⟨nameInC_eq_ok_iff.2 (.inr ⟨hw.hasCodeset_toText hsize, fun hmem => hnul (hstart.subset hmem), rfl⟩),
      hw.language, ⟨v, hv, ?_⟩, ?_⟩
    · rcases hw.text_eq with heq | ⟨-, heq⟩
      · exact .inl (heq ▸ hname)
      · rw [heq, List.append_assoc] at hname
        exact .inr hname
    · rw [← htrim]
      constructor
      · intro heq
        have htext : w.text = name := by
          refine List.IsPrefix.eq_of_length_le ⟨v, hname.symm⟩ ?_
          rw [← heq]
          exact hw.toText_start.length_le
        exact ⟨htext, heq ▸ (LocaleId.wellFormed_of_parse? hparse).not_endsOpen_toText⟩
      · rintro ⟨htext, hopen⟩
        rw [← htext] at hopen ⊢
        exact (hw.text_eq.resolve_right fun h => hopen h.1).symm

theorem basic_select_of_ne_nil (env : Environment) (h : name ≠ []) : (basic env).select name = nameInC name :=
  if_neg h

theorem basic_select_nil (env : Environment) : (basic env).select [] = valueInC env.wanted := rfl

theorem basic_select_of_nameInC (env : Environment) (h : nameInC name = .ok full) :
    (basic env).select name = .ok full := by
  rw [basic_select_of_ne_nil env (ne_nil_of_nameInC h), h]

theorem nameInC_of_basic_select (h : (basic env).select name = .ok full) : nameInC full = .ok full := by
  by_cases hne : name = []
  · rw [hne, basic_select_nil] at h
    cases hvalue : env.wanted with
    | text s =>
      rw [hvalue] at h
      exact nameInC_full h
    | broken =>
      rw [hvalue, valueInC] at h
      split_ifs at h
  · rw [basic_select_of_ne_nil env hne] at h
    exact nameInC_full h

/-- A full name is accepted again, and stands for itself. -/
theorem basic_select_select (h : (basic env).select name = .ok full) : (basic env).select full = .ok full :=
  basic_select_of_nameInC env (nameInC_of_basic_select h)

/-- Without an environment, the full name is that of the C locale or the name itself. -/
theorem basic_select_cases (h : (basic {}).select name = .ok full) : full = ['C'] ∨ full = name := by
  by_cases hne : name = []
  · subst hne
    exact .inl (Except.ok.inj (h.symm.trans (by decide)))
  · rw [basic_select_of_ne_nil _ hne] at h
    rcases nameInC_eq_ok_iff.1 h with ⟨-, hC⟩ | ⟨-, -, hname⟩
    · exact .inl hC
    · exact .inr hname

theorem refusal_of_basic_select (h : (basic {}).select name = .error r) :
    r = if '\x00' ∈ name then .embeddedNul else .notInstalled := by
  by_cases hne : name = []
  · subst hne
    cases h.symm.trans (by decide : (basic {}).select [] = .ok ['C'])
  · rw [basic_select_of_ne_nil _ hne] at h
    exact refusal_of_nameInC h

/-- An environment without NULs is refused if its locale is not installed, or if its name is no text. -/
theorem refusal_of_environment (henv : env.NulFree) (h : (basic env).select [] = .error r) :
    r = .notInstalled ∨ ∃ byte position, r = .undecodable byte position := by
  have hnul := henv.nul_not_mem_wanted
  rw [basic_select_nil] at h
  cases hvalue : env.wanted with
  | text s =>
    rw [hvalue] at h hnul
    exact .inl ((refusal_of_nameInC h).trans (if_neg hnul))
  | broken start byte =>
    rw [hvalue, valueInC] at h
    split_ifs at h
    · exact .inr ⟨byte, start.byteSize, (Except.error.inj h).symm⟩
    · exact .inl (Except.error.inj h).symm

/-- An identifier in UTF-8 that is accepted is one of the C locale. -/
theorem basic_select_unicode (hl : l.WellFormed)
    (h : (basic env).select { l with encoding := "UTF-8".toList }.toText = .ok full) :
    l.language = ['C'] ∧ '\x00' ∉ l.modifier ∧ full = { l with encoding := "UTF-8".toList }.toText := by
  have htext : { l with encoding := "UTF-8".toList }.toText = l.language ++
      afterMark '_' (given? l.territory) ++ afterMark '.' (some "UTF-8".toList) ++
      afterMark '@' (given? l.modifier) := LocaleId.toText_eq _
  have hunicode : { l with encoding := "UTF-8".toList }.WellFormed :=
    { hl with encoding := (by decide : '@' ∉ "UTF-8".toList) }
  have hat : '@' ∉ l.language ++ afterMark '_' (given? l.territory) ++ afterMark '.' (some "UTF-8".toList) :=
    hunicode.at_not_mem_code
  have hplace : IsWord (l.language ++ afterMark '_' (given? l.territory)) := hl.isAlphanum_place
  have hline : '_' ∉ l.language := fun hmem => absurd (hl.language '_' hmem) (by decide)
  rw [htext] at h ⊢
  have hdot : '.' ∈ l.language ++ afterMark '_' (given? l.territory) ++ afterMark '.' (some "UTF-8".toList) ++
      afterMark '@' (given? l.modifier) :=
    List.mem_append_left _ (List.mem_append_right _ List.mem_cons_self)
  rw [basic_select_of_ne_nil env (List.ne_nil_of_mem hdot)] at h
  rcases nameInC_eq_ok_iff.1 h with ⟨hC | hC, -⟩ | ⟨hcodeset, hnul, hfull⟩
  · exact absurd (hC ▸ hdot) (by decide)
  · exact absurd (hC ▸ hdot) (by decide)
  · obtain ⟨hC, -⟩ := (hasCodeset_append (hplace.not_mem (by decide)) hat).1 hcodeset
    rw [isPlaceInC_of_not_mem (hplace.not_mem (by decide)), decide_eq_true_eq, cut_append_afterMark hline] at hC
    refine ⟨hC, fun hmem => hnul (List.mem_append_right _ ?_), hfull⟩
    rw [given?, if_neg (List.ne_nil_of_mem hmem)]
    exact List.mem_cons_of_mem _ hmem

/-- The C locale has a territory or a modifier only together with a codeset. -/
theorem basic_select_without_codeset (env : Environment) (ht : ∀ t ∈ territory, ∀ c ∈ t, c.isAlphanum)
    (hm : ∀ m ∈ modifier, '\x00' ∉ m) (hne : territory ≠ none ∨ modifier ≠ none) :
    (basic env).select (['C'] ++ afterMark '_' territory ++ afterMark '@' modifier) =
      .error .notInstalled := by
  have hplace : IsWord (['C'] ++ afterMark '_' territory) := isWord_C ht
  have hnul : '\x00' ∉ ['C'] ++ afterMark '_' territory ++ afterMark '@' modifier := by
    refine fun h => (List.mem_append.1 h).elim (hplace.not_mem (by decide)) fun h => ?_
    exact forall_mem_afterMark (p := (· ≠ '\x00')) (by decide)
      (fun m hmem c hc he => hm m hmem (he ▸ hc)) '\x00' h rfl
  have hC : ¬ (['C'] ++ afterMark '_' territory ++ afterMark '@' modifier = ['C'] ∨
      ['C'] ++ afterMark '_' territory ++ afterMark '@' modifier = "POSIX".toList) := by
    rintro (h | h)
    · rw [List.append_assoc, List.append_right_eq_self] at h
      obtain ⟨hterritory, hmodifier⟩ := List.append_eq_nil_iff.1 h
      exact hne.elim (· (afterMark_eq_nil hterritory)) (· (afterMark_eq_nil hmodifier))
    · cases congrArg List.head? h
  have hcodeset : ¬ isCodesetName (['C'] ++ afterMark '_' territory ++ afterMark '@' modifier) := by
    have hat : '@' ∉ ['C'] ++ afterMark '_' territory ++ afterMark '.' none := by
      rw [afterMark, List.append_nil]
      exact hplace.not_mem (by decide)
    intro h
    have hname : ['C'] ++ afterMark '_' territory ++ afterMark '@' modifier =
        ['C'] ++ afterMark '_' territory ++ afterMark '.' none ++ afterMark '@' modifier := by
      rw [afterMark.eq_1 '.', List.append_nil]
    rw [isCodesetName, hname, hasCodeset_append (hplace.not_mem (by decide)) hat] at h
    obtain ⟨-, ⟨_, ⟨⟩, -⟩, -⟩ := h
  have hnil : ['C'] ++ afterMark '_' territory ++ afterMark '@' modifier ≠ [] := List.cons_ne_nil _ _
  rw [basic_select_of_ne_nil env hnil, nameInC, if_neg hnul, if_neg hC, if_neg hcodeset]

end Platform

end NaturalOrder
