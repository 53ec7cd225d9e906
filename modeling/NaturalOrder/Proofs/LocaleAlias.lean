import NaturalOrder.Locale.Alias
import NaturalOrder.Proofs.LocaleName
import NaturalOrder.Proofs.Lowercase

/-!
# What aliases stand for

No alias stands for a name with nothing after its at sign (`LocaleAlias.not_endsOpen_fullName`). The C locale
with a territory and a modifier, but without a codeset, has no full name that would be accepted in its place
(`LocaleAlias.basic_select_fullName`).
-/

namespace NaturalOrder
open Text

/-! ### Lowercase -/

namespace Unicode
variable {c : Char} {s u : Text}

/-- In front of a text, ASCII is put into lowercase by itself. -/
theorem lowercaseAfter_append_of_ascii (h : ∀ c ∈ u, c.toNat < 0x80) (before s : List Char) :
    lowercaseAfter before (u ++ s) = u.map Char.toLower ++ lowercaseAfter (u.reverse ++ before) s := by
  induction u generalizing before with
  | nil => rfl
  | cons c rest ih =>
    obtain ⟨hc, hrest⟩ := List.forall_mem_cons.1 h
    have hsigma : c ≠ 'Σ' := by
      rintro rfl
      exact absurd hc (by decide)
    rw [List.cons_append, lowercaseAfter, if_neg fun hs => hsigma hs.1, lowercase, if_pos hc, ih hrest,
      List.reverse_cons, List.append_assoc]
    rfl

theorem lowercase_ne_nil (c : Char) : lowercase c ≠ [] := by
  unfold lowercase
  dsimp only
  split_ifs
  · exact List.cons_ne_nil _ _
  · exact List.cons_ne_nil _ _
  · split <;> exact List.cons_ne_nil _ _

theorem lowercaseAfter_ne_nil (h : s ≠ []) (before : List Char) : lowercaseAfter before s ≠ [] := by
  cases s with
  | nil => exact absurd rfl h
  | cons c rest =>
    refine List.append_ne_nil_of_left_ne_nil ?_ _
    split_ifs
    · exact List.cons_ne_nil _ _
    · exact lowercase_ne_nil c

theorem toNat_ofNat {n : Nat} (h : n.isValidChar) : (Char.ofNat n).toNat = n := by
  rw [Char.ofNat, dif_pos h]
  rfl

/-- All images in the table are characters other than NUL. -/
theorem lowercaseRuns_valid : ∀ r ∈ lowercaseRuns, 0 < r.image ∧
    (r.image + (r.last - r.first) < 0xD800 ∨ 0xDFFF < r.image ∧ r.image + (r.last - r.first) < 0x110000) := by
  decide +kernel

theorem nul_not_mem_lowercase (hc : c ≠ '\x00') : '\x00' ∉ lowercase c := by
  unfold lowercase
  dsimp only
  split_ifs
  · rw [List.mem_singleton]
    exact fun h => hc ((toLower_eq_iff (by decide)).1 h.symm)
  · decide
  · split
    · next lower hlower =>
      obtain ⟨r, hr, hmap⟩ := List.exists_of_findSome?_eq_some hlower
      obtain ⟨hpos, hvalid⟩ := lowercaseRuns_valid r hr
      rw [CaseRun.map?] at hmap
      split_ifs at hmap with hrange
      obtain rfl := Option.some.inj hmap
      rw [List.mem_singleton]
      intro h
      have hchar : (r.image + (c.toNat - r.first)).isValidChar := by
        unfold Nat.isValidChar
        omega
      have hnat : 0 = (Char.ofNat (r.image + (c.toNat - r.first))).toNat := congrArg Char.toNat h
      rw [toNat_ofNat hchar] at hnat
      omega
    · rw [List.mem_singleton]
      exact hc.symm

theorem nul_not_mem_lowercaseAfter (h : '\x00' ∉ s) (before : List Char) :
    '\x00' ∉ lowercaseAfter before s := by
  induction s generalizing before with
  | nil => exact List.not_mem_nil
  | cons c rest ih =>
    rw [List.mem_cons, not_or] at h
    rw [lowercaseAfter, List.mem_append, not_or]
    refine ⟨?_, ih h.2 _⟩
    split_ifs
    · decide
    · exact nul_not_mem_lowercase fun hc => h.1 hc.symm

end Unicode

namespace LocaleAlias
variable {name encoding modifier found s t m kept : Text} {table : List (String × String)}

/-! ### The tables

What all entries have in common is checked on the bytes of the entries.
-/

theorem mem_of_find? (h : find? table name = some found) :
    (String.ofList name, String.ofList found) ∈ table := by
  obtain ⟨full, hfull, rfl⟩ := Option.map_eq_some_iff.1 h
  obtain ⟨l₁, l₂, rfl, -⟩ := List.lookup_eq_some_iff.1 hfull
  rw [String.ofList_toList]
  exact List.mem_append_right l₁ List.mem_cons_self

theorem bytes_ofList (s : Text) :
    (String.ofList s).toByteArray.data.toList = s.flatMap String.utf8EncodeChar :=
  List.toList_data_toByteArray

theorem names_getLast : ∀ e ∈ names, e.2.toByteArray.data.toList.getLast? ≠ some 0x40 := by decide +kernel

theorem names_territory : ∀ e ∈ names, e.1.toByteArray.data.toList.take 2 = [0x63, 0x5F] →
    0x40 ∉ e.1.toByteArray.data.toList ∧ e.2 = "C" := by
  decide +kernel

theorem encodings_plain : ∀ e ∈ encodings, 0x40 ∉ e.2.toByteArray.data.toList := by decide +kernel

theorem commonEncodings_plain : ∀ e ∈ commonEncodings, 0x40 ∉ e.2.toByteArray.data.toList := by
  decide +kernel

theorem mem_bytes_ofList (h : '@' ∈ s) : 0x40 ∈ (String.ofList s).toByteArray.data.toList := by
  rw [bytes_ofList]
  exact List.mem_flatMap.2 ⟨'@', h, by decide⟩

theorem not_mem_of_find? (htable : ∀ e ∈ table, 0x40 ∉ e.2.toByteArray.data.toList)
    (h : find? table name = some found) : '@' ∉ found :=
  fun hat => htable _ (mem_of_find? h) (mem_bytes_ofList hat)

theorem not_mem_find?_getD (htable : ∀ e ∈ table, 0x40 ∉ e.2.toByteArray.data.toList) (hs : '@' ∉ s) :
    '@' ∉ (find? table name).getD s := by
  cases h : find? table name with
  | none => exact hs
  | some found => exact not_mem_of_find? htable h

theorem not_endsOpen_of_find? (h : find? names name = some found) : ¬ EndsOpen found := by
  intro hopen
  obtain ⟨u, -, rfl⟩ := hopen.eq_append
  refine names_getLast _ (mem_of_find? h) ?_
  rw [bytes_ofList, List.flatMap_append]
  exact List.getLast?_concat

theorem find?_territory {t : Text} (h : find? names ('c' :: '_' :: t) = some found) :
    '@' ∉ t ∧ found = ['C'] := by
  have hbytes : ((String.ofList ('c' :: '_' :: t)).toByteArray.data.toList).take 2 = [0x63, 0x5F] := by
    rw [bytes_ofList]
    rfl
  obtain ⟨hat, hfound⟩ := names_territory _ (mem_of_find? h) hbytes
  refine ⟨fun hm => hat (mem_bytes_ofList (List.mem_cons_of_mem _ (List.mem_cons_of_mem _ hm))), ?_⟩
  have := congrArg String.toList hfound
  rwa [String.toList_ofList] at this

/-! ### Encodings and modifiers -/

theorem not_mem_plainEncoding (hkept : '@' ∉ kept) (gap : Bool) : '@' ∉ plainEncoding kept gap s := by
  induction s generalizing kept gap with
  | nil => exact hkept
  | cons c rest ih =>
    rw [plainEncoding]
    split
    · next hc =>
      have hat : '@' ≠ c := by
        rintro rfl
        exact absurd hc (by decide +kernel)
      refine ih ?_ false
      split_ifs <;> simp [hkept, hat]
    · exact ih hkept true

theorem not_mem_encodingName (encoding : Text) : '@' ∉ encodingName encoding := by
  have hplain : '@' ∉ plainEncoding [] false encoding := not_mem_plainEncoding List.not_mem_nil false
  unfold encodingName
  dsimp only
  split
  · next h => exact not_mem_of_find? encodings_plain h
  · exact not_mem_find?_getD encodings_plain (not_mem_find?_getD commonEncodings_plain hplain)

theorem not_endsOpen_withEncoding (name encoding : Text) : ¬ EndsOpen (withEncoding name encoding) :=
  not_endsOpen_append (List.cons_ne_nil _ _) fun h => by
    rcases List.mem_cons.1 h with h | h
    · exact absurd h (by decide)
    · exact not_mem_encodingName encoding h

theorem not_endsOpen_withModifier (hname : ¬ EndsOpen name) (hm : modifier ≠ []) :
    ¬ EndsOpen (withModifier name modifier) := by
  unfold withModifier
  dsimp only
  split
  · split
    · exact not_endsOpen_append (List.cons_ne_nil _ _) (by decide)
    · split_ifs
      · exact hname
      · exact not_endsOpen_withEncoding name _
      · exact not_endsOpen_append_modifier hm
  · exact not_endsOpen_append_modifier hm

/-! ### Full names -/

namespace Parts
variable {p : Parts}

theorem cut_of_find? {code own : Text} (h : find? names name = some found)
    (hcut : found.cut '@' = (code, some own)) : own ≠ [] := by
  rintro rfl
  exact not_endsOpen_of_find? h (congrArg Prod.snd hcut)

theorem not_endsOpen_of_findEncoded? (h : p.findEncoded? = some name) : ¬ EndsOpen name := by
  unfold findEncoded? at h
  split at h
  · cases h
  · next hm =>
    obtain ⟨found, hfound, h⟩ := Option.bind_eq_some_iff.1 h
    split at h
    · cases h
      exact not_endsOpen_withModifier (not_endsOpen_of_find? hfound) hm
    · split at h
      · cases h
        exact not_endsOpen_of_find? hfound
      · cases h

theorem not_endsOpen_of_findModified? (h : p.findModified? = some name) : ¬ EndsOpen name := by
  unfold findModified? at h
  split at h
  · cases h
  · obtain ⟨found, hfound, h⟩ := Option.map_eq_some_iff.1 h
    split at h
    · cases h
      exact not_endsOpen_withEncoding found p.encoding
    · next hcut =>
      cases h
      exact not_endsOpen_append_modifier (cut_of_find? hfound hcut)

theorem not_endsOpen_of_findLanguage? (h : p.findLanguage? = some name) : ¬ EndsOpen name := by
  unfold findLanguage? at h
  split at h
  · cases h
  · next hpart =>
    obtain ⟨found, hfound, h⟩ := Option.bind_eq_some_iff.1 h
    split at h
    · cases h
      exact not_endsOpen_withModifier (not_endsOpen_withEncoding found p.encoding)
        fun hm => hpart (.inr hm)
    · next hcut =>
      split at h
      · cases h
        exact not_endsOpen_append_modifier (cut_of_find? hfound hcut)
      · cases h

end Parts

theorem not_endsOpen_fullName (h : fullName name ≠ name) : ¬ EndsOpen (fullName name) := by
  unfold fullName at h ⊢
  dsimp only at h ⊢
  cases hfound : ((parts name).findAll? <|> (parts name).findEncoded? <|> (parts name).findModified? <|>
      (parts name).findLanguage?) with
  | none =>
    rw [hfound] at h
    exact absurd rfl h
  | some found =>
    simp only [Option.orElse_eq_orElse, Option.orElse_eq_or, Option.or_eq_some_iff] at hfound
    rcases hfound with h | ⟨-, h | ⟨-, h | ⟨-, h⟩⟩⟩
    · exact not_endsOpen_of_find? h
    · exact Parts.not_endsOpen_of_findEncoded? h
    · exact Parts.not_endsOpen_of_findModified? h
    · exact Parts.not_endsOpen_of_findLanguage? h

/-! ### The C locale without a codeset -/

theorem lt_of_isWord (h : IsWord s) : ∀ c ∈ s, c.toNat < 0x80 := by
  intro c hc
  rcases h c hc with hc | rfl
  · have := isAlphanum_iff.1 hc
    omega
  · decide

theorem isWord_map_toLower (h : IsWord s) : IsWord (s.map Char.toLower) := by
  intro c hc
  obtain ⟨d, hd, rfl⟩ := List.mem_map.1 hc
  rcases h d hd with hd | rfl
  · exact .inl ((Unicode.isAlphanum_toLower d).trans hd)
  · exact .inr (by decide)

theorem map_colon_of_not_mem (h : ':' ∉ s) : (s.map fun c => if c = ':' then '.' else c) = s := by
  refine (List.map_congr_left fun c hc => if_neg ?_).trans (List.map_id s)
  rintro rfl
  exact h hc

theorem nul_not_mem_map_colon (h : '\x00' ∉ s) : '\x00' ∉ s.map fun c => if c = ':' then '.' else c := by
  intro hmem
  obtain ⟨c, hc, heq⟩ := List.mem_map.1 hmem
  split_ifs at heq
  · cases heq
  · exact h (heq ▸ hc)

/-- The parts of a name that has a modifier and no encoding. -/
theorem exists_parts_eq {code modifier : Text} (hcode : IsWord code) (hne : modifier ≠ [])
    (hnul : '\x00' ∉ modifier) :
    ∃ m, m ≠ [] ∧ '\x00' ∉ m ∧ parts (code ++ '@' :: modifier) = ⟨code.map Char.toLower, [], m⟩ := by
  have hascii : ∀ c ∈ code ++ ['@'], c.toNat < 0x80 :=
    List.forall_mem_append.2 ⟨lt_of_isWord hcode, List.forall_mem_singleton.2 (by decide)⟩
  have hlower := isWord_map_toLower hcode
  -- the letter before a sigma may be before the at sign, so the modifier is not put into lowercase by itself
  let tail := Unicode.lowercaseAfter ((code ++ ['@']).reverse ++ []) modifier
  have htext : (Unicode.lowercaseText (code ++ '@' :: modifier)).map (fun c => if c = ':' then '.' else c) =
      code.map Char.toLower ++ afterMark '@' (some (tail.map fun c => if c = ':' then '.' else c)) := by
    have happend := Unicode.lowercaseAfter_append_of_ascii hascii [] modifier
    rw [List.append_assoc] at happend
    rw [Unicode.lowercaseText, ← List.singleton_append, happend, List.map_append, List.map_append,
      List.map_append, map_colon_of_not_mem (hlower.not_mem (by decide)), List.append_assoc]
    rfl
  refine ⟨tail.map fun c => if c = ':' then '.' else c, ?_, ?_, ?_⟩
  · exact fun h => Unicode.lowercaseAfter_ne_nil hne _ (List.map_eq_nil_iff.1 h)
  · exact nul_not_mem_map_colon (Unicode.nul_not_mem_lowercaseAfter hnul _)
  · unfold parts
    dsimp only
    rw [htext, cut_append_afterMark (hlower.not_mem (by decide))]
    dsimp only
    rw [cut_of_not_mem (hlower.not_mem (by decide))]
    rfl

theorem Parts.findAll?_territory (hm : m ≠ []) : Parts.findAll? ⟨'c' :: '_' :: t, [], m⟩ = none := by
  rw [findAll?, modified, if_neg hm, withoutModifier, if_pos rfl]
  refine Option.eq_none_iff_forall_ne_some.2 fun found h => ?_
  exact (find?_territory h).1 (List.mem_append_right t List.mem_cons_self)

theorem Parts.findEncoded?_territory (hm : m ≠ [])
    (h : Parts.findEncoded? ⟨'c' :: '_' :: t, [], m⟩ = some found) : found = withModifier ['C'] m := by
  rw [findEncoded?, if_neg hm, withoutModifier, if_pos rfl] at h
  obtain ⟨c, hc, h⟩ := Option.bind_eq_some_iff.1 h
  obtain ⟨-, rfl⟩ := find?_territory hc
  exact (Option.some.inj h).symm

theorem fullName_territory (ht : ∀ c ∈ t, c.isAlphanum) (hne : modifier ≠ []) (hnul : '\x00' ∉ modifier)
    (hname : name = ['C'] ++ afterMark '_' (some t) ++ afterMark '@' (some modifier)) :
    fullName name = name ∨ ∃ m, '\x00' ∉ m ∧ fullName name = withModifier ['C'] m := by
  have hcode : IsWord (['C'] ++ afterMark '_' (some t)) := by
    refine isWord_C ?_
    rintro _ ⟨⟩
    exact ht
  obtain ⟨m, hm, hmnul, hparts⟩ := exists_parts_eq hcode hne hnul
  have hparts : parts name = ⟨'c' :: '_' :: t.map Char.toLower, [], m⟩ := hname ▸ hparts
  unfold fullName
  dsimp only
  rw [hparts, Parts.findAll?_territory hm]
  cases h : Parts.findEncoded? ⟨'c' :: '_' :: t.map Char.toLower, [], m⟩ with
  | none => exact .inl rfl
  | some found =>
    obtain rfl := Parts.findEncoded?_territory hm h
    exact .inr ⟨m, hmnul, rfl⟩

/-- No full name helps the C locale with a territory and a modifier, but without a codeset. -/
theorem basic_select_fullName (env : Environment) (ht : ∀ c ∈ t, c.isAlphanum) (hne : modifier ≠ [])
    (hnul : '\x00' ∉ modifier) :
    (Platform.basic env).select
      (fullName (['C'] ++ afterMark '_' (some t) ++ afterMark '@' (some modifier))) =
        .error .notInstalled := by
  rcases fullName_territory ht hne hnul rfl with h | ⟨m, hm, h⟩
  · rw [h]
    refine Platform.basic_select_without_codeset env ?_ ?_ (.inl (Option.some_ne_none t))
    · rintro _ ⟨⟩
      exact ht
    · rintro _ ⟨⟩
      exact hnul
  · rw [h, withModifier]
    split
    · exact Platform.basic_select_of_ne_nil env (List.cons_ne_nil _ _)
    · show (Platform.basic env).select (['C'] ++ afterMark '_' none ++ afterMark '@' (some m)) = _
      refine Platform.basic_select_without_codeset env (fun _ h => by cases h) ?_
        (.inr (Option.some_ne_none _))
      rintro _ ⟨⟩
      exact hm

end LocaleAlias
end NaturalOrder
