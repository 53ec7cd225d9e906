import Mathlib.Data.List.TakeDrop
import Mathlib.Data.List.TakeWhile
import NaturalOrder.Locale.Id

/-!
# Reading locale identifiers

An identifier is a language and then up to three parts, each after its mark (`Text.afterMark`). Read back,
such a text gives just these parts (`LocaleId.parse?_of_trimBlanks`), as the marks cannot be in what stands
before them. Whatever is read has parts of the right kind (`LocaleId.wellFormed_of_parse?`), and printing
it and reading it again gives the same identifier, unless a part ends in blanks
(`LocaleId.WellFormed.parse?_toText`).
-/

namespace NaturalOrder

namespace Text
variable {mark : Char} {s u : Text}

/-- A mark and the part after it, or nothing if the part is missing. -/
def afterMark (mark : Char) : Option Text → Text
  | none => []
  | some part => mark :: part

/-- A part is missing if it is empty. -/
def given? (part : Text) : Option Text := if part = [] then none else some part

theorem getD_given? (part : Text) : (given? part).getD [] = part := by
  unfold given?
  split
  · next h => exact h.symm
  · rfl

theorem given?_getD {part : Option Text} (h : part ≠ some []) : given? (part.getD []) = part := by
  cases part with
  | none => rfl
  | some x => exact if_neg fun hx => h (congrArg some hx)

theorem ne_nil_of_mem_given? {part x : Text} (h : x ∈ given? part) : x ≠ [] ∧ x = part := by
  unfold given? at h
  split at h
  · cases h
  · next hne =>
    cases h
    exact ⟨hne, rfl⟩

theorem afterMark_eq_nil {part : Option Text} (h : afterMark mark part = []) : part = none := by
  cases part with
  | none => rfl
  | some part => cases h

theorem head?_afterMark {part : Option Text} {c : Char} (h : c ∈ (afterMark mark part).head?) : c = mark := by
  cases part with
  | none => cases h
  | some part => exact (Option.some.inj h).symm

theorem forall_mem_afterMark {p : Char → Prop} {part : Option Text} (hmark : p mark)
    (h : ∀ x ∈ part, ∀ c ∈ x, p c) : ∀ c ∈ afterMark mark part, p c := by
  intro c hc
  cases part with
  | none => cases hc
  | some x =>
    rcases List.mem_cons.1 hc with rfl | hc
    · exact hmark
    · exact h x rfl c hc

theorem span_append {p : Char → Bool} {v : Text} (hu : ∀ c ∈ u, p c) (hv : ∀ c ∈ v.head?, ¬ p c) :
    (u ++ v).span p = (u, v) := by
  rw [List.span_eq_takeWhile_dropWhile, List.takeWhile_append_of_pos hu, List.dropWhile_append_of_pos hu]
  cases v with
  | nil => rw [List.takeWhile_nil, List.append_nil, List.dropWhile_nil]
  | cons c rest =>
    have hc := hv c rfl
    rw [List.takeWhile_cons_of_neg hc, List.append_nil, List.dropWhile_cons_of_neg hc]

/-- A text is cut at the first of its marks. -/
theorem cut_append_afterMark (hu : mark ∉ u) (part : Option Text) :
    (u ++ afterMark mark part).cut mark = (u, part) := by
  have hp : ∀ c ∈ u, decide (c ≠ mark) = true := fun c hc => decide_eq_true fun h => hu (h ▸ hc)
  rw [cut, span_append hp fun c hc => by simp [head?_afterMark hc]]
  cases part <;> rfl

theorem cut_of_not_mem (hu : mark ∉ u) : u.cut mark = (u, none) := by
  have h := cut_append_afterMark hu none
  rwa [afterMark, List.append_nil] at h

theorem cut_eq (s : Text) (mark : Char) :
    mark ∉ (s.cut mark).1 ∧ s = (s.cut mark).1 ++ afterMark mark (s.cut mark).2 := by
  have hfirst : mark ∉ s.takeWhile (· ≠ mark) := fun h => by simpa using List.mem_takeWhile_imp h
  have hs : s.takeWhile (· ≠ mark) ++ s.dropWhile (· ≠ mark) = s := List.takeWhile_append_dropWhile
  rw [cut, List.span_eq_takeWhile_dropWhile]
  cases hd : s.dropWhile (· ≠ mark) with
  | nil =>
    rw [hd] at hs
    exact ⟨hfirst, hs.symm⟩
  | cons c rest =>
    have hc : c = mark := by
      have := List.head?_dropWhile_not (· ≠ mark) s
      rw [hd] at this
      exact not_not.1 (of_decide_eq_false this)
    rw [hd, hc] at hs
    exact ⟨hfirst, hs.symm⟩

end Text

section
variable {c : Char}

theorem isAlphanum_iff : c.isAlphanum ↔ (0x41 ≤ c.toNat ∧ c.toNat ≤ 0x5A ∨ 0x61 ≤ c.toNat ∧ c.toNat ≤ 0x7A) ∨
    0x30 ≤ c.toNat ∧ c.toNat ≤ 0x39 := by
  show ((decide (c.val ≥ 'A'.val ∧ c.val ≤ 'Z'.val) ||
    decide (c.val ≥ 'a'.val) && decide (c.val ≤ 'z'.val)) || c.isDigit) = true ↔ _
  rw [Bool.or_eq_true, Bool.or_eq_true, Bool.and_eq_true, decide_eq_true_eq, decide_eq_true_eq,
    decide_eq_true_eq, Char.isDigit_iff_toNat]
  rfl

theorem not_isBlank_of_isAlphanum (h : c.isAlphanum) : ¬ Unicode.isBlank c := by
  have := isAlphanum_iff.1 h
  simp only [Unicode.isBlank, Unicode.inRanges, Unicode.blankRanges, List.any_cons, List.any_nil,
    Bool.or_false, Bool.or_eq_true, Bool.and_eq_true, decide_eq_true_eq]
  omega

end

namespace Unicode
variable {s : Text}

theorem dropWhile_isBlank (h : ∀ c ∈ s.head?, ¬ isBlank c) : s.dropWhile isBlank = s := by
  cases s with
  | nil => rfl
  | cons c rest => exact List.dropWhile_cons_of_neg (h c rfl)

theorem trimBlanks_eq_self (hh : ∀ c ∈ s.head?, ¬ isBlank c) (hl : ∀ c ∈ s.getLast?, ¬ isBlank c) :
    trimBlanks s = s := by
  have hl' : ∀ c ∈ s.reverse.head?, ¬ isBlank c := fun c hc => hl c (List.head?_reverse (l := s) ▸ hc)
  rw [trimBlanks, dropWhile_isBlank hh, dropWhile_isBlank hl', List.reverse_reverse]

end Unicode

namespace LocaleId
open Text

variable {mark : Char} {id l t e m rest : Text}

/-- The parts of an identifier consist of characters that can be told apart from the marks after them. -/
structure WellFormed (l : LocaleId) : Prop where
  language : ∀ c ∈ l.language, c.isAlpha
  territory : ∀ c ∈ l.territory, c.isAlphanum
  encoding : '@' ∉ l.encoding
  modifier : '\n' ∉ l.modifier

theorem marked_eq_afterMark (mark : Char) (part : Text) :
    marked mark part = afterMark mark (given? part) := by
  unfold marked given?
  split <;> rfl

theorem toText_eq (l : LocaleId) : l.toText = l.language ++ afterMark '_' (given? l.territory) ++
    afterMark '.' (given? l.encoding) ++ afterMark '@' (given? l.modifier) := by
  rw [toText, marked_eq_afterMark, marked_eq_afterMark, marked_eq_afterMark]

theorem WellFormed.isAlphanum_place {l : LocaleId} (h : l.WellFormed) :
    ∀ c ∈ l.language ++ afterMark '_' (given? l.territory), c.isAlphanum ∨ c = '_' := by
  refine List.forall_mem_append.2 ⟨fun c hc => .inl ?_, ?_⟩
  · rw [Char.isAlphanum, h.language c hc, Bool.true_or]
  · exact forall_mem_afterMark (.inr rfl) fun t ht c hc =>
      .inl (h.territory c ((ne_nil_of_mem_given? ht).2 ▸ hc))

theorem WellFormed.at_not_mem_code {l : LocaleId} (h : l.WellFormed) :
    '@' ∉ l.language ++ afterMark '_' (given? l.territory) ++ afterMark '.' (given? l.encoding) := by
  intro hat
  rcases List.mem_append.1 hat with hat | hat
  · exact absurd (h.isAlphanum_place '@' hat) (by decide)
  · refine forall_mem_afterMark (p := (· ≠ '@')) (by decide) (fun e he c hc hmark => ?_) '@' hat rfl
    exact h.encoding ((ne_nil_of_mem_given? he).2 ▸ hmark ▸ hc)

/-! ### Reading what is written -/

theorem splitTerritory_afterMark {territory : Option Text} (hmark : mark = '_' ∨ mark = '-')
    (ht : ∀ t ∈ territory, t ≠ [] ∧ ∀ c ∈ t, c.isAlphanum)
    (hrest : ∀ c ∈ rest.head?, c = '.' ∨ c = '@') :
    splitTerritory (afterMark mark territory ++ rest) = (territory.getD [], rest) := by
  have hnot : ∀ c ∈ rest.head?, ¬ c.isAlphanum ∧ ¬ (c = '_' ∨ c = '-') := by
    intro c hc
    rcases hrest c hc with rfl | rfl <;> decide
  cases territory with
  | none =>
    cases rest with
    | nil => rfl
    | cons c rest => exact if_neg fun h => (hnot c rfl).2 h.1
  | some t =>
    obtain ⟨hne, ht⟩ := ht t rfl
    have hspan : (t ++ rest).span Char.isAlphanum = (t, rest) := span_append ht fun c hc => (hnot c hc).1
    have htake : (t ++ rest).takeWhile Char.isAlphanum = t := by
      rw [List.span_eq_takeWhile_dropWhile] at hspan
      exact congrArg Prod.fst hspan
    rw [afterMark, List.cons_append, splitTerritory, htake, if_pos ⟨hmark, hne⟩, hspan]
    rfl

theorem splitEncoding_afterMark {encoding : Option Text} (he : ∀ e ∈ encoding, '@' ∉ e)
    (hrest : ∀ c ∈ rest.head?, c = '@') :
    splitEncoding (afterMark '.' encoding ++ rest) = (encoding.getD [], rest) := by
  cases encoding with
  | none =>
    cases rest with
    | nil => rfl
    | cons c rest => exact if_neg fun h => by cases h.symm.trans (hrest c rfl)
  | some e =>
    have hp : ∀ c ∈ e, decide (c ≠ '@') = true := fun c hc => decide_eq_true fun h => he e rfl (h ▸ hc)
    rw [afterMark, List.cons_append, splitEncoding, if_pos rfl,
      span_append hp fun c hc => by simp [hrest c hc]]
    rfl

theorem modifier?_afterMark {modifier : Option Text} (hm : ∀ m ∈ modifier, '\n' ∉ m) :
    modifier? (afterMark '@' modifier) = some (modifier.getD []) := by
  cases modifier with
  | none => rfl
  | some m => exact if_pos ⟨rfl, hm m rfl⟩

theorem head?_append_of_forall {p : Char → Prop} {u v : Text} (hu : ∀ c ∈ u.head?, p c)
    (hv : ∀ c ∈ v.head?, p c) : ∀ c ∈ (u ++ v).head?, p c := by
  intro c hc
  rw [List.head?_append] at hc
  cases u with
  | nil => exact hv c hc
  | cons d rest => exact hu c hc

/-- A text of parts after their marks is read as these parts. -/
theorem parse?_of_trimBlanks {territory encoding modifier : Option Text}
    (h : Unicode.trimBlanks id = l ++ afterMark mark territory ++ afterMark '.' encoding ++
      afterMark '@' modifier)
    (hmark : mark = '_' ∨ mark = '-') (hl : ∀ c ∈ l, c.isAlpha)
    (ht : ∀ t ∈ territory, t ≠ [] ∧ ∀ c ∈ t, c.isAlphanum) (he : ∀ e ∈ encoding, '@' ∉ e)
    (hm : ∀ m ∈ modifier, '\n' ∉ m) :
    parse? id = some ⟨l, territory.getD [], encoding.getD [], modifier.getD []⟩ := by
  have hat : ∀ c ∈ (afterMark '@' modifier).head?, c = '@' := fun c => head?_afterMark
  have hdot : ∀ c ∈ (afterMark '.' encoding ++ afterMark '@' modifier).head?, c = '.' ∨ c = '@' :=
    head?_append_of_forall (fun c hc => .inl (head?_afterMark hc)) fun c hc => .inr (hat c hc)
  have hstop : ∀ c ∈ (afterMark mark territory ++ (afterMark '.' encoding ++
      afterMark '@' modifier)).head?, ¬ c.isAlpha := by
    refine head?_append_of_forall (fun c hc => ?_) fun c hc => ?_
    · obtain rfl := head?_afterMark hc
      rcases hmark with rfl | rfl <;> decide
    · rcases hdot c hc with rfl | rfl <;> decide
  rw [List.append_assoc, List.append_assoc] at h
  unfold parse?
  rw [h, span_append hl hstop]
  dsimp only
  rw [splitTerritory_afterMark hmark ht hdot]
  dsimp only
  rw [splitEncoding_afterMark he hat]
  dsimp only
  rw [modifier?_afterMark hm]
  rfl

theorem WellFormed.parse?_toText {l : LocaleId} (h : l.WellFormed)
    (hb : Unicode.trimBlanks l.toText = l.toText) : parse? l.toText = some l := by
  have hread := parse?_of_trimBlanks (hb.trans (toText_eq l)) (.inl rfl) h.language
    (fun t ht => ⟨(ne_nil_of_mem_given? ht).1, (ne_nil_of_mem_given? ht).2 ▸ h.territory⟩)
    (fun e he => (ne_nil_of_mem_given? he).2 ▸ h.encoding)
    (fun m hm => (ne_nil_of_mem_given? hm).2 ▸ h.modifier)
  rw [hread, getD_given?, getD_given?, getD_given?]

/-! ### What is read -/

theorem isAlphanum_of_mem_splitTerritory (s : Text) : ∀ c ∈ (splitTerritory s).1, c.isAlphanum := by
  intro c hc
  cases s with
  | nil => cases hc
  | cons d rest =>
    rw [splitTerritory] at hc
    split at hc
    · rw [List.span_eq_takeWhile_dropWhile] at hc
      exact List.mem_takeWhile_imp hc
    · cases hc

theorem not_mem_splitEncoding (s : Text) : '@' ∉ (splitEncoding s).1 := by
  intro hc
  cases s with
  | nil => cases hc
  | cons d rest =>
    rw [splitEncoding] at hc
    split at hc
    · rw [List.span_eq_takeWhile_dropWhile] at hc
      simpa using List.mem_takeWhile_imp hc
    · cases hc

theorem not_mem_of_modifier? {s m : Text} (h : modifier? s = some m) : '\n' ∉ m := by
  cases s with
  | nil =>
    cases h
    exact List.not_mem_nil
  | cons d rest =>
    rw [modifier?] at h
    split at h
    · next hd =>
      cases h
      exact hd.2
    · cases h

theorem wellFormed_of_parse? {l : LocaleId} (h : parse? id = some l) : l.WellFormed := by
  have hlanguage : ∀ c ∈ ((Unicode.trimBlanks id).span Char.isAlpha).1, c.isAlpha := by
    intro c hc
    rw [List.span_eq_takeWhile_dropWhile] at hc
    exact List.mem_takeWhile_imp hc
  unfold parse? at h
  obtain ⟨m, hm, rfl⟩ := Option.map_eq_some_iff.1 h
  exact ⟨hlanguage, isAlphanum_of_mem_splitTerritory _, not_mem_splitEncoding _, not_mem_of_modifier? hm⟩

end LocaleId

end NaturalOrder
