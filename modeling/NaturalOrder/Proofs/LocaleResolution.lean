import NaturalOrder.Proofs.LocaleAlias
import NaturalOrder.Proofs.LocaleInForce

/-!
# Resolving identifiers

The names an identifier may stand for are tried in turn, and the locale in force is the same afterwards. The
first name that is accepted decides, and what it gives is resolved to itself; if none is, the refusal of the
last one is reported (`LocaleId.resolve_first_accepted`). Without an encoding, a territory leads to UTF-8
unless there is a modifier, which would have to come after the encoding (`LocaleId.resolve_unicode`). With
neither an identifier nor an environment it is the C locale that is chosen (`Platform.run_choose_none`).
-/

namespace NaturalOrder
open Text

/-- The platform has no locale of this name. -/
def Platform.Refuses (p : Platform) (name : Text) : Prop := ∃ r, p.select name = .error r

namespace LocaleId
variable {p : Platform} {env : Environment} {previous first name full id : Text}
  {names others before after : List Text} {l : LocaleId}

/-! ### Names tried in turn -/

theorem run_firstAccepted_of_ok (hp : p.select previous = .ok previous)
    (hnames : first :: others = before ++ name :: after) (hbefore : ∀ n ∈ before, p.Refuses n)
    (hname : p.select name = .ok full) :
    (firstAccepted p.probe first others).run.run previous = (.ok full, previous) := by
  induction before generalizing first others with
  | nil =>
    obtain ⟨rfl, rfl⟩ := List.cons.inj hnames
    have hprobe := Platform.run_probe_of_ok hname hp
    cases others with
    | nil => exact hprobe
    | cons next others => exact run_tryCatch_of_ok hprobe _
  | cons n before ih =>
    obtain ⟨rfl, hothers⟩ := List.cons.inj hnames
    obtain ⟨⟨r, hr⟩, hbefore⟩ := List.forall_mem_cons.1 hbefore
    have hprobe := Platform.run_probe_of_error hr hp
    have hne : before ++ name :: after ≠ [] :=
      List.append_ne_nil_of_right_ne_nil before (List.cons_ne_nil name after)
    cases others with
    | nil => exact absurd hothers.symm hne
    | cons next others => exact (run_tryCatch_of_error hprobe _).trans (ih hothers hbefore)

theorem run_firstAccepted_of_refuses (hp : p.select previous = .ok previous)
    (h : ∀ n ∈ first :: others, p.Refuses n) :
    ∃ r, p.select ((first :: others).getLast (List.cons_ne_nil first others)) = .error r ∧
      (firstAccepted p.probe first others).run.run previous = (.error r, previous) := by
  induction others generalizing first with
  | nil =>
    obtain ⟨r, hr⟩ := h first List.mem_cons_self
    exact ⟨r, hr, Platform.run_probe_of_error hr hp⟩
  | cons next others ih =>
    obtain ⟨⟨r, hr⟩, hrest⟩ := List.forall_mem_cons.1 h
    obtain ⟨last, hlast, hrun⟩ := ih hrest
    refine ⟨last, ?_, (run_tryCatch_of_error (Platform.run_probe_of_error hr hp) _).trans hrun⟩
    rw [List.getLast_cons (List.cons_ne_nil next others)]
    exact hlast

theorem exists_first_accepted (p : Platform) (names : List Text) :
    (∃ before name after full, names = before ++ name :: after ∧ (∀ n ∈ before, p.Refuses n) ∧
      p.select name = .ok full) ∨ ∀ n ∈ names, p.Refuses n := by
  induction names with
  | nil => exact .inr fun n hn => absurd hn List.not_mem_nil
  | cons n names ih =>
    cases h : p.select n with
    | ok full => exact .inl ⟨[], n, names, full, rfl, fun n hn => absurd hn List.not_mem_nil, h⟩
    | error r =>
      have hn : p.Refuses n := ⟨r, h⟩
      rcases ih with ⟨before, name, after, full, rfl, hbefore, hname⟩ | hall
      · exact .inl ⟨n :: before, name, after, full, rfl, List.forall_mem_cons.2 ⟨hn, hbefore⟩, hname⟩
      · exact .inr (List.forall_mem_cons.2 ⟨hn, hall⟩)

/-! ### The names of an identifier -/

/-- All names that an identifier may stand for, in the order in which they are tried. -/
def candidateNames (id : Text) : List Text := primaryName id :: otherNames id

theorem length_candidateNames_le (id : Text) : (candidateNames id).length ≤ 3 := by
  have hunicode : (unicodeName? id).toList.length ≤ 1 := by cases unicodeName? id <;> simp
  have hothers : (otherNames id).length ≤ (unicodeName? id).toList.length + 1 := by
    unfold otherNames
    dsimp only
    split_ifs
    · omega
    · rw [List.length_append, List.length_singleton]
  rw [candidateNames, List.length_cons]
  omega

theorem mem_candidateNames (h : name ∈ candidateNames id) :
    name = primaryName id ∨ name = primaryName id ++ ".UTF-8".toList ∨
      name = LocaleAlias.fullName (primaryName id) := by
  have hunicode : ∀ {n}, n ∈ (unicodeName? id).toList → n = primaryName id ++ ".UTF-8".toList := by
    intro n hn
    rw [Option.mem_toList, unicodeName?] at hn
    split at hn
    · exact (Option.some.inj hn).symm
    · cases hn
  rcases List.mem_cons.1 h with h | h
  · exact .inl h
  · unfold otherNames at h
    dsimp only at h
    split_ifs at h
    · exact .inr (.inl (hunicode h))
    · rcases List.mem_append.1 h with h | h
      · exact .inr (.inl (hunicode h))
      · exact .inr (.inr (List.mem_singleton.1 h))

/-- A name that is tried has something after its at sign, unless it is the identifier itself, which then cannot
be read. -/
theorem not_endsOpen_of_mem_candidateNames (h : name ∈ candidateNames id) :
    ¬ EndsOpen name ∨ parse? name = none := by
  have hprimary : ¬ EndsOpen (primaryName id) ∨ parse? (primaryName id) = none := by
    cases hparse : parse? id with
    | some l =>
      rw [primaryName, hparse]
      exact .inl (wellFormed_of_parse? hparse).not_endsOpen_toText
    | none =>
      refine .inr ?_
      rw [primaryName, hparse]
      exact hparse
  rcases mem_candidateNames h with h | h | h
  · exact h ▸ hprimary
  · rw [h]
    exact .inl (not_endsOpen_append (by decide) (by decide))
  · by_cases hself : LocaleAlias.fullName (primaryName id) = primaryName id
    · exact (h.trans hself) ▸ hprimary
    · exact .inl (h ▸ LocaleAlias.not_endsOpen_fullName hself)

/-! ### The basic platform -/

theorem run_resolve_of_ok (hp : p.select previous = .ok previous)
    (hnames : candidateNames id = before ++ name :: after) (hbefore : ∀ n ∈ before, p.Refuses n)
    (hname : p.select name = .ok full) : (resolve p.probe id).run.run previous = (.ok full, previous) :=
  run_adapt_of_ok (run_firstAccepted_of_ok hp hnames hbefore hname) _

theorem run_resolve_of_primaryName (hp : p.select previous = .ok previous)
    (h : p.select (primaryName id) = .ok full) :
    (resolve p.probe id).run.run previous = (.ok full, previous) := by
  have hnames : candidateNames id = [] ++ primaryName id :: otherNames id := rfl
  exact run_resolve_of_ok hp hnames (fun n hn => absurd hn List.not_mem_nil) h

theorem primaryName_C : primaryName ['C'] = ['C'] := by decide +kernel

theorem primaryName_of_parse?_eq_none (h : parse? id = none) : primaryName id = id := by
  rw [primaryName, h]
  rfl

/-- A full name is resolved to a full name again, and to itself unless its end is lost in printing. -/
theorem nameInC_primaryName (h : Platform.nameInC full = .ok full) :
    Platform.nameInC (primaryName full) = .ok (primaryName full) ∧ TrimsTo full (primaryName full) ∧
      (primaryName full = full ↔ (Unicode.trimBlanks full = full ∧ ¬ EndsOpen full) ∨ parse? full = none) := by
  cases hparse : parse? full with
  | none => simp [primaryName_of_parse?_eq_none hparse, h, TrimsTo.refl]
  | some l =>
    obtain ⟨hname, -, htrims, hiff⟩ := Platform.nameInC_toText h hparse
    rw [primaryName, hparse, or_iff_left (Option.some_ne_none l)]
    exact ⟨hname, htrims, hiff⟩

/-- An identifier stands for one to three names. The first that is accepted decides, and its full name is
accepted and resolved again. It is resolved to itself unless it can be read as an identifier and there are
blanks at its end, which are lost then. If all names are refused, the error has the identifier as it was given
and the refusal of the last one. -/
theorem resolve_first_accepted (id previous : Text)
    (hp : (Platform.basic {}).select previous = .ok previous) :
    (1 ≤ (candidateNames id).length ∧ (candidateNames id).length ≤ 3) ∧
    ((∃ before name after full, candidateNames id = before ++ name :: after ∧
        (∀ n ∈ before, (Platform.basic {}).Refuses n) ∧ (Platform.basic {}).select name = .ok full ∧
        (resolve (Platform.basic {}).probe id).run.run previous = (.ok full, previous) ∧
        (Platform.basic {}).select full = .ok full ∧
        ∃ again, again = primaryName full ∧
          (resolve (Platform.basic {}).probe full).run.run previous = (.ok again, previous) ∧
          (Platform.basic {}).select again = .ok again ∧ TrimsTo full again ∧
          (again = full ↔ Unicode.trimBlanks full = full ∨ parse? full = none)) ∨
      ((∀ n ∈ candidateNames id, (Platform.basic {}).Refuses n) ∧
        ∃ last r, (candidateNames id).getLast? = some last ∧ (Platform.basic {}).select last = .error r ∧
          r = (if '\x00' ∈ last then .embeddedNul else .notInstalled) ∧
          (resolve (Platform.basic {}).probe id).run.run previous = (.error (.locale id r), previous))) := by
  refine ⟨⟨Nat.succ_pos _, length_candidateNames_le id⟩, ?_⟩
  rcases exists_first_accepted (Platform.basic {}) (candidateNames id) with
    ⟨before, name, after, full, hnames, hbefore, hname⟩ | hall
  · have hmem : name ∈ candidateNames id := hnames ▸ List.mem_append_right before List.mem_cons_self
    obtain ⟨hagain, htrims, hiff⟩ := nameInC_primaryName (Platform.nameInC_of_basic_select hname)
    have hselect := Platform.basic_select_of_nameInC {} hagain
    have hopen : ¬ EndsOpen full ∨ parse? full = none := by
      rcases Platform.basic_select_cases hname with rfl | rfl
      · exact .inl (by decide)
      · exact not_endsOpen_of_mem_candidateNames hmem
    refine .inl ⟨before, name, after, full, hnames, hbefore, hname, run_resolve_of_ok hp hnames hbefore hname,
      Platform.basic_select_select hname, _, rfl, run_resolve_of_primaryName hp hselect, hselect, htrims, ?_⟩
    rw [hiff]
    refine ⟨fun h => h.imp_left And.left, fun h => ?_⟩
    rcases h with htrim | hnone
    · rcases hopen with hclosed | hnone
      · exact .inl ⟨htrim, hclosed⟩
      · exact .inr hnone
    · exact .inr hnone
  · obtain ⟨r, hlast, hrun⟩ := run_firstAccepted_of_refuses hp hall
    exact .inr ⟨hall, _, r, List.getLast?_eq_some_getLast _, hlast, Platform.refusal_of_basic_select hlast,
      run_adapt_of_error hrun _⟩

theorem resolve_first_accepted_nul :
    (Platform.basic {}).select ['C'] = .ok ['C'] ∧
    (resolve (Platform.basic {}).probe "c_c.utf8\x00".toList).run.run ['C'] =
      (.ok "C.UTF-8".toList, ['C']) := by
  have hC : (Platform.basic {}).select ['C'] = .ok ['C'] := by decide
  have hnames : candidateNames "c_c.utf8\x00".toList = ["c_c.utf8\x00".toList, "C.UTF-8".toList] := by
    decide +kernel
  obtain ⟨-, ⟨before, name, after, full, hsplit, -, hname, hrun, -⟩ | ⟨hall, -⟩⟩ :=
    resolve_first_accepted "c_c.utf8\x00".toList ['C'] hC
  · rw [hnames] at hsplit
    have hmem : name ∈ ["c_c.utf8\x00".toList, "C.UTF-8".toList] :=
      hsplit ▸ List.mem_append_right before List.mem_cons_self
    rcases List.mem_cons.1 hmem with rfl | hmem
    · cases hname
    · obtain rfl := List.mem_singleton.1 hmem
      cases hname
      exact ⟨hC, hrun⟩
  · obtain ⟨r, hr⟩ := hall "C.UTF-8".toList (hnames ▸ List.mem_cons_of_mem _ List.mem_cons_self)
    cases hr

/-- Only the end of an identifier is free of blanks. What comes to its end when an at sign is lost may be a
blank, which is lost when the name is resolved again. -/
theorem resolve_first_accepted_blank :
    (resolve (Platform.basic {}).probe "C.UTF-8 @".toList).run.run ['C'] =
      (.ok "C.UTF-8 ".toList, ['C']) ∧
    (resolve (Platform.basic {}).probe "C.UTF-8 ".toList).run.run ['C'] =
      (.ok "C.UTF-8".toList, ['C']) ∧
    "C.UTF-8 ".toList ≠ "C.UTF-8".toList := by
  have hopen : primaryName "C.UTF-8 @".toList = "C.UTF-8 ".toList := by decide +kernel
  have hblank : primaryName "C.UTF-8 ".toList = "C.UTF-8".toList := by decide +kernel
  refine ⟨?_, ?_, by decide⟩
  · exact run_resolve_of_primaryName rfl (by rw [hopen]; decide +kernel)
  · exact run_resolve_of_primaryName rfl (by rw [hblank]; decide +kernel)

/-! ### Identifiers that leave the encoding open -/

theorem toText_with_encoding (he : l.encoding = []) (hm : l.modifier = []) (encoding : Text) :
    { l with encoding }.toText = l.toText ++ marked '.' encoding := by
  have hnone : ∀ mark, marked mark [] = [] := fun _ => rfl
  rw [toText, toText, he, hm, hnone, hnone, List.append_nil, List.append_nil, List.append_nil]

section
variable (hparse : parse? id = some l) (ht : l.territory ≠ []) (he : l.encoding = [])
include hparse ht he

theorem primaryName_of_territory (hl : l.language = ['C']) : primaryName id =
    ['C'] ++ afterMark '_' (some l.territory) ++ afterMark '@' (given? l.modifier) := by
  have hterritory : given? l.territory = some l.territory := if_neg ht
  have hencoding : given? l.encoding = none := if_pos he
  rw [primaryName, hparse, Option.map_some, Option.getD_some, toText_eq, hl, hterritory, hencoding,
    afterMark, List.append_nil]

theorem exists_otherNames_eq : ∃ rest, otherNames id = (primaryName id ++ ".UTF-8".toList) :: rest := by
  have hunicode : unicodeName? id = some (primaryName id ++ ".UTF-8".toList) := by
    rw [unicodeName?, hparse]
    exact if_pos (by simp [ht, he])
  unfold otherNames
  dsimp only
  rw [hunicode]
  split_ifs
  · exact ⟨[], rfl⟩
  · exact ⟨_, rfl⟩

variable (hfull : (Platform.basic env).select { l with encoding := "UTF-8".toList }.toText = .ok full)
include hfull

theorem basic_select_primaryName : (Platform.basic env).select (primaryName id) = .error .notInstalled := by
  obtain ⟨hl, hm, -⟩ := Platform.basic_select_unicode (wellFormed_of_parse? hparse) hfull
  rw [primaryName_of_territory hparse ht he hl]
  refine Platform.basic_select_without_codeset env ?_ ?_ (.inl (Option.some_ne_none l.territory))
  · rintro _ ⟨⟩
    exact (wellFormed_of_parse? hparse).territory
  · intro m hmem
    exact (ne_nil_of_mem_given? hmem).2 ▸ hm

variable (hp : (Platform.basic env).select previous = .ok previous)
include hp

theorem run_resolve_of_no_modifier (hm : l.modifier = []) :
    (resolve (Platform.basic env).probe id).run.run previous = (.ok full, previous) := by
  have htext : { l with encoding := "UTF-8".toList }.toText = primaryName id ++ ".UTF-8".toList := by
    rw [primaryName, hparse]
    exact toText_with_encoding he hm "UTF-8".toList
  obtain ⟨rest, hrest⟩ := exists_otherNames_eq hparse ht he
  have hnames : candidateNames id = [primaryName id] ++ (primaryName id ++ ".UTF-8".toList) :: rest := by
    rw [candidateNames, hrest]
    rfl
  refine run_resolve_of_ok hp hnames (fun n hn => ?_) (htext ▸ hfull)
  rw [List.mem_singleton.1 hn]
  exact ⟨_, basic_select_primaryName hparse ht he hfull⟩

/-- With a modifier none of the names is accepted, as the encoding is put after the modifier. -/
theorem run_resolve_of_modifier (hm : l.modifier ≠ []) :
    (resolve (Platform.basic env).probe id).run.run previous =
      (.error (.locale id .notInstalled), previous) := by
  obtain ⟨hl, hnul, -⟩ := Platform.basic_select_unicode (wellFormed_of_parse? hparse) hfull
  have hterritory := (wellFormed_of_parse? hparse).territory
  have hprimary : primaryName id =
      ['C'] ++ afterMark '_' (some l.territory) ++ afterMark '@' (some l.modifier) := by
    rw [primaryName_of_territory hparse ht he hl, given?, if_neg hm]
  have hrefused : ∀ n ∈ candidateNames id, (Platform.basic env).select n = .error .notInstalled := by
    intro n hn
    rcases mem_candidateNames hn with h | h | h
    · rw [h]
      exact basic_select_primaryName hparse ht he hfull
    · rw [h, hprimary, List.append_assoc]
      show (Platform.basic env).select (['C'] ++ afterMark '_' (some l.territory) ++
        afterMark '@' (some (l.modifier ++ ".UTF-8".toList))) = _
      refine Platform.basic_select_without_codeset env ?_ ?_ (.inl (Option.some_ne_none l.territory))
      · rintro _ ⟨⟩
        exact hterritory
      · rintro _ ⟨⟩ hmem
        rcases List.mem_append.1 hmem with hmem | hmem
        · exact hnul hmem
        · exact absurd hmem (by decide)
    · rw [h, hprimary]
      exact LocaleAlias.basic_select_fullName env hterritory hm hnul
  obtain ⟨r, hlast, hrun⟩ := run_firstAccepted_of_refuses hp fun n hn => ⟨_, hrefused n hn⟩
  cases (hrefused _ (List.getLast_mem (List.cons_ne_nil _ _))).symm.trans hlast
  exact run_adapt_of_error hrun _

end

/-- An identifier with a territory and no encoding leads to its name in UTF-8, if that is accepted and there
is no modifier. With a modifier the encoding is put in the wrong place, and no name is accepted. -/
theorem resolve_unicode (hparse : parse? id = some l) (ht : l.territory ≠ []) (he : l.encoding = [])
    (hfull : (Platform.basic env).select { l with encoding := "UTF-8".toList }.toText = .ok full)
    (hp : (Platform.basic env).select previous = .ok previous) :
    (resolve (Platform.basic env).probe id).run.run previous =
      (if l.modifier = [] then .ok full else .error (.locale id .notInstalled), previous) := by
  by_cases hm : l.modifier = []
  · rw [if_pos hm]
    exact run_resolve_of_no_modifier hparse ht he hfull hp hm
  · rw [if_neg hm]
    exact run_resolve_of_modifier hparse ht he hfull hp hm

theorem resolve_unicode_territory :
    (resolve (Platform.basic {}).probe "C-DE".toList).run.run ['C'] = (.ok "C_DE.UTF-8".toList, ['C']) ∧
    (resolve (Platform.basic {}).probe "C_DE@x".toList).run.run ['C'] =
      (.error (.locale "C_DE@x".toList .notInstalled), ['C']) := by
  have hplain : parse? "C-DE".toList = some ⟨['C'], "DE".toList, [], []⟩ := by decide +kernel
  have hmodified : parse? "C_DE@x".toList = some ⟨['C'], "DE".toList, [], "x".toList⟩ := by decide +kernel
  have hselect : (Platform.basic {}).select "C_DE.UTF-8@x".toList = .ok "C_DE.UTF-8@x".toList := by
    decide +kernel
  constructor
  · exact resolve_unicode hplain (by decide) rfl (by decide +kernel) (by decide)
  · exact resolve_unicode hmodified (by decide) rfl hselect (by decide)

/-- The name in UTF-8 of `C_DE@x` is accepted, but not found. -/
theorem resolve_misses_unicode :
    parse? "C_DE@x".toList = some ⟨['C'], "DE".toList, [], "x".toList⟩ ∧
    toText ⟨['C'], "DE".toList, "UTF-8".toList, "x".toList⟩ = "C_DE.UTF-8@x".toList ∧
    (Platform.basic {}).select "C_DE.UTF-8@x".toList = .ok "C_DE.UTF-8@x".toList ∧
    (resolve (Platform.basic {}).probe "C_DE@x".toList).run.run ['C'] =
      (.error (.locale "C_DE@x".toList .notInstalled), ['C']) := by
  have hparse : parse? "C_DE@x".toList = some ⟨['C'], "DE".toList, [], "x".toList⟩ := by decide +kernel
  have hfull : (Platform.basic {}).select "C_DE.UTF-8@x".toList = .ok "C_DE.UTF-8@x".toList := by
    decide +kernel
  refine ⟨hparse, by decide, hfull, ?_⟩
  exact run_resolve_of_modifier hparse (by decide) rfl hfull (by decide) (by decide)

end LocaleId

namespace Platform
variable {p : Platform} {previous name full : Text}

/-- The locale of the environment is chosen by its full name, which is an identifier again. -/
theorem run_choose_of_ok (hp : p.select previous = .ok previous) (henv : p.select [] = .ok name)
    (hroot : ¬ Collation.denotesRoot name) (hfull : p.select (LocaleId.primaryName name) = .ok full) :
    (Collation.choose p.probe none).run.run previous = (.ok (.locale full, none), previous) := by
  have hresolve := LocaleId.run_resolve_of_primaryName hp hfull
  rw [Collation.choose, Collation.ofEnvironment, run_bind_of_ok (run_lift (run_probe_of_ok henv hp))]
  dsimp only
  rw [if_neg hroot, run_bind_of_ok hresolve]
  rfl

theorem run_choose_of_notInstalled (hp : p.select previous = .ok previous)
    (henv : p.select [] = .error .notInstalled) :
    (Collation.choose p.probe none).run.run previous =
      (.ok (.root, some .environmentNotInstalled), previous) := by
  rw [Collation.choose, Collation.ofEnvironment, run_bind_of_ok (run_lift (run_probe_of_error henv hp))]
  rfl

/-- Without an environment it is the C locale that is chosen, whatever locale is in force. -/
theorem run_choose_none (hp : (basic {}).select previous = .ok previous) :
    (Collation.choose (basic {}).probe none).run.run previous = (.ok (.locale ['C'], none), previous) := by
  have henv : (basic {}).select [] = .ok ['C'] := by decide
  have hC : (basic {}).select ['C'] = .ok ['C'] := by decide
  exact run_choose_of_ok hp henv (by decide +kernel) (by rw [LocaleId.primaryName_C, hC])

end Platform

end NaturalOrder
