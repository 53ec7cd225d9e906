import NaturalOrder.Proofs.LocaleResolution

/-!
# The collation of the environment

The environment asks for a locale by a name, and the platform answers with a full name or refuses it. A full
name is an identifier again and is resolved once more, by which it may lose blanks and an at sign at its end and
nothing else (`LocaleId.nameInC_primaryName`). So the locale of the environment is found whenever the platform
has it under a name that is a text, and the root collation stands in for a locale that the platform does not
have (`Platform.choose_of_environment`).
-/

namespace NaturalOrder
open Text

section
variable {env : Environment} {name full : Text}

theorem Collation.not_denotesRoot_of_nameInC (h : Platform.nameInC full = .ok full) : ¬ denotesRoot full := by
  cases hparse : LocaleId.parse? full with
  | none =>
    rw [denotesRoot, hparse]
    exact Bool.false_ne_true
  | some l =>
    obtain ⟨-, hlanguage, -⟩ := Platform.nameInC_toText h hparse
    have hnamed : ¬ LocaleId.rootLanguages.contains (Unicode.lowercaseText ['C']) := by decide +kernel
    rw [denotesRoot, hparse, Option.any_some, LocaleId.isRoot, Bool.and_eq_true, hlanguage]
    exact fun hroot => hnamed hroot.1

end

namespace Platform
variable {p : Platform} {previous : Text} {refusal : Refusal}

/-- Any refusal but the one of a locale that is not installed is passed on. -/
theorem run_choose_of_refused (hp : p.select previous = .ok previous) (henv : p.select [] = .error refusal)
    (hne : refusal ≠ .notInstalled) :
    (Collation.choose p.probe none).run.run previous = (.error (.refused refusal), previous) := by
  rw [Collation.choose, Collation.ofEnvironment, run_bind_of_ok (run_lift (run_probe_of_error henv hp))]
  cases refusal with
  | notInstalled => exact absurd rfl hne
  | embeddedNul => rfl
  | undecodable => rfl

/-- A collation is found for every environment, unless the name of its locale is no text. If the platform does
not have the locale that is asked for, it is the root collation, with a warning. Otherwise it is, without one,
the locale of the name that the platform gave as that name is printed, which is accepted and stands for itself.
In printing it loses nothing but blanks at its end and an at sign before them. -/
theorem choose_of_environment (env : Environment) (previous : Text) (henv : env.NulFree)
    (htext : ∀ byte position, (basic env).select [] ≠ .error (.undecodable byte position))
    (hp : (basic env).select previous = .ok previous) :
    ((basic env).select [] = .error .notInstalled ∧
      (Collation.choose (basic env).probe none).run.run previous =
        (.ok (.root, some .environmentNotInstalled), previous)) ∨
    ∃ name full, (basic env).select [] = .ok name ∧ full = LocaleId.primaryName name ∧
      (Collation.choose (basic env).probe none).run.run previous = (.ok (.locale full, none), previous) ∧
      (basic env).select full = .ok full ∧ TrimsTo name full ∧
      (full = name ↔ (Unicode.trimBlanks name = name ∧ ¬ EndsOpen name) ∨ LocaleId.parse? name = none) := by
  cases h : (basic env).select [] with
  | error r =>
    rcases refusal_of_environment henv h with rfl | ⟨byte, position, rfl⟩
    · exact .inl ⟨rfl, run_choose_of_notInstalled hp h⟩
    · exact absurd h (htext byte position)
  | ok name =>
    have hname := nameInC_of_basic_select h
    obtain ⟨hprimary, htrims, hiff⟩ := LocaleId.nameInC_primaryName hname
    have hfull := basic_select_of_nameInC env hprimary
    have hrun := run_choose_of_ok hp h (Collation.not_denotesRoot_of_nameInC hname) hfull
    exact .inr ⟨name, _, rfl, rfl, hrun, hfull, htrims, hiff⟩

theorem choose_of_environment_open :
    ({ lcCollate := .text "C_DE.utf8@".toList, lang := .text "de_DE".toList } : Environment).NulFree ∧
    (Collation.choose (basic { lcCollate := .text "C_DE.utf8@".toList, lang := .text "de_DE".toList }).probe
      none).run.run ['C'] = (.ok (.locale "C_DE.utf8".toList, none), ['C']) ∧
    (Collation.choose (basic { lang := .text "de_DE".toList }).probe none).run.run ['C'] =
      (.ok (.root, some .environmentNotInstalled), ['C']) := by
  have hnul : ({ lcCollate := .text "C_DE.utf8@".toList, lang := .text "de_DE".toList } :
      Environment).NulFree := ⟨by decide, by decide, by decide⟩
  have hopen : (basic { lcCollate := .text "C_DE.utf8@".toList, lang := .text "de_DE".toList }).select [] =
      .ok "C_DE.utf8@".toList := by
    decide +kernel
  have hmissing : (basic { lang := .text "de_DE".toList }).select [] = .error .notInstalled := by
    decide +kernel
  refine ⟨hnul, ?_, ?_⟩
  · rcases choose_of_environment _ ['C'] hnul (fun _ _ h => nomatch hopen.symm.trans h) rfl with
      ⟨h, -⟩ | ⟨name, full, h, hfull, hrun, -⟩
    · cases hopen.symm.trans h
    · obtain rfl := Except.ok.inj (hopen.symm.trans h)
      have hprinted : LocaleId.primaryName "C_DE.utf8@".toList = "C_DE.utf8".toList := by decide +kernel
      rw [hrun, hfull, hprinted]
  · have hnul' : ({ lang := .text "de_DE".toList } : Environment).NulFree :=
      ⟨by decide, by decide, hnul.lang⟩
    rcases choose_of_environment _ ['C'] hnul' (fun _ _ h => nomatch hmissing.symm.trans h) rfl with
      ⟨-, hrun⟩ | ⟨name, full, h, -⟩
    · exact hrun
    · cases hmissing.symm.trans h

/-- Not only an at sign is lost: a blank at the end of a codeset is no part of an identifier. And where the name
of the locale is no text, there is no collation. -/
theorem choose_of_environment_blank :
    ({ lcAll := .text "C.UTF-8 ".toList } : Environment).NulFree ∧
    (basic { lcAll := .text "C.UTF-8 ".toList }).select [] = .ok "C.UTF-8 ".toList ∧
    (Collation.choose (basic { lcAll := .text "C.UTF-8 ".toList }).probe none).run.run ['C'] =
      (.ok (.locale "C.UTF-8".toList, none), ['C']) ∧
    "C.UTF-8 ".toList ≠ "C.UTF-8".toList ∧ "C.UTF-8 ".toList ≠ "C.UTF-8".toList ++ ['@'] ∧
    (Collation.choose (basic { lcAll := .broken "C.UTF-8@".toList 0xFF [] (by decide) }).probe none).run.run
      ['C'] = (.error (.refused (.undecodable 0xFF 8)), ['C']) := by
  have hblank : (basic { lcAll := .text "C.UTF-8 ".toList }).select [] = .ok "C.UTF-8 ".toList := by
    decide +kernel
  have hprinted : LocaleId.primaryName "C.UTF-8 ".toList = "C.UTF-8".toList := by decide +kernel
  have hfull : (basic { lcAll := .text "C.UTF-8 ".toList }).select (LocaleId.primaryName "C.UTF-8 ".toList) =
      .ok "C.UTF-8".toList := by
    rw [hprinted]
    decide +kernel
  have hbroken : (basic { lcAll := .broken "C.UTF-8@".toList 0xFF [] (by decide) }).select [] =
      .error (.undecodable 0xFF 8) := by
    decide +kernel
  refine ⟨⟨by decide, by decide, by decide⟩, hblank, ?_, by decide, by decide, ?_⟩
  · exact run_choose_of_ok rfl hblank (by decide +kernel) hfull
  · exact run_choose_of_refused rfl hbroken (by decide)

end Platform

end NaturalOrder
