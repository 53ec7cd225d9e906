import NaturalOrder.Locale.Resolution
import NaturalOrder.Proofs.Runs

/-!
# The locale in force

Asking a platform for a name and comparing in a locale put another locale in force for a while. Afterwards it
is the old one again, whatever comes of it (`Platform.probe_runsAs`, `Platform.compareIn_runsAs`). So the
collator for a locale of the basic platform answers as an order does and keeps the state
(`Platform.basic_answersIn`).
-/

namespace NaturalOrder

def withoutNuls (s : Text) : Text := s.filter (· ≠ '\x00')

/-- The order of the C locale, which does not see NULs. -/
def nulFreeOrder : Text → Text → Ordering := compareOn withoutNuls

instance : Std.TransCmp nulFreeOrder := inferInstanceAs (Std.TransCmp (compareOn withoutNuls))

namespace Platform

variable {p : Platform} {locale previous name full a b : Text} {o : Ordering}

theorem run_activate (h : p.select name = .ok full) (s : Text) :
    (p.activate name).run.run s = (.ok full, full) := by
  rw [activate, h]
  rfl

theorem run_discard_activate (h : p.select name = .ok full) (s : Text) :
    (discard (p.activate name)).run.run s = (.ok (), full) := by
  rw [activate, h]
  rfl

theorem run_activate_of_refused {r : Refusal} (h : p.select name = .error r) (s : Text) :
    (p.activate name).run.run s = (.error r, s) := by
  rw [activate, h]
  rfl

theorem run_discard_activate_of_refused {r : Refusal} (h : p.select name = .error r) (s : Text) :
    (discard (p.activate name)).run.run s = (.error r, s) := by
  rw [activate, h]
  rfl

/-- A probe answers as the platform does, and the locale in force is the same after it. -/
theorem run_probe (hp : p.select previous = .ok previous) (name : Text) :
    (p.probe name).run.run previous = (p.select name, previous) := by
  have hget : (get : Process Text).run.run previous = (.ok previous, previous) := rfl
  rw [probe, run_bind_of_ok hget]
  cases h : p.select name with
  | ok full => exact run_tryFinally (run_activate h previous) (run_discard_activate hp full)
  | error r => exact run_tryFinally (run_activate_of_refused h previous) (run_discard_activate hp previous)

theorem run_probe_of_ok (h : p.select name = .ok full) (hp : p.select previous = .ok previous) :
    (p.probe name).run.run previous = (.ok full, previous) := by
  rw [run_probe hp, h]

theorem run_probe_of_error {r : Refusal} (h : p.select name = .error r)
    (hp : p.select previous = .ok previous) : (p.probe name).run.run previous = (.error r, previous) := by
  rw [run_probe hp, h]

theorem compareIn_self (p : Platform) (locale a : Text) : p.compareIn locale a a = pure .eq := if_pos rfl

/-! ### Names and orders without a locale in force -/

/-- The full name for a name. -/
def lookup (p : Platform) (name : Text) : ExceptT Refusal Id Text := ExceptT.mk (pure (p.select name))

/-- Two texts in the order of a locale. -/
def orderIn (p : Platform) (locale a b : Text) : ExceptT Refusal Id Ordering :=
  if a = b then pure .eq
  else do
    let full ← p.lookup locale
    ExceptT.mk (pure (p.collate full (withoutNuls a) (withoutNuls b)))

theorem probe_runsAs (hp : p.select previous = .ok previous) (name : Text) :
    RunsAs (p.probe name) previous (p.lookup name) := run_probe hp name

/-- A comparison puts the locale in force, if it is another one, and puts the old one back, also if the
platform refuses the texts. A locale that is refused never was in force. -/
theorem compareIn_runsAs (hp : p.select previous = .ok previous) (locale a b : Text) :
    RunsAs (p.compareIn locale a b) previous (p.orderIn locale a b) := by
  by_cases hab : a = b
  · subst hab
    rw [compareIn_self, orderIn, if_pos rfl]
    exact RunsAs.pure _ previous
  have hget : (get : Process Text).run.run previous = (.ok previous, previous) := rfl
  have hcollate (full : Text) :
      (do ExceptT.mk (pure (p.collate (← get) (withoutNuls a) (withoutNuls b))) :
        Process Ordering).run.run full = (p.collate full (withoutNuls a) (withoutNuls b), full) := rfl
  unfold RunsAs
  rw [compareIn, if_neg hab, run_bind_of_ok hget, orderIn, if_neg hab, lookup]
  by_cases hlp : locale = previous
  · subst hlp
    rw [if_pos rfl, hp]
    refine run_tryFinally (hcollate locale) ?_
    rw [if_pos rfl]
    rfl
  · rw [if_neg hlp]
    cases hl : p.select locale with
    | error r => exact run_bind_of_error (run_discard_activate_of_refused hl previous) _
    | ok full =>
      rw [run_bind_of_ok (run_discard_activate hl previous)]
      refine run_tryFinally (hcollate full) ?_
      rw [if_neg (Ne.symm hlp)]
      exact run_discard_activate hp full

theorem run_compareIn (hl : p.select locale = .ok locale) (hp : p.select previous = .ok previous)
    (hab : a ≠ b) (ho : p.collate locale (withoutNuls a) (withoutNuls b) = .ok o) :
    (p.compareIn locale a b).run.run previous = (.ok o, previous) := by
  refine (compareIn_runsAs hp locale a b).trans ?_
  rw [orderIn, if_neg hab, lookup, hl, ← ho]
  rfl

theorem nul_not_mem_withoutNuls (s : Text) : '\x00' ∉ withoutNuls s :=
  fun hs => absurd (List.mem_filter.1 hs).2 (by decide)

theorem collator_locale_self (p : Platform) (locale x : Text) :
    (p.collator (.locale locale)).compare x x = pure .eq := by
  show (p.compareIn locale x x).adapt Error.refused = _
  rw [compareIn_self]
  rfl

/-- On a platform that collates by code points the collator for a locale does so without NULs. -/
theorem answersIn_locale (hl : p.select locale = .ok locale) (hp : p.select previous = .ok previous)
    (hc : ∀ x y, '\x00' ∉ x → '\x00' ∉ y → p.collate locale x y = .ok (compare x y)) :
    (p.collator (.locale locale)).AnswersIn previous nulFreeOrder := by
  intro x y
  by_cases hxy : x = y
  · subst hxy
    have h : nulFreeOrder x x = .eq := Std.ReflCmp.compare_self
    rw [collator_locale_self, h]
    rfl
  · have ho := hc _ _ (nul_not_mem_withoutNuls x) (nul_not_mem_withoutNuls y)
    exact run_adapt_of_ok (run_compareIn hl hp hxy ho) Error.refused

/-! ### The basic platform -/

variable {env : Environment}

theorem basic_answersIn (hl : (basic env).select locale = .ok locale)
    (hp : (basic env).select previous = .ok previous) :
    ((basic env).collator (.locale locale)).AnswersIn previous nulFreeOrder :=
  answersIn_locale hl hp fun _ _ hx hy => if_neg (not_or.2 ⟨hx, hy⟩)

end Platform

end NaturalOrder
