import NaturalOrder.Proofs.LocaleInForce
import NaturalOrder.Proofs.RootTransitivity

/-!
# Collation as a total order

A collator that answers as a total preorder does may find different texts equal. With code points for these
it collates as a strict total order, which never contradicts the collator (`StrictlyRefines`). The root
collation is such a preorder, and so is that of a locale on a platform that collates by code points
(`Collator.collate_strictlyRefines`).
-/

namespace NaturalOrder

/-- A total order of texts by which only the same text is equal, and which goes by another order wherever
that one tells two texts apart. -/
structure StrictlyRefines (o f : Text → Text → Ordering) : Prop where
  trans : Std.TransCmp o
  lawful : Std.LawfulEqCmp o
  agrees : ∀ a b, f a b ≠ .eq → o a b = f a b

section
variable {f : Text → Text → Ordering} {a b : Text}

theorem collationOrder_of_ne_eq (h : f a b ≠ .eq) : collationOrder f a b = f a b := by
  rw [collationOrder, compareLex]
  cases hf : f a b with
  | eq => exact absurd hf h
  | lt => rfl
  | gt => rfl

theorem collationOrder_strictlyRefines (f : Text → Text → Ordering) [Std.TransCmp f] :
    StrictlyRefines (collationOrder f) f where
  trans := inferInstance
  lawful := { eq_of_compare := fun h => not_not.1 fun hne => collationOrder_ne_eq hne h }
  agrees _ _ := collationOrder_of_ne_eq

theorem rootOrder_eq_of_canonical_eq (h : Unicode.canonical a = Unicode.canonical b) :
    rootOrder a b = .eq := by
  have hkey : CollationKey.ofText a = CollationKey.ofText b :=
    congrArg (fun s => CollationKey.ofLetters (Letter.ofCanonical s)) h
  rw [rootOrder_eq_order, hkey, CollationKey.order_self]

theorem nulFreeOrder_eq_eq : nulFreeOrder a b = .eq ↔ withoutNuls a = withoutNuls b := by
  show compare (withoutNuls a) (withoutNuls b) = .eq ↔ _
  exact Std.LawfulEqOrd.compare_eq_iff_eq

end

theorem compareIgnoringCase_eq : compareIgnoringCase = collationOrder rootOrder := rfl

namespace Collator
variable {σ : Type}

theorem root_answersIn (s : σ) : (root : Collator (ExceptT Error (StateM σ))).AnswersIn s rootOrder :=
  fun _ _ => rfl

/-- A collator that answers as a total preorder does collates as a strict total order. The root collation is
such a preorder, which finds texts equal that have the same decomposition, and so is a locale that collates
by code points, which finds texts equal if and only if they differ in NULs alone. -/
theorem collate_strictlyRefines :
    (∀ {σ : Type} (c : Collator (ExceptT Error (StateM σ))) (s : σ) (f : Text → Text → Ordering),
      Std.TransCmp f → c.AnswersIn s f →
      ∃ o, StrictlyRefines o f ∧ ∀ a b, (c.collate a b).run.run s = (.ok (o a b), s)) ∧
    (Std.TransCmp rootOrder ∧
      (∀ {σ : Type} (s : σ), (root : Collator (ExceptT Error (StateM σ))).AnswersIn s rootOrder) ∧
      ∀ a b, Unicode.canonical a = Unicode.canonical b → rootOrder a b = .eq) ∧
    (Std.TransCmp nulFreeOrder ∧
      (∀ (p : Platform) (locale previous : Text),
        p.select locale = .ok locale → p.select previous = .ok previous →
        (∀ x y, '\x00' ∉ x → '\x00' ∉ y → p.collate locale x y = .ok (Ord.compare x y)) →
        (p.collator (.locale locale)).AnswersIn previous nulFreeOrder) ∧
      ∀ a b, nulFreeOrder a b = .eq ↔ withoutNuls a = withoutNuls b) ∧
    StrictlyRefines compareIgnoringCase rootOrder := by
  refine ⟨fun c s f hf hc => ?_, ⟨inferInstance, root_answersIn, fun a b => rootOrder_eq_of_canonical_eq⟩,
    ⟨inferInstance, fun p locale previous => Platform.answersIn_locale, fun a b => nulFreeOrder_eq_eq⟩, ?_⟩
  · exact ⟨collationOrder f, collationOrder_strictlyRefines f, hc.run_collate⟩
  · rw [compareIgnoringCase_eq]
    exact collationOrder_strictlyRefines rootOrder

theorem collate_strictlyRefines_length :
    (∃ o, StrictlyRefines o (compareOn List.length) ∧ ∀ a b,
      ((ofOrder "length" (compareOn List.length) : Collator (ExceptT Error (StateM Nat))).collate a b).run.run
        0 = (.ok (o a b), 0)) ∧
    rootOrder "\u00e9".toList "e\u0301".toList = .eq ∧
    ((Platform.basic {}).collator (.locale "C.UTF-8".toList)).AnswersIn ['C'] nulFreeOrder := by
  obtain ⟨hcollate, ⟨-, -, hroot⟩, ⟨-, hlocale, -⟩, -⟩ := collate_strictlyRefines
  refine ⟨?_, ?_, ?_⟩
  · exact hcollate (ofOrder "length" (compareOn List.length)) 0 _ inferInstance fun _ _ => rfl
  · exact hroot _ _ (by decide +kernel)
  · exact hlocale (Platform.basic {}) _ _ (by decide) (by decide) fun x y hx hy =>
      if_neg (not_or.2 ⟨hx, hy⟩)

end Collator

end NaturalOrder
