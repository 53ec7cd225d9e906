import NaturalOrder.Proofs.RootTransitivity
import NaturalOrder.Proofs.StableSort
import NaturalOrder.Value.Sorting

/-!
# Sorting by the root collation

On texts without signs and points natural order by the root collation is a total order, so lists of values
with such texts have one sorted form (`Collator.root_sortOn_canonical`). The order is that of the tokens
(`bareOrder`), which is total on all texts, and the two agree on these (`naturalOrder_eq_bareOrder`).
-/

namespace NaturalOrder
open Token

theorem Value.text?_eq_none {v : Value} : v.text? = .ok Option.none ↔ v = .none := by
  have hsome : ∀ r : Except Error Text, some <$> r ≠ .ok Option.none := by
    rintro (e | s) <;> exact nofun
  cases v with
  | none => exact ⟨fun _ => rfl, fun _ => rfl⟩
  | _ => exact ⟨fun h => absurd h (hsome _), nofun⟩

theorem Value.none_iff_of_text? {v : Value} {a : Option Text} (h : v.text? = .ok a) :
    a = Option.none ↔ v = .none := by
  rw [← text?_eq_none, h, Except.ok.injEq]

/-- Texts by their tokens, with the root collation, and then what has no text. -/
abbrev bareOrder : Option Text → Option Text → Ordering :=
  tokensOrder (contentOrder (fun x => rootPlace x.2) rootOrder)

theorem naturalOrder_eq_bareOrder {a b : Option Text} (ha : ∀ s ∈ a, IsBare s) (hb : ∀ t ∈ b, IsBare t) :
    naturalOrder rootOrder a b = bareOrder a b :=
  naturalOrder_eq_tokensOrder fun s hs t ht => settledBy_rootPlace (ha s hs) (hb t ht)

/-- What has no text comes last, or first if the order is reversed. -/
theorem none_of_mayPrecede {f : Text → Text → Ordering} {reverse : Bool} {a b : Option Text}
    (h : Sorting.mayPrecede (naturalOrder f) reverse a b) :
    if reverse then b = none → a = none else a = none → b = none := by
  cases reverse with
  | false =>
    rintro rfl
    cases b with
    | none => rfl
    | some t => cases h
  | true =>
    rintro rfl
    cases a with
    | none => rfl
    | some s => cases h

/-- A list in which what is none comes last, or first in reverse, falls into two. -/
theorem exists_texts_missing {α : Type} {k : α → Value} {reverse : Bool} {items : List α}
    (h : items.Pairwise fun x y =>
      if reverse then k y = .none → k x = .none else k x = .none → k y = .none) :
    ∃ texts missing, items = (if reverse then missing ++ texts else texts ++ missing) ∧
      (∀ x ∈ texts, k x ≠ .none) ∧ ∀ x ∈ missing, k x = .none := by
  cases reverse with
  | false => exact Sorting.exists_append_of_pairwise h
  | true =>
    have hpair : items.Pairwise fun x y => k x ≠ .none → k y ≠ .none := h.imp fun hxy => mt hxy
    obtain ⟨missing, texts, heq, hmissing, htexts⟩ := Sorting.exists_append_of_pairwise hpair
    exact ⟨texts, missing, heq, htexts, fun x hx => not_not.1 (hmissing x hx)⟩

namespace Collator
variable {m : Type → Type} [Monad m] [LawfulMonad m] [MonadExceptOf Error m] {α : Type}
  {key : α → m Value} {k : α → Value} {t : α → Option Text} {reverse : Bool} {items : List α}

omit [MonadExceptOf Error m] in
theorem mapM_keyed (hk : ∀ x ∈ items, key x = pure (k x)) :
    (items.mapM fun x => do return (← key x, x)) = pure (items.map fun x => (k x, x)) := by
  have h : (items.mapM fun x => do return (← key x, x)) = items.mapM fun x => pure (k x, x) := by
    induction items with
    | nil => rfl
    | cons x xs ih =>
      have hxs := ih fun y hy => hk y (List.mem_cons_of_mem x hy)
      rw [List.mapM_cons, List.mapM_cons, hxs, hk x (List.mem_cons_self ..), pure_bind]
  rw [h, List.mapM_pure]

theorem compareValues_of_text? {c : Collator m} {v w : Value} {a b : Option Text} (hv : v.text? = .ok a)
    (hw : w.text? = .ok b) : c.compareValues v w = c.compareNatural a b := by
  rw [compareValues, hv, hw]
  show (pure a >>= fun a => pure b >>= fun b => c.compareNatural a b) = _
  rw [pure_bind, pure_bind]

/-- Sorting is pure if the keys and their comparisons have answers. -/
theorem sortOn_eq_sorted {c : Collator m} {o : Option Text → Option Text → Ordering}
    (hk : ∀ x ∈ items, key x = pure (k x))
    (hc : 2 ≤ items.length → ∀ x ∈ items, ∀ y ∈ items, c.compareValues (k x) (k y) = pure (o (t x) (t y))) :
    c.sortOn key reverse items = pure (Sorting.sorted o t reverse items) := by
  have hsort : Sorting.sortBy (fun a b => c.compareValues a.1 b.1) reverse (items.map fun x => (k x, x)) =
      pure (Sorting.sorted o (fun a => t a.2) reverse (items.map fun x => (k x, x))) := by
    refine Sorting.sortBy_eq_pure (fun hsize a ha b hb => ?_) reverse
    rw [List.length_map] at hsize
    obtain ⟨x, hx, rfl⟩ := List.mem_map.1 ha
    obtain ⟨y, hy, rfl⟩ := List.mem_map.1 hb
    exact hc hsize x hx y hy
  rw [sortOn, mapM_keyed hk, pure_bind, hsort, pure_bind, Sorting.map_sorted t Prod.snd, List.map_map]
  exact congrArg (fun xs => pure (Sorting.sorted o t reverse xs)) (List.map_id items)

variable (m) in
theorem root_compareValues {v w : Value} {a b : Option Text} (hv : v.text? = .ok a) (hw : w.text? = .ok b) :
    (root : Collator m).compareValues v w = pure (naturalOrder rootOrder a b) :=
  (compareValues_of_text? hv hw).trans
    (compareNatural_ofOrder _ (fun _ => Std.ReflCmp.compare_self) a b)

theorem root_sortOn_eq_sorted (hk : ∀ x ∈ items, key x = pure (k x))
    (ht : 2 ≤ items.length → ∀ x ∈ items, (k x).text? = .ok (t x) ∧ ∀ s ∈ t x, IsBare s) :
    (root : Collator m).sortOn key reverse items = pure (Sorting.sorted bareOrder t reverse items) := by
  refine sortOn_eq_sorted hk fun hsize x hx y hy => ?_
  obtain ⟨htx, hbx⟩ := ht hsize x hx
  obtain ⟨hty, hby⟩ := ht hsize y hy
  rw [root_compareValues m htx hty, naturalOrder_eq_bareOrder hbx hby]

/-- Sorting by the root collation has one result for lists whose texts have no signs and points: the items
in the order of their texts, those without a text at the end, and those with the same text as they were.
In reverse it is the reverse order, again with items of the same text as they were. An item that is alone is
not compared, so nothing is asked of its text. -/
theorem root_sortOn_canonical (key : α → m Value) (k : α → Value) (t : α → Option Text) (reverse : Bool)
    (items : List α) (hk : ∀ x ∈ items, key x = pure (k x))
    (ht : 2 ≤ items.length → ∀ x ∈ items, (k x).text? = .ok (t x) ∧ ∀ s ∈ t x, IsBare s) :
    ∃ sorted, (root : Collator m).sortOn key reverse items = pure sorted ∧ sorted.Perm items ∧
      (sorted.Pairwise fun x y => ∃ o, (root : Collator m).compareValues (k x) (k y) = pure o ∧
        if reverse then o.isGE else o.isLE) ∧
      (∃ texts missing, sorted = (if reverse then missing ++ texts else texts ++ missing) ∧
        (∀ x ∈ texts, k x ≠ .none) ∧ ∀ x ∈ missing, k x = .none) ∧
      (∀ s, (sorted.filter fun x => t x = s) = items.filter fun x => t x = s) ∧
      (∀ others : List α, others.Perm items →
        ∃ sorted', (root : Collator m).sortOn key reverse others = pure sorted' ∧
          sorted'.map t = sorted.map t) ∧
      (root : Collator m).sortOn key reverse sorted = pure sorted := by
  have hmem : ∀ x ∈ Sorting.sorted bareOrder t reverse items, x ∈ items := fun x => Sorting.mem_sorted.1
  have hsame : ∀ others : List α, others.Perm items →
      (root : Collator m).sortOn key reverse others = pure (Sorting.sorted bareOrder t reverse others) := by
    intro others hperm
    refine root_sortOn_eq_sorted (fun x hx => hk x (hperm.mem_iff.1 hx)) fun hsize x hx => ?_
    exact ht (hperm.length_eq ▸ hsize) x (hperm.mem_iff.1 hx)
  have hpair : (Sorting.sorted bareOrder t reverse items).Pairwise fun x y =>
      (k x).text? = .ok (t x) ∧ (k y).text? = .ok (t y) ∧
        Sorting.mayPrecede (naturalOrder rootOrder) reverse (t x) (t y) := by
    refine Sorting.pairwise_of_two_le fun hsize => ?_
    rw [Sorting.length_sorted] at hsize
    refine Sorting.pairwise_sorted.imp_of_mem fun {x y} hx hy hxy => ?_
    obtain ⟨htx, hbx⟩ := ht hsize x (hmem x hx)
    obtain ⟨hty, hby⟩ := ht hsize y (hmem y hy)
    rw [Sorting.mayPrecede, ← naturalOrder_eq_bareOrder hbx hby] at hxy
    exact ⟨htx, hty, hxy⟩
  refine ⟨_, hsame items (.refl items), Sorting.sorted_perm, ?_, ?_, fun s => ?_, fun others hperm => ?_, ?_⟩
  · refine hpair.imp fun {x y} hxy => ?_
    obtain ⟨htx, hty, hxy⟩ := hxy
    refine ⟨_, root_compareValues m htx hty, ?_⟩
    unfold Sorting.mayPrecede at hxy
    cases reverse <;> exact hxy
  · refine exists_texts_missing (hpair.imp fun {x y} hxy => ?_)
    obtain ⟨htx, hty, hxy⟩ := hxy
    simpa only [Value.none_iff_of_text? htx, Value.none_iff_of_text? hty] using none_of_mayPrecede hxy
  · refine Sorting.filter_sorted (fun u => u = s) fun u v hu hv => ?_
    obtain rfl := of_decide_eq_true hu
    obtain rfl := of_decide_eq_true hv
    exact Std.ReflCmp.compare_self
  · refine ⟨_, hsame others hperm, Sorting.map_sorted_eq_of_perm hperm fun x hx y hy hxy => ?_⟩
    by_cases hsize : 2 ≤ items.length
    · rw [← naturalOrder_eq_bareOrder (ht hsize x hx).2 (ht hsize y hy).2] at hxy
      exact naturalOrder_eq_eq.1 hxy
    · rw [Sorting.eq_of_mem_of_not_two_le hsize hx hy]
  · rw [hsame _ Sorting.sorted_perm, Sorting.sorted_sorted]

/-- Three values whose text is the same, and others. -/
def nines : List Value := [.label "9".toList, .text "a10".toList, .none, .text "9".toList, .int 9]

theorem root_sortOn_canonical_nines :
    ∃ t : Value → Option Text, (∀ v ∈ nines, v.text? = .ok (t v) ∧ ∀ s ∈ t v, IsBare s) ∧
      ∃ sorted, (root : Collator (Except Error)).sortOn pure true nines = pure sorted ∧
        (sorted.filter fun v => t v = some "9".toList) = [.label "9".toList, .text "9".toList, .int 9] ∧
        (root : Collator (Except Error)).sortOn pure true sorted = pure sorted := by
  have hforms : ∀ v ∈ nines, v.text? = .ok (v.text?.toOption.join) ∧ ∀ s ∈ v.text?.toOption.join, IsBare s := by
    intro v hv
    simp only [nines, List.mem_cons, List.not_mem_nil, or_false] at hv
    rcases hv with rfl | rfl | rfl | rfl | rfl
    all_goals
      refine ⟨rfl, fun s hs => ?_⟩
      cases hs <;> decide
  obtain ⟨sorted, h, -, -, -, hs, -, hagain⟩ :=
    root_sortOn_canonical (m := Except Error) pure id _ true _ (fun _ _ => rfl) fun _ => hforms
  exact ⟨_, hforms, sorted, h, hs (some "9".toList), hagain⟩

end Collator

end NaturalOrder
