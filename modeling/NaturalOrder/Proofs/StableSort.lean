import Mathlib.Data.List.TakeWhile
import Mathlib.Order.Compare
import NaturalOrder.Sorting

/-!
# Stable sorting

Where all comparisons have answers, sorting with effects is the pure merge sort of a list by these answers
(`Sorting.mergeSort_eq_pure`). By a total preorder of keys that puts the items in order, and items that are
equal in order stay in the order in which they were (`Sorting.filter_sorted`). If only equal keys are equal
in order, the keys of the sorted list do not depend on the order of the items before
(`Sorting.map_sorted_eq_of_perm`).
-/

namespace NaturalOrder.Sorting

section
variable {m : Type → Type} [Monad m] [LawfulMonad m] {α : Type} {ask : α → α → m Bool}
  {le : α → α → Bool} {xs ys : List α}

theorem merge_eq_pure (h : ∀ x ∈ xs, ∀ y ∈ ys, ask x y = pure (le x y)) :
    merge ask xs ys = pure (xs.merge ys le) := by
  induction xs, ys using merge.induct with
  | case1 ys => rw [merge, List.nil_merge]
  | case2 xs hne =>
    cases xs with
    | nil => exact absurd rfl hne
    | cons x xs => rw [merge, List.merge_right]; exact hne
  | case3 x xs y ys ihx ihy =>
    have hx : ∀ u ∈ xs, ∀ v ∈ y :: ys, ask u v = pure (le u v) :=
      fun u hu => h u (List.mem_cons_of_mem x hu)
    have hy : ∀ u ∈ x :: xs, ∀ v ∈ ys, ask u v = pure (le u v) :=
      fun u hu v hv => h u hu v (List.mem_cons_of_mem y hv)
    rw [merge, h x (by simp) y (by simp), pure_bind, List.cons_merge_cons]
    cases le x y with
    | true => rw [if_pos rfl, if_pos rfl, ihx hx, pure_bind]
    | false => rw [if_neg (by decide), if_neg (by decide), ihy hy, pure_bind]

theorem mergeSort_of_length_le (h : xs.length ≤ 1) : xs.mergeSort le = xs := by
  match xs, h with
  | [], _ => exact List.mergeSort_nil
  | [x], _ => exact List.mergeSort_singleton x

theorem mergeSort_of_lt_length (h : ¬ xs.length ≤ 1) :
    xs.mergeSort le = ((xs.take ((xs.length + 1) / 2)).mergeSort le).merge
      ((xs.drop ((xs.length + 1) / 2)).mergeSort le) le := by
  match xs, h with
  | [], h => exact absurd (Nat.zero_le 1) h
  | [x], h => exact absurd (Nat.le_refl 1) h
  | x :: y :: zs, _ =>
    rw [List.mergeSort]
    simp only [List.MergeSort.Internal.splitInTwo_fst, List.MergeSort.Internal.splitInTwo_snd]

theorem mergeSort_eq_pure (h : ∀ x ∈ xs, ∀ y ∈ xs, ask x y = pure (le x y)) :
    mergeSort ask xs = pure (xs.mergeSort le) := by
  induction xs using mergeSort.induct with
  | case1 xs hl => rw [mergeSort, if_pos hl, mergeSort_of_length_le hl]
  | case2 xs hl half ihl ihr =>
    have hleft := ihl fun x hx y hy => h x (List.mem_of_mem_take hx) y (List.mem_of_mem_take hy)
    have hright := ihr fun x hx y hy => h x (List.mem_of_mem_drop hx) y (List.mem_of_mem_drop hy)
    have hmerge : merge ask ((xs.take half).mergeSort le) ((xs.drop half).mergeSort le) =
        pure (((xs.take half).mergeSort le).merge ((xs.drop half).mergeSort le) le) := by
      refine merge_eq_pure fun x hx y hy => ?_
      exact h x (List.mem_of_mem_take (List.mem_mergeSort.1 hx)) y
        (List.mem_of_mem_drop (List.mem_mergeSort.1 hy))
    rw [mergeSort, if_neg hl, mergeSort_of_lt_length hl]
    show (do
      let left ← mergeSort ask (xs.take half)
      let right ← mergeSort ask (xs.drop half)
      merge ask left right) = _
    rw [hleft, pure_bind, hright, pure_bind, hmerge]

end

/-- An item may stand before another one. -/
def mayPrecede {κ : Type} (o : κ → κ → Ordering) (reverse : Bool) (k l : κ) : Bool :=
  if reverse then (o k l).isGE else (o k l).isLE

/-- The items in the order of their keys, or in the reverse of it. -/
def sorted {α κ : Type} (o : κ → κ → Ordering) (key : α → κ) (reverse : Bool) (items : List α) : List α :=
  items.mergeSort fun x y => mayPrecede o reverse (key x) (key y)

/-- In a list of one item at most there is nothing to compare. -/
theorem sortBy_eq_pure {m : Type → Type} [Monad m] [LawfulMonad m] {α κ : Type}
    {order : α → α → m Ordering} {o : κ → κ → Ordering} {key : α → κ} {items : List α}
    (h : 2 ≤ items.length → ∀ x ∈ items, ∀ y ∈ items, order x y = pure (o (key x) (key y)))
    (reverse : Bool) : sortBy order reverse items = pure (sorted o key reverse items) := by
  by_cases hsize : items.length ≤ 1
  · rw [sortBy, mergeSort, if_pos hsize, sorted, mergeSort_of_length_le hsize]
  · refine mergeSort_eq_pure fun x hx y hy => ?_
    show (do
      let o ← order x y
      return if reverse then o.isGE else o.isLE) = _
    rw [h (Nat.lt_of_not_le hsize) x hx y hy, pure_bind, mayPrecede]

section
variable {α β κ : Type} {o : κ → κ → Ordering} {key : α → κ} {reverse : Bool} {items others : List α}
  {j k l : κ}

theorem map_sorted (key : β → κ) (f : α → β) :
    (sorted o (fun x => key (f x)) reverse items).map f = sorted o key reverse (items.map f) :=
  List.map_mergeSort fun _ _ _ _ => rfl

theorem sorted_perm : (sorted o key reverse items).Perm items := List.mergeSort_perm ..

theorem length_sorted : (sorted o key reverse items).length = items.length := sorted_perm.length_eq

theorem mem_sorted {x : α} : x ∈ sorted o key reverse items ↔ x ∈ items := sorted_perm.mem_iff

theorem mayPrecede_of_eq (h : o k l = .eq) : mayPrecede o reverse k l := by
  rw [mayPrecede, h]
  cases reverse <;> rfl

section
variable [Std.TransCmp o]

theorem mayPrecede_trans (hjk : mayPrecede o reverse j k) (hkl : mayPrecede o reverse k l) :
    mayPrecede o reverse j l := by
  cases reverse with
  | false => exact Std.TransCmp.isLE_trans hjk hkl
  | true =>
    have hkj : (o k j).isLE := Std.OrientedCmp.isGE_iff_isLE.1 hjk
    have hlk : (o l k).isLE := Std.OrientedCmp.isGE_iff_isLE.1 hkl
    exact Std.OrientedCmp.isGE_iff_isLE.2 (Std.TransCmp.isLE_trans hlk hkj)

theorem mayPrecede_total (k l : κ) : mayPrecede o reverse k l || mayPrecede o reverse l k := by
  have hs : o l k = (o k l).swap := Std.OrientedCmp.eq_swap
  unfold mayPrecede
  rw [hs]
  cases reverse <;> cases o k l <;> rfl

theorem eq_of_mayPrecede (hkl : mayPrecede o reverse k l) (hlk : mayPrecede o reverse l k) :
    o k l = .eq := by
  have hs : o l k = (o k l).swap := Std.OrientedCmp.eq_swap
  unfold mayPrecede at hkl hlk
  rw [hs] at hlk
  revert hkl hlk
  cases reverse <;> cases o k l <;> decide

theorem pairwise_sorted :
    (sorted o key reverse items).Pairwise fun x y => mayPrecede o reverse (key x) (key y) :=
  List.pairwise_mergeSort (fun _ _ _ => mayPrecede_trans) (fun _ _ => mayPrecede_total _ _) items

/-- Items whose keys are equal in order stay in their order. -/
theorem filter_sorted (p : κ → Bool) (hp : ∀ k l, p k → p l → o k l = .eq) :
    (sorted o key reverse items).filter (fun x => p (key x)) = items.filter fun x => p (key x) := by
  have hpair : (items.filter fun x => p (key x)).Pairwise fun x y =>
      mayPrecede o reverse (key x) (key y) := by
    refine List.pairwise_of_forall_mem_list fun x hx y hy => ?_
    exact mayPrecede_of_eq (hp _ _ (List.mem_filter.1 hx).2 (List.mem_filter.1 hy).2)
  have hsub : (items.filter fun x => p (key x)).Sublist (sorted o key reverse items) :=
    List.sublist_mergeSort (fun _ _ _ => mayPrecede_trans) (fun _ _ => mayPrecede_total _ _) hpair
      List.filter_sublist
  have hfilter := hsub.filter fun x => p (key x)
  rw [List.filter_filter] at hfilter
  simp only [Bool.and_self] at hfilter
  exact (hfilter.eq_of_length (sorted_perm.filter _).length_eq.symm).symm

/-- The keys come in the same order whatever the order of the items was, if only equal keys are equal. -/
theorem map_sorted_eq_of_perm (h : others.Perm items)
    (ho : ∀ x ∈ items, ∀ y ∈ items, o (key x) (key y) = .eq → key x = key y) :
    (sorted o key reverse others).map key = (sorted o key reverse items).map key := by
  have hpair : ∀ xs : List α, ((sorted o key reverse xs).map key).Pairwise fun k l =>
      mayPrecede o reverse k l := fun xs => List.pairwise_map.2 pairwise_sorted
  have hperm : (sorted o key reverse others).Perm (sorted o key reverse items) :=
    sorted_perm.trans (h.trans sorted_perm.symm)
  refine (hperm.map key).eq_of_pairwise (fun k l hk hl hkl hlk => ?_) (hpair others) (hpair items)
  obtain ⟨x, hx, rfl⟩ := List.mem_map.1 hk
  obtain ⟨y, hy, rfl⟩ := List.mem_map.1 hl
  exact ho x (h.mem_iff.1 (mem_sorted.1 hx)) y (mem_sorted.1 hy) (eq_of_mayPrecede hkl hlk)

theorem sorted_sorted : sorted o key reverse (sorted o key reverse items) = sorted o key reverse items :=
  List.mergeSort_of_pairwise pairwise_sorted

end

end

section
variable {α : Type} {xs : List α} {x y : α}

theorem pairwise_of_two_le {r : α → α → Prop} (h : 2 ≤ xs.length → xs.Pairwise r) : xs.Pairwise r := by
  match xs, h with
  | [], _ => exact .nil
  | [x], _ => exact List.pairwise_singleton r x
  | x :: y :: zs, h => exact h (Nat.le_add_left 2 zs.length)

theorem eq_of_mem_of_not_two_le (h : ¬ 2 ≤ xs.length) (hx : x ∈ xs) (hy : y ∈ xs) : x = y := by
  match xs, h with
  | [], _ => cases hx
  | [z], _ => exact (List.mem_singleton.1 hx).trans (List.mem_singleton.1 hy).symm
  | _ :: _ :: zs, h => exact absurd (Nat.le_add_left 2 zs.length) h

end

/-- A list in which nothing with a property is followed by something without it falls into two. -/
theorem exists_append_of_pairwise {α : Type} {p : α → Prop} {xs : List α}
    (h : xs.Pairwise fun x y => p x → p y) :
    ∃ us vs, xs = us ++ vs ∧ (∀ x ∈ us, ¬ p x) ∧ ∀ x ∈ vs, p x := by
  induction xs with
  | nil => exact ⟨[], [], rfl, by simp, by simp⟩
  | cons x xs ih =>
    obtain ⟨hx, hxs⟩ := List.pairwise_cons.1 h
    by_cases hp : p x
    · refine ⟨[], x :: xs, rfl, by simp, fun y hy => ?_⟩
      rcases List.mem_cons.1 hy with rfl | hy
      · exact hp
      · exact hx y hy hp
    · obtain ⟨us, vs, rfl, hus, hvs⟩ := ih hxs
      refine ⟨x :: us, vs, rfl, fun y hy => ?_, hvs⟩
      rcases List.mem_cons.1 hy with rfl | hy
      · exact hp
      · exact hus y hy

end NaturalOrder.Sorting
