import NaturalOrder.Proofs.RootTransitivity

/-!
# The root collation of a text and its extensions

In front of a character that is no mark, the key of a text is the key of what stands before and the key of
what follows, put together level by level. What follows has characters at the first level unless it is empty,
so a text comes before all its extensions of this kind (`CollationKey.ofText_append_starter`). An extension by
a mark may come before the text, as the mark may move to the front of those that stand there already.
-/

namespace NaturalOrder

theorem compare_append_left {α : Type} [Ord α] [Std.ReflOrd α] (l u v : List α) :
    compare (l ++ u) (l ++ v) = compare u v := by
  induction l with
  | nil => rfl
  | cons c l ih =>
    rw [List.cons_append, List.cons_append, List.compare_cons_cons, Std.ReflOrd.compare_self, ih]
    rfl

theorem compare_append_self {α : Type} [Ord α] [Std.ReflOrd α] (l : List α) {w : List α} (hw : w ≠ []) :
    compare l (l ++ w) = .lt := by
  have h := compare_append_left l [] w
  rw [List.append_nil] at h
  rw [h]
  cases w with
  | nil => exact absurd rfl hw
  | cons d w => rfl

theorem rootOrder_append_self (u : Text) {v : Text} (hv : Unicode.Detached (Unicode.canonical v))
    (hne : v ≠ []) : rootOrder u (u ++ v) = .lt := by
  have hbase : (CollationKey.ofText (u ++ v)).base =
      (CollationKey.ofText u).base ++ (CollationKey.ofText v).base :=
    congrArg CollationKey.base (CollationKey.ofText_append u hv)
  refine rootOrder_of_base_lt ?_
  rw [hbase]
  exact compare_append_self _ (mt base_eq_nil.1 hne)

namespace CollationKey

/-- Each level of the key of two texts, of which the second one starts with no mark, is that of the first text
and then that of the second. So unless the second is empty, the first text comes before the two together. -/
theorem ofText_append_starter (u v : Text) (hv : Unicode.Detached (Unicode.canonical v)) :
    (ofText (u ++ v)).base = (ofText u).base ++ (ofText v).base ∧
      (ofText (u ++ v)).accents = (ofText u).accents ++ (ofText v).accents ∧
      (ofText (u ++ v)).cases = (ofText u).cases ++ (ofText v).cases ∧
      (v ≠ [] → ∀ {m : Type → Type} [Monad m],
        (Collator.root : Collator m).compare u (u ++ v) = pure .lt) := by
  have hkey := ofText_append u hv
  refine ⟨congrArg base hkey, congrArg accents hkey, congrArg cases hkey, ?_⟩
  intro hne m _
  show pure (rootOrder u (u ++ v)) = pure .lt
  rw [rootOrder_append_self u hv hne]

example : rootOrder "a\u0345".toList ("a\u0345".toList ++ "\u0301".toList) = .gt := by decide +kernel

/-- The second text has its marks put in order, and the mark that starts the first text is a letter of its own. -/
theorem ofText_append_starter_accents :
    Unicode.Detached (Unicode.canonical "\u00e9\u0323".toList) ∧
      (ofText ("\u0301E\u0300".toList ++ "\u00e9\u0323".toList)).accents =
        [[], "\u0300".toList, "\u0323\u0301".toList] ∧
      (Collator.root : Collator Id).compare "\u0301E\u0300".toList
        ("\u0301E\u0300".toList ++ "\u00e9\u0323".toList) = pure .lt := by
  have hv : Unicode.Detached (Unicode.canonical "\u00e9\u0323".toList) := by
    have hcanonical : Unicode.canonical "\u00e9\u0323".toList = "e\u0323\u0301".toList := by
      decide +kernel
    rw [hcanonical]
    rintro _ ⟨⟩
    decide +kernel
  obtain ⟨-, haccents, -, hlt⟩ := ofText_append_starter "\u0301E\u0300".toList "\u00e9\u0323".toList hv
  refine ⟨hv, ?_, hlt (by decide)⟩
  rw [haccents]
  decide +kernel

end CollationKey

end NaturalOrder
