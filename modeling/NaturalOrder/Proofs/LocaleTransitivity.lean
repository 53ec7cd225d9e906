import NaturalOrder.Proofs.LocaleResolution
import NaturalOrder.Proofs.RootTransitivity
import NaturalOrder.Proofs.Segmentation

/-!
# Transitivity of the C locale

The C locale collates by code points, and the platform takes no NULs, so these are dropped before. To the
tokens NULs and a digit after them are text and a number, but to the collation they are a digit. So such a
text may come between two numbers and make a cycle with them (`compareNatural_cycle_of_nul`). In texts
without signs and points, of which no such text meets a text that starts with a digit, there is no cycle.
There texts part at a number and text only at their start (`IsBare.eq_zero_of_kind_ne`), and what the
collation sees there first tells the one from the other (`IsBare.nulFreePlace_take_scan`).
-/

namespace NaturalOrder
open Token

/-- The place of the first character that is no NUL. -/
def nulFreePlace (s : Text) : Nat := headPlace (withoutNuls s)

/-- A text does not start with a digit, but does without its NULs. -/
def HidesDigit (s : Text) : Prop := digitFirst? s = some false ∧ digitFirst? (withoutNuls s) = some true

instance (s : Text) : Decidable (HidesDigit s) := inferInstanceAs (Decidable (_ ∧ _))

section
variable {s u v : Text}

theorem withoutNuls_append : withoutNuls (u ++ v) = withoutNuls u ++ withoutNuls v := List.filter_append ..

theorem digitFirst?_withoutNuls (h : digitFirst? s = some true) :
    digitFirst? (withoutNuls s) = some true := by
  cases s with
  | nil => cases h
  | cons c rest =>
    have hc : c ≠ '\x00' := by
      rintro rfl
      cases h
    rw [withoutNuls, List.filter_cons_of_pos (by simpa using hc)]
    exact h

theorem nulFreePlace_of_digitFirst? (h : digitFirst? s = some true) : nulFreePlace s = 2 :=
  headPlace_eq_two.2 (digitFirst?_withoutNuls h)

theorem nulFreeOrder_nil_left (s : Text) : (nulFreeOrder [] s).isLE := by
  show (compare [] (withoutNuls s)).isLE
  cases withoutNuls s <;> rfl

theorem collationOrder_of_nulFreePlace_lt (h : nulFreePlace u < nulFreePlace v) :
    collationOrder nulFreeOrder u v = .lt := by
  have hc : nulFreeOrder u v = .lt := compare_of_headPlace_lt h
  rw [collationOrder, compareLex, hc]
  rfl

theorem collationOrder_of_nulFreePlace_gt (h : nulFreePlace v < nulFreePlace u) :
    collationOrder nulFreeOrder u v = .gt := by
  have hs : collationOrder nulFreeOrder u v = (collationOrder nulFreeOrder v u).swap :=
    Std.OrientedCmp.eq_swap
  rw [hs, collationOrder_of_nulFreePlace_lt h]
  rfl

end

/-! ### Where texts without signs and points part -/

section
variable {s a b u v : Text} {n p : Nat}

theorem IsBare.kind_ne_numeric_of_numeric (h : IsBare s) (hk : (tokenAt s n).kind = .numeric) :
    (tokenAt s (n + (scan (s.drop n)).2)).kind ≠ .numeric := by
  intro hn
  rw [tokenAt_kind, (h.drop _).scan_kind_eq_numeric, digitFirst?, Option.map_eq_some_iff] at hn
  obtain ⟨c, hc, hd⟩ := hn
  rw [← List.drop_drop] at hc
  exact (endsBefore_of_scan (scan_eq_of_kind hk) c hc).1 hd

/-- After a token in common a number and text cannot both come next. -/
theorem IsBare.eq_zero_of_kind_ne (ha : IsBare a)
    (hd : firstDifference (tokensFrom a 0) (tokensFrom b 0) = some (tokenAt a p, tokenAt b p))
    (hx : (tokenAt a p).kind = .numeric) (hy : (tokenAt b p).kind = .text) : p = 0 := by
  rcases eq_or_exists_content_eq (Nat.zero_le _) (Nat.zero_le _) hd with hp | ⟨q, hq, hc, rfl⟩
  · exact hp
  cases hk : (tokenAt a q).kind with
  | empty =>
    have := (tokenAt_kind_eq_empty (Nat.le_of_lt hq)).1 hk
    omega
  | numeric => exact absurd hx (ha.kind_ne_numeric_of_numeric hk)
  | text =>
    rw [scan_length_eq_of_content hc] at hy
    exact absurd hy (kind_ne_text_of_tokenAt_text ((content_eq_iff.1 hc).1 ▸ hk))

/-- The first token of a text shows the collation the same first character as all of the text. -/
theorem IsBare.nulFreePlace_take_scan (h : IsBare s) (hs : ¬ HidesDigit s) :
    nulFreePlace (s.take (scan s).2) = nulFreePlace s := by
  have htake := digitFirst?_take_scan s
  have hsplit : withoutNuls s = withoutNuls (s.take (scan s).2) ++ withoutNuls (s.drop (scan s).2) := by
    rw [← withoutNuls_append, List.take_append_drop]
  by_cases hne : withoutNuls (s.take (scan s).2) = []
  · -- only NULs, so a digit after them would be hidden
    rw [hne, List.nil_append] at hsplit
    cases hd : digitFirst? s with
    | none =>
      obtain rfl := digitFirst?_eq_none.1 hd
      rfl
    | some first =>
      rw [hd] at htake
      cases first with
      | true =>
        have := digitFirst?_withoutNuls htake
        rw [hne] at this
        cases this
      | false =>
        cases hr : digitFirst? (s.drop (scan s).2) with
        | none =>
          rw [nulFreePlace, nulFreePlace, hsplit, digitFirst?_eq_none.1 hr, hne]
          rfl
        | some next =>
          cases next with
          | true => exact absurd ⟨hd, hsplit ▸ digitFirst?_withoutNuls hr⟩ hs
          | false => exact absurd hr (h.digitFirst?_drop_scan hd)
  · rw [nulFreePlace, nulFreePlace, hsplit, headPlace_append hne]

/-! ### Tokens by what the collation sees first -/

/-- The end of a text, and then the place of the first character that is no NUL. -/
def nulFreeRank (x : Kind × Text) : Nat := if x.1 = .empty then 0 else nulFreePlace x.2 + 1

theorem nulFreeRank_eq_zero (x : Kind × Text) : nulFreeRank x = 0 ↔ x.1 = .empty := by
  unfold nulFreeRank
  split <;> simp_all

theorem nulFreeRank_of_ne_empty (h : (tokenAt s n).kind ≠ .empty) :
    nulFreeRank (tokenAt s n).content = nulFreePlace (tokenAt s n).value + 1 := if_neg h

theorem IsBare.nulFreePlace_of_numeric (h : IsBare s) (hk : (tokenAt s n).kind = .numeric) :
    nulFreePlace (tokenAt s n).value = 2 := by
  rw [tokenAt_kind, (h.drop n).scan_kind_eq_numeric, ← digitFirst?_take_scan] at hk
  rw [tokenAt_value]
  exact nulFreePlace_of_digitFirst? hk

theorem IsBare.digitFirst?_of_text (h : IsBare s) (hk : (scan s).1 = .text) :
    digitFirst? s = some false := by
  cases hd : digitFirst? s with
  | none =>
    obtain rfl := digitFirst?_eq_none.1 hd
    cases hk
  | some first =>
    cases first with
    | true => cases hk.symm.trans (h.scan_kind_eq_numeric.2 hd)
    | false => rfl

/-- Tokens that are ordered by what the collation sees are so by its first character if that differs. -/
theorem contentOrder_eq_of_nulFreePlace_ne (hx : (tokenAt a n).kind ≠ .empty)
    (hy : (tokenAt b n).kind ≠ .empty)
    (hu : nulFreePlace (tokenAt a n).value = nulFreePlace u)
    (hv : nulFreePlace (tokenAt b n).value = nulFreePlace v)
    (hne : nulFreePlace u ≠ nulFreePlace v)
    (ho : tokenOrder nulFreeOrder (tokenAt a n) (tokenAt b n) = collationOrder nulFreeOrder u v) :
    contentOrder nulFreeRank nulFreeOrder (tokenAt a n).content (tokenAt b n).content =
      tokenOrder nulFreeOrder (tokenAt a n) (tokenAt b n) := by
  have hrx := nulFreeRank_of_ne_empty hx
  have hry := nulFreeRank_of_ne_empty hy
  rw [ho]
  rcases Nat.lt_or_gt_of_ne hne with h | h
  · rw [collationOrder_of_nulFreePlace_lt h, contentOrder_of_rank_lt (by omega)]
  · rw [collationOrder_of_nulFreePlace_gt h, contentOrder_of_rank_gt (by omega)]

theorem contentOrder_of_numeric_of_text (ha : IsBare a) (hb : IsBare b) (hs : ¬ HidesDigit b)
    (hx : (tokenAt a 0).kind = .numeric) (hy : (tokenAt b 0).kind = .text) :
    contentOrder nulFreeRank nulFreeOrder (tokenAt a 0).content (tokenAt b 0).content =
      tokenOrder nulFreeOrder (tokenAt a 0) (tokenAt b 0) := by
  have hpa : nulFreePlace a = 2 := nulFreePlace_of_digitFirst? (ha.scan_kind_eq_numeric.1 hx)
  have hpb : nulFreePlace b ≠ 2 :=
    fun h => hs ⟨hb.digitFirst?_of_text hy, headPlace_eq_two.1 h⟩
  have hxe : (tokenAt a 0).kind ≠ .empty := by rw [hx]; decide
  have hye : (tokenAt b 0).kind ≠ .empty := by rw [hy]; decide
  refine contentOrder_eq_of_nulFreePlace_ne (u := a) (v := b) hxe hye ?_ ?_ ?_ ?_
  · rw [hpa, ha.nulFreePlace_of_numeric hx]
  · rw [tokenAt_value]
    exact hb.nulFreePlace_take_scan hs
  · rw [hpa]
    exact hpb.symm
  · rw [tokenOrder, if_pos (by rw [hx, hy]; decide), tokenAt_remainder, tokenAt_remainder]
    rfl

theorem contentOrder_of_text (h : Fork a b n) (hx : (tokenAt a n).kind = .text)
    (hy : (tokenAt b n).kind = .text) :
    contentOrder nulFreeRank nulFreeOrder (tokenAt a n).content (tokenAt b n).content =
      tokenOrder nulFreeOrder (tokenAt a n) (tokenAt b n) := by
  have hxe : (tokenAt a n).kind ≠ .empty := by rw [hx]; decide
  have hye : (tokenAt b n).kind ≠ .empty := by rw [hy]; decide
  by_cases hp : nulFreePlace (tokenAt a n).value = nulFreePlace (tokenAt b n).value
  · refine h.contentOrder_eq_of_kind_eq (hx.trans hy.symm) ?_
    rw [nulFreeRank_of_ne_empty hxe, nulFreeRank_of_ne_empty hye, hp]
  · refine contentOrder_eq_of_nulFreePlace_ne hxe hye rfl rfl hp ?_
    rw [tokenOrder, if_neg (not_not_intro (hx.trans hy.symm)), if_neg (by rw [hx]; decide)]

theorem settledBy_nulFreeRank (ha : IsBare a) (hb : IsBare b) (hsa : ¬ HidesDigit a)
    (hsb : ¬ HidesDigit b) : SettledBy (contentOrder nulFreeRank nulFreeOrder) nulFreeOrder a b := by
  intro p hp hd
  by_cases he : (tokenAt a p).kind = .empty ∨ (tokenAt b p).kind = .empty
  · exact hp.contentOrder_eq_of_empty nulFreeOrder_nil_left nulFreeRank_eq_zero he
  rw [not_or] at he
  cases hx : (tokenAt a p).kind with
  | empty => exact absurd hx he.1
  | numeric =>
    cases hy : (tokenAt b p).kind with
    | empty => exact absurd hy he.2
    | numeric =>
      refine hp.contentOrder_eq_of_kind_eq (hx.trans hy.symm) ?_
      rw [nulFreeRank_of_ne_empty he.1, nulFreeRank_of_ne_empty he.2, ha.nulFreePlace_of_numeric hx,
        hb.nulFreePlace_of_numeric hy]
    | text =>
      obtain rfl := ha.eq_zero_of_kind_ne hd hx hy
      exact contentOrder_of_numeric_of_text ha hb hsb hx hy
  | text =>
    cases hy : (tokenAt b p).kind with
    | empty => exact absurd hy he.2
    | numeric =>
      obtain rfl := hb.eq_zero_of_kind_ne (firstDifference_symm hd) hy hx
      rw [tokenOrder_swap (tokenAt b 0), ← contentOrder_of_numeric_of_text hb ha hsa hy hx]
      exact Std.OrientedCmp.eq_swap
    | text => exact contentOrder_of_text hp hx hy

theorem IsBare.not_clash (ha : IsBare a) (hb : IsBare b) (hda : digitFirst? a ≠ some true)
    (hdb : digitFirst? b ≠ some true) : ¬ Clash a b := by
  rw [clash_iff]
  rintro ⟨⟨x, y⟩, hd, hk⟩
  rcases fork_or_eq_zero a b with ⟨-, h⟩ | ⟨p, -, h⟩
  · cases h.symm.trans hd
  cases h.symm.trans hd
  rcases hk with ⟨hx, hy⟩ | ⟨hx, hy⟩
  · obtain rfl := ha.eq_zero_of_kind_ne h hx hy
    exact hda (ha.scan_kind_eq_numeric.1 hx)
  · obtain rfl := hb.eq_zero_of_kind_ne (firstDifference_symm h) hy hx
    exact hdb (hb.scan_kind_eq_numeric.1 hy)

/-- Unless a text that starts with a digit meets one that hides a digit, the order of the C locale gives a
transitive natural order of texts without signs and points. -/
theorem naturalOrder_nulFree_trans {a b d : Option Text} (h : ∀ s, some s ∈ [a, b, d] → IsBare s)
    (hn : ∀ s t, some s ∈ [a, b, d] → some t ∈ [a, b, d] → digitFirst? s = some true → ¬ HidesDigit t)
    (hab : (naturalOrder nulFreeOrder a b).isLE) (hbd : (naturalOrder nulFreeOrder b d).isLE) :
    (naturalOrder nulFreeOrder a d).isLE := by
  by_cases hd : ∃ s, some s ∈ [a, b, d] ∧ digitFirst? s = some true
  · -- then no text hides a digit, and the first characters that the collation sees tell numbers from text
    obtain ⟨u, hu, hdigit⟩ := hd
    refine naturalOrder_isLE_trans (contentOrder nulFreeRank nulFreeOrder) (fun s t hs ht => ?_) hab hbd
    exact settledBy_nulFreeRank (h s hs) (h t ht) (hn u s hu hs hdigit) (hn u t hu ht hdigit)
  · have hd : ∀ s, some s ∈ [a, b, d] → digitFirst? s ≠ some true :=
      fun s hs hdigit => hd ⟨s, hs, hdigit⟩
    refine naturalOrder_isLE_trans (contentOrder kindRank nulFreeOrder) (fun s t hs ht => ?_) hab hbd
    exact settledBy_of_not_clash nulFreeOrder_nil_left ((h s hs).not_clash (h t ht) (hd s hs) (hd t ht))

end

namespace Collator

/-- The collation that is chosen without an environment is that of the C locale. By it natural order is
transitive on texts without signs and points, unless one of them starts with a digit and another with NULs
and then a digit. The locale in force is the same after all this. -/
theorem compareNatural_trans_without_environment (previous : Text)
    (hp : (Platform.basic {}).select previous = .ok previous) (a b d : Option Text)
    (h : ∀ s, some s ∈ [a, b, d] → IsBare s)
    (hn : ∀ s t, some s ∈ [a, b, d] → some t ∈ [a, b, d] → digitFirst? s = some true → ¬ HidesDigit t) :
    (Collation.choose (Platform.basic {}).probe none).run.run previous =
        (.ok (.locale ['C'], none), previous) ∧
      ∃ o₁ o₂ o₃,
        (((Platform.basic {}).collator (.locale ['C'])).compareNatural a b).run.run previous =
          (.ok o₁, previous) ∧
        (((Platform.basic {}).collator (.locale ['C'])).compareNatural b d).run.run previous =
          (.ok o₂, previous) ∧
        (((Platform.basic {}).collator (.locale ['C'])).compareNatural a d).run.run previous =
          (.ok o₃, previous) ∧ (o₁.isLE → o₂.isLE → o₃.isLE) := by
  have hc : (Platform.basic {}).select ['C'] = .ok ['C'] := by decide
  have hr := (Platform.basic_answersIn hc hp).run_compareNatural (Platform.collator_locale_self _ _)
  exact ⟨Platform.run_choose_none hp, _, _, _, hr a b, hr b d, hr a d, naturalOrder_nulFree_trans h hn⟩

theorem compareNatural_trans_without_environment_nuls :
    (Platform.basic {}).select ['C'] = .ok ['C'] ∧
      (∀ s, some s ∈ [some "\x00\x00".toList, some "9\x00".toList, some "\x00a1".toList] → IsBare s) ∧
      (∀ s t, some s ∈ [some "\x00\x00".toList, some "9\x00".toList, some "\x00a1".toList] →
        some t ∈ [some "\x00\x00".toList, some "9\x00".toList, some "\x00a1".toList] →
        digitFirst? s = some true → ¬ HidesDigit t) ∧
      ∃ o, (((Platform.basic {}).collator (.locale ['C'])).compareNatural (some "\x00\x00".toList)
        (some "\x00a1".toList)).run.run ['C'] = (.ok o, ['C']) ∧ o.isLE := by
  have hp : (Platform.basic {}).select ['C'] = .ok ['C'] := by decide
  have h : ∀ s, some s ∈ [some "\x00\x00".toList, some "9\x00".toList, some "\x00a1".toList] → IsBare s := by
    intro s hs
    simp only [List.mem_cons, Option.some.injEq, List.not_mem_nil, or_false] at hs
    rcases hs with rfl | rfl | rfl <;> decide
  have hn : ∀ s t, some s ∈ [some "\x00\x00".toList, some "9\x00".toList, some "\x00a1".toList] →
      some t ∈ [some "\x00\x00".toList, some "9\x00".toList, some "\x00a1".toList] →
      digitFirst? s = some true → ¬ HidesDigit t := by
    intro s t _ ht _
    simp only [List.mem_cons, Option.some.injEq, List.not_mem_nil, or_false] at ht
    rcases ht with rfl | rfl | rfl <;> decide
  have h₁ : (((Platform.basic {}).collator (.locale ['C'])).compareNatural (some "\x00\x00".toList)
      (some "9\x00".toList)).run.run ['C'] = (.ok .lt, ['C']) := by
    show (_ : Except Error Ordering × Text) = _
    decide +kernel
  have h₂ : (((Platform.basic {}).collator (.locale ['C'])).compareNatural (some "9\x00".toList)
      (some "\x00a1".toList)).run.run ['C'] = (.ok .lt, ['C']) := by
    show (_ : Except Error Ordering × Text) = _
    decide +kernel
  obtain ⟨-, o₁, o₂, o₃, ho₁, ho₂, ho₃, ho⟩ := compareNatural_trans_without_environment ['C'] hp _ _ _ h hn
  cases ho₁.symm.trans h₁
  cases ho₂.symm.trans h₂
  exact ⟨hp, h, hn, o₃, ho₃, ho rfl rfl⟩

/-- To the collation a NUL before a digit does not matter, so the text with it is between two numbers, and
these are in the order of numbers. -/
theorem compareNatural_cycle_of_nul :
    IsBare "10".toList ∧ IsBare "\x005".toList ∧ IsBare "9".toList ∧
      (Collation.choose (Platform.basic {}).probe none).run.run ['C'] = (.ok (.locale ['C'], none), ['C']) ∧
      (((Platform.basic {}).collator (.locale ['C'])).compareNatural (some "10".toList)
        (some "\x005".toList)).run.run ['C'] = (.ok .lt, ['C']) ∧
      (((Platform.basic {}).collator (.locale ['C'])).compareNatural (some "\x005".toList)
        (some "9".toList)).run.run ['C'] = (.ok .lt, ['C']) ∧
      (((Platform.basic {}).collator (.locale ['C'])).compareNatural (some "10".toList)
        (some "9".toList)).run.run ['C'] = (.ok .gt, ['C']) := by
  refine ⟨by decide, by decide, by decide, Platform.run_choose_none (by decide), ?_, ?_, ?_⟩
  · show (_ : Except Error Ordering × Text) = _
    decide +kernel
  · show (_ : Except Error Ordering × Text) = _
    decide +kernel
  · show (_ : Except Error Ordering × Text) = _
    decide +kernel

end Collator

end NaturalOrder
