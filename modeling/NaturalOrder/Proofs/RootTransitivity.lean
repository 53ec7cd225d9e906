import NaturalOrder.Proofs.RootKey
import NaturalOrder.Proofs.Transitivity

/-!
# Transitivity of the root collation

In texts without signs and points a number is a run of digits. By the root collation any other text
comes before all digits or after all digits, whatever the digits are, because that is decided by the first
character of its key (`rootPlace`). So no text is between two numbers, and ordering tokens by their places
first agrees with the comparison (`settledBy_rootPlace`).
-/

namespace NaturalOrder
open Token

/-- Where a character is with regard to the digits: below, among or above them. -/
def charPlace (c : Char) : Nat := if c.toNat < 0x30 then 1 else if c.toNat ≤ 0x39 then 2 else 3

/-- The place of the first character of a text. The empty text is before all places. -/
def headPlace (s : Text) : Nat := (s.head?.map charPlace).getD 0

/-- The place of the first character of the key of a text. The empty text is before all places. -/
def rootPlace (s : Text) : Nat := ((CollationKey.ofText s).base.head?.map charPlace).getD 0

section
variable {c d : Char}

theorem charPlace_pos : 0 < charPlace c := by
  unfold charPlace
  split
  · decide
  · split <;> decide

theorem charPlace_eq_two : charPlace c = 2 ↔ c.isDigit := by
  have h : c.isDigit ↔ 0x30 ≤ c.toNat ∧ c.toNat ≤ 0x39 := Char.isDigit_iff_toNat
  rw [h, charPlace]
  split
  · omega
  · split <;> omega

theorem compare_of_charPlace_lt (h : charPlace c < charPlace d) : compare c d = .lt := by
  have hcd : c.toNat < d.toNat := by
    by_contra hle
    unfold charPlace at h
    grind
  exact if_pos hcd

end

section
variable {s u v : Text}

theorem headPlace_eq_zero : headPlace s = 0 ↔ s = [] := by
  cases s with
  | nil => exact iff_of_true rfl rfl
  | cons c cs => exact iff_of_false (Nat.ne_of_gt charPlace_pos) (List.cons_ne_nil c cs)

theorem headPlace_eq_two : headPlace s = 2 ↔ digitFirst? s = some true := by
  cases s with
  | nil => exact iff_of_false (by decide) (by decide)
  | cons c cs => exact charPlace_eq_two.trans Option.some_inj.symm

theorem headPlace_append (hu : u ≠ []) : headPlace (u ++ v) = headPlace u := by
  rw [headPlace, List.head?_append_of_ne_nil _ hu, headPlace]

/-- The places of texts decide their order by code points if they differ. -/
theorem compare_of_headPlace_lt (h : headPlace u < headPlace v) : compare u v = .lt := by
  cases v with
  | nil => exact absurd h (Nat.not_lt_zero _)
  | cons d ds =>
    cases u with
    | nil => rfl
    | cons c cs =>
      rw [List.compare_cons_cons, compare_of_charPlace_lt h]
      rfl

instance : Std.TransCmp rootOrder := by
  have hlevels : rootOrder = (compareLex (compareOn fun s => (CollationKey.ofText s).base) <|
      compareLex (compareOn fun s => (CollationKey.ofText s).accents)
        (compareOn fun s => (CollationKey.ofText s).cases)) :=
    funext fun u => funext fun v => rootOrder_eq_order u v
  rw [hlevels]
  infer_instance

theorem base_eq_nil : (CollationKey.ofText s).base = [] ↔ s = [] := by
  have h := CollationKey.digitFirst?_base s
  simp only [digitFirst?] at h
  rw [← List.head?_eq_none_iff, ← List.head?_eq_none_iff, ← Option.map_eq_none_iff, h,
    Option.map_eq_none_iff]

theorem rootPlace_eq_zero : rootPlace s = 0 ↔ s = [] := headPlace_eq_zero.trans base_eq_nil

theorem rootPlace_eq_two : rootPlace s = 2 ↔ digitFirst? s = some true := by
  rw [← CollationKey.digitFirst?_base]
  exact headPlace_eq_two

/-- What comes after the first characters of a text has no part in its place. -/
theorem rootPlace_append (hu : u ≠ []) (hv : digitFirst? v ≠ some false) :
    rootPlace (u ++ v) = rootPlace u := by
  rw [rootPlace, CollationKey.base_append u hv]
  exact headPlace_append (mt base_eq_nil.1 hu)

/-- The first level of the keys decides wherever it tells two texts apart. -/
theorem rootOrder_of_base_lt
    (h : compare (CollationKey.ofText u).base (CollationKey.ofText v).base = .lt) : rootOrder u v = .lt := by
  rw [rootOrder_eq_order, CollationKey.order, h]
  rfl

/-- The places of texts decide their order if they differ. -/
theorem collationOrder_of_rootPlace_lt (h : rootPlace u < rootPlace v) :
    collationOrder rootOrder u v = .lt := by
  rw [collationOrder, compareLex, rootOrder_of_base_lt (compare_of_headPlace_lt h)]
  rfl

end

/-! ### Tokens by their places -/

section
variable {s a b : Text} {p : Nat}

/-- The characters of a token have the place of all the text from there on. -/
theorem IsBare.rootPlace_take_scan (h : IsBare s) : rootPlace (s.take (scan s).2) = rootPlace s := by
  have htake := digitFirst?_take_scan s
  cases hd : digitFirst? s with
  | none =>
    obtain rfl := digitFirst?_eq_none.1 hd
    rfl
  | some first =>
    rw [hd] at htake
    cases first with
    | true => rw [rootPlace_eq_two.2 htake, rootPlace_eq_two.2 hd]
    | false =>
      have hne : s.take (scan s).2 ≠ [] := by
        rw [Ne, ← digitFirst?_eq_none, htake]
        decide
      conv => rhs; rw [← List.take_append_drop (scan s).2 s]
      exact (rootPlace_append hne (h.digitFirst?_drop_scan hd)).symm

/-- Where the places of two texts differ, so do their tokens, and the comparison goes by the places. -/
theorem tokenOrder_of_rootPlace_lt (ha : IsBare a) (hb : IsBare b)
    (h : rootPlace (a.drop p) < rootPlace (b.drop p)) :
    tokenOrder rootOrder (tokenAt a p) (tokenAt b p) = .lt := by
  unfold tokenOrder
  split
  · rw [tokenAt_remainder, tokenAt_remainder]
    exact collationOrder_of_rootPlace_lt h
  · next hk =>
    split
    · next hx =>
      have hy : (tokenAt b p).kind = .numeric := not_not.1 hk ▸ hx
      rw [tokenAt_kind, (ha.drop p).scan_kind_eq_numeric, ← rootPlace_eq_two] at hx
      rw [tokenAt_kind, (hb.drop p).scan_kind_eq_numeric, ← rootPlace_eq_two] at hy
      omega
    · rw [tokenAt_value, tokenAt_value]
      refine collationOrder_of_rootPlace_lt ?_
      rwa [(ha.drop p).rootPlace_take_scan, (hb.drop p).rootPlace_take_scan]

theorem kind_eq_of_rootPlace_eq (ha : IsBare a) (hb : IsBare b)
    (h : rootPlace (a.drop p) = rootPlace (b.drop p)) : (tokenAt a p).kind = (tokenAt b p).kind := by
  have he : (tokenAt a p).kind = .empty ↔ (tokenAt b p).kind = .empty := by
    rw [tokenAt_kind, tokenAt_kind, scan_kind_eq_empty, scan_kind_eq_empty, ← rootPlace_eq_zero,
      ← rootPlace_eq_zero, h]
  have hn : (tokenAt a p).kind = .numeric ↔ (tokenAt b p).kind = .numeric := by
    rw [tokenAt_kind, tokenAt_kind, (ha.drop p).scan_kind_eq_numeric, (hb.drop p).scan_kind_eq_numeric,
      ← rootPlace_eq_two, ← rootPlace_eq_two, h]
  cases hx : (tokenAt a p).kind <;> cases hy : (tokenAt b p).kind <;> simp_all

theorem IsBare.rootPlace_content (h : IsBare s) (p : Nat) :
    rootPlace (tokenAt s p).content.2 = rootPlace (s.drop p) := by
  show rootPlace (tokenAt s p).value = _
  rw [tokenAt_value, (h.drop p).rootPlace_take_scan]

theorem settledBy_rootPlace (ha : IsBare a) (hb : IsBare b) :
    SettledBy (contentOrder (fun x => rootPlace x.2) rootOrder) rootOrder a b := by
  intro p hp _
  rcases Nat.lt_trichotomy (rootPlace (a.drop p)) (rootPlace (b.drop p)) with h | h | h
  · rw [tokenOrder_of_rootPlace_lt ha hb h]
    refine contentOrder_of_rank_lt ?_
    rwa [ha.rootPlace_content, hb.rootPlace_content]
  · refine hp.contentOrder_eq_of_kind_eq (kind_eq_of_rootPlace_eq ha hb h) ?_
    rw [ha.rootPlace_content, hb.rootPlace_content, h]
  · rw [tokenOrder_swap (tokenAt b p), tokenOrder_of_rootPlace_lt hb ha h]
    refine contentOrder_of_rank_gt ?_
    rwa [ha.rootPlace_content, hb.rootPlace_content]

end

namespace Collator
variable {m : Type → Type} [Monad m] [LawfulMonad m] [MonadExceptOf Error m]

/-- By the root collation natural order is transitive on texts without signs and points. -/
theorem root_transitiveAt_of_isBare (a b d : Option Text) (h : ∀ s, some s ∈ [a, b, d] → IsBare s) :
    (root : Collator m).TransitiveAt a b d :=
  transitiveAt_of_settledBy _ (contentOrder (fun x => rootPlace x.2) rootOrder)
    fun s t hs ht => settledBy_rootPlace (h s hs) (h t ht)

theorem root_transitiveAt_of_isBare_marks :
    (∀ s, some s ∈ [some "9\u0301".toList, some "10 e".toList, none] → IsBare s) ∧
      (root : Collator (Except Error)).TransitiveAt
        (some "9\u0301".toList) (some "10 e".toList) none := by
  have h : ∀ s, some s ∈ [some "9\u0301".toList, some "10 e".toList, none] → IsBare s := by
    intro s hs
    simp only [List.mem_cons, Option.some.injEq, List.not_mem_nil, reduceCtorEq, or_false] at hs
    rcases hs with rfl | rfl
    · decide
    · decide
  exact ⟨h, root_transitiveAt_of_isBare _ _ _ h⟩

end Collator

end NaturalOrder
