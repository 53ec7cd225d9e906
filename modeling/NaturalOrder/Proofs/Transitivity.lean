import NaturalOrder.Proofs.Antisymmetry

/-!
# Transitivity

A total order `o` of kinds and characters of tokens gives a total order of texts, namely of the lists of
their tokens. If `o` orders the tokens at which any two of three texts part as the comparison does
(`SettledBy`), then the comparison is transitive on these three texts (`naturalOrder_isLE_trans`).
`contentOrder` is such an order for all texts of which no two part at a number and text (`Clash`).
-/

namespace NaturalOrder
open Token

/-- Kinds and characters of tokens by rank, then numbers as numerals, and texts by the collator. -/
def contentOrder (rank : Kind × Text → Nat) (f : Text → Text → Ordering) :
    Kind × Text → Kind × Text → Ordering :=
  compareLex (compareOn rank) <|
    compareLex (fun x y => numeralOrder (numericPart x) (numericPart y))
      fun x y => collationOrder f (textPart x) (textPart y)
where
  numericPart (x : Kind × Text) : Text := if x.1 = .numeric then x.2 else []
  textPart (x : Kind × Text) : Text := if x.1 = .numeric then [] else x.2

/-- At the tokens where two texts part, an order of kinds and characters agrees with the comparison. -/
def SettledBy (o : Kind × Text → Kind × Text → Ordering) (f : Text → Text → Ordering) (a b : Text) :
    Prop :=
  ∀ p, Fork a b p →
    firstDifference (tokensFrom a 0) (tokensFrom b 0) = some (tokenAt a p, tokenAt b p) →
    o (tokenAt a p).content (tokenAt b p).content = tokenOrder f (tokenAt a p) (tokenAt b p)

/-- Texts are ordered by their tokens, and what has no text comes last. -/
def tokensOrder (o : Kind × Text → Kind × Text → Ordering) : Option Text → Option Text → Ordering :=
  compareLex (compareOn fun a => a.isNone.toNat) fun a b => List.compareLex o (contents a) (contents b)
where
  contents (a : Option Text) : List (Kind × Text) := a.elim [] fun s => (tokensFrom s 0).map content

theorem transCmp_comap {α β : Type} (cmp : β → β → Ordering) [Std.TransCmp cmp] (g : α → β) :
    Std.TransCmp fun x y => cmp (g x) (g y) where
  eq_swap := Std.OrientedCmp.eq_swap
  isLE_trans := Std.TransCmp.isLE_trans

section
variable {rank : Kind × Text → Nat} {f : Text → Text → Ordering} {u v : Text} {x y : Kind × Text}

instance [Std.TransCmp f] : Std.TransCmp (contentOrder rank f) := by
  have := transCmp_comap numeralOrder contentOrder.numericPart
  have := transCmp_comap (collationOrder f) contentOrder.textPart
  exact inferInstanceAs (Std.TransCmp (compareLex _ (compareLex _ _)))

instance {o : Kind × Text → Kind × Text → Ordering} [Std.TransCmp o] : Std.TransCmp (tokensOrder o) := by
  have := transCmp_comap (List.compareLex o) tokensOrder.contents
  exact inferInstanceAs (Std.TransCmp (compareLex _ _))

theorem contentOrder_of_rank_lt (h : rank x < rank y) : contentOrder rank f x y = .lt := by
  have hr : compareOn rank x y = .lt := Nat.compare_eq_lt.2 h
  rw [contentOrder, compareLex, hr]
  rfl

theorem contentOrder_of_rank_gt (h : rank y < rank x) : contentOrder rank f x y = .gt := by
  have hr : compareOn rank x y = .gt := Nat.compare_eq_gt.2 h
  rw [contentOrder, compareLex, hr]
  rfl

theorem contentOrder_numeric [Std.ReflCmp f] (h : rank (.numeric, u) = rank (.numeric, v)) :
    contentOrder rank f (.numeric, u) (.numeric, v) = numeralOrder u v := by
  have hr : compareOn rank (.numeric, u) (.numeric, v) = .eq := Nat.compare_eq_eq.2 h
  have hc : collationOrder f [] [] = .eq := Std.ReflCmp.compare_self
  rw [contentOrder, compareLex, hr]
  show (numeralOrder u v).then (collationOrder f [] []) = _
  rw [hc, Ordering.then_eq]

theorem contentOrder_text (h : rank (.text, u) = rank (.text, v)) :
    contentOrder rank f (.text, u) (.text, v) = collationOrder f u v := by
  have hr : compareOn rank (.text, u) (.text, v) = .eq := Nat.compare_eq_eq.2 h
  have hn : numeralOrder [] [] = .eq := numeralOrder_eq_eq.2 rfl
  rw [contentOrder, compareLex, hr]
  show (numeralOrder [] []).then (collationOrder f u v) = _
  rw [hn]
  rfl

end

section
variable {f : Text → Text → Ordering} {o : Kind × Text → Kind × Text → Ordering} {xs ys : List Token}
  {x y : Token} {a b : Text} {p : Nat}

theorem compareLex_of_firstDifference [Std.ReflCmp o] (h : firstDifference xs ys = some (x, y))
    (ho : o x.content y.content ≠ .eq) :
    List.compareLex o (xs.map content) (ys.map content) = o x.content y.content := by
  fun_induction firstDifference xs ys with
  | case1 u us v vs huv ih =>
    rw [List.map_cons, List.map_cons, List.compareLex_cons_cons, huv]
    have hv : o v.content v.content = .eq := Std.ReflCmp.compare_self
    rw [hv]
    exact ih h
  | case2 u us v vs huv =>
    cases h
    rw [List.map_cons, List.map_cons, List.compareLex_cons_cons]
    cases h : o x.content y.content with
    | eq => exact absurd h ho
    | _ => rfl
  | case3 => cases h

/-- The comparison of two texts is that of their tokens by an order that agrees with it where they part. -/
theorem textOrder_eq_compareLex [Std.ReflCmp o] (h : SettledBy o f a b) :
    textOrder f a b =
      List.compareLex o ((tokensFrom a 0).map content) ((tokensFrom b 0).map content) := by
  unfold textOrder
  rcases fork_or_eq_zero a b with ⟨rfl, hd⟩ | ⟨p, hp, hd⟩
  · rw [hd]
    exact Std.ReflCmp.compare_self.symm
  · have hs := h p hp hd
    -- the order must decide there, or the lists would be compared further than the texts are
    have hne : o (tokenAt a p).content (tokenAt b p).content ≠ .eq := by
      rw [hs]
      exact tokenOrder_ne_eq hp
    rw [hd, compareLex_of_firstDifference hd hne, hs]

theorem naturalOrder_eq_tokensOrder [Std.ReflCmp o] {a b : Option Text}
    (h : ∀ s ∈ a, ∀ t ∈ b, SettledBy o f s t) : naturalOrder f a b = tokensOrder o a b := by
  cases a with
  | none => cases b <;> rfl
  | some a =>
    cases b with
    | none => rfl
    | some b => exact textOrder_eq_compareLex (h a rfl b rfl)

theorem naturalOrder_isLE_trans (o : Kind × Text → Kind × Text → Ordering) [Std.TransCmp o]
    {a b c : Option Text} (h : ∀ s t, some s ∈ [a, b, c] → some t ∈ [a, b, c] → SettledBy o f s t)
    (hab : (naturalOrder f a b).isLE) (hbc : (naturalOrder f b c).isLE) : (naturalOrder f a c).isLE := by
  have heq : ∀ x ∈ [a, b, c], ∀ y ∈ [a, b, c], naturalOrder f x y = tokensOrder o x y :=
    fun x hx y hy => naturalOrder_eq_tokensOrder fun s hs t ht => h s t (hs ▸ hx) (ht ▸ hy)
  rw [heq a (by simp) b (by simp)] at hab
  rw [heq b (by simp) c (by simp)] at hbc
  rw [heq a (by simp) c (by simp)]
  exact Std.TransCmp.isLE_trans hab hbc

end

/-! ### Texts of which no two part at a number and text -/

/-- The first tokens that differ in two texts are a number and text. -/
def Clash (a b : Text) : Prop :=
  ∃ xs ys i x y, tokenize a 0 = .ok xs ∧ tokenize b 0 = .ok ys ∧ DifferFirstAt xs ys i ∧
    xs[i]? = some x ∧ ys[i]? = some y ∧
    (x.kind = .numeric ∧ y.kind = .text ∨ x.kind = .text ∧ y.kind = .numeric)

/-- The tokens of a text are a number and the end. -/
def IsNumber (s : Text) : Prop := ∃ ts, tokenize s 0 = .ok ts ∧ ts.map (·.kind) = [.numeric, .empty]

def kindRank (x : Kind × Text) : Nat :=
  match x.1 with
  | .empty => 0
  | .numeric => 1
  | .text => 2

section
variable {f : Text → Text → Ordering} {a b : Text} {p : Nat}

theorem collationOrder_nil_left (hf : ∀ s, (f [] s).isLE) {s : Text} (hs : s ≠ []) :
    collationOrder f [] s = .lt := by
  have hle := hf s
  rw [collationOrder, compareLex]
  cases h : f [] s with
  | lt => rfl
  | eq =>
    cases s with
    | nil => exact absurd rfl hs
    | cons c rest => rfl
  | gt => rw [h] at hle; cases hle

namespace Fork

/-- A text that ends where another goes on comes before it. -/
theorem tokenOrder_of_empty (h : Fork a b p) (hf : ∀ s, (f [] s).isLE)
    (hx : (tokenAt a p).kind = .empty) : tokenOrder f (tokenAt a p) (tokenAt b p) = .lt := by
  have hk : (tokenAt a p).kind ≠ (tokenAt b p).kind := fun hk => h.kind_ne_empty hk hx
  have ha : a.drop p = [] := scan_kind_eq_empty.1 hx
  have hb := h.drop_ne
  rw [ha] at hb
  rw [tokenOrder, if_pos hk, tokenAt_remainder, tokenAt_remainder, ha]
  exact collationOrder_nil_left hf hb.symm

theorem tokenOrder_of_empty_right [Std.OrientedCmp f] (h : Fork a b p) (hf : ∀ s, (f [] s).isLE)
    (hy : (tokenAt b p).kind = .empty) : tokenOrder f (tokenAt a p) (tokenAt b p) = .gt := by
  rw [tokenOrder_swap (tokenAt b p), h.symm.tokenOrder_of_empty hf hy]
  rfl

/-- A rank that puts the end of a text first agrees with the comparison where one text ends. -/
theorem contentOrder_eq_of_empty [Std.OrientedCmp f] {rank : Kind × Text → Nat} (h : Fork a b p)
    (hf : ∀ s, (f [] s).isLE) (hr : ∀ x, rank x = 0 ↔ x.1 = .empty)
    (he : (tokenAt a p).kind = .empty ∨ (tokenAt b p).kind = .empty) :
    contentOrder rank f (tokenAt a p).content (tokenAt b p).content =
      tokenOrder f (tokenAt a p) (tokenAt b p) := by
  have h0 : ∀ {x y : Kind × Text}, x.1 = .empty → y.1 ≠ .empty → rank x < rank y := by
    intro x y hx hy
    rw [(hr _).2 hx]
    exact Nat.pos_of_ne_zero (mt (hr _).1 hy)
  rcases he with hx | hy
  · have hy : (tokenAt b p).kind ≠ .empty := fun hy => h.kind_ne_empty (hx.trans hy.symm) hx
    rw [contentOrder_of_rank_lt (h0 hx hy), h.tokenOrder_of_empty hf hx]
  · have hx : (tokenAt a p).kind ≠ .empty := fun hx => h.kind_ne_empty (hx.trans hy.symm) hx
    rw [contentOrder_of_rank_gt (h0 hy hx), h.tokenOrder_of_empty_right hf hy]

/-- Texts that part at two numbers or at two texts are ordered by these, if the ranks are the same. -/
theorem contentOrder_eq_of_kind_eq [Std.ReflCmp f] {rank : Kind × Text → Nat} (h : Fork a b p)
    (hk : (tokenAt a p).kind = (tokenAt b p).kind)
    (hr : rank (tokenAt a p).content = rank (tokenAt b p).content) :
    contentOrder rank f (tokenAt a p).content (tokenAt b p).content =
      tokenOrder f (tokenAt a p) (tokenAt b p) := by
  rw [tokenOrder, if_neg (not_not_intro hk)]
  unfold content at hr ⊢
  rw [← hk] at hr ⊢
  cases hx : (tokenAt a p).kind with
  | empty => exact absurd hx (h.kind_ne_empty hk)
  | numeric =>
    rw [hx] at hr
    exact contentOrder_numeric hr
  | text =>
    rw [hx] at hr
    exact contentOrder_text hr

end Fork

theorem clash_iff : Clash a b ↔ ∃ xy ∈ firstDifference (tokensFrom a 0) (tokensFrom b 0),
    xy.1.kind = .numeric ∧ xy.2.kind = .text ∨ xy.1.kind = .text ∧ xy.2.kind = .numeric :=
  exists_differFirstAt_iff

instance (a b : Text) : Decidable (Clash a b) := decidable_of_iff _ clash_iff.symm

theorem settledBy_of_not_clash [Std.OrientedCmp f] (hf : ∀ s, (f [] s).isLE) (h : ¬ Clash a b) :
    SettledBy (contentOrder kindRank f) f a b := by
  intro p hp hd
  have hr : ∀ x, kindRank x = 0 ↔ x.1 = .empty := fun ⟨k, _⟩ => by cases k <;> simp [kindRank]
  by_cases he : (tokenAt a p).kind = .empty ∨ (tokenAt b p).kind = .empty
  · exact hp.contentOrder_eq_of_empty hf hr he
  rw [not_or] at he
  have hk : (tokenAt a p).kind = (tokenAt b p).kind := by
    by_contra hk
    refine h (clash_iff.2 ⟨_, hd, ?_⟩)
    revert he hk
    cases (tokenAt a p).kind <;> cases (tokenAt b p).kind <;> simp
  refine hp.contentOrder_eq_of_kind_eq hk ?_
  rw [kindRank, kindRank, content, content, hk]

theorem IsNumber.kind_ne_text {s : Text} {ts : List Token} {i : Nat} {t : Token} (h : IsNumber s)
    (hts : tokenize s 0 = .ok ts) (ht : ts[i]? = some t) : t.kind ≠ .text := by
  obtain ⟨us, hus, hk⟩ := h
  obtain rfl : us = ts := Except.ok.inj (hus.symm.trans hts)
  have hm : t.kind ∈ us.map (·.kind) := List.mem_map_of_mem (List.mem_of_getElem? ht)
  rw [hk] at hm
  rcases List.mem_cons.1 hm with h | h
  · rw [h]; decide
  · rw [List.mem_singleton.1 h]; decide

theorem not_clash_of_isNumber (ha : IsNumber a) (hb : IsNumber b) : ¬ Clash a b := by
  rintro ⟨xs, ys, i, x, y, hxs, hys, -, hx, hy, ⟨-, h⟩ | ⟨h, -⟩⟩
  · exact hb.kind_ne_text hys hy h
  · exact ha.kind_ne_text hxs hx h

end

namespace Collator
variable {m : Type → Type} [Monad m] [LawfulMonad m] [MonadExceptOf Error m]

/-- The comparison has an answer for each two of three texts, and they are those of an order. -/
def TransitiveAt (c : Collator m) (a b d : Option Text) : Prop :=
  ∃ o₁ o₂ o₃, c.compareNatural a b = pure o₁ ∧ c.compareNatural b d = pure o₂ ∧
    c.compareNatural a d = pure o₃ ∧ (o₁.isLE → o₂.isLE → o₃.isLE)

variable (shown : String)

theorem transitiveAt_of_settledBy {f : Text → Text → Ordering} [Std.TransCmp f]
    (o : Kind × Text → Kind × Text → Ordering) [Std.TransCmp o] {a b d : Option Text}
    (h : ∀ s t, some s ∈ [a, b, d] → some t ∈ [a, b, d] → SettledBy o f s t) :
    (ofOrder shown f : Collator m).TransitiveAt a b d := by
  have hf : ∀ s, f s s = .eq := fun _ => Std.ReflCmp.compare_self
  exact ⟨_, _, _, compareNatural_ofOrder shown hf a b, compareNatural_ofOrder shown hf b d,
    compareNatural_ofOrder shown hf a d, naturalOrder_isLE_trans o h⟩

/-- By a collator that is a total preorder with the empty text first, natural order is transitive on
texts of which no two part at a number and text, such as texts that are numbers. -/
theorem transitiveAt_of_not_clash (f : Text → Text → Ordering) [Std.TransCmp f]
    (hf : ∀ s, (f [] s).isLE) (a b d : Option Text) :
    ((∀ s t, some s ∈ [a, b, d] → some t ∈ [a, b, d] → ¬ Clash s t) →
      (ofOrder shown f : Collator m).TransitiveAt a b d) ∧
    ((∀ s, some s ∈ [a, b, d] → IsNumber s) → (ofOrder shown f : Collator m).TransitiveAt a b d) := by
  have key : (∀ s t, some s ∈ [a, b, d] → some t ∈ [a, b, d] → ¬ Clash s t) →
      (ofOrder shown f : Collator m).TransitiveAt a b d := by
    intro h
    refine transitiveAt_of_settledBy shown (contentOrder kindRank f) fun s t hs ht => ?_
    exact settledBy_of_not_clash hf (h s t hs ht)
  refine ⟨key, fun hn => key fun s t hs ht => ?_⟩
  exact not_clash_of_isNumber (hn s hs) (hn t ht)

theorem transitiveAt_of_not_clash_versions :
    Std.TransCmp (compareOn List.length : Text → Text → Ordering) ∧
      (ofOrder "length" (compareOn List.length) : Collator (Except Error)).TransitiveAt
        (some "1.02x".toList) (some "1.2".toList) (some "1.2.3".toList) ∧
      (ofOrder "length" (compareOn List.length) : Collator (Except Error)).TransitiveAt
        (some "-0".toList) (some "0.0".toList) (some ".5".toList) := by
  have hf : ∀ s : Text, (compareOn List.length [] s).isLE :=
    fun s => Nat.isLE_compare.2 (Nat.zero_le s.length)
  refine ⟨inferInstance, ?_, ?_⟩
  · refine (transitiveAt_of_not_clash "length" (compareOn List.length) hf _ _ _).1 fun s t hs ht => ?_
    simp only [List.mem_cons, Option.some.injEq, List.not_mem_nil, or_false] at hs ht
    rcases hs with rfl | rfl | rfl <;> rcases ht with rfl | rfl | rfl <;> decide +kernel
  · refine (transitiveAt_of_not_clash "length" (compareOn List.length) hf _ _ _).2 fun s hs => ?_
    simp only [List.mem_cons, Option.some.injEq, List.not_mem_nil, or_false] at hs
    rcases hs with rfl | rfl | rfl
    · exact ⟨[⟨.numeric, "-0".toList, 0, 2⟩, ⟨.empty, "-0".toList, 2, 2⟩], by decide +kernel, rfl⟩
    · exact ⟨[⟨.numeric, "0.0".toList, 0, 3⟩, ⟨.empty, "0.0".toList, 3, 3⟩], by decide +kernel, rfl⟩
    · exact ⟨[⟨.numeric, ".5".toList, 0, 2⟩, ⟨.empty, ".5".toList, 2, 2⟩], by decide +kernel, rfl⟩

end Collator

end NaturalOrder
