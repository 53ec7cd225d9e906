import Mathlib.Logic.Relation
import NaturalOrder.Proofs.FirstToken
import NaturalOrder.Proofs.Runs

/-!
# Both texts are read in step

The comparison has a position in each text, and goes on as long as one of the texts does. A round after
which it goes on has found the same token in both texts, so both positions are always the same, with the
same characters before them (`Continues.alike`). At such positions no scan fails, the texts end together
or not at all, and what is read as a number is a numeral (`Alike.round_cases`). So by a collator that
always answers the comparison comes to an end and answers (`compareNatural_in_step`). The collator may have
a state, and it need not even find a text equal to itself.
-/

namespace NaturalOrder
open Token Relation

variable {σ : Type} {a b : Text} {n : Nat}

/-- An offset in two texts with the same characters before it. -/
structure Alike (a b : Text) (n : Nat) : Prop where
  le_left : n ≤ a.length
  le_right : n ≤ b.length
  same : a.take n = b.take n

theorem alike_zero (a b : Text) : Alike a b 0 := ⟨Nat.zero_le _, Nat.zero_le _, rfl⟩

theorem Alike.stop (h : Alike a b n) (hc : (tokenAt a n).content = (tokenAt b n).content) :
    Alike a b (n + (scan (a.drop n)).2) where
  le_left := tokenAt_stop_le h.le_left
  le_right := by
    rw [scan_length_eq_of_content hc]
    exact tokenAt_stop_le h.le_right
  same := take_stop_eq h.same hc

/-- Both texts have been compared up to an offset. -/
abbrev Progress.upTo (a b : Text) (n : Nat) : Progress := ⟨a, b, n, n⟩

/-- Each text has been read up to the end of its token at an offset. -/
def Progress.past (a b : Text) (n : Nat) : Progress :=
  ⟨a, b, (n + (scan (a.drop n)).2 : Nat), (n + (scan (b.drop n)).2 : Nat)⟩

/-- Past the same token in both, two texts are still alike. -/
theorem Alike.past (h : Alike a b n) (hx : (tokenAt a n).kind ≠ .empty)
    (hk : (tokenAt a n).kind = (tokenAt b n).kind) (hv : (tokenAt a n).value = (tokenAt b n).value) :
    ∃ k, n < k ∧ Alike a b k ∧ Progress.past a b n = Progress.upTo a b k := by
  have hc := content_eq_iff.2 ⟨hk, hv⟩
  have hpos := scan_length_pos (mt scan_kind_eq_empty.2 hx)
  refine ⟨n + (scan (a.drop n)).2, by omega, h.stop hc, ?_⟩
  rw [Progress.past, ← scan_length_eq_of_content hc]

namespace Progress

/-- While a text goes on, a round does not fail, and it does not find both texts at their end. -/
theorem round_cases (h : Alike a b n) (hf : ¬ (upTo a b n).finished = true) :
    ((tokenAt a n).kind ≠ (tokenAt b n).kind ∧
        (upTo a b n).round = .ok (.remainders (a.drop n) (b.drop n))) ∨
      ((tokenAt a n).kind = .numeric ∧ (tokenAt b n).kind = .numeric ∧
        (upTo a b n).round = .ok (.numbers (tokenAt a n).value (tokenAt b n).value (past a b n))) ∨
      ((tokenAt a n).kind = .text ∧ (tokenAt b n).kind = .text ∧
        (upTo a b n).round = .ok (.texts (tokenAt a n).value (tokenAt b n).value (past a b n))) := by
  by_cases hk : (tokenAt a n).kind = (tokenAt b n).kind
  · cases hx : (tokenAt a n).kind with
    | empty =>
      have ha := (tokenAt_kind_eq_empty h.le_left).1 hx
      have hb := (tokenAt_kind_eq_empty h.le_right).1 (hk ▸ hx)
      exact absurd (finished_iff.2 ⟨by omega, by omega⟩) hf
    | numeric =>
      have hy := hk ▸ hx
      exact .inr (.inl ⟨rfl, hy, round_of_numeric h.le_left h.le_right hx hy⟩)
    | text =>
      have hy := hk ▸ hx
      exact .inr (.inr ⟨rfl, hy, round_of_text h.le_left h.le_right hx hy⟩)
  · exact .inl ⟨hk, round_of_kind_ne h.le_left h.le_right hk⟩

variable {c : Collator (ExceptT Error (StateM σ))} {p : Progress} {r : Round} {s s' : σ}

/-- What a round leads to: it decides, or the comparison goes on. -/
def outcome (c : Collator (ExceptT Error (StateM σ))) :
    Round → ExceptT Error (StateM σ) (Ordering ⊕ Progress)
  | .exhausted => pure (.inl .eq)
  | .remainders a b => do return .inl (← c.collate a b)
  | .numbers a b next =>
    match compareNumeric a b with
    | .error e => throw e
    | .ok .eq => pure (.inr next)
    | .ok o => pure (.inl o)
  | .texts a b next => do
    match ← c.collate a b with
    | .eq => return .inr next
    | o => return .inl o

/-- A round of the comparison. -/
def turn (c : Collator (ExceptT Error (StateM σ))) (p : Progress) :
    ExceptT Error (StateM σ) (Ordering ⊕ Progress) :=
  if p.finished then pure (.inl .eq)
  else match p.round with
    | .error e => throw e
    | .ok r => outcome c r

theorem turn_of_finished (h : p.finished = true) : p.turn c = pure (.inl .eq) := by
  rw [turn, if_pos h]

theorem turn_of_round (hf : ¬ p.finished = true) (hr : p.round = .ok r) : p.turn c = outcome c r := by
  rw [turn, if_neg hf, hr]

theorem finish_eq_outcome (c : Collator (ExceptT Error (StateM σ))) (r : Round) :
    finish c r = outcome c r >>= Sum.elim pure (·.compare c) := by
  cases r with
  | exhausted => rfl
  | remainders x y => simp only [finish, outcome, bind_assoc, pure_bind, Sum.elim_inl, bind_pure]
  | numbers x y next =>
    simp only [finish, outcome]
    rcases compareNumeric x y with e | o
    · rfl
    · cases o <;> rfl
  | texts x y next =>
    simp only [finish, outcome, bind_assoc]
    refine bind_congr fun o => ?_
    cases o <;> rfl

theorem compare_eq_turn (c : Collator (ExceptT Error (StateM σ))) (p : Progress) :
    p.compare c = p.turn c >>= Sum.elim pure (·.compare c) := by
  by_cases hf : p.finished = true
  · rw [compare_of_finished hf, turn_of_finished hf]
    rfl
  cases hr : p.round with
  | ok r => rw [compare_of_round hf hr, turn_of_round hf hr, finish_eq_outcome]
  | error e =>
    rw [compare, if_neg hf, turn, if_neg hf]
    split <;> rename_i h <;> rw [hr] at h <;> cases h
    rw [hr]
    rfl

theorem run_turn_upTo (hc : c.AlwaysAnswers) (h : Alike a b n) (s : σ) :
    (∃ o s', ((upTo a b n).turn c).run.run s = (.ok (.inl o), s')) ∨
      ∃ k s', n < k ∧ Alike a b k ∧ ((upTo a b n).turn c).run.run s = (.ok (.inr (upTo a b k)), s') := by
  by_cases hf : (upTo a b n).finished = true
  · rw [turn_of_finished hf]
    exact .inl ⟨.eq, s, rfl⟩
  rcases round_cases h hf with ⟨-, hr⟩ | ⟨hx, hy, hr⟩ | ⟨hx, hy, hr⟩ <;> rw [turn_of_round hf hr, outcome]
  · obtain ⟨o, s', ho⟩ := hc.collate (a.drop n) (b.drop n) s
    rw [run_bind_of_ok ho]
    exact .inl ⟨o, s', rfl⟩
  · rw [compareNumeric_tokenAt hx hy]
    cases ho : numeralOrder (tokenAt a n).value (tokenAt b n).value with
    | eq =>
      obtain ⟨k, hnk, hk, hq⟩ := h.past (by rw [hx]; decide) (hx.trans hy.symm) (numeralOrder_eq_eq.1 ho)
      rw [hq]
      exact .inr ⟨k, s, hnk, hk, rfl⟩
    | lt => exact .inl ⟨.lt, s, rfl⟩
    | gt => exact .inl ⟨.gt, s, rfl⟩
  · obtain ⟨o, s', ho⟩ := hc.collate (tokenAt a n).value (tokenAt b n).value s
    rw [run_bind_of_ok ho]
    cases o with
    | eq =>
      obtain ⟨k, hnk, hk, hq⟩ := h.past (by rw [hx]; decide) (hx.trans hy.symm)
        (Collator.eq_of_run_collate ho)
      rw [hq]
      exact .inr ⟨k, s', hnk, hk, rfl⟩
    | lt => exact .inl ⟨.lt, s', rfl⟩
    | gt => exact .inl ⟨.gt, s', rfl⟩

/-- A round after which the comparison goes on, with the states of the collator before and after it. -/
def Continues (c : Collator (ExceptT Error (StateM σ))) (now next : Progress × σ) : Prop :=
  (now.1.turn c).run.run now.2 = (.ok (.inr next.1), next.2)

variable {now next : Progress × σ}

theorem Continues.alike (hc : c.AlwaysAnswers) (h : Alike a b n)
    (hn : Continues c (upTo a b n, s) next) :
    ∃ k, n < k ∧ Alike a b k ∧ next.1 = upTo a b k := by
  unfold Continues at hn
  rcases run_turn_upTo hc h s with ⟨o, s', ho⟩ | ⟨k, s', hnk, hk, ho⟩ <;> rw [ho] at hn
  · cases congrArg Prod.fst hn
  · exact ⟨k, hnk, hk, (Sum.inr.inj (Except.ok.inj (congrArg Prod.fst hn))).symm⟩

theorem Continues.run_compare (h : Continues c now next) :
    (now.1.compare c).run.run now.2 = (next.1.compare c).run.run next.2 := by
  unfold Continues at h
  rw [compare_eq_turn, run_bind_of_ok h]
  rfl

theorem run_compare_of_decided {o : Ordering} (h : (p.turn c).run.run s = (.ok (.inl o), s')) :
    (p.compare c).run.run s = (.ok o, s') := by
  rw [compare_eq_turn, run_bind_of_ok h]
  rfl

theorem alike_of_reaches (hc : c.AlwaysAnswers) (h : Alike a b n)
    (hs : ReflTransGen (Continues c) (upTo a b n, s) next) :
    (∃ k, Alike a b k ∧ next.1 = upTo a b k) ∧
      (next.1.compare c).run.run next.2 = ((upTo a b n).compare c).run.run s := by
  induction hs with
  | refl => exact ⟨⟨n, h, rfl⟩, rfl⟩
  | @tail mid next _ hn ih =>
    -- the texts are alike where the last round starts, so they are where it goes on
    obtain ⟨⟨k, hk, hmid⟩, hrun⟩ := ih
    refine ⟨?_, hn.run_compare.symm.trans hrun⟩
    obtain ⟨p, t⟩ := mid
    obtain rfl : p = upTo a b k := hmid
    obtain ⟨j, -, hj, hnext⟩ := hn.alike hc hk
    exact ⟨j, hj, hnext⟩

theorem exists_decided (hc : c.AlwaysAnswers) {n : Nat} (h : Alike a b n) (s : σ) :
    ∃ last o s', ReflTransGen (Continues c) (upTo a b n, s) last ∧
      (last.1.turn c).run.run last.2 = (.ok (.inl o), s') := by
  rcases run_turn_upTo hc h s with ⟨o, s', ho⟩ | ⟨k, s', hnk, hk, ho⟩
  · exact ⟨_, o, s', .refl, ho⟩
  · -- less of the text is left to read, so there is a last round
    have := hk.le_left
    have hn : Continues c (upTo a b n, s) (upTo a b k, s') := ho
    obtain ⟨last, o, t, hs, hl⟩ := exists_decided hc hk s'
    exact ⟨last, o, t, .head hn hs, hl⟩
termination_by a.length - n

end Progress

theorem literal_tokenAt (h : (tokenAt a n).kind = .numeric) :
    IsNumeral (tokenAt a n).value ∧ ∃ d, Decimal.ofLiteral (tokenAt a n).value = .ok d := by
  obtain ⟨i, hi⟩ := exists_numeral h
  rw [tokenAt_value, hi]
  exact ⟨⟨i, rfl⟩, i.decimal, i.ofLiteral_text⟩

namespace Collator
open Progress

/-- By a collator that always answers, natural order always answers as well, after finitely many rounds.
At the start of each round both positions are the same offset of both texts, with the same characters
before it, so no scan fails there. While one of the texts goes on, a round does not find both at their end,
numbers that it finds are literals, and both positions have grown if another round follows. -/
theorem compareNatural_in_step (c : Collator (ExceptT Error (StateM σ))) (hc : c.AlwaysAnswers)
    (a b : Text) (s : σ) :
    (∃ o s', (c.compareNatural (some a) (some b)).run.run s = (.ok o, s')) ∧
    (∃ last o s', ReflTransGen (Continues c) (⟨a, b, 0, 0⟩, s) last ∧
      (last.1.turn c).run.run last.2 = (.ok (.inl o), s')) ∧
    ∀ p t, ReflTransGen (Continues c) (⟨a, b, 0, 0⟩, s) (p, t) →
      (p.compare c).run.run t = (c.compareNatural (some a) (some b)).run.run s ∧
      (∃ n : Nat, p = ⟨a, b, n, n⟩ ∧ n ≤ a.length ∧ n ≤ b.length ∧ a.take n = b.take n) ∧
      (∃ x y, nextToken p.left p.leftPosition = .ok x ∧ nextToken p.right p.rightPosition = .ok y) ∧
      (p.finished = false → p.round ≠ .ok .exhausted ∧
        ∀ x y q, p.round = .ok (.numbers x y q) → IsNumeral x ∧ IsNumeral y ∧
          ∃ d e, Decimal.ofLiteral x = .ok d ∧ Decimal.ofLiteral y = .ok e) ∧
      ∀ next, Continues c (p, t) next →
        p.leftPosition < next.1.leftPosition ∧ p.rightPosition < next.1.rightPosition := by
  have h0 := alike_zero a b
  obtain ⟨last, o, s', hs, hl⟩ := exists_decided hc h0 s
  have hrun := (alike_of_reaches hc h0 hs).2
  rw [run_compare_of_decided hl] at hrun
  refine ⟨⟨o, s', hrun.symm⟩, ⟨last, o, s', hs, hl⟩, fun p t hp => ?_⟩
  obtain ⟨⟨n, hn, rfl⟩, hrun⟩ := alike_of_reaches hc h0 hp
  refine ⟨hrun, ⟨n, rfl, hn.le_left, hn.le_right, hn.same⟩,
    ⟨_, _, nextToken_eq hn.le_left, nextToken_eq hn.le_right⟩, fun hf => ?_, fun next hnext => ?_⟩
  · rcases round_cases hn (Bool.not_eq_true _ ▸ hf) with ⟨-, hr⟩ | ⟨hx, hy, hr⟩ | ⟨-, -, hr⟩
    · rw [hr]
      exact ⟨nofun, nofun⟩
    · rw [hr]
      refine ⟨nofun, ?_⟩
      rintro x y q ⟨⟩
      obtain ⟨hi, d, hd⟩ := literal_tokenAt hx
      obtain ⟨hj, e, he⟩ := literal_tokenAt hy
      exact ⟨hi, hj, d, e, hd, he⟩
    · rw [hr]
      exact ⟨nofun, nofun⟩
  · obtain ⟨k, hnk, -, hk⟩ := hnext.alike hc hn
    rw [hk]
    exact ⟨Int.ofNat_lt.2 hnk, Int.ofNat_lt.2 hnk⟩

/-- A collator whose first answer is that two texts are equal, and all others that they are not. -/
def fickle : Collator (ExceptT Error (StateM Nat)) where
  shown := "fickle"
  compare _ _ := do
    let asked ← get
    set (asked + 1)
    return if asked = 0 then .eq else .gt

/-- The texts are the same, but the second answer is that they are not. -/
theorem compareNatural_in_step_fickle :
    fickle.AlwaysAnswers ∧
      (fickle.compareNatural (some "ve1 x".toList) (some "ve1 x".toList)).run.run 0 = (.ok .gt, 2) ∧
      ReflTransGen (Continues fickle) (⟨"ve1 x".toList, "ve1 x".toList, 0, 0⟩, 0)
        (⟨"ve1 x".toList, "ve1 x".toList, 3, 3⟩, 1) ∧
      (∃ o s, (fickle.compareNatural (some "ve1 x".toList) (some "ve1 x".toList)).run.run 0 = (.ok o, s)) ∧
      ∃ x y, nextToken "ve1 x".toList 3 = .ok x ∧ nextToken "ve1 x".toList 3 = .ok y := by
  have hc : fickle.AlwaysAnswers := fun x y s => ⟨_, _, rfl⟩
  have hr : (fickle.compareNatural (some "ve1 x".toList) (some "ve1 x".toList)).run.run 0 = (.ok .gt, 2) := by
    show (_ : Except Error Ordering × Nat) = _
    decide +kernel
  have h₁ : Continues fickle (⟨"ve1 x".toList, "ve1 x".toList, 0, 0⟩, 0)
      (⟨"ve1 x".toList, "ve1 x".toList, 2, 2⟩, 1) := by
    show (_ : Except Error (Ordering ⊕ Progress) × Nat) = _
    decide +kernel
  have h₂ : Continues fickle (⟨"ve1 x".toList, "ve1 x".toList, 2, 2⟩, 1)
      (⟨"ve1 x".toList, "ve1 x".toList, 3, 3⟩, 1) := by
    show (_ : Except Error (Ordering ⊕ Progress) × Nat) = _
    decide +kernel
  have hs := (ReflTransGen.single h₁).tail h₂
  obtain ⟨ha, -, h⟩ := compareNatural_in_step fickle hc "ve1 x".toList "ve1 x".toList 0
  obtain ⟨-, -, hn, -⟩ := h _ _ hs
  exact ⟨hc, hr, hs, ha, hn⟩

end Collator

end NaturalOrder
