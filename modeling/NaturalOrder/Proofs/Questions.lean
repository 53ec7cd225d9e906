import NaturalOrder.Collator.Basic
import NaturalOrder.Proofs.Runs

/-!
# What a collator is asked

The comparison of two texts asks the collator about every text that both have in common up to their first
difference, and there about one pair of different texts or, if both have numbers there, about none
(`run_compareNatural_tracing`). That pair is the `question?` of the two texts, which no collator has a part
in. So its answer to this question is all that a comparison takes from a collator
(`compareNatural_one_question`).
-/

namespace NaturalOrder
open Token

/-- The pair of different texts that a collator is asked about where the tokens of two texts differ. -/
def questionAt? (x y : Token) : Option (Text × Text) :=
  if x.kind ≠ y.kind then some (x.remainder, y.remainder)
  else if x.kind = .numeric then none
  else some (x.value, y.value)

/-- The pair of different texts that a collator is asked about to compare two texts. -/
def question? : Option Text → Option Text → Option (Text × Text)
  | some a, some b =>
    (firstDifference (tokensFrom a 0) (tokensFrom b 0)).bind fun xy => questionAt? xy.1 xy.2
  | _, _ => none

/-- The texts that a collator is asked about before, each together with itself. -/
def repetitions : Option Text → Option Text → List (Text × Text)
  | some a, some b => (commonTexts (tokensFrom a 0) (tokensFrom b 0)).map fun s => (s, s)
  | _, _ => []

/-- The first tokens that differ in two texts are numbers. -/
def PartAtNumbers (a b : Text) : Prop :=
  ∃ xs ys i x y, tokenize a 0 = .ok xs ∧ tokenize b 0 = .ok ys ∧ DifferFirstAt xs ys i ∧
    xs[i]? = some x ∧ ys[i]? = some y ∧ (x.kind = .numeric ∧ y.kind = .numeric)

section
variable {a b : Option Text} {s t : Text} {x y : Token}

theorem questionAt?_eq_none : questionAt? x y = none ↔ x.kind = .numeric ∧ y.kind = .numeric := by
  unfold questionAt?
  split
  · next hk =>
    simp only [reduceCtorEq, false_iff, not_and]
    exact fun hx hy => hk (hx.trans hy.symm)
  · next hk =>
    rw [← not_not.1 hk]
    split <;> simp_all

theorem partAtNumbers_iff : PartAtNumbers s t ↔
    ∃ xy ∈ firstDifference (tokensFrom s 0) (tokensFrom t 0),
      xy.1.kind = .numeric ∧ xy.2.kind = .numeric :=
  exists_differFirstAt_iff

theorem eq_of_mem_repetitions {xy : Text × Text} (h : xy ∈ repetitions a b) : xy.1 = xy.2 := by
  unfold repetitions at h
  split at h
  · obtain ⟨u, -, rfl⟩ := List.mem_map.1 h
    rfl
  · exact absurd h List.not_mem_nil

/-- A question is about different texts. -/
theorem ne_of_question? {x y : Text} (h : question? a b = some (x, y)) : x ≠ y := by
  unfold question? at h
  split at h
  · next s t =>
    rcases fork_or_eq_zero s t with ⟨-, hd⟩ | ⟨p, hp, hd⟩
    · rw [hd] at h
      cases h
    · rw [hd, Option.bind_some, questionAt?] at h
      split at h
      · cases h
        rw [tokenAt_remainder, tokenAt_remainder]
        exact hp.drop_ne
      · next hk =>
        split at h
        · cases h
        · cases h
          exact hp.value_ne (not_not.1 hk)
  · cases h

/-- There is no question just where the texts are the same, one is missing, or numbers decide. -/
theorem question?_eq_none : question? a b = none ↔
    a = b ∨ a = none ∨ b = none ∨ ∃ s t, a = some s ∧ b = some t ∧ PartAtNumbers s t := by
  cases a with
  | none => simp [question?]
  | some s =>
    cases b with
    | none => simp [question?]
    | some t =>
      simp only [Option.some.injEq, reduceCtorEq, false_or, exists_and_left, exists_eq_left', partAtNumbers_iff]
      rcases fork_or_eq_zero s t with ⟨rfl, hd⟩ | ⟨p, hp, hd⟩
      · simp [question?, hd]
      · have hne : s ≠ t := by
          rintro rfl
          exact hp.ne rfl
        rw [question?, hd, Option.bind_some, questionAt?_eq_none]
        simp [hne]

end

namespace Collator

section
variable {m : Type → Type} [Monad m] {c : Collator m}

/-- The order of two texts about which there is no question. -/
def unaskedOrder : Option Text → Option Text → Ordering
  | none, none => .eq
  | none, some _ => .gt
  | some _, none => .lt
  | some a, some b =>
    match firstDifference (tokensFrom a 0) (tokensFrom b 0) with
    | none => .eq
    | some (x, y) => numeralOrder x.value y.value

/-- A collator orders the pair it is asked about. If it is asked about none, it has no part in the order. -/
def answer (c : Collator m) (o : Ordering) : Option (Text × Text) → m Ordering
  | some (x, y) => c.collate x y
  | none => pure o

theorem orderTokens_eq_answer (x y : Token) :
    c.orderTokens x y = c.answer (numeralOrder x.value y.value) (questionAt? x y) := by
  unfold orderTokens questionAt?
  split
  · rfl
  · split <;> rfl

theorem settle_eq_answer (a b : Text) :
    c.settle (firstDifference (tokensFrom a 0) (tokensFrom b 0)) =
      c.answer (unaskedOrder (some a) (some b)) (question? (some a) (some b)) := by
  simp only [unaskedOrder, question?]
  cases firstDifference (tokensFrom a 0) (tokensFrom b 0) with
  | none => rfl
  | some xy => exact orderTokens_eq_answer xy.1 xy.2

variable [LawfulMonad m] [MonadExceptOf Error m]

/-- Two texts are ordered by the collator's answer to the one question. All that the collator is asked about
before is the same text twice. -/
theorem compareNatural_eq_forM_answer {note : Text → m Unit}
    (hc : ∀ s, c.compare s s = note s >>= fun _ => pure .eq) (a b : Option Text) :
    c.compareNatural a b = forM (repetitions a b) (fun xy => note xy.1) >>= fun _ =>
      c.answer (unaskedOrder a b) (question? a b) := by
  cases a with
  | none =>
    rw [show repetitions none b = [] from rfl, List.forM_nil, pure_bind]
    cases b <;> rfl
  | some a =>
    cases b with
    | none =>
      rw [show repetitions (some a) none = [] from rfl, List.forM_nil, pure_bind]
      rfl
    | some b =>
      have hr : forM (repetitions (some a) (some b)) (fun xy => note xy.1) =
          forM (commonTexts (tokensFrom a 0) (tokensFrom b 0)) note :=
        List.forM_map
      rw [hr, ← settle_eq_answer]
      exact Progress.compare_eq_forM_settle hc (Nat.zero_le _) (Nat.zero_le _)

theorem compareNatural_eq_answer (hc : ∀ s, c.compare s s = pure .eq) (a b : Option Text) :
    c.compareNatural a b = c.answer (unaskedOrder a b) (question? a b) := by
  have hn : ∀ s, c.compare s s = (pure () : m Unit) >>= fun _ => pure .eq := fun s => by
    rw [hc, pure_bind]
  rw [compareNatural_eq_forM_answer hn, forM_pure, pure_bind]

end

/-! ### Runs that record what is asked -/

/-- Records a text that is asked about together with itself. -/
def noteTwice (s : Text) : Recording Unit := modify (· ++ [(s, s)])

section
variable {c : Collator (Except Error)}

theorem tracing_compare_self (hc : ∀ s, c.compare s s = .ok .eq) (s : Text) :
    c.tracing.compare s s = noteTwice s >>= fun _ => pure .eq := by
  refine ExceptT.ext (StateT.ext fun log => ?_)
  show (c.compare s s, log ++ [(s, s)]) = _
  rw [hc]
  rfl

theorem run_tracing_answer (o : Ordering) (q : Option (Text × Text)) (log : List (Text × Text)) :
    (c.tracing.answer o q).run.run log = (c.answer o q, log ++ q.toList) := by
  cases q with
  | none => exact congrArg (Prod.mk _) (List.append_nil log).symm
  | some xy =>
    show (do let o ← c.tracing.compare xy.1 xy.2; return o.then (Ord.compare xy.1 xy.2)).run.run log =
      ((do let o ← c.compare xy.1 xy.2; return o.then (Ord.compare xy.1 xy.2) : Except Error Ordering), _)
    have hrun : (c.tracing.compare xy.1 xy.2).run.run log = (c.compare xy.1 xy.2, log ++ [xy]) := rfl
    cases h : c.compare xy.1 xy.2 with
    | ok o => exact run_bind_of_ok (h ▸ hrun) _
    | error e => exact run_bind_of_error (h ▸ hrun) _

theorem run_forM_noteTwice {l : List (Text × Text)} (hl : ∀ xy ∈ l, xy.1 = xy.2) (log : List (Text × Text)) :
    (forM l fun xy => noteTwice xy.1).run.run log = (.ok (), log ++ l) := by
  induction l generalizing log with
  | nil => exact congrArg (Prod.mk _) (List.append_nil log).symm
  | cons xy l ih =>
    obtain ⟨hxy, hl⟩ := List.forall_mem_cons.1 hl
    have hs : (noteTwice xy.1).run.run log = (.ok (), log ++ [xy]) :=
      congrArg (fun y => (_, log ++ [(xy.1, y)])) hxy
    rw [List.forM_cons, run_bind_of_ok hs, ih hl, List.append_assoc]
    rfl

/-- A comparison asks about the same texts twice, and then the one question. -/
theorem run_compareNatural_tracing (hc : ∀ s, c.compare s s = .ok .eq) (a b : Option Text) :
    (c.tracing.compareNatural a b).run.run [] =
      (c.compareNatural a b, repetitions a b ++ (question? a b).toList) := by
  rw [compareNatural_eq_forM_answer (tracing_compare_self hc), compareNatural_eq_answer hc,
    run_bind_of_ok (run_forM_noteTwice (fun _ => eq_of_mem_repetitions) [])]
  exact run_tracing_answer _ _ _

theorem answer_some (o : Ordering) (x y : Text) :
    c.answer o (some (x, y)) = match c.compare x y with
      | .error e => .error e
      | .ok .eq => .ok (Ord.compare x y)
      | .ok o => .ok o := by
  simp only [answer, collate]
  cases h : c.compare x y with
  | error e => rfl
  | ok o => cases o <;> rfl

end

/-- What a comparison asks of a collator, in order: texts that both have in common, each together with
itself, and at last one pair of different texts, or none. Which these are does not depend on the collator.
There is no such pair just for the same text, where a text is missing, and where the texts part at numbers.
Otherwise the collator's answer to it, also a failure, is the answer of the comparison, and what the collator
finds equal is ordered by code points. So collators that agree on the one pair agree on both texts. -/
theorem compareNatural_one_question (a b : Option Text) :
    ∃ (same : List (Text × Text)) (asked? : Option (Text × Text)),
      (∀ xy ∈ same, xy.1 = xy.2) ∧
      (∀ xy ∈ asked?, xy.1 ≠ xy.2) ∧
      (asked? = none ↔
        a = b ∨ a = none ∨ b = none ∨ ∃ s t, a = some s ∧ b = some t ∧ PartAtNumbers s t) ∧
      ∀ c : Collator (Except Error), (∀ s, c.compare s s = .ok .eq) →
        (c.tracing.compareNatural a b).run.run [] = (c.compareNatural a b, same ++ asked?.toList) ∧
        (∀ x y, asked? = some (x, y) →
          c.compareNatural a b = match c.compare x y with
            | .error e => .error e
            | .ok .eq => .ok (Ord.compare x y)
            | .ok o => .ok o) ∧
        ∀ d : Collator (Except Error), (∀ s, d.compare s s = .ok .eq) →
          (∀ x y, asked? = some (x, y) → c.compare x y = d.compare x y) →
          c.compareNatural a b = d.compareNatural a b := by
  refine ⟨repetitions a b, question? a b, fun _ => eq_of_mem_repetitions, fun _ => ne_of_question?,
    question?_eq_none, fun c hc => ⟨run_compareNatural_tracing hc a b, fun x y h => ?_, fun d hd h => ?_⟩⟩
  · rw [compareNatural_eq_answer hc, h, answer_some]
  · rw [compareNatural_eq_answer hc, compareNatural_eq_answer hd]
    cases hq : question? a b with
    | none => rfl
    | some xy => rw [answer_some, answer_some, h xy.1 xy.2 hq]

/-- At a number and a text all that is left is asked about. Collators that find both equal there agree,
whatever they answer otherwise. -/
theorem compareNatural_one_question_versions :
    (∀ s, (ofOrder "length" (compareOn List.length) : Collator (Except Error)).compare s s = .ok .eq) ∧
      (∀ s, (ofOrder "blind" fun _ _ => .eq : Collator (Except Error)).compare s s = .ok .eq) ∧
      ((ofOrder "length" (compareOn List.length)).tracing.compareNatural (some "ve1 x".toList)
        (some "ve1-2".toList)).run.run [] =
          (.ok .lt, [("ve".toList, "ve".toList), (" x".toList, "-2".toList)]) ∧
      (ofOrder "length" (compareOn List.length) : Collator (Except Error)).compareNatural
          (some "ve1 x".toList) (some "ve1-2".toList) =
        (ofOrder "blind" fun _ _ => .eq).compareNatural (some "ve1 x".toList) (some "ve1-2".toList) := by
  have hc : ∀ s, (ofOrder "length" (compareOn List.length) : Collator (Except Error)).compare s s =
      .ok .eq := fun s => congrArg Except.ok Std.ReflCmp.compare_self
  have hd : ∀ s, (ofOrder "blind" fun _ _ => .eq : Collator (Except Error)).compare s s = .ok .eq :=
    fun _ => rfl
  have ht : ((ofOrder "length" (compareOn List.length)).tracing.compareNatural (some "ve1 x".toList)
      (some "ve1-2".toList)).run.run [] =
        (.ok .lt, [("ve".toList, "ve".toList), (" x".toList, "-2".toList)]) := by
    show (_ : Except Error Ordering × List (Text × Text)) = _
    decide +kernel
  obtain ⟨same, asked?, hs, ha, -, h⟩ := compareNatural_one_question (some "ve1 x".toList)
    (some "ve1-2".toList)
  obtain ⟨hr, -, hcd⟩ := h _ hc
  refine ⟨hc, hd, ht, hcd _ hd fun x y hxy => ?_⟩
  have hl : same ++ [(x, y)] = [("ve".toList, "ve".toList)] ++ [(" x".toList, "-2".toList)] := by
    rw [ht, hxy] at hr
    exact (congrArg Prod.snd hr).symm
  cases (List.append_inj' hl rfl).2
  decide

end Collator

end NaturalOrder
