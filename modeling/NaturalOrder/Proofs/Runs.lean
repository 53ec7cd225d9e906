import NaturalOrder.Proofs.Antisymmetry

/-!
# Collators with a state

A collator may fail and may change a state. Here is how its runs are put together, also for programs that
leave the state as it is and do what they would do without one (`RunsAs`), and natural order by a collator
that answers as an order does and keeps the state (`Collator.AnswersIn`). That is `naturalOrder` by this
order, in the same state.
-/

namespace NaturalOrder

section
variable {ε σ α β : Type} {x : ExceptT ε (StateM σ) α} {r : α} {e : ε} {s t u : σ}

theorem run_bind_of_ok (hx : x.run.run s = (.ok r, t)) (f : α → ExceptT ε (StateM σ) β) :
    (x >>= f).run.run s = (f r).run.run t := by
  rw [ExceptT.run_bind, StateT.run_bind, hx]
  rfl

theorem run_bind_of_error (hx : x.run.run s = (.error e, t)) (f : α → ExceptT ε (StateM σ) β) :
    (x >>= f).run.run s = (.error e, t) := by
  rw [ExceptT.run_bind, StateT.run_bind, hx]
  rfl

/-- What is done in the end changes the state, but not the outcome. -/
theorem run_tryFinally {o : Except ε α} {y : ExceptT ε (StateM σ) Unit} (hx : x.run.run s = (o, t))
    (hy : y.run.run t = (.ok (), u)) : (tryFinally x y).run.run s = (o, u) := by
  have hx : x s = (o, t) := hx
  have hy : y t = (.ok (), u) := hy
  show ((fun x => x.1) <$> tryFinally' x fun _ => y : ExceptT ε (StateM σ) α) s = _
  cases o <;>
    simp only [tryFinally', Functor.map, ExceptT.map, ExceptT.mk, StateT.bind, bind, pure, hx, hy] <;> rfl

theorem run_tryCatch_of_ok (hx : x.run.run s = (.ok r, t)) (f : ε → ExceptT ε (StateM σ) α) :
    (tryCatch x f).run.run s = (.ok r, t) := by
  have hx : x s = (.ok r, t) := hx
  show ExceptT.tryCatch x f s = _
  simp only [ExceptT.tryCatch, ExceptT.mk, StateT.bind, bind, hx]
  rfl

theorem run_tryCatch_of_error (hx : x.run.run s = (.error e, t)) (f : ε → ExceptT ε (StateM σ) α) :
    (tryCatch x f).run.run s = (f e).run.run t := by
  have hx : x s = (.error e, t) := hx
  show ExceptT.tryCatch x f s = _
  simp only [ExceptT.tryCatch, ExceptT.mk, StateT.bind, bind, hx]
  rfl

theorem run_adapt_of_ok {ε' : Type} (hx : x.run.run s = (.ok r, t)) (f : ε → ε') :
    (x.adapt f).run.run s = (.ok r, t) := by
  have hx : x s = (.ok r, t) := hx
  show (Except.mapError f <$> x : StateM σ (Except ε' α)) s = _
  simp only [Functor.map, StateT.map, bind, pure, hx]
  rfl

theorem run_adapt_of_error {ε' : Type} (hx : x.run.run s = (.error e, t)) (f : ε → ε') :
    (x.adapt f).run.run s = (.error (f e), t) := by
  have hx : x s = (.error e, t) := hx
  show (Except.mapError f <$> x : StateM σ (Except ε' α)) s = _
  simp only [Functor.map, StateT.map, bind, pure, hx]
  rfl

/-- A failure becomes an answer, after which the program goes on. -/
theorem run_lift {o : Except ε α} (hx : x.run.run s = (o, t)) :
    (ExceptT.lift x.run : ExceptT Error (StateM σ) (Except ε α)).run.run s = (.ok o, t) := by
  have hx : x s = (o, t) := hx
  show (Except.ok <$> x : StateM σ (Except Error (Except ε α))) s = _
  simp only [Functor.map, StateT.map, bind, pure, hx]

/-! ### Programs that leave the state as it is -/

/-- In a state a program does what one without a state does, and leaves the state as it is. -/
def RunsAs (x : ExceptT ε (StateM σ) α) (s : σ) (y : ExceptT ε Id α) : Prop :=
  x.run.run s = (y.run.run, s)

theorem eq_pure_or_eq_throw (y : ExceptT ε Id α) : (∃ r, y = pure r) ∨ ∃ e, y = throw e := by
  cases h : y.run.run with
  | ok r => exact .inl ⟨r, h⟩
  | error e => exact .inr ⟨e, h⟩

namespace RunsAs
variable {y : ExceptT ε Id α}

theorem pure (r : α) (s : σ) : RunsAs (pure r : ExceptT ε (StateM σ) α) s (pure r) := rfl

theorem throw (e : ε) (s : σ) : RunsAs (throw e : ExceptT ε (StateM σ) α) s (throw e) := rfl

theorem bind {f : α → ExceptT ε (StateM σ) β} {g : α → ExceptT ε Id β} (hx : RunsAs x s y)
    (hf : ∀ r, RunsAs (f r) s (g r)) : RunsAs (x >>= f) s (y >>= g) := by
  rcases eq_pure_or_eq_throw y with ⟨r, rfl⟩ | ⟨e, rfl⟩
  · exact (run_bind_of_ok hx f).trans (hf r)
  · exact run_bind_of_error hx f

theorem map (hx : RunsAs x s y) (f : α → β) : RunsAs (f <$> x) s (f <$> y) := by
  rw [map_eq_pure_bind, map_eq_pure_bind]
  exact hx.bind fun r => pure (f r) s

theorem tryCatch {f : ε → ExceptT ε (StateM σ) α} {g : ε → ExceptT ε Id α} (hx : RunsAs x s y)
    (hf : ∀ e, RunsAs (f e) s (g e)) : RunsAs (tryCatch x f) s (tryCatch y g) := by
  rcases eq_pure_or_eq_throw y with ⟨r, rfl⟩ | ⟨e, rfl⟩
  · exact run_tryCatch_of_ok hx f
  · exact (run_tryCatch_of_error hx f).trans (hf e)

theorem adapt {ε' : Type} (hx : RunsAs x s y) (f : ε → ε') : RunsAs (x.adapt f) s (y.adapt f) := by
  rcases eq_pure_or_eq_throw y with ⟨r, rfl⟩ | ⟨e, rfl⟩
  · exact run_adapt_of_ok hx f
  · exact run_adapt_of_error hx f

theorem lift (hx : RunsAs x s y) :
    RunsAs (ExceptT.lift x.run : ExceptT Error (StateM σ) (Except ε α)) s (ExceptT.lift y.run) := run_lift hx

end RunsAs

end

namespace Collator
variable {σ : Type}

/-- Whatever the state is, the collator has an answer for any two texts. -/
def AlwaysAnswers (c : Collator (ExceptT Error (StateM σ))) : Prop :=
  ∀ x y s, ∃ o s', (c.compare x y).run.run s = (.ok o, s')

/-- In a state the collator answers as an order does, and the state is the same after it. -/
def AnswersIn (c : Collator (ExceptT Error (StateM σ))) (s : σ) (f : Text → Text → Ordering) : Prop :=
  ∀ x y, (c.compare x y).run.run s = (.ok (f x y), s)

variable {c : Collator (ExceptT Error (StateM σ))} {s t : σ} {f : Text → Text → Ordering} {x y : Text}
  {o : Ordering}

theorem run_collate_of_ok (h : (c.compare x y).run.run s = (.ok o, t)) :
    (c.collate x y).run.run s = (.ok (o.then (Ord.compare x y)), t) := by
  rw [collate, run_bind_of_ok h]
  rfl

/-- Code points tell different texts apart, so only the same text is collated as equal. -/
theorem eq_of_run_collate (h : (c.collate x y).run.run s = (.ok .eq, t)) : x = y := by
  by_contra hne
  rcases hr : (c.compare x y).run.run s with ⟨r, u⟩
  cases r with
  | error e =>
    rw [collate, ExceptT.run_bind, StateT.run_bind, hr] at h
    cases h
  | ok o =>
    rw [run_collate_of_ok hr] at h
    exact then_compare_ne_eq hne o (Except.ok.inj (congrArg Prod.fst h))

theorem AlwaysAnswers.collate (hc : c.AlwaysAnswers) (x y : Text) (s : σ) :
    ∃ o s', (c.collate x y).run.run s = (.ok o, s') := by
  obtain ⟨o, s', h⟩ := hc x y s
  exact ⟨_, s', run_collate_of_ok h⟩

theorem AnswersIn.run_collate (h : c.AnswersIn s f) (x y : Text) :
    (c.collate x y).run.run s = (.ok (collationOrder f x y), s) := run_collate_of_ok (h x y)

theorem AnswersIn.run_orderTokens (h : c.AnswersIn s f) (x y : Token) :
    (c.orderTokens x y).run.run s = (.ok (tokenOrder f x y), s) := by
  unfold orderTokens tokenOrder
  split
  · exact h.run_collate x.remainder y.remainder
  · split
    · rfl
    · exact h.run_collate x.value y.value

theorem AnswersIn.run_compareNatural (h : c.AnswersIn s f) (hc : ∀ x, c.compare x x = pure .eq)
    (a b : Option Text) : (c.compareNatural a b).run.run s = (.ok (naturalOrder f a b), s) := by
  cases a with
  | none => cases b <;> rfl
  | some a =>
    cases b with
    | none => rfl
    | some b =>
      rw [compareNatural_eq_settle hc, naturalOrder, textOrder]
      cases firstDifference (tokensFrom a 0) (tokensFrom b 0) with
      | none => rfl
      | some xy => exact h.run_orderTokens xy.1 xy.2

end Collator

end NaturalOrder
