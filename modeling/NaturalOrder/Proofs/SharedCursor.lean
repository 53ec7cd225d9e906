import NaturalOrder.Proofs.Segmentation

/-!
# Iterators that share a cursor

Whoever takes tokens from a cursor, by advancing it or through an iterator, takes the next ones:
`c.Takes ts d` says that from `c` on these are the tokens `ts`, and that `d` is the cursor after them. Each
step takes its tokens in this way, if it takes any (`Walk.step_takes`), so a run takes all tokens of all its
steps one after another (`Walk.run_takes`), no matter which iterator asks for them. Where the position is in
the text, the tokens that are taken are those of the text and then the empty one again and again
(`Cursor.Takes.isPrefix_tokensFrom`). What one iterator has given of them depends on whether it is started
and finished (`HasGiven`).
-/

namespace NaturalOrder
open Token

/-- The last token and no other is empty. -/
structure Completed (ts : List Token) : Prop where
  inner : ∀ t ∈ ts.dropLast, t.kind ≠ .empty
  last : ∃ t ∈ ts.getLast?, t.kind = .empty

section
variable {s : Text} {n : Nat}

theorem getLast?_tokensFrom (hn : n ≤ s.length) :
    (tokensFrom s n).getLast? = some (tokenAt s s.length) := by
  fun_induction tokensFrom s n with
  | case1 n hlt ih =>
    rw [List.getLast?_cons, ih (tokenAt_stop_le hn)]
    rfl
  | case2 n hlt =>
    obtain rfl : n = s.length := by omega
    rfl

theorem completed_tokensFrom (hn : n ≤ s.length) : Completed (tokensFrom s n) where
  inner t ht := ((segmentation_tokensFrom hn).inner t ht).1
  last := ⟨_, getLast?_tokensFrom hn, (tokenAt_kind_eq_empty (Nat.le_refl _)).2 rfl⟩

end

namespace Cursor

/-- Some tokens are taken one after another, from one cursor to another. -/
def Takes (c : Cursor) : List Token → Cursor → Prop
  | [], d => d = c
  | t :: ts, d => ∃ e, c.advance = (.ok t, e) ∧ e.Takes ts d

/-- The position is in the text. -/
def InText (c : Cursor) : Prop := ∃ n : Nat, n ≤ c.value.length ∧ c.position = n

section
variable {c d e : Cursor} {s : Text} {n : Nat} {o : Option Token} {t : Token} {ts us : List Token}

theorem InText.advance (h : c.InText) : ∃ t d, c.advance = (.ok t, d) ∧ d.InText := by
  obtain ⟨s, p, o⟩ := c
  obtain ⟨n, hn, rfl⟩ := h
  exact ⟨_, _, advance_eq o hn, _, tokenAt_stop_le hn, rfl⟩

theorem advance_eq_ok_iff :
    c.advance = (.ok t, d) ↔ c.lookahead = .ok t ∧ d = ⟨c.value, t.stop, some t⟩ := by
  unfold Cursor.advance
  cases c.lookahead with
  | error e => simp
  | ok u =>
    simp only [Prod.mk.injEq, Except.ok.injEq]
    constructor
    · rintro ⟨rfl, rfl⟩
      exact ⟨rfl, rfl⟩
    · rintro ⟨rfl, rfl⟩
      exact ⟨rfl, rfl⟩

namespace Takes

theorem single (h : c.advance = (.ok t, d)) : c.Takes [t] d := ⟨d, h, rfl⟩

theorem append (h : c.Takes ts d) (h' : d.Takes us e) : c.Takes (ts ++ us) e := by
  induction ts generalizing c with
  | nil =>
    obtain rfl := h
    exact h'
  | cons t ts ih =>
    obtain ⟨b, hb, h⟩ := h
    exact ⟨b, hb, ih h⟩

theorem lookahead (h : c.Takes (t :: ts) d) : c.lookahead = .ok t := by
  obtain ⟨e, he, -⟩ := h
  exact (advance_eq_ok_iff.1 he).1

theorem inText (h : c.Takes ts d) (hc : c.InText) : d.InText := by
  induction ts generalizing c with
  | nil =>
    obtain rfl := h
    exact hc
  | cons t ts ih =>
    obtain ⟨e, he, h⟩ := h
    obtain ⟨u, b, hb, hin⟩ := hc.advance
    cases he.symm.trans hb
    exact ih h hin

/-- Of what was taken, a cursor knows the last token only. -/
theorem cursor_eq (h : c.Takes ts d) :
    d = ⟨c.value, ts.getLast?.elim c.position (·.stop), ts.getLast?.or c.token⟩ := by
  induction ts generalizing c with
  | nil => exact h
  | cons t ts ih =>
    obtain ⟨e, he, h⟩ := h
    obtain ⟨-, rfl⟩ := advance_eq_ok_iff.1 he
    rw [ih h, List.getLast?_cons]
    cases ts.getLast? <;> rfl

/-- No token of the text is left out and none is taken twice, except for the empty one at the end. -/
theorem isPrefix_tokensFrom (h : Takes ⟨s, n, o⟩ ts d) (hn : n ≤ s.length) :
    ∃ k, ts <+: tokensFrom s n ++ List.replicate k (tokenAt s s.length) := by
  induction ts generalizing n o with
  | nil => exact ⟨0, List.nil_prefix⟩
  | cons t ts ih =>
    obtain ⟨e, he, h⟩ := h
    rw [advance_eq o hn] at he
    cases he
    obtain ⟨k, hk⟩ := ih h (tokenAt_stop_le hn)
    rcases Nat.lt_or_eq_of_le hn with hlt | rfl
    · rw [tokensFrom_of_lt hlt]
      exact ⟨k, List.cons_prefix_cons.2 ⟨rfl, hk⟩⟩
    · -- at the end it is the same empty token that is taken next
      rw [List.drop_length, scan, Nat.add_zero, tokensFrom_length] at hk
      rw [tokensFrom_length]
      exact ⟨k + 1, List.cons_prefix_cons.2 ⟨rfl, hk⟩⟩

end Takes

theorem takes_drain (h : c.drain = (.ok ts, d)) : c.Takes ts d := by
  fun_induction drain c generalizing ts d with
  | case1 c e d' h' => cases h
  | case2 c t d' h' ht =>
    cases h
    exact .single h'
  | case3 c t d' h' ht rest last hr ih =>
    cases rest with
    | error e => cases h
    | ok us =>
      cases h
      exact ⟨d', h', ih hr⟩

theorem InText.drain (h : c.InText) : ∃ ts d, c.drain = (.ok ts, d) ∧ Completed ts := by
  obtain ⟨s, p, o⟩ := c
  obtain ⟨n, hn, rfl⟩ := h
  exact ⟨_, _, Prod.ext (drain_eq o hn) rfl, completed_tokensFrom hn⟩

/-- All tokens up to the empty one are those that tokenizing gives from the position on. -/
theorem InText.drain_eq_tokenize (h : c.InText) :
    ∃ ts, tokenize c.value c.position = .ok ts ∧ c.drain = (.ok ts,
      ⟨c.value, (tokenAt c.value c.value.length).stop, some (tokenAt c.value c.value.length)⟩) := by
  obtain ⟨s, p, o⟩ := c
  obtain ⟨n, hn, rfl⟩ := h
  have hd : Cursor.drain ⟨s, n, o⟩ = (.ok (tokensFrom s n), (Cursor.drain ⟨s, n, o⟩).2) :=
    Prod.ext (drain_eq o hn) rfl
  have hlast := (takes_drain hd).cursor_eq
  rw [getLast?_tokensFrom hn] at hlast
  exact ⟨_, tokenize_eq hn, hd.trans (Prod.ext rfl hlast)⟩

end
end Cursor

namespace Walk

/-- The steps of a run with their answers, and what is there after it. -/
def run (w : Walk) : List Step → List (Step × Except Error Answer) × Walk
  | [] => ([], w)
  | x :: xs =>
    let (answers, last) := (w.step x).2.run xs
    ((x, (w.step x).1) :: answers, last)

/-- The tokens that a step has taken, by its answer. A lookahead takes none. -/
def taken : Step × Except Error Answer → List Token
  | (.lookahead, _) => []
  | (_, .ok (.token t)) => [t]
  | (_, .ok (.tokens ts)) => ts
  | _ => []

/-- The tokens that a step has taken for an iterator. -/
def givenBy (i : Nat) (x : Step × Except Error Answer) : List Token :=
  match x.1 with
  | .next j => if j = i then taken x else []
  | _ => []

section
variable {w v : Walk} {x : Step} {steps : List Step} {answers : List (Step × Except Error Answer)} {i : Nat}
  {t : Token} {us : List Token} {d : Cursor}

theorem next_of_finished (h : w.finished[i]? ≠ some false) : w.next i = (.ok .nothing, w) := by
  have hf : w.finished.getD i true = true := by
    rw [List.getD_eq_getElem?_getD]
    cases hi : w.finished[i]? with
    | none => rfl
    | some f =>
      cases f with
      | true => rfl
      | false => exact absurd hi h
  rw [next, if_pos hf]

theorem next_of_advance (h : w.finished[i]? = some false) (ha : w.cursor.advance = (.ok t, d)) :
    w.next i = (.ok (.token t), ⟨d, w.finished.set i (t.kind = .empty)⟩) := by
  have hf : w.finished.getD i true = false := by rw [List.getD_eq_getElem?_getD, h]; rfl
  rw [next, hf, ha]
  rfl

/-! ### What a step takes -/

theorem step_advance (hl : w.cursor.lookahead = .ok t) :
    w.step .advance = (.ok (.token t), ⟨⟨w.cursor.value, t.stop, some t⟩, w.finished⟩) := by
  rw [step, Cursor.advance, hl]
  rfl

theorem step_drain (hw : w.cursor.InText) (hl : w.cursor.lookahead = .ok t) :
    ∃ ts, tokenize w.cursor.value w.cursor.position = .ok ts ∧ ts.head? = some t ∧
      w.step .drain = (.ok (.tokens ts), ⟨⟨w.cursor.value, (tokenAt w.cursor.value w.cursor.value.length).stop,
        some (tokenAt w.cursor.value w.cursor.value.length)⟩, w.finished⟩) := by
  obtain ⟨ts, hts, hd⟩ := hw.drain_eq_tokenize
  have hhead : ts.head? = some t := by
    obtain ⟨us, d, hd', hc⟩ := hw.drain
    cases hd.symm.trans hd'
    cases ts with
    | nil =>
      obtain ⟨u, hu, -⟩ := hc.last
      cases hu
    | cons u us => exact congrArg some (Except.ok.inj ((Cursor.takes_drain hd).lookahead.symm.trans hl))
  refine ⟨ts, hts, hhead, ?_⟩
  rw [step, hd]
  rfl

theorem step_takes (hw : w.cursor.InText) (hx : ∀ q, x ≠ .moveTo q) :
    ∃ a, (w.step x).1 = .ok a ∧ w.cursor.Takes (taken (x, .ok a)) (w.step x).2.cursor ∧
      ∀ ts, a = .tokens ts → Completed ts := by
  obtain ⟨t, d, ht, -⟩ := hw.advance
  cases x with
  | advance =>
    rw [step, ht]
    exact ⟨_, rfl, .single ht, nofun⟩
  | lookahead =>
    rw [step, (Cursor.advance_eq_ok_iff.1 ht).1]
    exact ⟨_, rfl, rfl, nofun⟩
  | drain =>
    obtain ⟨ts, e, he, hc⟩ := hw.drain
    rw [step, he]
    refine ⟨_, rfl, Cursor.takes_drain he, ?_⟩
    rintro _ ⟨⟩
    exact hc
  | iterate => exact ⟨_, rfl, rfl, nofun⟩
  | next i =>
    rw [step]
    by_cases hi : w.finished[i]? = some false
    · rw [next_of_advance hi ht]
      exact ⟨_, rfl, .single ht, nofun⟩
    · rw [next_of_finished hi]
      exact ⟨_, rfl, rfl, nofun⟩
  | moveTo q => exact absurd rfl (hx q)

theorem run_takes (hw : w.cursor.InText) (hx : ∀ q, Step.moveTo q ∉ steps)
    (hr : w.run steps = (answers, v)) :
    w.cursor.Takes (answers.flatMap taken) v.cursor ∧
      ∀ x ∈ answers, ∃ a, x.2 = .ok a ∧ ∀ ts, a = .tokens ts → Completed ts := by
  induction steps generalizing w answers with
  | nil =>
    cases hr
    exact ⟨rfl, fun x hx => nomatch hx⟩
  | cons x steps ih =>
    obtain ⟨a, ha, ht, hc⟩ := step_takes hw fun q hq => hx q (hq ▸ List.mem_cons_self)
    rw [run, ha] at hr
    cases hr
    obtain ⟨hs, hok⟩ := ih (ht.inText hw) (fun q hq => hx q (List.mem_cons_of_mem x hq)) rfl
    exact ⟨ht.append hs, List.forall_mem_cons.2 ⟨⟨a, rfl, hc⟩, hok⟩⟩

/-! ### What each iterator gives -/

/-- The tokens that an iterator has given: none before it is started, none that is empty as long as it goes
on, and the empty one as the last when it is finished. -/
def HasGiven : Option Bool → List Token → Prop
  | none, us => us = []
  | some false, us => ∀ u ∈ us, u.kind ≠ .empty
  | some true, us => Completed us

theorem HasGiven.snoc (h : HasGiven (some false) us) (t : Token) :
    HasGiven (some (t.kind = .empty)) (us ++ [t]) := by
  by_cases ht : t.kind = .empty
  · rw [decide_eq_true ht]
    exact ⟨by rwa [List.dropLast_concat], t, by simp, ht⟩
  · rw [decide_eq_false ht]
    intro u hu
    rcases List.mem_append.1 hu with hu | hu
    · exact h u hu
    · rwa [List.mem_singleton.1 hu]

theorem HasGiven.inner {finished : Option Bool} (h : HasGiven finished us) :
    ∀ u ∈ us.dropLast, u.kind ≠ .empty := by
  match finished with
  | none =>
    obtain rfl : us = [] := h
    exact fun u hu => nomatch hu
  | some false => exact fun u hu => h u (List.dropLast_subset us hu)
  | some true => exact Completed.inner h

theorem step_hasGiven (hw : w.cursor.InText) (h : HasGiven w.finished[i]? us) :
    HasGiven (w.step x).2.finished[i]? (us ++ givenBy i (x, (w.step x).1)) := by
  have hnil : us ++ [] = us := List.append_nil us
  cases x with
  | advance => rwa [givenBy, hnil]
  | lookahead => rwa [givenBy, hnil]
  | drain => rwa [givenBy, hnil]
  | moveTo q => rwa [givenBy, hnil]
  | iterate =>
    rw [givenBy, hnil]
    show HasGiven (w.finished ++ [false])[i]? us
    rcases Nat.lt_trichotomy i w.finished.length with hi | rfl | hi
    · rwa [List.getElem?_append_left hi]
    · -- this is the new iterator, which has not been asked before
      rw [List.getElem?_eq_none (Nat.le_refl _)] at h
      obtain rfl : us = [] := h
      rw [List.getElem?_concat_length]
      exact fun u hu => nomatch hu
    · rw [List.getElem?_eq_none (Nat.le_of_lt hi)] at h
      rwa [List.getElem?_eq_none (by simp; omega)]
  | next j =>
    obtain ⟨t, d, ht, -⟩ := hw.advance
    rw [step]
    by_cases hj : w.finished[j]? = some false
    · rw [next_of_advance hj ht]
      show HasGiven (w.finished.set j (t.kind = .empty))[i]? (us ++ if j = i then [t] else [])
      by_cases hji : j = i
      · subst hji
        rw [hj] at h
        rw [if_pos rfl, List.getElem?_set_self (List.getElem?_eq_some_iff.1 hj).1]
        exact h.snoc t
      · rwa [if_neg hji, hnil, List.getElem?_set_ne hji]
    · rw [next_of_finished hj]
      show HasGiven w.finished[i]? (us ++ if j = i then [] else [])
      rwa [ite_self, hnil]

theorem run_hasGiven (hw : w.cursor.InText) (hx : ∀ q, Step.moveTo q ∉ steps)
    (hr : w.run steps = (answers, v)) (h : HasGiven w.finished[i]? us) :
    HasGiven v.finished[i]? (us ++ answers.flatMap (givenBy i)) := by
  induction steps generalizing w answers us with
  | nil =>
    cases hr
    rwa [List.flatMap_nil, List.append_nil]
  | cons x steps ih =>
    obtain ⟨a, -, ht, -⟩ := step_takes hw fun q hq => hx q (hq ▸ List.mem_cons_self)
    rw [run] at hr
    cases hr
    rw [List.flatMap_cons, ← List.append_assoc]
    exact ih (ht.inText hw) (fun q hq => hx q (List.mem_cons_of_mem x hq)) rfl (step_hasGiven hw h)

end

/-- Any run of a cursor from a position in the text and of iterators over it. No step fails. The tokens that
are taken are those that tokenizing gives and then the last of them, which is empty, again and again. The
cursor is at the end of the token that was taken last. At the end of the run, and so at each moment of it,
looking ahead changes nothing and shows the token that is taken next: advancing takes this one, an iterator
that goes on takes it too, and a new iterator that takes all tokens at once starts with it and goes on to the
empty one. Each iterator gives the empty token once at most and as its last. After that it has nothing to give
and does not move the cursor. -/
theorem run_from_start (s : Text) (p : Int) (hp : 0 ≤ p ∧ p ≤ s.length) :
    ∃ c ts e, Cursor.start s p = .ok c ∧ tokenize s p = .ok ts ∧ e ∈ ts.getLast? ∧ e.kind = .empty ∧
      ∀ steps answers w, (∀ q, Step.moveTo q ∉ steps) → Walk.run ⟨c, []⟩ steps = (answers, w) →
        (∀ x ∈ answers, ∃ a, x.2 = .ok a ∧ ∀ us, a = .tokens us → Completed us) ∧
        (∃ k, answers.flatMap taken <+: ts ++ List.replicate k e) ∧
        w.cursor = ⟨s, (answers.flatMap taken).getLast?.elim p (·.stop), (answers.flatMap taken).getLast?⟩ ∧
        ∃ t, w.step .lookahead = (.ok (.token t), w) ∧
          w.step .advance = (.ok (.token t), ⟨⟨s, t.stop, some t⟩, w.finished⟩) ∧
          (∃ us, tokenize s w.cursor.position = .ok us ∧ us.head? = some t ∧
            w.step .drain = (.ok (.tokens us), ⟨⟨s, e.stop, some e⟩, w.finished⟩)) ∧
          w.step .iterate =
            (.ok (.iterators (w.finished.length + 1)), ⟨w.cursor, w.finished ++ [false]⟩) ∧
          (∀ more, (∀ q, Step.moveTo q ∉ more) → ∀ u ∈ ((w.run more).1.flatMap taken).head?, u = t) ∧
          ∀ i < w.finished.length, (∀ u ∈ (answers.flatMap (givenBy i)).dropLast, u.kind ≠ .empty) ∧
            if ∃ u ∈ answers.flatMap (givenBy i), u.kind = .empty then w.step (.next i) = (.ok .nothing, w)
            else w.step (.next i) =
              (.ok (.token t), ⟨⟨s, t.stop, some t⟩, w.finished.set i (t.kind = .empty)⟩) := by
  obtain ⟨n, rfl⟩ := Int.eq_ofNat_of_zero_le hp.1
  have hn : n ≤ s.length := Int.ofNat_le.1 hp.2
  have hin : Cursor.InText ⟨s, n, none⟩ := ⟨n, hn, rfl⟩
  refine ⟨⟨s, n, none⟩, _, _, if_pos hp, tokenize_eq hn, getLast?_tokensFrom hn,
    (tokenAt_kind_eq_empty (Nat.le_refl _)).2 rfl, fun steps answers w hx hr => ?_⟩
  obtain ⟨ht, hok⟩ := run_takes hin hx hr
  have hw := ht.inText hin
  have hvalue : w.cursor.value = s := congrArg Cursor.value ht.cursor_eq
  obtain ⟨t, d, ha, -⟩ := hw.advance
  obtain ⟨hl, rfl⟩ := Cursor.advance_eq_ok_iff.1 ha
  rw [hvalue] at ha
  refine ⟨hok, ht.isPrefix_tokensFrom hn, ?_, t, ?_, ?_, ?_, rfl, fun more hm u hu => ?_, fun i hi => ?_⟩
  · rw [ht.cursor_eq, Option.or_none]
  · rw [step, hl]
    rfl
  · rw [step_advance hl, hvalue]
  · have hdrain := step_drain hw hl
    rwa [hvalue] at hdrain
  · obtain ⟨us, hus⟩ := List.head?_eq_some_iff.1 hu
    have hmore := (run_takes hw hm rfl).1
    rw [hus] at hmore
    exact Except.ok.inj (hmore.lookahead.symm.trans hl)
  · have hg : HasGiven w.finished[i]? ([] ++ answers.flatMap (givenBy i)) := run_hasGiven hin hx hr rfl
    rw [List.nil_append] at hg
    refine ⟨hg.inner, ?_⟩
    split
    · next hu =>
      refine next_of_finished fun hf => ?_
      rw [hf] at hg
      obtain ⟨u, hu, hk⟩ := hu
      exact hg u hu hk
    · next hu =>
      have hf : w.finished[i]? = some false := by
        rw [List.getElem?_eq_getElem hi] at hg ⊢
        cases hfi : w.finished[i] with
        | false => rfl
        | true =>
          rw [hfi] at hg
          obtain ⟨u, hu', hk⟩ := hg.last
          exact absurd ⟨u, List.mem_of_getLast? hu', hk⟩ hu
      rw [step, next_of_advance hf ha]

/-- Two iterators, of which the second is started after the first has been asked, and is asked once more than
there are tokens for it. -/
def interleaved : List Step :=
  [.iterate, .next 0, .iterate, .lookahead, .next 1, .advance, .drain, .next 1, .next 1]

/-- The first iterator has still to give the empty token. -/
theorem run_from_start_interleaved :
    (0 ≤ (1 : Int) ∧ (1 : Int) ≤ "va1.5-b".toList.length) ∧ (∀ q, Step.moveTo q ∉ interleaved) ∧
      ∃ answers w, Walk.run ⟨⟨"va1.5-b".toList, 1, none⟩, []⟩ interleaved = (answers, w) ∧
        answers.flatMap taken = [⟨.text, "va1.5-b".toList, 1, 2⟩, ⟨.numeric, "va1.5-b".toList, 2, 5⟩,
          ⟨.text, "va1.5-b".toList, 5, 7⟩, ⟨.empty, "va1.5-b".toList, 7, 7⟩,
          ⟨.empty, "va1.5-b".toList, 7, 7⟩] ∧
        w.step (.next 1) = (.ok .nothing, w) ∧
        ∃ t, w.step .advance = (.ok (.token t), ⟨⟨"va1.5-b".toList, t.stop, some t⟩, w.finished⟩) ∧
          (w.step (.next 0)).1 = .ok (.token t) := by
  have hp : 0 ≤ (1 : Int) ∧ (1 : Int) ≤ "va1.5-b".toList.length := by decide
  have hx : ∀ q, Step.moveTo q ∉ interleaved := fun q => by simp [interleaved]
  have hs : Cursor.start "va1.5-b".toList 1 = .ok ⟨"va1.5-b".toList, 1, none⟩ := by decide
  obtain ⟨c, ts, e, hc, -, -, -, h⟩ := run_from_start "va1.5-b".toList 1 hp
  cases hs.symm.trans hc
  refine ⟨hp, hx, _, _, rfl, by decide +kernel, ?_⟩
  obtain ⟨-, -, -, t, -, hadvance, -, -, -, hi⟩ := h interleaved _ _ hx rfl
  obtain ⟨-, h0⟩ := hi 0 (by decide +kernel)
  obtain ⟨-, h1⟩ := hi 1 (by decide +kernel)
  rw [if_neg (by decide +kernel)] at h0
  rw [if_pos (by decide +kernel)] at h1
  exact ⟨h1, t, hadvance, congrArg Prod.fst h0⟩

end Walk

end NaturalOrder
