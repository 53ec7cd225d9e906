import NaturalOrder.Token.Cursor

/-!
# The tokens of a text

`tokensFrom s n` lists the tokens of `s` from the offset `n` on. Within the text the scan never fails,
so this is what tokenizing gives (`tokenize_eq`), and the characters of the tokens are all that is left
of the text (`flatMap_value_tokensFrom`).
-/

namespace NaturalOrder

namespace Token

theorem numberLength_le_length (p : Bool) (s : Text) : numberLength p s ≤ s.length := by
  fun_induction numberLength p s <;> simp_all

theorem textLength_le_length (s : Text) : textLength s ≤ s.length := by
  fun_induction textLength s <;> simp_all

theorem length_le_of_numberStart? {s : Text} {start : NumberStart} (h : numberStart? s = some start) :
    start.length ≤ s.length := by
  match s with
  | [] => simp [numberStart?] at h
  | [c] => grind [numberStart?, startsWithDigit]
  | [c, d] => grind [numberStart?, startsWithDigit]
  | c :: d :: e :: rest => grind [numberStart?]

theorem scan_length_le (s : Text) : (scan s).2 ≤ s.length := by
  unfold scan
  split
  · simp
  · next c rest =>
    split
    · next start h =>
      have h₁ := length_le_of_numberStart? h
      have h₂ := numberLength_le_length start.pointUsed ((c :: rest).drop start.length)
      rw [List.length_drop] at h₂
      show start.length + numberLength start.pointUsed ((c :: rest).drop start.length) ≤ _
      omega
    · exact Nat.succ_le_succ (textLength_le_length rest)

theorem scan_kind_eq_empty {s : Text} : (scan s).1 = .empty ↔ s = [] := by
  cases s with
  | nil => simp [scan]
  | cons c rest => simp only [scan]; split <;> simp

theorem scan_length_pos {s : Text} (h : s ≠ []) : 0 < (scan s).2 := by
  cases s with
  | nil => exact absurd rfl h
  | cons c rest => exact one_le_scan_length

/-- The kind of a token and its characters, wherever it stands. -/
def content (t : Token) : Kind × Text := (t.kind, t.value)

theorem content_eq_iff {x y : Token} : x.content = y.content ↔ x.kind = y.kind ∧ x.value = y.value :=
  Prod.ext_iff

end Token

open Token

/-- The token that starts at an offset of a text. -/
def tokenAt (s : Text) (n : Nat) : Token :=
  ⟨(scan (s.drop n)).1, s, n, n + (scan (s.drop n)).2⟩

/-- The tokens of a text from an offset on, with the empty token at the end. -/
def tokensFrom (s : Text) (n : Nat) : List Token :=
  if n < s.length then tokenAt s n :: tokensFrom s (n + (scan (s.drop n)).2) else [tokenAt s n]
termination_by s.length - n
decreasing_by
  have := scan_length_pos (s := s.drop n) (by simp; omega)
  omega

section
variable {s : Text} {n : Nat}

theorem exists_offset {position : Int} (h : 0 ≤ position ∧ position ≤ s.length) :
    ∃ n : Nat, n ≤ s.length ∧ position = n := by
  obtain ⟨n, rfl⟩ := Int.eq_ofNat_of_zero_le h.1
  exact ⟨n, Int.ofNat_le.1 h.2, rfl⟩

theorem tokenAt_kind : (tokenAt s n).kind = (scan (s.drop n)).1 := rfl

@[simp] theorem tokenAt_start : (tokenAt s n).start = n := rfl

@[simp] theorem tokenAt_stop : (tokenAt s n).stop = n + (scan (s.drop n)).2 := rfl

@[simp] theorem tokenAt_remainder : (tokenAt s n).remainder = s.drop n := by
  simp [tokenAt, remainder, Text.sliceFrom]

@[simp] theorem tokenAt_value : (tokenAt s n).value = (s.drop n).take (scan (s.drop n)).2 :=
  Text.slice_natCast_add s n _

theorem length_tokenAt_value : (tokenAt s n).value.length = (scan (s.drop n)).2 := by
  rw [tokenAt_value, List.length_take]
  exact Nat.min_eq_left (scan_length_le _)

theorem tokenAt_kind_eq_empty (hn : n ≤ s.length) : (tokenAt s n).kind = .empty ↔ n = s.length := by
  rw [tokenAt_kind, scan_kind_eq_empty, List.drop_eq_nil_iff]
  omega

theorem tokenAt_stop_le (hn : n ≤ s.length) : n + (scan (s.drop n)).2 ≤ s.length := by
  have := scan_length_le (s.drop n)
  rw [List.length_drop] at this
  omega

theorem nextToken_eq (hn : n ≤ s.length) : nextToken s n = .ok (tokenAt s n) := by
  unfold nextToken
  rw [if_pos ⟨Int.natCast_nonneg n, by omega⟩]
  rfl

theorem tokensFrom_of_lt (h : n < s.length) :
    tokensFrom s n = tokenAt s n :: tokensFrom s (n + (scan (s.drop n)).2) := by
  rw [tokensFrom, if_pos h]

theorem tokensFrom_length : tokensFrom s s.length = [tokenAt s s.length] := by
  rw [tokensFrom, if_neg (Nat.lt_irrefl _)]

theorem tokensFrom_eq_cons (s : Text) (n : Nat) : ∃ ts, tokensFrom s n = tokenAt s n :: ts := by
  rw [tokensFrom]
  split
  · exact ⟨_, rfl⟩
  · exact ⟨[], rfl⟩

/-- The tokens from one of them on are those from its start on. -/
theorem exists_tokensFrom_eq {us ts : List Token} {t : Token} (hn : n ≤ s.length)
    (h : tokensFrom s n = us ++ t :: ts) :
    ∃ m, m ≤ s.length ∧ t = tokenAt s m ∧ tokensFrom s m = t :: ts := by
  induction us generalizing n with
  | nil =>
    obtain ⟨vs, hvs⟩ := tokensFrom_eq_cons s n
    exact ⟨n, hn, (List.cons.inj (h.symm.trans hvs)).1, h⟩
  | cons u us ih =>
    rcases Nat.lt_or_ge n s.length with hlt | hge
    · rw [tokensFrom_of_lt hlt] at h
      exact ih (tokenAt_stop_le hn) (List.cons.inj h).2
    · obtain rfl := Nat.le_antisymm hn hge
      rw [tokensFrom_length] at h
      exact absurd (List.cons.inj h).2.symm (by simp)

theorem exists_tokenAt_of_mem {t : Token} (hn : n ≤ s.length) (ht : t ∈ tokensFrom s n) :
    ∃ m, m ≤ s.length ∧ t = tokenAt s m := by
  obtain ⟨us, ts, h⟩ := List.append_of_mem ht
  obtain ⟨m, hm, rfl, -⟩ := exists_tokensFrom_eq hn h
  exact ⟨m, hm, rfl⟩

theorem Cursor.drain_of_advance {c d : Cursor} {t : Token} (h : c.advance = (.ok t, d)) :
    c.drain.1 = if t.kind = .empty then .ok [t] else d.drain.1.map (t :: ·) := by
  rw [drain]
  split
  · simp_all
  · next h' =>
    rw [h] at h'
    simp only [Prod.mk.injEq, Except.ok.injEq] at h'
    obtain ⟨rfl, rfl⟩ := h'
    split <;> rfl

theorem Cursor.advance_eq (token : Option Token) (hn : n ≤ s.length) :
    Cursor.advance ⟨s, n, token⟩ =
      (.ok (tokenAt s n), ⟨s, (n + (scan (s.drop n)).2 : Nat), some (tokenAt s n)⟩) := by
  rw [advance, lookahead, nextToken_eq hn]
  rfl

/-- Within the text no step of a cursor fails, and what it took before makes no difference. -/
theorem Cursor.drain_eq (token : Option Token) (hn : n ≤ s.length) :
    (Cursor.drain ⟨s, n, token⟩).1 = .ok (tokensFrom s n) := by
  fun_induction tokensFrom s n generalizing token with
  | case1 n hlt ih =>
    have hk : (tokenAt s n).kind ≠ .empty := by
      intro h
      have := (tokenAt_kind_eq_empty hn).1 h
      omega
    rw [drain_of_advance (advance_eq token hn), if_neg hk, ih _ (tokenAt_stop_le hn)]
    rfl
  | case2 n hlt =>
    have hk : (tokenAt s n).kind = .empty := (tokenAt_kind_eq_empty hn).2 (by omega)
    rw [drain_of_advance (advance_eq token hn), if_pos hk]

theorem tokenize_eq (hn : n ≤ s.length) : tokenize s n = .ok (tokensFrom s n) := by
  have h : Cursor.start s n = .ok ⟨s, n, none⟩ := by
    unfold Cursor.start
    rw [if_pos ⟨Int.natCast_nonneg n, by omega⟩]
  rw [tokenize, h]
  exact Cursor.drain_eq none hn

theorem tokenize_zero (s : Text) : tokenize s 0 = .ok (tokensFrom s 0) :=
  tokenize_eq (Nat.zero_le _)

/-- The tokens leave out no character and take none twice. -/
theorem flatMap_value_tokensFrom (hn : n ≤ s.length) :
    (tokensFrom s n).flatMap (·.value) = s.drop n := by
  fun_induction tokensFrom s n with
  | case1 n hlt ih =>
    rw [List.flatMap_cons, ih (tokenAt_stop_le hn), tokenAt_value, ← List.drop_drop,
      List.take_append_drop]
  | case2 n hlt =>
    have : s.drop n = [] := List.drop_eq_nil_iff.2 (by omega)
    simp [this]

end

end NaturalOrder
