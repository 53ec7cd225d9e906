import NaturalOrder.Proofs.Numeral

/-!
# The first token of a text

What the scanner finds by going over characters one by one, said without the scanner. The first token is
a number of `k` characters if these are a numeral and what follows does not go on with it
(`scan_eq_numeric_iff`). It is text of `k` characters if that is how far the next start of a number, or
else the end of the text, is away (`scan_eq_text_iff`).
-/

namespace NaturalOrder
open Token Numeral

/-- A number starts a text with a digit, before which there may be a sign, a point, or both in this
order. -/
def StartsNumber (s : Text) : Prop :=
  ∃ lead ∈ [[], ['.'], ['-'], ['-', '.']], ∃ d rest, s = lead ++ d :: rest ∧ d.isDigit

/-- What follows a number does not go on with it: it starts with no digit, nor with the first point. -/
def EndsBefore (number rest : Text) : Prop :=
  ∀ c ∈ rest.head?, ¬ c.isDigit ∧ ('.' ∉ number → c ≠ '.')

def IsNumeral (s : Text) : Prop := ∃ n : Numeral, n.text = s

section
variable {s u v : Text} {k : Nat}

theorem isSome_unsignedStart? : (unsignedStart? s).isSome ↔
    ∃ lead ∈ [[], ['.']], ∃ d rest, s = lead ++ d :: rest ∧ d.isDigit := by
  constructor
  · intro h
    cases s with
    | nil => cases h
    | cons c rest =>
      by_cases hc : c.isDigit = true
      · exact ⟨[], by simp, c, rest, rfl, hc⟩
      · have hp : isDecimalPoint c = true ∧ startsWithDigit rest = true := by
          simpa [unsignedStart?, hc] using h
        obtain rfl := isDecimalPoint_iff.1 hp.1
        cases rest with
        | nil => exact absurd hp.2 (by decide)
        | cons d rest => exact ⟨['.'], by simp, d, rest, rfl, hp.2⟩
  · rintro ⟨lead, hl, d, rest, rfl, hd⟩
    simp only [List.mem_cons, List.not_mem_nil, or_false] at hl
    rcases hl with rfl | rfl
    · simp [unsignedStart?, hd]
    · simp [unsignedStart?, isDecimalPoint, startsWithDigit, hd]

theorem startsNumber_iff : StartsNumber s ↔
    ∃ negative body, s = sign negative ++ body ∧ (unsignedStart? body).isSome := by
  simp only [isSome_unsignedStart?]
  constructor
  · rintro ⟨lead, hl, d, rest, rfl, hd⟩
    simp only [List.mem_cons, List.not_mem_nil, or_false] at hl
    rcases hl with rfl | rfl | rfl | rfl
    · exact ⟨false, _, rfl, [], by simp, d, rest, rfl, hd⟩
    · exact ⟨false, _, rfl, ['.'], by simp, d, rest, rfl, hd⟩
    · exact ⟨true, _, rfl, [], by simp, d, rest, rfl, hd⟩
    · exact ⟨true, _, rfl, ['.'], by simp, d, rest, rfl, hd⟩
  · rintro ⟨negative, _, rfl, lead, hl, d, rest, rfl, hd⟩
    refine ⟨sign negative ++ lead, ?_, d, rest, (List.append_assoc ..).symm, hd⟩
    simp only [List.mem_cons, List.not_mem_nil, or_false] at hl
    rcases hl with rfl | rfl <;> cases negative <;> simp [sign]

/-- A number starts behind a sign as it does without one. -/
theorem numberStart?_sign_append (negative : Bool) (h : (unsignedStart? s).isSome) :
    numberStart? (sign negative ++ s) =
      (unsignedStart? s).map fun u => ⟨(sign negative).length + u.length, u.pointUsed⟩ := by
  cases negative with
  | true => simp [sign, numberStart?_sign, Nat.add_comm]
  | false =>
    obtain ⟨c, rest, rfl⟩ : ∃ c rest, s = c :: rest := by
      cases s with
      | nil => cases h
      | cons c rest => exact ⟨c, rest, rfl⟩
    have hc : c ≠ '-' := by
      rintro rfl
      simp [unsignedStart?, isDecimalPoint] at h
    simp [sign, numberStart?_of_ne_sign hc]

theorem isSome_numberStart? : (numberStart? s).isSome ↔ StartsNumber s := by
  rw [startsNumber_iff]
  constructor
  · intro h
    obtain ⟨start, hs⟩ := Option.isSome_iff_exists.1 h
    obtain ⟨negative, body, hs, hb, -⟩ := body_of_numberStart? hs
    exact ⟨negative, body, hs, hb⟩
  · rintro ⟨negative, body, rfl, hb⟩
    rw [numberStart?_sign_append negative hb, Option.isSome_map, hb]

instance (s : Text) : Decidable (StartsNumber s) := decidable_of_iff _ isSome_numberStart?

theorem StartsNumber.append (h : StartsNumber s) (rest : Text) : StartsNumber (s ++ rest) := by
  obtain ⟨lead, hl, d, r, rfl, hd⟩ := h
  exact ⟨lead, hl, d, r ++ rest, by simp, hd⟩

theorem not_startsNumber_nil : ¬ StartsNumber [] := by decide

/-! ### Numbers -/

theorem scan_sign_append (negative : Bool) (h : (unsignedStart? s).isSome) :
    scan (sign negative ++ s) = (.numeric, (sign negative).length + numberLength false s) := by
  obtain ⟨u, hu⟩ := Option.isSome_iff_exists.1 h
  have hs := numberStart?_sign_append negative h
  rw [hu] at hs
  rcases hw : sign negative ++ s with _ | ⟨c, rest⟩
  · rw [hw] at hs
    cases hs
  · rw [hw] at hs
    simp only [scan, hs, Option.map_some]
    rw [← hw, List.drop_append, List.drop_of_length_le (Nat.le_add_right ..), Nat.add_sub_cancel_left,
      List.nil_append, Nat.add_assoc, length_of_unsignedStart? hu]

theorem numberLength_append_of_isDigit (hu : ∀ c ∈ u, c.isDigit) (p : Bool) (s : Text) :
    numberLength p (u ++ s) = u.length + numberLength p s := by
  induction u with
  | nil => simp
  | cons c u ih =>
    have hc : c.isDigit = true := hu c (by simp)
    rw [List.cons_append, numberLength, if_neg (not_isDecimalPoint hc), if_pos hc,
      ih fun d hd => hu d (List.mem_cons_of_mem c hd), List.length_cons]
    omega

theorem numberLength_eq_zero {p : Bool} (h : ∀ c ∈ s.head?, ¬ c.isDigit ∧ (p = false → c ≠ '.')) :
    numberLength p s = 0 := by
  cases s with
  | nil => rfl
  | cons c rest =>
    obtain ⟨hd, hp⟩ := h c rfl
    rw [numberLength, if_neg hd]
    cases p with
    | true => simp
    | false => simp [isDecimalPoint, hp rfl]

/-- A number goes on until a character that is no digit and not its first point. -/
theorem endsBefore_numberLength (p : Bool) (s : Text) :
    ∀ c ∈ (s.drop (numberLength p s)).head?,
      ¬ c.isDigit ∧ (p = false → '.' ∉ s.take (numberLength p s) → c ≠ '.') := by
  fun_induction numberLength p s with
  | case1 p => simp
  | case2 c rest hp =>
    rintro d ⟨⟩
    rw [isDecimalPoint_iff] at hp
    subst hp
    exact ⟨by decide, fun h => absurd h (by decide)⟩
  | case3 p c rest hp hused ih =>
    intro d hd
    rw [isDecimalPoint_iff] at hp
    subst hp
    exact ⟨(ih d hd).1, fun _ hn => absurd (by simp) hn⟩
  | case4 p c rest hp hc ih =>
    intro d hd
    refine ⟨(ih d hd).1, fun hf hn => (ih d hd).2 hf fun hm => hn ?_⟩
    exact List.mem_cons_of_mem c hm
  | case5 p c rest hp hc =>
    rintro d ⟨⟩
    exact ⟨hc, fun _ _ hd => hp (isDecimalPoint_iff.2 hd)⟩

end

namespace Numeral
variable (n : Numeral) {rest : Text}

theorem point_mem_text : '.' ∈ n.text ↔ n.fraction?.isSome := by
  have hw : '.' ∉ n.whole := fun h => absurd (n.isDigit '.' (by simp [h])) (by decide)
  have hs : '.' ∉ sign n.negative := by cases n.negative <;> decide
  simp only [text, List.mem_append, hw, hs, false_or]
  cases n.fraction? <;> simp [pointed]

theorem isSome_unsignedStart?_body (rest : Text) :
    (unsignedStart? (n.whole ++ (pointed n.fraction? ++ rest))).isSome := by
  rw [isSome_unsignedStart?]
  cases hw : n.whole with
  | cons d w => exact ⟨[], by simp, d, _, rfl, n.isDigit d (by simp [hw])⟩
  | nil =>
    cases hf : n.fraction? with
    | none => exact absurd (by simp [hw, hf]) n.digits_ne_nil
    | some f =>
      cases f with
      | nil => exact absurd (by simp [hw, hf]) n.digits_ne_nil
      | cons d f => exact ⟨['.'], by simp, d, f ++ rest, rfl, n.isDigit d (by simp [hf])⟩

theorem startsNumber_append (rest : Text) : StartsNumber (n.text ++ rest) :=
  startsNumber_iff.2 ⟨n.negative, _, by simp [text], n.isSome_unsignedStart?_body rest⟩

theorem numberLength_body (h : EndsBefore n.text rest) :
    numberLength false (n.whole ++ (pointed n.fraction? ++ rest)) =
      n.whole.length + (pointed n.fraction?).length := by
  have hw : ∀ c ∈ n.whole, c.isDigit := fun c hc => n.isDigit c (by simp [hc])
  rw [numberLength_append_of_isDigit hw]
  have hp := n.point_mem_text
  cases hf : n.fraction? with
  | none =>
    rw [hf] at hp
    have h0 : numberLength false rest = 0 :=
      numberLength_eq_zero fun c hc => ⟨(h c hc).1, fun _ => (h c hc).2 (by simp [hp])⟩
    simp [pointed, h0]
  | some f =>
    have hd : ∀ c ∈ f, c.isDigit := fun c hc => n.isDigit c (by simp [hf, hc])
    have h0 : numberLength true rest = 0 :=
      numberLength_eq_zero fun c hc => ⟨(h c hc).1, fun ht => absurd ht (by decide)⟩
    simp [pointed, numberLength, isDecimalPoint, numberLength_append_of_isDigit hd, h0]

/-- A numeral that ends before the rest of a text is the first token of the text. -/
theorem scan_text_append (h : EndsBefore n.text rest) :
    scan (n.text ++ rest) = (.numeric, n.text.length) := by
  have hs : n.text ++ rest = sign n.negative ++ (n.whole ++ (pointed n.fraction? ++ rest)) := by
    simp [text]
  rw [hs, scan_sign_append _ (n.isSome_unsignedStart?_body rest), n.numberLength_body h]
  simp [text]

end Numeral

section
variable {s : Text} {k : Nat}

theorem endsBefore_of_scan (h : scan s = (.numeric, k)) : EndsBefore (s.take k) (s.drop k) := by
  obtain ⟨start, hs, hl⟩ := exists_numberStart? (congrArg Prod.fst h)
  obtain ⟨negative, body, rfl, -, hlen⟩ := body_of_numberStart? hs
  obtain rfl : k = (sign negative).length + numberLength false body := by
    rw [← hlen, ← hl, h]
  rw [List.take_length_add_append, List.drop_length_add_append]
  intro c hc
  obtain ⟨hd, hp⟩ := endsBefore_numberLength false body c hc
  exact ⟨hd, fun hn => hp rfl fun hm => hn (List.mem_append_right _ hm)⟩

/-- The first token is a number if it is a numeral and goes on as far as it can. -/
theorem scan_eq_numeric_iff : scan s = (.numeric, k) ↔
    k ≤ s.length ∧ IsNumeral (s.take k) ∧ EndsBefore (s.take k) (s.drop k) := by
  constructor
  · intro h
    have hk : (scan s).2 = k := congrArg Prod.snd h
    obtain ⟨n, hn⟩ := exists_numeral (congrArg Prod.fst h)
    rw [hk] at hn
    exact ⟨hk ▸ scan_length_le s, ⟨n, hn.symm⟩, endsBefore_of_scan h⟩
  · rintro ⟨hk, ⟨n, hn⟩, he⟩
    rw [← hn] at he
    have hs := n.scan_text_append he
    rwa [hn, List.take_append_drop, List.length_take, Nat.min_eq_left hk] at hs

/-! ### Text between numbers -/

theorem textLength_eq_iff : textLength s = k ↔
    k ≤ s.length ∧ (∀ i < k, ¬ StartsNumber (s.drop i)) ∧ (k < s.length → StartsNumber (s.drop k)) := by
  induction s generalizing k with
  | nil =>
    constructor
    · rintro rfl
      exact ⟨Nat.le_refl _, fun i hi => absurd hi (Nat.not_lt_zero i),
        fun h => absurd h (Nat.lt_irrefl _)⟩
    · exact fun h => (Nat.le_zero.1 h.1).symm
  | cons c rest ih =>
    rw [textLength]
    by_cases hs : StartsNumber (c :: rest)
    · rw [if_pos (isSome_numberStart?.2 hs)]
      constructor
      · rintro rfl
        exact ⟨Nat.zero_le _, fun i hi => absurd hi (Nat.not_lt_zero i), fun _ => hs⟩
      · rintro ⟨-, h, -⟩
        exact (Nat.eq_zero_of_not_pos fun hk => h 0 hk hs).symm
    · rw [if_neg (mt isSome_numberStart?.1 hs)]
      cases k with
      | zero => exact iff_of_false (by omega) fun h => hs (h.2.2 (by simp))
      | succ k =>
        rw [Nat.add_right_cancel_iff, ih, List.length_cons, Nat.add_le_add_iff_right,
          Nat.add_lt_add_iff_right, List.drop_succ_cons]
        have h : (∀ i < k + 1, ¬ StartsNumber ((c :: rest).drop i)) ↔
            ∀ i < k, ¬ StartsNumber (rest.drop i) := by
          constructor
          · exact fun h i hi => h (i + 1) (Nat.succ_lt_succ hi)
          · intro h i hi
            cases i with
            | zero => exact hs
            | succ i => exact h i (Nat.lt_of_succ_lt_succ hi)
        rw [h]

/-- The first token is text if no number starts the text, and goes on until one does. -/
theorem scan_eq_text_iff : scan s = (.text, k) ↔
    0 < k ∧ k ≤ s.length ∧ (∀ i < k, ¬ StartsNumber (s.drop i)) ∧
      (k < s.length → StartsNumber (s.drop k)) := by
  cases s with
  | nil => exact iff_of_false (by simp [scan]) fun h => by simp at h; omega
  | cons c rest =>
    by_cases hs : StartsNumber (c :: rest)
    · refine iff_of_false (fun h => ?_) fun h => h.2.2.1 0 h.1 hs
      obtain ⟨start, hn⟩ := Option.isSome_iff_exists.1 (isSome_numberStart?.2 hs)
      simp [scan, hn] at h
    · have hn : numberStart? (c :: rest) = none := by
        rwa [← Option.not_isSome_iff_eq_none, isSome_numberStart?]
      have ht : textLength (c :: rest) = textLength rest + 1 := by
        rw [textLength, if_neg (mt isSome_numberStart?.1 hs)]
      rw [← textLength_eq_iff, ht, scan, hn]
      constructor
      · intro h
        cases h
        exact ⟨Nat.succ_pos _, rfl⟩
      · rintro ⟨-, rfl⟩
        rfl

/-- A token that is taken out of its text is again a single token, of the same kind. -/
theorem scan_take (s : Text) : scan (s.take (scan s).2) = scan s := by
  rcases h : scan s with ⟨kind, k⟩
  cases kind with
  | empty =>
    rw [scan_kind_eq_empty.1 (congrArg Prod.fst h), List.take_nil] at *
    exact h
  | numeric =>
    obtain ⟨hk, hn, -⟩ := scan_eq_numeric_iff.1 h
    refine scan_eq_numeric_iff.2 ⟨by simp [hk], ?_, ?_⟩
    · rwa [List.take_take, Nat.min_self]
    · rw [List.drop_of_length_le (List.length_take_le k s)]
      exact fun c hc => nomatch hc
  | text =>
    obtain ⟨hpos, hk, hi, -⟩ := scan_eq_text_iff.1 h
    refine scan_eq_text_iff.2 ⟨hpos, by simp [hk], fun i hik hn => hi i hik ?_, ?_⟩
    · have := hn.append (s.drop k)
      rwa [← List.drop_append_of_le_length (by simp; omega), List.take_append_drop] at this
    · intro hlt
      rw [List.length_take] at hlt
      omega

end

end NaturalOrder
