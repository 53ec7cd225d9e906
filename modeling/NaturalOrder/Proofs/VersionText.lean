import Mathlib.Data.List.Basic
import NaturalOrder.Proofs.LocaleId
import NaturalOrder.Version

/-!
# Versions and their texts

The text of a version is made of parts that begin where the part before them has to end: the numbers are rows
of digits, and neither a full stop nor the letter of a level is a digit. So reading a text gives back just the
parts it was put together from (`Version.Parts.WellFormed.parts?_text`), and a version that is written and
read again is the same version, unless a number has too many digits to be written
(`Version.toText_bind_ofText`).
-/

namespace NaturalOrder
open Text

namespace Version
variable {digits : Text} {n k : Nat}

/-! ### Numbers -/

theorem isDigit_of_char_isDigit {c : Char} (h : c.isDigit) : isDigit c := by
  rw [isDigit, Unicode.digitValue?_of_isDigit h]
  rfl

theorem isDigit_of_mem_ofNat {c : Char} (h : c ∈ ofNat n) : c.isDigit :=
  Nat.isDigit_of_mem_toDigits (by decide) (by decide) h

theorem length_ofNat_le_iff (hk : 0 < k) : (ofNat n).length ≤ k ↔ n < Nat.pow 10 k :=
  Nat.length_toDigits_le_iff (by decide) hk

theorem length_ofNat_le_limit_iff :
    (ofNat n).length ≤ Error.digitLimit ↔ n < Nat.pow 10 Error.digitLimit :=
  length_ofNat_le_iff (by decide)

/-- Within the limit on their count, ASCII digits are read as the number that they denote. -/
theorem number_of_isDigit (hd : ∀ c ∈ digits, c.isDigit) (hlen : digits.length ≤ Error.digitLimit) :
    number digits = .ok (toNat digits) := by
  rw [number, if_neg (Nat.not_lt.2 hlen)]
  refine congrArg Except.ok (List.foldl_ext _ _ 0 ?_)
  intro m c hc
  rw [Unicode.digitValue?_of_isDigit (hd c hc)]
  rfl

theorem number_ofNat (hn : n < Nat.pow 10 Error.digitLimit) : number (ofNat n) = .ok n := by
  rw [number_of_isDigit (fun _ => isDigit_of_mem_ofNat) (length_ofNat_le_limit_iff.2 hn), toNat_ofNat]

theorem number_of_limit_lt (hlen : Error.digitLimit < digits.length) :
    number digits = .error (.tooManyDigits digits.length) := if_pos hlen

theorem numeral_natCast (n : Nat) : Text.numeral n =
    if n < Nat.pow 10 Error.digitLimit then .ok (ofNat n) else .error .numberTooLong := by
  have hint : ofInt (n : Int) = ofNat n := if_neg (by omega)
  rw [Text.numeral, hint, Int.natAbs_natCast]
  by_cases hn : n < Nat.pow 10 Error.digitLimit
  · rw [if_pos hn, if_neg (Nat.not_lt.2 (length_ofNat_le_limit_iff.2 hn))]
  · rw [if_neg hn, if_pos (Nat.lt_of_not_le (mt length_ofNat_le_limit_iff.1 hn))]

theorem numeral_bind {α : Type} (n : Nat) (f : Text → Except Error α) : (Text.numeral n >>= f) =
    if n < Nat.pow 10 Error.digitLimit then f (ofNat n) else .error .numberTooLong := by
  rw [numeral_natCast]
  split <;> rfl

/-! ### Parts -/

theorem field?_append (hne : digits ≠ []) (hd : ∀ c ∈ digits, isDigit c) (rest : Text) :
    field? (digits ++ '.' :: rest) = some (digits, rest) := by
  have hspan : (digits ++ '.' :: rest).span isDigit = (digits, '.' :: rest) := by
    refine span_append hd ?_
    rintro _ ⟨⟩
    decide
  unfold field?
  rw [hspan]
  cases digits with
  | nil => exact absurd rfl hne
  | cons c digits => rfl

namespace Parts
variable {p : Parts}

/-- The numbers are rows of digits, and the level keeps the serial number apart from them. -/
structure WellFormed (p : Parts) : Prop where
  major : p.major ≠ [] ∧ ∀ c ∈ p.major, isDigit c
  minor : p.minor ≠ [] ∧ ∀ c ∈ p.minor, isDigit c
  micro : p.micro ≠ [] ∧ ∀ c ∈ p.micro, isDigit c
  level : ∀ c ∈ p.level, ¬ isDigit c
  serial : ∀ c ∈ p.serial, isDigit c
  serial_eq_nil : p.level = [] → p.serial = []

def text (p : Parts) : Text :=
  p.major ++ '.' :: (p.minor ++ '.' :: (p.micro ++ (p.level ++ p.serial)))

/-- The text ends after the third number. -/
theorem wellFormed_of_final {major minor micro : Text} (hmajor : major ≠ [] ∧ ∀ c ∈ major, isDigit c)
    (hminor : minor ≠ [] ∧ ∀ c ∈ minor, isDigit c) (hmicro : micro ≠ [] ∧ ∀ c ∈ micro, isDigit c) :
    WellFormed ⟨major, minor, micro, [], []⟩ :=
  ⟨hmajor, hminor, hmicro, fun _ hc => absurd hc List.not_mem_nil, fun _ hc => absurd hc List.not_mem_nil,
    fun _ => rfl⟩

theorem WellFormed.not_isDigit_head? (h : p.WellFormed) : ∀ c ∈ (p.level ++ p.serial).head?, ¬ isDigit c := by
  intro c hc
  cases hlevel : p.level with
  | nil =>
    rw [hlevel, h.serial_eq_nil hlevel] at hc
    cases hc
  | cons d rest =>
    rw [hlevel] at hc
    cases hc
    exact h.level c (hlevel ▸ List.mem_cons_self)

theorem WellFormed.parts?_text (h : p.WellFormed) : parts? p.text = some p := by
  have hmicro : (p.micro ++ (p.level ++ p.serial)).span isDigit = (p.micro, p.level ++ p.serial) :=
    span_append h.micro.2 h.not_isDigit_head?
  have hlevel : (p.level ++ p.serial).span (!isDigit ·) = (p.level, p.serial) := by
    refine span_append (fun c hc => by simpa using h.level c hc) fun c hc => ?_
    simpa using h.serial c (List.mem_of_head? hc)
  have hserial : p.serial.takeWhile isDigit = p.serial := List.takeWhile_eq_self_iff.2 h.serial
  unfold parts? text
  rw [field?_append h.major.1 h.major.2, Option.bind_eq_bind, Option.bind_some]
  dsimp only
  rw [field?_append h.minor.1 h.minor.2, Option.bind_eq_bind, Option.bind_some]
  dsimp only
  rw [hmicro]
  dsimp only
  rw [if_neg h.micro.1, hlevel]
  dsimp only
  rw [hserial]
  rfl

theorem WellFormed.ofText_text (h : p.WellFormed) : ofText p.text = (do
    let major ← number p.major
    let minor ← number p.minor
    let micro ← number p.micro
    let serial ← number p.serial
    return { major, minor, micro, level := levelOf p.level.head?, serial }) := by
  rw [ofText, h.parts?_text]

end Parts

/-! ### Versions -/

/-- The levels before the final one. -/
def preLevels : List Text := ["alpha".toList, "beta".toList, "candidate".toList]

/-- The first letter of a level stands for it. -/
theorem preLevels_letter : ∀ level ∈ preLevels, ¬ (level = [] ∨ level = finalLevel) ∧ level.take 1 ≠ [] ∧
    (level.take 1).all (!isDigit ·) ∧ levelOf (level.take 1).head? = level := by
  decide

section
variable {major minor micro serial : Nat} {level mark tail : Text}

/-- The parts of a version with these numbers. What follows the third number is given as it is written. -/
def numbered (major minor micro : Nat) (mark tail : Text) : Parts :=
  ⟨ofNat major, ofNat minor, ofNat micro, mark, tail⟩

theorem isDigits_ofNat (n : Nat) : ofNat n ≠ [] ∧ ∀ c ∈ ofNat n, isDigit c :=
  ⟨ofNat_ne_nil n, fun _ hc => isDigit_of_char_isDigit (isDigit_of_mem_ofNat hc)⟩

theorem wellFormed_numbered (hmark : mark ≠ []) (hletter : mark.all (!isDigit ·)) :
    (numbered major minor micro mark (ofNat serial)).WellFormed where
  major := isDigits_ofNat major
  minor := isDigits_ofNat minor
  micro := isDigits_ofNat micro
  level := by simpa [numbered] using hletter
  serial := (isDigits_ofNat serial).2
  serial_eq_nil := fun h => absurd h hmark

theorem ofText_numbered (h : (numbered major minor micro mark tail).WellFormed)
    (hn : ∀ n ∈ [major, minor, micro], n < Nat.pow 10 Error.digitLimit) (htail : number tail = .ok serial) :
    ofText (numbered major minor micro mark tail).text =
      .ok ⟨major, minor, micro, levelOf mark.head?, serial⟩ := by
  have hnumber : ∀ n ∈ [major, minor, micro], number (ofNat n) = .ok n := fun n hmem => number_ofNat (hn n hmem)
  rw [h.ofText_text]
  dsimp only [numbered]
  rw [hnumber major (by simp), hnumber minor (by simp), hnumber micro (by simp), htail]
  rfl

theorem toText_preLevel (hlevel : level ∈ preLevels) : toText ⟨major, minor, micro, level, serial⟩ =
    if ∀ n ∈ [major, minor, micro, serial], n < Nat.pow 10 Error.digitLimit then
      .ok (numbered major minor micro (level.take 1) (ofNat serial)).text
    else .error .numberTooLong := by
  obtain ⟨hletter, -⟩ := preLevels_letter level hlevel
  have htext : ofNat major ++ '.' :: ofNat minor ++ '.' :: ofNat micro ++ level.take 1 ++ ofNat serial =
      (numbered major minor micro (level.take 1) (ofNat serial)).text := by
    simp [numbered, Parts.text]
  unfold toText
  simp only [numeral_bind, if_neg hletter, htext, List.forall_mem_cons, List.not_mem_nil, false_imp_iff,
    implies_true, and_true, ite_and]
  rfl

theorem toText_final (major minor micro : Nat) (serial : Int) :
    toText ⟨major, minor, micro, finalLevel, serial⟩ =
      if ∀ n ∈ [major, minor, micro], n < Nat.pow 10 Error.digitLimit then
        .ok (numbered major minor micro [] []).text
      else .error .numberTooLong := by
  have htext : ofNat major ++ '.' :: ofNat minor ++ '.' :: ofNat micro =
      (numbered major minor micro [] []).text := by
    simp [numbered, Parts.text]
  unfold toText
  simp only [numeral_bind, htext, or_true, if_true, List.forall_mem_cons, List.not_mem_nil, false_imp_iff,
    implies_true, and_true, ite_and]
  rfl

theorem ite_bind_ofText {fits : Prop} [Decidable fits] {s : Text} {v : Version} (h : fits → ofText s = .ok v) :
    ((if fits then .ok s else .error .numberTooLong) >>= ofText) =
      if fits then .ok v else .error .numberTooLong := by
  split
  · next hfits => exact h hfits
  · rfl

end

/-- A version before the final release, or a final one without a serial number, is read as it was written.
Where a number has too many digits, it is not written at all. -/
theorem toText_bind_ofText (major minor micro serial : Nat) (level : Text)
    (hlevel : level ∈ preLevels ∨ level = finalLevel ∧ serial = 0) :
    (toText ⟨major, minor, micro, level, serial⟩ >>= ofText) =
      if ∀ n ∈ [major, minor, micro, serial], n < Nat.pow 10 Error.digitLimit then
        .ok ⟨major, minor, micro, level, serial⟩
      else .error .numberTooLong := by
  rcases hlevel with hlevel | ⟨rfl, rfl⟩
  · obtain ⟨-, hne, hmark, hread⟩ := preLevels_letter level hlevel
    rw [toText_preLevel hlevel]
    refine ite_bind_ofText fun hn => ?_
    have hnumbers : ∀ n ∈ [major, minor, micro], n < Nat.pow 10 Error.digitLimit :=
      fun n hmem => hn n (List.mem_append_left [serial] hmem)
    have hform : (numbered major minor micro (level.take 1) (ofNat serial)).WellFormed :=
      wellFormed_numbered hne hmark
    rw [ofText_numbered hform hnumbers (number_ofNat (hn serial (by simp))), hread]
  · have hform : (numbered major minor micro [] []).WellFormed :=
      Parts.wellFormed_of_final (isDigits_ofNat major) (isDigits_ofNat minor) (isDigits_ofNat micro)
    have hpow : ∀ k, 0 < Nat.pow 10 k := fun _ => Nat.pow_pos (by decide)
    -- a serial number that is not written is zero, so it makes no difference to the limit
    have hserial : (∀ n ∈ [major, minor, micro, 0], n < Nat.pow 10 Error.digitLimit) ↔
        ∀ n ∈ [major, minor, micro], n < Nat.pow 10 Error.digitLimit := by
      simp only [List.forall_mem_cons, hpow Error.digitLimit, true_and]
    rw [toText_final]
    simp only [hserial]
    exact ite_bind_ofText fun hn => ofText_numbered hform hn rfl

theorem toText_bind_ofText_candidate :
    "candidate".toList ∈ preLevels ∧
    (toText ⟨12, 34, 56, "candidate".toList, 789⟩ >>= ofText) =
      .ok ⟨12, 34, 56, "candidate".toList, 789⟩ := by
  have hlevel : "candidate".toList ∈ preLevels := by decide
  have hsmall : ∀ n ∈ [12, 34, 56, 789], n < Nat.pow 10 3 := by decide
  have hmono : ∀ k, 3 ≤ k → Nat.pow 10 3 ≤ Nat.pow 10 k := fun _ => Nat.pow_le_pow_right (by decide)
  have hn : ∀ n ∈ [12, 34, 56, 789], n < Nat.pow 10 Error.digitLimit :=
    fun n hmem => Nat.lt_of_lt_of_le (hsmall n hmem) (hmono Error.digitLimit (by decide))
  exact ⟨hlevel, (toText_bind_ofText 12 34 56 789 _ (.inl hlevel)).trans (if_pos hn)⟩

/-- The least number with one digit more than the limit allows is neither written nor read. -/
theorem toText_bind_ofText_ne :
    (toText ⟨(Nat.pow 10 Error.digitLimit : Nat), 0, 0, finalLevel, 0⟩ >>= ofText) ≠
      .ok ⟨(Nat.pow 10 Error.digitLimit : Nat), 0, 0, finalLevel, 0⟩ ∧
    ofText ('1' :: List.replicate Error.digitLimit '0' ++ ".0.0".toList) =
      .error (.tooManyDigits (Error.digitLimit + 1)) := by
  constructor
  · have hn : ¬ ∀ n ∈ [Nat.pow 10 Error.digitLimit, 0, 0], n < Nat.pow 10 Error.digitLimit :=
      fun h => Nat.lt_irrefl _ (h _ List.mem_cons_self)
    have hwrite := (toText_final (Nat.pow 10 Error.digitLimit) 0 0 0).trans (if_neg hn)
    intro h
    cases (congrArg (· >>= ofText) hwrite).symm.trans h
  · have hlength : ('1' :: List.replicate Error.digitLimit '0').length = Error.digitLimit + 1 := by
      rw [List.length_cons, List.length_replicate]
    have hnumber : number ('1' :: List.replicate Error.digitLimit '0') =
        .error (.tooManyDigits (Error.digitLimit + 1)) :=
      hlength ▸ number_of_limit_lt (hlength ▸ Nat.lt_succ_self _)
    have hdigits : ∀ c ∈ '1' :: List.replicate Error.digitLimit '0', isDigit c := by
      refine List.forall_mem_cons.2 ⟨by decide, fun c hc => ?_⟩
      rw [List.eq_of_mem_replicate hc]
      decide
    have hform := Parts.wellFormed_of_final ⟨List.cons_ne_nil _ _, hdigits⟩ (isDigits_ofNat 0) (isDigits_ofNat 0)
    refine hform.ofText_text.trans ?_
    dsimp only
    rw [hnumber]
    rfl

end Version

end NaturalOrder
