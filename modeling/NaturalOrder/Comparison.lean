import NaturalOrder.Collator.Basic
import NaturalOrder.Decimal.Order
import NaturalOrder.Token.Scan

/-!
# Natural order

Two texts are compared token by token: numbers by what they denote and then by their spelling, other
text by a collator and then by code points. The first difference decides. Where the kinds of two
tokens differ, the collator decides over all that is left of both texts.
-/

namespace NaturalOrder

/-- Two texts and the positions up to which they have been compared. -/
structure Progress where
  left : Text
  right : Text
  leftPosition : Int := 0
  rightPosition : Int := 0
  deriving DecidableEq

/-- What the next tokens of two texts give to compare, and how the comparison goes on if that is no
difference. -/
inductive Round
  /-- Neither text has another token. -/
  | exhausted
  | remainders (a b : Text)
  | numbers (a b : Text) (next : Progress)
  | texts (a b : Text) (next : Progress)
  deriving DecidableEq

namespace Progress

variable (p : Progress)

def finished : Bool := p.left.length ≤ p.leftPosition && p.right.length ≤ p.rightPosition

def round : Except Error Round := do
  let a ← nextToken p.left p.leftPosition
  let b ← nextToken p.right p.rightPosition
  let next := { p with leftPosition := a.stop, rightPosition := b.stop }
  if a.kind ≠ b.kind then return .remainders a.remainder b.remainder
  match a.kind with
  | .empty => return .exhausted
  | .numeric => return .numbers a.value b.value next
  | .text => return .texts a.value b.value next

/-- The number of characters in both texts that have not been compared. -/
def unread : Nat :=
  (p.left.length - p.leftPosition).toNat + (p.right.length - p.rightPosition).toNat

end Progress

namespace Progress

variable {p next : Progress} {a b : Text}

/-- Whenever the comparison goes on, it has read some of both texts. -/
theorem unread_of_round
    (h : p.round = .ok (.numbers a b next) ∨ p.round = .ok (.texts a b next)) :
    next.unread < p.unread := by
  simp only [round, bind, Except.bind, pure, Except.pure] at h
  cases h₁ : nextToken p.left p.leftPosition with
  | error e => simp [h₁] at h
  | ok s =>
    cases h₂ : nextToken p.right p.rightPosition with
    | error e => simp [h₁, h₂] at h
    | ok t =>
      simp only [h₁, h₂] at h
      have hs := stop_of_nextToken h₁
      have ht := stop_of_nextToken h₂
      grind [unread]

variable {m : Type → Type} [Monad m] [MonadExceptOf Error m]

/-- Compares what is left of two texts. -/
def compare (c : Collator m) (p : Progress) : m Ordering :=
  if p.finished then pure .eq
  else match _h : p.round with
    | .error e => throw e
    | .ok .exhausted => pure .eq
    | .ok (.remainders a b) => c.collate a b
    | .ok (.numbers a b next) =>
      match compareNumeric a b with
      | .error e => throw e
      | .ok .eq => next.compare c
      | .ok o => pure o
    | .ok (.texts a b next) => do
      match ← c.collate a b with
      | .eq => next.compare c
      | o => pure o
termination_by p.unread
decreasing_by
  · exact unread_of_round (.inl ‹_›)
  · exact unread_of_round (.inr ‹_›)

end Progress

namespace Collator

variable {m : Type → Type} [Monad m] [MonadExceptOf Error m]

/-- Natural order by a collator. What has no text comes after all texts. -/
def compareNatural (c : Collator m) : Option Text → Option Text → m Ordering
  | none, none => pure .eq
  | none, some _ => pure .gt
  | some _, none => pure .lt
  | some a, some b => Progress.compare c { left := a, right := b }

/-- Natural order is itself a collator. -/
def natural (c : Collator m) : Collator m :=
  ⟨s!"<SmartComparator {c.shown}>", fun a b => c.compareNatural (some a) (some b)⟩

end Collator

end NaturalOrder
