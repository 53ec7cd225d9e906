import NaturalOrder.Error

/-!
# Collators

A collator orders texts in some way of its own. It may find different texts equal, and in asking it
there may be effects: it may fail, or may depend on a state.
-/

namespace NaturalOrder

structure Collator (m : Type → Type) where
  /-- How the collator is shown. -/
  shown : String
  compare : Text → Text → m Ordering

namespace Collator

variable {m : Type → Type} [Monad m]

/-- A collator that always answers. -/
def ofOrder (shown : String) (order : Text → Text → Ordering) : Collator m :=
  ⟨shown, fun a b => pure (order a b)⟩

/-- Asks the collator, and orders by code points what it finds equal.

About a text and that same object in memory it need not be asked. Which texts are one object is left open here,
so it is asked always. A collator that finds each text equal to itself, and does nothing else on the way, does
not tell the difference. -/
def collate (c : Collator m) (a b : Text) : m Ordering := do
  return (← c.compare a b).then (Ord.compare a b)

end Collator

/-! ### Collators that record what they are asked -/

/-- Something that may fail and records pairs of texts, also up to a failure. -/
abbrev Recording := ExceptT Error (StateM (List (Text × Text)))

namespace Collator

/-- The same collator, which first records the pair. -/
def tracing (c : Collator (Except Error)) : Collator Recording where
  shown := c.shown
  compare a b := do
    modify (· ++ [(a, b)])
    ExceptT.mk (pure (c.compare a b))

end Collator

end NaturalOrder
