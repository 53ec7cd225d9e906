import NaturalOrder.Collator.Basic
import NaturalOrder.Unicode.CaseFolding
import NaturalOrder.Unicode.Lowercase
import NaturalOrder.Unicode.Normalization

/-!
# Root collation

The order of texts that belongs to no locale. A text in canonical decomposition falls into letters,
each of them a character with the marks after it. Texts are ordered by their letters regardless of
case and marks, then by the marks on each letter, then by the case of each letter.
-/

namespace NaturalOrder

/-- A base character and the marks that are attached to it. -/
structure Letter where
  base : Char
  marks : Text
  deriving DecidableEq

namespace Letter

/-- The marks at the start of a text, and the letters after them. -/
def split : Text → Text × List Letter
  | [] => ([], [])
  | c :: rest =>
    let (marks, letters) := split rest
    if Unicode.isMark c then (c :: marks, letters) else ([], ⟨c, marks⟩ :: letters)

/-- The letters of a text in canonical order. A mark with no letter before it is the base of a
letter of its own. -/
def ofCanonical (s : Text) : List Letter :=
  match split s with
  | ([], letters) => letters
  | (c :: marks, letters) => ⟨c, marks⟩ :: letters

end Letter

/-- What the root collation sees of a text, at three levels. -/
structure CollationKey where
  base : Text
  accents : List Text
  cases : List Bool
  deriving DecidableEq

namespace CollationKey

def ofLetters (letters : List Letter) : CollationKey where
  base := letters.flatMap fun l => Unicode.foldCase l.base
  accents := letters.map (·.marks)
  cases := letters.map fun l => Unicode.isUpper l.base

def ofText (s : Text) : CollationKey := ofLetters (Letter.ofCanonical (Unicode.canonical s))

/-- A level decides if no level before it does. Fewer accents come first, and lowercase comes
before uppercase. -/
def order (k l : CollationKey) : Ordering :=
  (compare k.base l.base).then ((compare k.accents l.accents).then (compare k.cases l.cases))

end CollationKey

theorem CollationKey.order_self (k : CollationKey) : k.order k = .eq := by
  simp [order, Std.ReflCmp.compare_self]

/-- The root collation of two texts. Of a text and itself no keys are made. -/
def rootOrder (a b : Text) : Ordering :=
  if a = b then .eq else (CollationKey.ofText a).order (CollationKey.ofText b)

/-- The keys of a text and itself would have made no difference. -/
theorem rootOrder_eq_order (a b : Text) :
    rootOrder a b = (CollationKey.ofText a).order (CollationKey.ofText b) := by
  unfold rootOrder
  split
  · next h => rw [h, CollationKey.order_self]
  · rfl

def Collator.root {m : Type → Type} [Monad m] : Collator m := .ofOrder "RootCollator()" rootOrder

/-- The root collation with code points for the rest, so that only equal texts are equal. -/
def compareIgnoringCase (a b : Text) : Ordering := ((Collator.root : Collator Id).collate a b).run

end NaturalOrder
