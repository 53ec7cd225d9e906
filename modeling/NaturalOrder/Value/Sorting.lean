import NaturalOrder.Comparison
import NaturalOrder.Sorting
import NaturalOrder.Value.Order

/-!
# Sorting values in natural order

Lists are sorted by parts of their values, which are compared by their texts. A value that is none comes last.
-/

namespace NaturalOrder

inductive SortKey
  /-- The item at an index, which counts from the end if it is negative. -/
  | index (i : Int)
  | field (name : Text)
  | length
  | reversed
  /-- Nothing, whatever the value is. -/
  | nothing

namespace Value

/-- The value in the row of a table that has an equal key, which is shown like this. -/
def lookup (rows : List (Value × Value)) (key : Value) (shown : Text) : Except Error Value :=
  match rows.find? fun row => row.1.equal key with
  | some row => .ok row.2
  | Option.none => .error (.noField shown)

/-- The item at an index, which counts from the end if it is negative. -/
def itemAt (kind : String) (items : List Value) (i : Int) : Except Error Value :=
  let place := if 0 ≤ i then i else items.length + i
  if place < 0 then .error (.noItem kind i)
  else match items[place.toNat]? with
    | some item => .ok item
    | Option.none => .error (.noItem kind i)

/-- The items of a value, with its kind as it is called in messages. -/
def items? : Value → Option (String × List Value)
  | text s => some ("string", s.map fun c => .text [c])
  | list vs => some ("list", vs)
  | tuple vs => some ("tuple", vs)
  | _ => Option.none

def index (i : Int) (v : Value) : Except Error Value :=
  match v with
  | table rows => lookup rows (.int i) (Text.ofInt i)
  | v => match v.items? with
    | some (kind, items) => itemAt kind items i
    | Option.none => .error (.notIndexed v.kind)

def field (name : Text) (v : Value) : Except Error Value :=
  match v with
  | table rows => lookup rows (.text name) name.quoted
  | v => match v.items? with
    | some (kind, _) => .error (.fieldOfSequence kind)
    | Option.none => .error (.notIndexed v.kind)

def length (v : Value) : Except Error Value :=
  match v with
  | table rows => .ok (.int rows.length)
  | v => match v.items? with
    | some (_, items) => .ok (.int items.length)
    | Option.none => .error (.noLength v.kind)

def reversed : Value → Except Error Value
  | text s => .ok (.text s.reverse)
  | list vs => .ok (.list vs.reverse)
  | tuple vs => .ok (.tuple vs.reverse)
  | table _ => .error .tableReversed
  | v => .error (.notIndexed v.kind)

end Value

def SortKey.of (k : SortKey) (v : Value) : Except Error Value :=
  match k with
  | index i => v.index i
  | field name => v.field name
  | length => v.length
  | reversed => v.reversed
  | nothing => .ok .none

/-! ### Sorting by keys -/

namespace Collator

variable {m : Type → Type} [Monad m] [MonadExceptOf Error m] (c : Collator m)

/-- Values in the natural order of their texts. -/
def compareValues (v w : Value) : m Ordering := do
  let a ← MonadExcept.ofExcept v.text?
  let b ← MonadExcept.ofExcept w.text?
  c.compareNatural a b

/-- Sorts items in the natural order of their keys, or in the reverse of it. All keys are taken
before any two of them are compared, and items with equal keys keep their places. -/
def sortOn {α : Type} (key : α → m Value) (reverse : Bool) (items : List α) : m (List α) := do
  let keyed ← items.mapM fun item => do return (← key item, item)
  let sorted ← Sorting.sortBy (fun a b => c.compareValues a.1 b.1) reverse keyed
  return sorted.map (·.2)

end Collator

end NaturalOrder
