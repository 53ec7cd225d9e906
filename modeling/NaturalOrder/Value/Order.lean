import NaturalOrder.Error
import NaturalOrder.Value.Basic

/-!
# The order of values

Numbers are ordered by what they denote, texts by code points, and lists and tuples by their first
parts that differ. Anything else has no order.
-/

namespace NaturalOrder

namespace Value

/-- The number that a value denotes. Truth values are one and zero. -/
def number? : Value → Option Double
  | bool b => some (.finite false b.toNat 0)
  | int n => some (.finite (n < 0) n.natAbs 0)
  | float x => some x
  | _ => Option.none

end Value

namespace Double

/-- A finite number as an integer in units of a smaller power of two. -/
def units (negative : Bool) (mantissa : Nat) (exponent unit : Int) : Int :=
  let size : Nat := mantissa * Nat.pow 2 (exponent - unit).toNat
  if negative then -size else size

/-- The order of two numbers, unless one of them is none. -/
def order? : Double → Double → Option Ordering
  | nan, _ | _, nan => none
  | infinite m, infinite n => some (compare n m)
  | infinite m, finite .. => some (if m then .lt else .gt)
  | finite .., infinite n => some (if n then .gt else .lt)
  | finite m c e, finite n d f => some (compare (units m c e (min e f)) (units n d f (min e f)))

end Double

namespace Value

/-- Both values are numbers, and the same one. -/
def equalNumbers (v w : Value) : Bool :=
  match v.number?, w.number? with
  | some x, some y => x.order? y = some .eq
  | _, _ => false

mutual

/-- Equal values. Tables are equal if they have the same rows in any order. A label is a thing of
its own and equal to nothing. -/
def equal : Value → Value → Bool
  | none, none => true
  | text s, text t => s = t
  | list vs, list ws => equalItems vs ws
  | tuple vs, tuple ws => equalItems vs ws
  | table rows, table others => rows.length = others.length && containedRows rows others
  | v, w => equalNumbers v w

def equalItems : List Value → List Value → Bool
  | [], [] => true
  | v :: vs, w :: ws => equal v w && equalItems vs ws
  | _, _ => false

/-- Each row is among the others. -/
def containedRows : List (Value × Value) → List (Value × Value) → Bool
  | [], _ => true
  | (k, v) :: rest, others =>
    (others.any fun row => equal k row.1 && equal v row.2) && containedRows rest others

end

/-- Adds a row to a table. A row with an equal key keeps its place and its key and takes the new
value. -/
def insertRow (key value : Value) : List (Value × Value) → List (Value × Value)
  | [] => [(key, value)]
  | (k, v) :: rest =>
    if equal k key then (k, value) :: rest else (k, v) :: insertRow key value rest

/-- A table of rows that are added one after another. -/
def ofRows (rows : List (Value × Value)) : Value :=
  table (rows.foldl (fun all row => insertRow row.1 row.2 all) [])

mutual

/-- The order of two values. A number that is none is neither before nor after any other. -/
def order : Value → Value → Except Error Ordering
  | text s, text t => .ok (compare s t)
  | list vs, list ws => orderItems vs ws
  | tuple vs, tuple ws => orderItems vs ws
  | v, w =>
    match v.number?, w.number? with
    | some x, some y => .ok ((x.order? y).getD .eq)
    | _, _ => .error (.unordered v.kind w.kind)

/-- The first items that differ decide, and a list comes before one that goes on. -/
def orderItems : List Value → List Value → Except Error Ordering
  | [], [] => .ok .eq
  | [], _ :: _ => .ok .lt
  | _ :: _, [] => .ok .gt
  | v :: vs, w :: ws => if equal v w then orderItems vs ws else order v w

end

end Value

end NaturalOrder
