import NaturalOrder.Double
import NaturalOrder.Error

/-!
# Values and their texts

The values that lists to be sorted are made of. A label is a value that is no text but has one. A text and a
label stand for themselves. Any other value is written out, and there the texts within it are quoted.
-/

namespace NaturalOrder

inductive Value
  | none
  | bool (b : Bool)
  | int (n : Int)
  | float (x : Double)
  | text (s : Text)
  | list (items : List Value)
  | tuple (items : List Value)
  /-- Keys with their values, in the order in which the keys were added. -/
  | table (rows : List (Value × Value))
  | label (text : Text)

namespace Value

/-- The name of the kind of a value in messages. -/
def kind : Value → String
  | none => "NoneType"
  | bool _ => "bool"
  | int _ => "int"
  | float _ => "float"
  | text _ => "str"
  | list _ => "list"
  | tuple _ => "tuple"
  | table _ => "dict"
  | label _ => "Label"

/-! ### The text of a value -/

/-- Texts with a comma between them. -/
def joined : List Text → Text
  | [] => []
  | [s] => s
  | s :: t :: rest => s ++ ',' :: ' ' :: joined (t :: rest)

/-- A tuple of one part has a comma after it. -/
def tupleText (parts : List Text) : Text :=
  match parts with
  | [s] => '(' :: s ++ [',', ')']
  | parts => '(' :: joined parts ++ [')']

mutual

/-- A value as it is written within other values. Integers are written within the limit on their digits. -/
def written : Value → Except Error Text
  | none => .ok "None".toList
  | bool b => .ok (if b then "True".toList else "False".toList)
  | int n => Text.numeral n
  | float x => .ok x.toText
  | text s => .ok s.quoted
  | list items => do return '[' :: joined (← writtenItems items) ++ [']']
  | tuple items => do return tupleText (← writtenItems items)
  | table rows => do return '\x7b' :: joined (← writtenRows rows) ++ ['\x7d']
  | label s => .ok s

def writtenItems : List Value → Except Error (List Text)
  | [] => .ok []
  | v :: rest => do return (← written v) :: (← writtenItems rest)

def writtenRows : List (Value × Value) → Except Error (List Text)
  | [] => .ok []
  | (k, v) :: rest => do return ((← written k) ++ ':' :: ' ' :: (← written v)) :: (← writtenRows rest)

end

/-- The text of a value that has one of its own or is written. -/
def toText : Value → Except Error Text
  | text s => .ok s
  | v => v.written

/-- The text by which a value is compared, if it is not none. -/
def text? : Value → Except Error (Option Text)
  | none => .ok Option.none
  | v => some <$> v.toText

/-- A value as it is shown in at most so many characters. -/
def inspect (size : Nat) (v : Value) : Except Error Text := do return (← v.written).excerpt size

end Value

end NaturalOrder
