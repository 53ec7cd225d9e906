import NaturalOrder.Error

/-!
# Tokens

A token is a range of characters within a text, either a number or the text between numbers. An
empty token stands at the end of the text.
-/

namespace NaturalOrder

inductive Token.Kind
  | empty
  | numeric
  | text
  deriving DecidableEq, Repr

def Token.Kind.label : Kind → String
  | empty => "<EMPTY>"
  | numeric => "Numeric"
  | text => "Text"

/-- Only the offsets are stored. They are not checked against the source. -/
structure Token where
  kind : Token.Kind
  source : Text
  start : Int
  stop : Int
  deriving DecidableEq

namespace Token

variable (t : Token)

/-- The characters of the token. -/
def value : Text := t.source.slice t.start t.stop

/-- The rest of the source from the start of the token on. -/
def remainder : Text := t.source.sliceFrom t.start

/-- The kind of the token and its quoted characters. -/
def describe : String :=
  if t.kind = .empty then t.kind.label else s!"{t.kind.label} {String.ofList t.value.quoted}"

/-- The description of the token with its offsets. -/
def shown : Except Error Text := do
  let start ← Text.numeral t.start
  let stop ← Text.numeral t.stop
  return "<Token ".toList ++ t.describe.toList ++ ' ' :: start ++ ':' :: stop ++ ['>']

end Token

end NaturalOrder
