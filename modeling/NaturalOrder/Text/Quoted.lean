import NaturalOrder.Text.Basic
import NaturalOrder.Unicode.Printable

/-!
# Quoted texts and excerpts

A text in quotes, with escapes for the quote in use, the backslash and all that does not print. Messages show
what they are about in full as long as it is short. Of anything longer they show the start and the end.
-/

namespace NaturalOrder.Text

def apostrophe : Char := Char.ofNat 0x27

def doubleQuote : Char := Char.ofNat 0x22

/-- The double quote for a text that holds apostrophes and no double quotes, else the
apostrophe. -/
def quoteFor (s : Text) : Char :=
  if s.contains apostrophe && !s.contains doubleQuote then doubleQuote else apostrophe

/-- Lowercase hexadecimal digits, with zeros in front up to the given width. -/
def hex (width n : Nat) : Text :=
  let digits := Nat.toDigits 16 n
  List.replicate (width - digits.length) '0' ++ digits

/-- A character as it is written between quotes. -/
def escape (quote c : Char) : Text :=
  if c = quote ∨ c = '\\' then ['\\', c]
  else if c = '\t' then ['\\', 't']
  else if c = '\n' then ['\\', 'n']
  else if c = '\r' then ['\\', 'r']
  else if Unicode.isPrintable c then [c]
  else if c.toNat < 0x100 then '\\' :: 'x' :: hex 2 c.toNat
  else if c.toNat < 0x10000 then '\\' :: 'u' :: hex 4 c.toNat
  else '\\' :: 'U' :: hex 8 c.toNat

def quoted (s : Text) : Text :=
  let quote := quoteFor s
  quote :: s.flatMap (escape quote) ++ [quote]

/-! ### Excerpts -/

/-- The most characters that a message shows of one value. -/
def excerptSize : Nat := 240

def ellipsis : Text := ['.', '.', '.']

/-- A text of more than `size` characters is cut to its start and its end around three dots. Where
the room is too small for any end, all of the text follows the dots. -/
def excerpt (size : Nat) (s : Text) : Text :=
  if s.length ≤ size then s
  else
    let head := (size - 3) / 2
    let tail := size - 3 - head
    s.take head ++ ellipsis ++ if tail = 0 then s else s.drop (s.length - tail)

/-- A quoted text as messages show it. -/
def shown (s : Text) : Text := excerpt excerptSize (quoted s)

end NaturalOrder.Text
