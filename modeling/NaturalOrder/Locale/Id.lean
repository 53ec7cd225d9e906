import NaturalOrder.Text.Basic
import NaturalOrder.Unicode.Basic
import NaturalOrder.Unicode.Lowercase

/-!
# Locale identifiers

An identifier is a language, which may be followed by a territory, an encoding and a modifier, each
after a mark of its own: `de_DE.UTF-8@euro`. All of the parts may be missing.
-/

namespace NaturalOrder

/-- The parts of a locale identifier. A part that is missing is empty. -/
structure LocaleId where
  language : Text
  territory : Text := []
  encoding : Text := []
  modifier : Text := []
  deriving DecidableEq

namespace LocaleId

/-- The territory at the start of a text, after a hyphen or an underscore, and the rest. -/
def splitTerritory : Text → Text × Text
  | [] => ([], [])
  | c :: rest =>
    if (c = '_' ∨ c = '-') ∧ rest.takeWhile Char.isAlphanum ≠ [] then rest.span Char.isAlphanum
    else ([], c :: rest)

/-- The encoding at the start of a text, after a full stop, and the rest. -/
def splitEncoding : Text → Text × Text
  | [] => ([], [])
  | c :: rest => if c = '.' then rest.span (· ≠ '@') else ([], c :: rest)

/-- The modifier that is all of a text, after an at sign. -/
def modifier? : Text → Option Text
  | [] => some []
  | c :: rest => if c = '@' ∧ '\n' ∉ rest then some rest else none

/-- The parts of an identifier, or nothing if the text does not look like one. -/
def parse? (id : Text) : Option LocaleId :=
  let (language, rest) := (Unicode.trimBlanks id).span Char.isAlpha
  let (territory, rest) := splitTerritory rest
  let (encoding, rest) := splitEncoding rest
  (modifier? rest).map fun modifier => { language, territory, encoding, modifier }

/-- A part after its mark, or nothing if the part is missing. -/
def marked (mark : Char) (part : Text) : Text := if part = [] then [] else mark :: part

def toText (l : LocaleId) : Text :=
  l.language ++ marked '_' l.territory ++ marked '.' l.encoding ++ marked '@' l.modifier

/-- The languages that stand for no language. -/
def rootLanguages : List Text := [[], "root".toList, "und".toList]

/-- The identifier denotes the collation that belongs to no locale. -/
def isRoot (l : LocaleId) : Bool :=
  rootLanguages.contains (Unicode.lowercaseText l.language) && l.territory = []

/-- The parts of an identifier. A text that does not look like one is a language as a whole. -/
def ofText (id : Text) : LocaleId := (parse? id).getD { language := id }

/-- Orders identifiers by language, territory and modifier, regardless of case. The encoding does
not matter. -/
def order (k l : LocaleId) : Ordering :=
  let on (part : LocaleId → Text) :=
    compare (Unicode.lowercaseText (part k)) (Unicode.lowercaseText (part l))
  (on language).then ((on territory).then (on modifier))

end LocaleId

/-- An identifier that is given as a text or by its parts. -/
inductive LocaleRef
  | text (id : Text)
  | parts (id : LocaleId)
  deriving DecidableEq

namespace LocaleRef

/-- The parts of the identifier. -/
def id : LocaleRef → LocaleId
  | text s => .ofText s
  | parts l => l

/-- Orders identifiers as `LocaleId.order` does, however they are given. -/
def order (x y : LocaleRef) : Ordering := x.id.order y.id

end LocaleRef

end NaturalOrder
