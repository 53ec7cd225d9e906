import NaturalOrder.Locale.AliasTables
import NaturalOrder.Text.Basic
import NaturalOrder.Unicode.Alphanumeric
import NaturalOrder.Unicode.Lowercase

/-!
# Aliases of locales

Locales and encodings have many names. A table gives the full name for common short ones, and the
encoding and the modifier of a name are carried over to the name that the table has for the rest.
-/

namespace NaturalOrder

namespace LocaleAlias

def find? (table : List (String × String)) (name : Text) : Option Text :=
  (table.lookup (String.ofList name)).map String.toList

/-- The letters, digits and full stops of an encoding. An underscore stands for whatever else is
between two of them, and of the letters and digits only those in ASCII are kept. The first two
arguments are what is kept so far and whether something else came after it. -/
def plainEncoding (kept : Text) (gap : Bool) : Text → Text
  | [] => kept
  | c :: rest =>
    if Unicode.isAlphanumeric c ∨ c = '.' then
      let kept := if gap ∧ kept ≠ [] then kept ++ ['_'] else kept
      plainEncoding (if c.toNat < 0x80 then kept ++ [c] else kept) false rest
    else plainEncoding kept true rest

/-- The name of an encoding within the name of a locale. -/
def encodingName (encoding : Text) : Text :=
  let plain := plainEncoding [] false encoding
  let name := (find? commonEncodings (Unicode.lowercaseText plain)).getD plain
  let key := Unicode.lowercaseText name
  match find? encodings key with
  | some found => found
  | none => (find? encodings (key.filter fun c => c ≠ '_' ∧ c ≠ '-')).getD name

/-- The name of a locale with another encoding. -/
def withEncoding (name encoding : Text) : Text := (name.cut '.').1 ++ '.' :: encodingName encoding

/-- The name of a locale with a modifier. The euro sign is a matter of the encoding. -/
def withModifier (name modifier : Text) : Text :=
  let latin9 := "ISO8859-15".toList
  if modifier = "euro".toList then
    match (name.cut '.').2 with
    | none => name ++ '.' :: latin9
    | some encoding =>
      if encoding = latin9 ∨ encoding = "UTF-8".toList then name
      else if encoding = "ISO8859-1".toList then withEncoding name latin9
      else name ++ '@' :: modifier
  else name ++ '@' :: modifier

/-- The parts of a name that are looked up. A missing part is empty. -/
structure Parts where
  language : Text
  encoding : Text
  modifier : Text

/-- The parts in lowercase. A colon counts as a full stop, and anything after a second full stop is
dropped. -/
def parts (name : Text) : Parts :=
  let code : Text := (Unicode.lowercaseText name).map fun c => if c = ':' then '.' else c
  let (code, modifier) := code.cut '@'
  let (language, rest) := code.cut '.'
  ⟨language, ((rest.getD []).cut '.').1, modifier.getD []⟩

namespace Parts

variable (p : Parts)

def withoutModifier : Text :=
  if p.encoding = [] then p.language
  else p.language ++ '.' :: p.encoding.filter fun c => c ≠ '-' ∧ c ≠ '_'

def modified (name : Text) : Text :=
  if p.modifier = [] then name else name ++ '@' :: p.modifier

/-- A table entry for all the parts. -/
def findAll? : Option Text := find? names (p.modified p.withoutModifier)

/-- An entry for all but the modifier. An entry that has a modifier must have the same. -/
def findEncoded? : Option Text :=
  if p.modifier = [] then none
  else (find? names p.withoutModifier).bind fun name =>
    match name.cut '@' with
    | (_, none) => some (withModifier name p.modifier)
    | (_, some own) => if Unicode.lowercaseText own = p.modifier then some name else none

/-- An entry for all but the encoding. -/
def findModified? : Option Text :=
  if p.encoding = [] then none
  else (find? names (p.modified p.language)).map fun name =>
    match name.cut '@' with
    | (_, none) => withEncoding name p.encoding
    | (code, some own) => withEncoding code p.encoding ++ '@' :: own

/-- An entry for the language alone. -/
def findLanguage? : Option Text :=
  if p.encoding = [] ∨ p.modifier = [] then none
  else (find? names p.language).bind fun name =>
    match name.cut '@' with
    | (_, none) => some (withModifier (withEncoding name p.encoding) p.modifier)
    | (code, some own) =>
      if Unicode.lowercaseText own = p.modifier then
        some (withEncoding code p.encoding ++ '@' :: own)
      else none

end Parts

/-- The full name for a name of a locale, or the name itself if no entry is for it. -/
def fullName (name : Text) : Text :=
  let p := parts name
  (p.findAll? <|> p.findEncoded? <|> p.findModified? <|> p.findLanguage?).getD name

end LocaleAlias

end NaturalOrder
