import NaturalOrder.Collator.Basic
import NaturalOrder.Error

/-!
# The collation locale of the process

A platform has some locales installed and collates texts by the one that is in force. There is only
one for the whole process, so whoever needs another has to put the old one back, also after a
failure.
-/

namespace NaturalOrder

/-- The locales of a platform. -/
structure Platform where
  /-- The full name of the locale that a name stands for. The empty name stands for the locale that
  the environment asks for. -/
  select : Text → Except Refusal Text
  /-- The order of two texts in the locale of this full name. -/
  collate : Text → Text → Text → Except Refusal Ordering

/-- Something that may be refused and may change the collation locale in force. -/
abbrev Process := ExceptT Refusal (StateM Text)

namespace Platform

variable (p : Platform)

/-- Puts a locale in force and gives its full name. A name that is refused changes nothing. -/
def activate (name : Text) : Process Text := do
  let full ← ExceptT.mk (pure (p.select name))
  set full
  return full

/-- The full name for a name, with the locale in force left as it was. -/
def probe (name : Text) : Process Text := do
  let previous ← get
  try p.activate name finally discard (p.activate previous)

/-- Two texts in the order of a locale, with the locale in force left as it was. The platform takes
no texts with NULs in them, so these are dropped. -/
def compareIn (locale a b : Text) : Process Ordering := do
  if a = b then return .eq
  let a := a.filter (· ≠ '\x00')
  let b := b.filter (· ≠ '\x00')
  let previous ← get
  unless locale = previous do discard (p.activate locale)
  try
    let current ← get
    ExceptT.mk (pure (p.collate current a b))
  finally
    unless previous = locale do discard (p.activate previous)

end Platform

/-- The value of an environment variable: a text, or a row of bytes that is none. -/
inductive EnvironmentValue
  | text (s : Text)
  /-- After some characters come bytes that do not start with one. -/
  | broken (start : Text) (byte : UInt8) (rest : List UInt8)
      (undecodable : (byte :: rest).toByteArray.utf8DecodeChar? 0 = none)
  deriving DecidableEq

namespace EnvironmentValue

/-- The characters, where each byte from the first that fits none on counts as one. -/
def symbols : EnvironmentValue → Text
  | text s => s
  | broken start byte rest _ => start ++ (byte :: rest).map Char.ofUInt8

def byteSize : EnvironmentValue → Nat
  | text s => s.byteSize
  | broken start _ rest _ => start.byteSize + 1 + rest.length

end EnvironmentValue

/-- The environment variables that say which collation is wanted. One that is not set counts as empty. -/
structure Environment where
  lcAll : EnvironmentValue := .text []
  lcCollate : EnvironmentValue := .text []
  lang : EnvironmentValue := .text []

/-- The first variable that is not empty decides, and without any it is the C locale. -/
def Environment.wanted (env : Environment) : EnvironmentValue :=
  ([env.lcAll, env.lcCollate, env.lang].find? (· ≠ .text [])).getD (.text ['C'])

namespace Platform

def codesets : List Text := ["UTF-8".toList, "UTF8".toList]

/-- A codeset as it is compared: its letters and digits and a few marks, in capitals. Whatever else is in it
is passed over. -/
def plainCodeset (s : Text) : Text :=
  (s.filter fun c => c.isAlphanum || "_-.,:".toList.contains c).map Char.toUpper

/-- The codeset is one of those that are installed. Slashes may come after it. What is compared ends at the
third of them, and there are letters and digits in none of the rest. -/
def isInstalledCodeset (s : Text) : Bool :=
  match s.splitOn '/' with
  | [] => false
  | codeset :: rest =>
    codesets.contains (plainCodeset codeset) && (rest.take 2).all (fun part => plainCodeset part = []) &&
      (rest.drop 2).all fun part => part.all fun c => !c.isAlphanum

/-- Locales are files. A name with slashes in it is a path from the root of them all, on which no step leads
back. -/
def isPath (name : Text) : Bool :=
  let steps := name.splitOn '/'
  (steps.length = 1 || steps.head? = some []) && !steps.contains "..".toList

/-- The place that the locale is for is any territory in the C locale. -/
def isPlaceInC (place : Text) : Bool := (place.cut '_').1.dropWhile (· = '/') = ['C']

/-- The most bytes of a name. -/
def nameLimit : Nat := 255

/-- These characters, in so many bytes, are a name of the C locale with a codeset: `C.UTF-8`, where a territory
may come before the codeset and a modifier after it. -/
def hasCodeset (symbols : Text) (size : Nat) : Bool :=
  let (code, _) := symbols.cut '@'
  let (place, codeset) := code.cut '.'
  isPlaceInC place && codeset.any isInstalledCodeset && isPath symbols && size ≤ nameLimit

def isCodesetName (name : Text) : Bool := hasCodeset name name.byteSize

/-- The platform that has the listed names with their full names. All of them collate by code
points. -/
def ofNames (names : List (Text × Text)) : Platform where
  select name :=
    if '\x00' ∈ name then .error .embeddedNul
    else match names.lookup name with
      | some full => .ok full
      | none => .error .notInstalled
  collate _ a b := .ok (compare a b)

/-- The full name for a name of the C locale. -/
def nameInC (name : Text) : Except Refusal Text :=
  if '\x00' ∈ name then .error .embeddedNul
  else if name = ['C'] ∨ name = "POSIX".toList then .ok ['C']
  else if isCodesetName name then .ok name
  else .error .notInstalled

/-- The full name for the value of an environment variable. -/
def valueInC (value : EnvironmentValue) : Except Refusal Text :=
  match value with
  | .text s => nameInC s
  | .broken start byte _ _ =>
    if hasCodeset value.symbols value.byteSize then .error (.undecodable byte start.byteSize)
    else .error .notInstalled

/-- The platform that has no locale but C, which is installed in UTF-8 as well. All texts are collated by code
points there. -/
def basic (env : Environment) : Platform where
  select name := if name = [] then valueInC env.wanted else nameInC name
  collate _ a b :=
    if '\x00' ∈ a ∨ '\x00' ∈ b then .error .embeddedNul else .ok (compare a b)

end Platform

end NaturalOrder
