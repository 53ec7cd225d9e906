import NaturalOrder.Collator.Root
import NaturalOrder.Locale.Alias
import NaturalOrder.Locale.Id
import NaturalOrder.Locale.Platform

/-!
# Finding the collation for an identifier

An identifier may be written in many ways, and the platform accepts only its own names. A few names
that the identifier may stand for are tried one after another. The test whether the platform accepts
a name is a parameter.
-/

namespace NaturalOrder

namespace LocaleId

/-- The name that is tried first. -/
def primaryName (id : Text) : Text := ((parse? id).map toText).getD id

/-- The name in UTF-8, for an identifier that has a territory and leaves the encoding open. -/
def unicodeName? (id : Text) : Option Text :=
  if (parse? id).any fun l => l.territory ≠ [] && l.encoding = [] then
    some (primaryName id ++ ".UTF-8".toList)
  else none

/-- The names that are tried in turn after the first has been refused. -/
def otherNames (id : Text) : List Text :=
  let full := LocaleAlias.fullName (primaryName id)
  let names := (unicodeName? id).toList
  if full ∈ primaryName id :: names then names else names ++ [full]

variable {m : Type → Type} [Monad m]

/-- The answer to the first name that is accepted, or else the refusal of the last one. -/
def firstAccepted (probe : Text → ExceptT Refusal m Text) (name : Text) :
    List Text → ExceptT Refusal m Text
  | [] => probe name
  | next :: others => do try probe name catch _ => firstAccepted probe next others

/-- The full name of the locale for an identifier. -/
def resolve (probe : Text → ExceptT Refusal m Text) (id : Text) : ExceptT Error m Text :=
  (firstAccepted probe (primaryName id) (otherNames id)).adapt (Error.locale id)

end LocaleId

/-- The root collation, or that of a locale with this full name. -/
inductive Collation
  | root
  | locale (name : Text)
  deriving DecidableEq

/-- What is worth telling about the choice of a collation. -/
inductive Warning
  | environmentNotInstalled
  deriving DecidableEq

def Warning.message : Warning → String
  | environmentNotInstalled =>
    "The locale configured in the environment is not available. " ++
      "Falling back to the root collation."

namespace Collation

variable {m : Type → Type} [Monad m] (probe : Text → ExceptT Refusal m Text)

/-- The identifier is one of those for the root collation. -/
def denotesRoot (id : Text) : Bool := (LocaleId.parse? id).any LocaleId.isRoot

def ofId (id : Text) : ExceptT Error m Collation :=
  if denotesRoot id then pure root else locale <$> LocaleId.resolve probe id

/-- The collation that the environment asks for, or the root collation if that is not installed. -/
def ofEnvironment : ExceptT Error m (Collation × Option Warning) := do
  match ← ExceptT.lift (probe []).run with
  | .error .notInstalled => return (root, some .environmentNotInstalled)
  | .error refusal => throw (.refused refusal)
  | .ok name =>
    if denotesRoot name then return (root, none)
    else return (locale (← LocaleId.resolve probe name), none)

/-- The collation for an identifier, or that of the environment if there is none. -/
def choose (id : Option Text) : ExceptT Error m (Collation × Option Warning) :=
  match id with
  | some id => (·, none) <$> ofId probe id
  | none => ofEnvironment probe

def shown : Collation → String
  | root => "RootCollator()"
  | locale name => s!"LocaleCollator({String.ofList name.quoted})"

end Collation

/-- Something that may fail and may change the collation locale of the process. -/
abbrev Session := ExceptT Error (StateM Text)

namespace Platform

variable (p : Platform)

/-- The collator for a collation of this platform. -/
def collator (c : Collation) : Collator Session :=
  match c with
  | .root => .root
  | .locale name => ⟨c.shown, fun a b => (p.compareIn name a b).adapt Error.refused⟩

end Platform

end NaturalOrder
