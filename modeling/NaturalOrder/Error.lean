import NaturalOrder.Text.Quoted

/-!
# Errors

All the reasons for which an operation of the library has no answer, and the message for each.
-/

namespace NaturalOrder

/-- Why the platform does not accept the name of a locale. -/
inductive Refusal
  | notInstalled
  | embeddedNul
  /-- The locale is there, but its name is no text, as a byte of it fits no character. -/
  | undecodable (byte : UInt8) (position : Nat)
  deriving DecidableEq

def Refusal.message : Refusal → String
  | notInstalled => "unsupported locale setting"
  | embeddedNul => "embedded null character"
  | undecodable byte position =>
    let digits := String.ofList (Text.hex 2 byte.toNat)
    s!"'locale' codec can't decode byte 0x{digits} in position {position}: decoding error"

inductive Error
  /-- An error with a message of its own. -/
  | general (message : Text)
  /-- A scan position outside of the scanned text. One with too many digits cannot be named, and the error is
  about that. -/
  | position (value : Text) (position : Int)
  /-- No name for the identifier is accepted. The refusal is that of the last name. -/
  | locale (id : Text) (refusal : Refusal)
  | refused (refusal : Refusal)
  /-- A value that is no text is to be scanned. -/
  | notText
  | notDecimal
  /-- A decimal out of range, or the order of something that is not a number. -/
  | undefinedDecimal
  /-- Values of these two kinds have no order. -/
  | unordered (left right : String)
  | indexOutOfRange (kind : String)
  /-- An index that no sequence can have an item at. -/
  | indexTooLarge
  /-- A table has no such field. The key is given as it is shown, with all its digits. -/
  | noField (key : Text)
  | notIndexed (kind : String)
  /-- A field is looked up in something that has places only. -/
  | fieldOfSequence (kind : String)
  | noLength (kind : String)
  /-- A table is no sequence, so it cannot be reversed. -/
  | tableReversed
  | notVersion
  /-- A number in a version with more digits than are read. -/
  | tooManyDigits (count : Nat)
  /-- A number with more digits than are written. -/
  | numberTooLong
  /-- An error of a collator that is not one of the library's. -/
  | collator (message : Text)
  deriving DecidableEq

/-- The most digits of a number that is read or written. -/
def Error.digitLimit : Nat := 4300

/-- The decimal digits of a number, within the limit on their count. -/
def Text.numeral (n : Int) : Except Error Text :=
  if Error.digitLimit < (ofNat n.natAbs).length then .error .numberTooLong else .ok (ofInt n)

namespace Error

def numberTooLongMessage : String :=
  s!"Exceeds the limit ({digitLimit} digits) for integer string conversion; " ++
    "use sys.set_int_max_str_digits() to increase the limit"

def message : Error → String
  | general text => String.ofList text
  | position value offset =>
    match Text.numeral offset with
    | .ok digits =>
      let place := String.ofList digits
      let shown := String.ofList value.shown
      s!"Scan position {place} is out of range for {shown} of length {value.length}."
    | .error _ => numberTooLongMessage
  | locale id _ =>
    let shown := String.ofList id.shown
    s!"Locale {shown} is not available."
  | refused cause => cause.message
  | notText => "Only strings can be tokenized."
  | notDecimal => "[<class 'decimal.ConversionSyntax'>]"
  | undefinedDecimal => "[<class 'decimal.InvalidOperation'>]"
  | unordered left right => s!"'>' not supported between instances of '{left}' and '{right}'"
  | indexOutOfRange kind => s!"{kind} index out of range"
  | indexTooLarge => "cannot fit 'int' into an index-sized integer"
  | noField key => String.ofList key
  | notIndexed kind => s!"'{kind}' object is not subscriptable"
  | fieldOfSequence kind =>
    if kind = "string" then "string indices must be integers, not 'str'"
    else s!"{kind} indices must be integers or slices, not str"
  | noLength kind => s!"object of type '{kind}' has no len()"
  | tableReversed => "unhashable type: 'slice'"
  | notVersion => "'NoneType' object has no attribute 'groups'"
  | tooManyDigits count =>
    s!"Exceeds the limit ({digitLimit} digits) for integer string conversion: value has {count} " ++
      "digits; use sys.set_int_max_str_digits() to increase the limit"
  | numberTooLong => numberTooLongMessage
  | collator text => String.ofList text

/-- The error of an index at which a sequence has no item. Indices are signed 64-bit numbers. -/
def noItem (kind : String) (i : Int) : Error :=
  if Int64.minValue.toInt ≤ i ∧ i ≤ Int64.maxValue.toInt then indexOutOfRange kind
  else indexTooLarge

/-- An error that is raised by the library alone. -/
def isOwn : Error → Bool
  | general _ | locale .. => true
  | position _ offset => (Text.numeral offset).isOk
  | _ => false

/-- An error about an argument that is of the right kind but has no meaning. -/
def isInvalidArgument : Error → Bool
  | refused .notInstalled => false
  | position .. | locale .. | refused _ | tooManyDigits _ | numberTooLong => true
  | _ => false

/-- An error as it is shown under a name, with its message in quotes. -/
def shownAs (name : String) (e : Error) : String :=
  let quoted := String.ofList (Text.quoted e.message.toList)
  s!"{name}({quoted})"

end Error

end NaturalOrder
