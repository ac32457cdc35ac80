import VSwitch.Text.Utf8

/-!
# Why a message cannot be read

Each constructor of `VSwitch.DecodeError` is one cause, and `VSwitch.DecodeError.message` words
them all.
-/

namespace VSwitch

/-- Why a message cannot be read. -/
inductive DecodeError
  /-- Something else. -/
  | other (text : String)
  /-- What is to be read needs more octets than are left. -/
  | truncated (context : String) (needed available : Nat)
  /-- A length is smaller than the header that holds it. -/
  | badLength (context : String) (length : Nat)
  /-- The message is of another type. -/
  | unexpectedType (expected found : UInt16)
  /-- The message is of a command that does not answer. -/
  | unexpectedCommand (expected : List UInt8) (found : UInt8)
  /-- The value of an attribute has another length. -/
  | badAttributeLength (type : UInt16) (expected found : Nat)
  /-- An attribute is not there. -/
  | missingAttribute (type : UInt16)
  /-- A text does not end with a zero. -/
  | unterminated
  /-- A text holds a zero before its end. -/
  | interiorNul
  /-- A text is not UTF-8. -/
  | badText (cause : Utf8Error)
  /-- A flow key is of a type whose layout is not known. -/
  | unknownKey (type : UInt16)
  /-- A flow action is of a type that is not known. -/
  | unknownAction (type : UInt16)
  /-- A mask selects bits of a key that is not there. -/
  | maskWithoutKey (type : UInt16)
  /-- A vport is of a type that is not supported. -/
  | unsupportedVport (type : UInt32)
  /-- An action sets a key other than the tunnel. -/
  | unsupportedSet (type : UInt16)
  /-- An action that sets one key holds another number of them. -/
  | notOneSet (count : Nat)
  deriving DecidableEq, Repr

/-- Numbers between brackets, separated by commas. -/
def bracketed (numbers : List UInt8) : String :=
  "[" ++ ", ".intercalate (numbers.map toString) ++ "]"

/-- The wording of the error. -/
def DecodeError.message : DecodeError → String
  | .other text => text
  | .truncated context needed available =>
    s!"Truncated {context}: needed {needed} bytes but only {available} are left"
  | .badLength context length => s!"Invalid {context} length {length}"
  | .unexpectedType expected found =>
    s!"Unexpected netlink message type {found} (expected {expected})"
  | .unexpectedCommand expected found =>
    s!"Unexpected generic netlink command {found} (expected one of {bracketed expected})"
  | .badAttributeLength type expected found =>
    s!"Attribute {type} has length {found} (expected {expected})"
  | .missingAttribute type => s!"Missing attribute {type}"
  | .unterminated => "No terminating null byte was found in the buffer"
  | .interiorNul => "String attribute contains an interior null byte"
  | .badText cause => s!"Invalid string attribute: {cause.message}"
  | .unknownKey type => s!"Unknown flow key type {type}"
  | .unknownAction type => s!"Unknown flow action type {type}"
  | .maskWithoutKey type => s!"Flow key type {type} has a non-zero mask but no key value"
  | .unsupportedVport type => s!"Unsupported vport type {type}"
  | .unsupportedSet type => s!"Unsupported key type {type} in set action"
  | .notOneSet count => s!"Set action carries {count} attributes instead of one"

/-- Fails unless at least `needed` octets are left to read. -/
def ensureLength (context : String) (octets : Bytes) (needed : Nat) : Except DecodeError Unit :=
  if octets.holds needed then .ok () else .error (.truncated context needed octets.length)

end VSwitch
