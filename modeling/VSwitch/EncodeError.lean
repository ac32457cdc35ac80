import VSwitch.Errno

/-!
# Why a message cannot be written
-/

namespace VSwitch

/-- Why a message cannot be written. -/
inductive EncodeError
  /-- Something else. -/
  | other (text : String)
  /-- Writing failed. -/
  | write (cause : SocketError)
  /-- An attribute of `length` octets does not fit into a 16 bit length. -/
  | attributeTooLong (length : Nat)
  /-- A message of `length` octets does not fit into a 32 bit length. -/
  | messageTooLong (length : Nat)
  /-- A text holds a zero, which would end it early. -/
  | nulInText
  deriving DecidableEq, Repr

/-- The wording of the error. -/
def EncodeError.message : EncodeError → String
  | .other text => text
  | .write cause => s!"Error while serializing: {cause.message}"
  | .attributeTooLong n => s!"Attribute of {n} bytes does not fit in a netlink attribute"
  | .messageTooLong n => s!"Message of {n} bytes does not fit in a netlink message"
  | .nulInText => "A null byte was found inside a string attribute"

end VSwitch
