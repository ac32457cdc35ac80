import VSwitch.Attribute
import VSwitch.Table

/-!
# Sets of attributes

A list of attributes read as a set: the last value of a type counts, and the order is forgotten.
The getters read the value of a type, or fail if it is missing or of another shape; those whose
name ends in a question mark give nothing where the type is missing.
-/

namespace VSwitch

/-- The value of each type of attribute. -/
abbrev AttributeSet := Table UInt16 Bytes

namespace AttributeSet

/-- Reads a list of attributes as a set. -/
def parse (octets : Bytes) : Except DecodeError AttributeSet :=
  (Attribute.parse octets).map Table.ofList

/-- Reads the text that a zero ends. -/
def textOf (value : Bytes) : Except DecodeError String :=
  match value.getLast? with
  | some 0 =>
    let text := value.dropLast
    if text.contains 0 then .error .interiorNul
    else (Utf8.decode text).mapError .badText
  | _ => .error .unterminated

variable (s : AttributeSet) (type : UInt16)

/-- The value of a type. -/
def bytes : Except DecodeError Bytes :=
  match s.get? type with
  | some v => .ok v
  | none => .error (.missingAttribute type)

/-- The value of a type that has exactly `n` octets. -/
def octets (n : Nat) : Except DecodeError (Octets n) := do
  let v ← s.bytes type
  match Octets.ofBytes? n v with
  | some o => return o
  | none => throw (.badAttributeLength type n v.length)

/-- The 8 bit number of a type. -/
def u8 : Except DecodeError UInt8 := (s.octets type 1).map fun o => o.val.headD 0

/-- The 16 bit number of a type. -/
def u16 : Except DecodeError UInt16 := (s.octets type 2).map fun o => Bytes.toU16 o.val

/-- The 32 bit number of a type. -/
def u32 : Except DecodeError UInt32 := (s.octets type 4).map fun o => Bytes.toU32 o.val

/-- The 64 bit number of a type. -/
def u64 : Except DecodeError UInt64 := (s.octets type 8).map fun o => Bytes.toU64 o.val

/-- The text of a type. -/
def text : Except DecodeError String := do textOf (← s.bytes type)

/-- The set of attributes that is the value of a type. -/
def nested : Except DecodeError AttributeSet := do parse (← s.bytes type)

/-- The list of attributes that is the value of a type. -/
def list : Except DecodeError (List (UInt16 × Bytes)) := do Attribute.parse (← s.bytes type)

/-- What a getter gives, or nothing where the type is missing. -/
def optional {α : Type} (get : AttributeSet → UInt16 → Except DecodeError α) :
    Except DecodeError (Option α) :=
  if s.contains type then (get s type).map some else .ok none

/-- The 8 bit number of a type that may be missing. -/
def u8? : Except DecodeError (Option UInt8) := s.optional type u8

/-- The 16 bit number of a type that may be missing. -/
def u16? : Except DecodeError (Option UInt16) := s.optional type u16

/-- The 32 bit number of a type that may be missing. -/
def u32? : Except DecodeError (Option UInt32) := s.optional type u32

/-- The 64 bit number of a type that may be missing. -/
def u64? : Except DecodeError (Option UInt64) := s.optional type u64

/-- The text of a type that may be missing. -/
def text? : Except DecodeError (Option String) := s.optional type text

/-- The set of a type that may be missing. -/
def nested? : Except DecodeError (Option AttributeSet) := s.optional type nested

end AttributeSet

end VSwitch
