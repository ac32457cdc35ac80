import VSwitch.EncodeError
import VSwitch.Header

/-!
# Messages in the making

A draft is written front to back: it starts with the header of the message, headers and attributes
are appended, and `VSwitch.Draft.finish` stamps the length and the sequence number.

What is appended by one call (`VSwitch.Put`) is a value of its own, so that the content of a
message can be built, compared and reasoned about before it is written. The length of an attribute
covers its header and its value. The padding after it is not counted, but padding inside a nested
attribute is, as it is written before the length is.

* `VSwitch.Put.run` carries out one call, and `VSwitch.Put.runAll` one call after the other until
  one fails; a call that fails leaves what it has written;
* `VSwitch.Put.marks` tells how far the draft reaches after each call, the inner calls first.
-/

namespace VSwitch

/-- The octets of a message that is being written. -/
structure Draft where
  /-- What is written so far. -/
  bytes : Bytes
  deriving DecidableEq, Repr

namespace Draft

/-- A message of a type, with flags. The length, the sequence number and the port are open. -/
def start (flags type : UInt16) : Draft :=
  ⟨MessageHeader.toBytes { length := 0, type, flags, sequence := 0, port := 0 }⟩

/-- Number of octets written so far. -/
def length (d : Draft) : Nat := d.bytes.length

/-- Zeros are appended up to the next multiple of four. -/
def align (d : Draft) : Draft := ⟨d.bytes.pad4⟩

/-- Octets are appended as they are. -/
def append (d : Draft) (b : Bytes) : Draft := ⟨d.bytes ++ b⟩

/-- Zeros are appended up to the next multiple of four, and then `n` more. -/
def reserve (d : Draft) (n : Nat) : Draft := d.align.append (List.replicate n 0)

/-- A record is appended at the next multiple of four. -/
def appendRecord (d : Draft) (record : Bytes) : Draft := d.align.append record

/-- The greatest length of an attribute, its header included. -/
def maxAttributeLength : Nat := 0xFFFF

/-- Everything from `pos` on becomes an attribute, whose header has its place there. -/
def close (d : Draft) (pos : Nat) (type : UInt16) : Except EncodeError Unit × Draft :=
  let length := d.length - pos
  if length ≤ maxAttributeLength then
    let header : AttributeHeader := { length := UInt16.ofNat length, type }
    (.ok (), ⟨d.bytes.patch pos header.toBytes⟩)
  else (.error (.attributeTooLong length), d)

/-- The greatest length of a message. -/
def maxLength : Nat := 0xFFFFFFFF

/-- The message with its length and its sequence number. -/
def finish (d : Draft) (sequence : UInt32) : Except EncodeError Bytes :=
  let bytes := d.align.bytes
  if bytes.length ≤ maxLength then
    -- In the header the length comes first and the sequence number eight octets later.
    .ok ((bytes.patch 0 (Bytes.ofNat 4 bytes.length)).patch 8 (Bytes.ofU32 sequence))
  else .error (.messageTooLong bytes.length)

end Draft

/-! ### Calls -/

/-- One call on a draft. -/
inductive Put
  /-- The header of generic netlink. -/
  | genericHeader (command version : UInt8)
  /-- The header that names a datapath. -/
  | datapathHeader (ifindex : Int32)
  /-- An attribute with a value of octets. -/
  | slice (type : UInt16) (value : Bytes)
  /-- An attribute with a text that a zero ends. -/
  | text (type : UInt16) (content : String)
  /-- Octets as they are. -/
  | raw (bytes : Bytes)
  /-- Padding. -/
  | align
  /-- Padding and then zeros. -/
  | reserve (count : Nat)
  /-- An attribute whose value the inner calls write. -/
  | attribute (type : UInt16) (inner : List Put)
  /-- An attribute whose value is the list of attributes that the inner calls write. -/
  | nested (type : UInt16) (inner : List Put)

namespace Put

/-- An attribute without a value. -/
def empty (type : UInt16) : Put := .slice type []

/-- An attribute with an 8 bit number. -/
def u8 (type : UInt16) (v : UInt8) : Put := .slice type [v]

/-- An attribute with a 16 bit number. -/
def u16 (type : UInt16) (v : UInt16) : Put := .slice type (Bytes.ofU16 v)

/-- An attribute with a 32 bit number. -/
def u32 (type : UInt16) (v : UInt32) : Put := .slice type (Bytes.ofU32 v)

/-- An attribute with a 64 bit number. -/
def u64 (type : UInt16) (v : UInt64) : Put := .slice type (Bytes.ofU64 v)

/-- Writes an attribute with a value of octets. -/
def runSlice (type : UInt16) (value : Bytes) (d : Draft) : Except EncodeError Unit × Draft :=
  let pos := d.align.length
  match ((d.reserve AttributeHeader.size).append value).close pos type with
  | (.ok (), d') => (.ok (), d'.align)
  | failed => failed

mutual

/-- Carries out a call. -/
def run : Put → Draft → Except EncodeError Unit × Draft
  | .genericHeader command version, d =>
    (.ok (), d.appendRecord (GenericHeader.toBytes ⟨command, version⟩))
  | .datapathHeader ifindex, d => (.ok (), d.appendRecord (DatapathHeader.toBytes ⟨ifindex⟩))
  | .slice type value, d => runSlice type value d
  | .text type content, d =>
    -- A zero inside would end the text early for whoever reads it.
    if content.contains '\x00' then (.error .nulInText, d)
    else runSlice type (Utf8.encode content ++ [0]) d
  | .raw bytes, d => (.ok (), d.append bytes)
  | .align, d => (.ok (), d.align)
  | .reserve count, d => (.ok (), d.reserve count)
  | .attribute type inner, d =>
    match runAll inner (d.reserve AttributeHeader.size) with
    | (.ok (), d') =>
      match d'.close d.align.length type with
      | (.ok (), d'') => (.ok (), d''.align)
      | failed => failed
    | failed => failed
  | .nested type inner, d =>
    match runAll inner (d.reserve AttributeHeader.size) with
    -- The padding comes before the length is written, and so it is counted.
    | (.ok (), d') => d'.align.close d.align.length type
    | failed => failed

/-- Carries out calls until one fails. -/
def runAll : List Put → Draft → Except EncodeError Unit × Draft
  | [], d => (.ok (), d)
  | p :: rest, d =>
    match run p d with
    | (.ok (), d') => runAll rest d'
    | failed => failed

end

/-- What the calls make of a draft, if none of them fails. -/
def writeOn (puts : List Put) (d : Draft) : Except EncodeError Draft :=
  match runAll puts d with
  | (.ok (), d') => .ok d'
  | (.error e, _) => .error e

/-! ### Telling what the calls did -/

/-- What is told of a call. -/
inductive Mark
  /-- Zeros have been appended from this place on. -/
  | reserved (pos : Nat)
  /-- A call has ended and the draft has this length; it has failed if there is an error. -/
  | ended (length : Nat) (error? : Option EncodeError)
  deriving DecidableEq, Repr

/-- The mark at the end of a call. -/
def ending (p : Put) (d : Draft) : Mark :=
  match p.run d with
  | (.ok (), d') => .ended d'.length none
  | (.error e, d') => .ended d'.length (some e)

mutual

/-- The marks of a call, those of its inner calls first. -/
def marks : Put → Draft → List Mark
  | .attribute type inner, d =>
    marksAll inner (d.reserve AttributeHeader.size) ++ [(Put.attribute type inner).ending d]
  | .nested type inner, d =>
    marksAll inner (d.reserve AttributeHeader.size) ++ [(Put.nested type inner).ending d]
  | .reserve count, d => [.reserved d.align.length, (Put.reserve count).ending d]
  | p, d => [p.ending d]

/-- The marks of calls that are carried out until one fails. -/
def marksAll : List Put → Draft → List Mark
  | [], _ => []
  | p :: rest, d =>
    marks p d ++ match run p d with
      | (.ok (), d') => marksAll rest d'
      | (.error _, _) => []

end

/-- Carries out every call, also after one has failed, and tells the marks. -/
def runEach (puts : List Put) (d : Draft) : List Mark × Draft :=
  match puts with
  | [] => ([], d)
  | p :: rest =>
    let (later, d') := runEach rest (p.run d).2
    (p.marks d ++ later, d')

end Put

end VSwitch
