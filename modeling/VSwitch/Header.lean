import VSwitch.DecodeError
import VSwitch.Errno
import VSwitch.Vocabulary.Netlink

/-!
# Records of fixed size

The headers of messages and attributes, the header of generic netlink, the one that names a
datapath, and the report of an error. Every number is in little endian order; a record is
written by `toBytes` and read from the start of a string of octets by `read`, which takes no
notice of what follows.
-/

namespace VSwitch

/-! ### Message -/

/-- The header of a message. -/
structure MessageHeader where
  /-- Number of octets of the message, this header included. -/
  length : UInt32
  /-- Type of the message: a family, or one of `VSwitch.MessageType`. -/
  type : UInt16
  /-- Flags, see `VSwitch.messageFlags`. -/
  flags : UInt16
  /-- Number that an answer shares with its request. -/
  sequence : UInt32
  /-- Port that the message is for or that it answers. -/
  port : UInt32
  deriving DecidableEq, Repr

namespace MessageHeader

/-- Number of octets of the header. -/
def size : Nat := 16

/-- The octets of the header. -/
def toBytes (h : MessageHeader) : Bytes :=
  Bytes.ofU32 h.length ++ Bytes.ofU16 h.type ++ Bytes.ofU16 h.flags ++ Bytes.ofU32 h.sequence ++
    Bytes.ofU32 h.port

/-- Reads a header from the first octets. -/
def read (b : Bytes) : Except DecodeError MessageHeader := do
  ensureLength "netlink header" b size
  return {
    length := Bytes.toU32 b
    type := Bytes.toU16 (b.drop 4)
    flags := Bytes.toU16 (b.drop 6)
    sequence := Bytes.toU32 (b.drop 8)
    port := Bytes.toU32 (b.drop 12) }

/-- Whether the message reports an error or acknowledges a request. -/
def isError (h : MessageHeader) : Bool :=
  h.type == Vocabulary.number MessageType.error

/-- Whether the message ends a dump. -/
def isDone (h : MessageHeader) : Bool :=
  h.type == Vocabulary.number MessageType.done

end MessageHeader

/-! ### Attribute -/

/-- The header of an attribute. -/
structure AttributeHeader where
  /-- Number of octets of the attribute, this header included and the padding after it not. -/
  length : UInt16
  /-- Type of the attribute. -/
  type : UInt16
  deriving DecidableEq, Repr

namespace AttributeHeader

/-- Number of octets of the header. -/
def size : Nat := 4

/-- The bits of a type number that are no flags. -/
def typeMask : UInt16 := 0x3FFF

/-- The octets of the header. -/
def toBytes (h : AttributeHeader) : Bytes := Bytes.ofU16 h.length ++ Bytes.ofU16 h.type

/-- Reads a header from the first octets; the flag bits of the type are dropped. -/
def read (b : Bytes) : Except DecodeError AttributeHeader := do
  ensureLength "attribute header" b size
  return { length := Bytes.toU16 b, type := Bytes.toU16 (b.drop 2) &&& typeMask }

end AttributeHeader

/-! ### Generic netlink and datapath -/

/-- The header of generic netlink. -/
structure GenericHeader where
  /-- Command of the family. -/
  command : UInt8
  /-- Version of the family's protocol. -/
  version : UInt8
  deriving DecidableEq, Repr

namespace GenericHeader

/-- Number of octets of the header, of which the last two are reserved. -/
def size : Nat := 4

/-- The octets of the header. -/
def toBytes (h : GenericHeader) : Bytes := [h.command, h.version, 0, 0]

/-- Reads a header from the first octets. -/
def read (b : Bytes) : Except DecodeError GenericHeader := do
  ensureLength "generic netlink header" b size
  return { command := b.headD 0, version := (b.drop 1).headD 0 }

end GenericHeader

/-- The header that names a datapath by the index of its interface, or none by zero. -/
structure DatapathHeader where
  /-- Index of the interface. -/
  ifindex : Int32
  deriving DecidableEq, Repr

namespace DatapathHeader

/-- Number of octets of the header. -/
def size : Nat := 4

/-- The octets of the header. -/
def toBytes (h : DatapathHeader) : Bytes := Bytes.ofI32 h.ifindex

/-- Reads a header from the first octets. -/
def read (b : Bytes) : Except DecodeError DatapathHeader := do
  ensureLength "datapath header" b size
  return { ifindex := Bytes.toI32 b }

end DatapathHeader

/-! ### Error report -/

/-- What the kernel reports of a request: an error, or zero for an acknowledgement. -/
structure KernelError where
  /-- The error number, negated. -/
  code : Int32
  /-- The header of the request. -/
  request : MessageHeader
  deriving DecidableEq, Repr

namespace KernelError

/-- Number of octets of the report. -/
def size : Nat := 4 + MessageHeader.size

/-- Reads a report from the first octets. -/
def read (b : Bytes) : Except DecodeError KernelError := do
  ensureLength "netlink error" b size
  return { code := Bytes.toI32 b, request := ← MessageHeader.read (b.drop 4) }

/-- The error number, which any code but the least has. -/
def errno (e : KernelError) : Except Overflow Int32 := Errno.negate e.code

/-- The wording of the error. -/
def message (e : KernelError) : Except Overflow String := do
  return (SocketError.system (← e.errno)).message

end KernelError

end VSwitch
