import VSwitch.Attribute.Tree
import VSwitch.Flags

/-!
# Requests

What a message to the kernel says, before it is written: the family that it goes to, the command,
the datapath that it is about and its attributes. `VSwitch.Request.draft` writes it, which fails if
an attribute cannot be written.
-/

namespace VSwitch

/-- A message to the kernel. -/
structure Request where
  /-- Number of the family. -/
  family : UInt16
  /-- Flags of the message. -/
  flags : UInt16
  /-- Command of the family. -/
  command : UInt8
  /-- Version of the family's protocol. -/
  version : UInt8
  /-- The datapath that the message is about, by the index of its interface. Messages to the
  control family name none; others may name none by zero. -/
  datapath? : Option Int32
  /-- The calls that write the attributes. -/
  attributes : List Put

namespace Request

/-- The calls that write the message after its first header. -/
def puts (r : Request) : List Put :=
  .genericHeader r.command r.version ::
    ((r.datapath?.map Put.datapathHeader).toList ++ r.attributes)

/-- The message, but for its length and its sequence number. -/
def draft (r : Request) : Except EncodeError Draft :=
  Put.writeOn r.puts (Draft.start r.flags r.family)

end Request

end VSwitch
