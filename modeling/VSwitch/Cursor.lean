import VSwitch.Attribute.Set
import VSwitch.Failure

/-!
# Reading a message

A cursor walks over the octets of one message: the headers first, then the attributes. A step
takes a header or a number of octets and moves on to the next multiple of four; a step that fails
before it has taken anything leaves the cursor where it was, and one that does not like what it
has taken leaves it behind that.

* `VSwitch.Scan` is what steps run in: they may fail, and keep the cursor when they do;
* `VSwitch.Cursor.checkHeader` compares a message with the request it may answer;
* `VSwitch.Cursor.checkHeaders` reads the headers that every message of the switch starts with.
-/

namespace VSwitch

/-- A place within a message. -/
structure Cursor where
  /-- The message. -/
  data : Bytes
  /-- Number of octets taken. -/
  pos : Nat
  deriving DecidableEq, Repr

/-- Steps over a message. -/
abbrev Scan (ε α : Type) := ExceptT ε (StateM Cursor) α

namespace Cursor

/-- The start of a message. -/
def start (data : Bytes) : Cursor := ⟨data, 0⟩

/-- The octets that are not taken yet. -/
def remaining (c : Cursor) : Bytes := c.data.drop c.pos

/-- The outcome of steps from the start of a message. -/
def scan {ε α : Type} (steps : Scan ε α) (message : Bytes) : Except ε α :=
  (steps.run (start message)).1

/-- Takes `length` octets and moves on to the next multiple of four. -/
def advance (context : String) (length : Nat) : Scan DecodeError Bytes := do
  let c ← get
  let rest := c.remaining
  ensureLength context rest length
  -- What is taken last need not be padded.
  set { c with pos := c.pos + (rest.take (align4 length)).length }
  return rest.take length

/-- Takes the header of the message. -/
def messageHeader : Scan DecodeError MessageHeader := do
  MessageHeader.read (← advance "netlink header" MessageHeader.size)

/-- Takes the header of the message, which has to be of a type. -/
def expectType (type : UInt16) : Scan DecodeError MessageHeader := do
  let h ← messageHeader
  if h.type ≠ type then throw (.unexpectedType type h.type)
  return h

/-- Takes the header of generic netlink, whose command has to be one of those listed. -/
def expectCommandOf (commands : List UInt8) : Scan DecodeError GenericHeader := do
  let h ← GenericHeader.read (← advance "generic netlink header" GenericHeader.size)
  unless commands.contains h.command do throw (.unexpectedCommand commands h.command)
  return h

/-- Takes the header of generic netlink, which has to be of a command. -/
def expectCommand (command : UInt8) : Scan DecodeError GenericHeader := expectCommandOf [command]

/-- Takes the header that names a datapath. -/
def datapathHeader : Scan DecodeError DatapathHeader := do
  DatapathHeader.read (← advance "datapath header" DatapathHeader.size)

/-- Moves behind the last octet. -/
def finish : Scan DecodeError Unit := modify fun c => { c with pos := c.data.length }

/-- Takes the rest of the message as a set of attributes. -/
def attributes : Scan DecodeError AttributeSet := do
  let attributes ← AttributeSet.parse (← get).remaining
  finish
  return attributes

/-- Takes the rest of the message as a list of attributes. -/
def attributeList : Scan DecodeError (List (UInt16 × Bytes)) := do
  let attributes ← Attribute.parse (← get).remaining
  finish
  return attributes

/-! ### Answers -/

/-- What a message is to a request of the same port. -/
inductive Relevance
  /-- It answers the request; an acknowledgement does, too. -/
  | answer (header : MessageHeader)
  /-- It carries another sequence number. -/
  | stray (header : MessageHeader)
  deriving DecidableEq, Repr

/-- Steps whose failure to read is a failure of the operation. -/
def reading {α : Type} (steps : Scan DecodeError α) : Scan Failure α := fun c =>
  let (r, c') := steps c
  (r.mapError .decode, c')

/-- Takes the header of the message and compares it with a request. A message for another port is
a failure, and so is an error that the kernel reports of this request. -/
def checkHeader (port sequence : UInt32) : Scan Failure Relevance := do
  let h ← reading messageHeader
  if h.port ≠ port then throw (.wrongPort port h.port)
  if h.sequence ≠ sequence then return .stray h
  -- Only a report about this request counts, so the sequence number has been compared before.
  if h.isError then
    let report ← reading (do KernelError.read (← get).remaining)
    if report.code ≠ 0 then throw (.kernel report)
  return .answer h

/-- Takes the headers of a message of a family, whose command has to be one of those listed. -/
def checkHeaders (family : UInt16) (commands : List UInt8) :
    Scan DecodeError (GenericHeader × DatapathHeader) := do
  let _ ← expectType family
  let generic ← expectCommandOf commands
  let datapath ← datapathHeader
  return (generic, datapath)

end Cursor

end VSwitch
