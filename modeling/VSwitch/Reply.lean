import VSwitch.Draft
import VSwitch.Flags
import VSwitch.Vocabulary.Netlink

/-!
# Replies written on receipt

An answer repeats the sequence number of the message that it answers, which is not known before
that message is sent. So a reply is kept as a draft and written when it is received.

* `VSwitch.Reply.toBytes` writes a reply to a message of a sequence number;
* `VSwitch.Reply.done`, `VSwitch.Reply.refusal` and `VSwitch.Reply.value` are common replies.
-/

namespace VSwitch

/-- A message from the kernel that is not written yet. -/
structure Reply where
  /-- The message. -/
  draft : Draft
  /-- How far its sequence number is from that of the message it answers. -/
  offset : UInt32
  /-- The port that it is for. -/
  port : UInt32
  deriving DecidableEq, Repr

namespace Reply

/-- The octets of the reply to a message of a sequence number. -/
def toBytes (r : Reply) (sequence : UInt32) : Bytes :=
  let octets := r.draft.align.bytes
  ((octets.patch 0 (Bytes.ofNat 4 octets.length)).patch 8 (Bytes.ofU32 (sequence + r.offset))).patch
    12 (Bytes.ofU32 r.port)

/-- The end of a dump. -/
def done : Draft :=
  (Draft.start multiFlag (Vocabulary.number MessageType.done)).append (List.replicate 4 0)

/-- The report of an error, or an acknowledgement if the number is zero. It does not repeat the
request. -/
def refusal (errno : Int32) : Draft :=
  (Draft.start 0 (Vocabulary.number MessageType.error)).append
    (Bytes.ofI32 (-errno) ++ List.replicate MessageHeader.size 0)

/-- A part of a dump: a message of a type with one number. -/
def value (type : UInt16) (v : UInt32) : Draft :=
  (Put.runAll [.genericHeader 1 1, .u32 1 v] (Draft.start multiFlag type)).2

end Reply

end VSwitch
