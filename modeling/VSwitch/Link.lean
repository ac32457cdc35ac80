import VSwitch.Failure
import VSwitch.Reply

/-!
# Links

A link is a connection to the kernel as seen by one program: what will arrive on it, what becomes
of the messages sent, and the calls made so far. What arrives is a list that is used up from the
front, so a computation that receives until it is satisfied ends with the list.

* `VSwitch.Link.transmit` finishes a draft with the next sequence number and sends it;
* `VSwitch.Link.receive` takes one datagram;
* `VSwitch.Link.sent` are the messages that went out.
-/

namespace VSwitch

/-- What becomes of a message that is sent. -/
inductive SendOutcome
  /-- It goes out. -/
  | delivered
  /-- The system claims to have sent this many octets. -/
  | short (count : Nat)
  /-- It fails. -/
  | fault (cause : SocketError)
  deriving DecidableEq, Repr

/-- What receiving gives. -/
inductive Arrival
  /-- A datagram. -/
  | datagram (octets : Bytes)
  /-- A datagram of replies to the message sent last. -/
  | replies (replies : List Reply)
  /-- A failure. -/
  | fault (cause : SocketError)
  deriving DecidableEq, Repr

/-- A call made on a link. -/
inductive Call
  /-- A message was to be sent. -/
  | send (message : Bytes) (outcome : SendOutcome)
  /-- A datagram was to be received. -/
  | receive
  deriving DecidableEq, Repr

/-- A connection to the kernel. -/
structure Link where
  /-- What will arrive. -/
  inbox : List Arrival
  /-- What receiving fails with after that. -/
  drained : SocketError
  /-- What becomes of the next messages; those after them are delivered. -/
  outcomes : List SendOutcome
  /-- The calls made so far, the newest first. -/
  calls : List Call
  /-- The sequence number of the next message. -/
  nextSequence : UInt32
  /-- The lines of the journal. -/
  logbook : Logbook
  deriving DecidableEq, Repr

namespace Link

instance : Journal Link where
  write l s := { s with logbook := Journal.write l s.logbook }

/-- The message of a call that sent one. -/
def Call.delivered? : Call → Option Bytes
  | .send message .delivered => some message
  | _ => none

/-- The messages that went out, in order. -/
def sent (s : Link) : List Bytes := s.calls.reverse.filterMap Call.delivered?

/-- The sequence number of the message sent last, or zero before the first one. -/
def lastSequence (s : Link) : UInt32 :=
  match s.calls.findSome? Call.delivered? with
  | some message => Bytes.toU32 (message.drop 8)
  | none => 0

/-- What sending a message of `total` octets gives. -/
def SendOutcome.result (total : Nat) : SendOutcome → Except SocketError Unit
  | .delivered => .ok ()
  | .short count => if count = total then .ok () else .error (.shortWrite count total)
  | .fault cause => .error cause

/-- Sends a message. -/
def send (message : Bytes) : Act Link Unit := fun s =>
  let outcome := s.outcomes.headD .delivered
  (((SendOutcome.result message.length outcome).mapError .socket),
    { s with outcomes := s.outcomes.tail, calls := .send message outcome :: s.calls })

/-- Finishes a message with the next sequence number, sends it and returns that number. The number
is used up even if sending fails; it is not if the message cannot be finished. -/
def transmit (draft : Draft) : Act Link UInt32 := do
  let sequence := (← get).nextSequence
  let message ← Act.ofEncode (draft.finish sequence)
  modify fun s => { s with nextSequence := sequence + 1 }
  send message
  return sequence

/-- Receives the first arrival; `rest` stays in the inbox. Each reply that is written takes a
sequence number from the program, although it does not show it. -/
def arrive (arrival : Arrival) (rest : List Arrival) : Act Link Bytes := do
  -- The replies are to what was sent, so this is read before anything is written.
  let sequence := (← get).lastSequence
  modify fun s => { s with inbox := rest, calls := .receive :: s.calls }
  match arrival with
  | .datagram octets => return octets
  | .fault cause => throw (.socket cause)
  | .replies replies =>
    modify fun s => { s with nextSequence := s.nextSequence + UInt32.ofNat replies.length }
    return replies.flatMap fun r => r.toBytes sequence

/-- Receives in vain. -/
def starve {α : Type} : Act Link α := do
  modify fun s => { s with calls := .receive :: s.calls }
  throw (.socket (← get).drained)

/-- Receives a datagram. -/
def receive : Act Link Bytes := do
  match (← get).inbox with
  | [] => starve
  | arrival :: rest => arrive arrival rest

end Link

end VSwitch
