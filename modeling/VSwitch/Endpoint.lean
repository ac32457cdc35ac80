import VSwitch.Buffer
import VSwitch.Cursor
import VSwitch.Datagram
import VSwitch.Link

/-!
# Requests and dumps

An endpoint is a link with the port that it is bound to and a receive buffer. A request is sent and
datagrams are received until the message that answers it has come; a dump is received until its
end. Messages that carry another sequence number are left over from earlier exchanges and passed
over, a message for another port is a failure, and so is an error that the kernel reports.

* `VSwitch.Endpoint.request` returns the message that answers a request;
* `VSwitch.Endpoint.dump` hands each message of a dump to a consumer, and `VSwitch.Endpoint.collect`
  decodes them all;
* `VSwitch.Endpoint.exchange` is what both are made of: it receives until a judge of the messages
  has an outcome;
* `VSwitch.Endpoint.receive` hands over the messages of one datagram.
-/

namespace VSwitch

/-- A link with the port that it is bound to. -/
structure Endpoint where
  /-- The port. -/
  port : UInt32
  /-- The receive buffer. -/
  buffer : Bytes
  /-- The link. -/
  link : Link
  deriving DecidableEq, Repr

/-- Hands messages over, one after the other, until one of them decides. What follows the last
message of a malformed datagram is a failure. -/
def walk {σ α : Type} (judge : Bytes → Act σ (Option α)) :
    (messages : List Bytes) → (ending : Option DecodeError) → Act σ (Option α)
  | [], none => return none
  | [], some e => throw (.decode e)
  | message :: rest, ending => do
    match ← judge message with
    | some a => return some a
    | none => walk judge rest ending

namespace Endpoint

instance : Journal Endpoint where
  write l s := { s with link := Journal.write l s.link }

variable {τ α : Type}

/-- An endpoint of a link, with an unused buffer. -/
def start (link : Link) (port : UInt32) (bufferLength : Nat) : Endpoint :=
  ⟨port, Buffer.fresh bufferLength, link⟩

/-- Runs a computation on the link. -/
def onLink (act : Act Link α) : Act Endpoint α :=
  Act.within link (fun l s => { s with link := l }) act

/-- Sends a message and returns its sequence number. -/
def send (draft : Draft) : Act Endpoint UInt32 := onLink (Link.transmit draft)

/-- Keeps a datagram in the buffer and returns it, if it fits. -/
def keep (datagram : Bytes) : Act Endpoint Bytes := do
  modify fun s => { s with buffer := Buffer.overlay s.buffer datagram }
  MonadExcept.ofExcept (Buffer.received (← get).buffer datagram.length)

/-- Receives the first arrival into the buffer. -/
def accept (arrival : Arrival) (rest : List Arrival) : Act Endpoint Bytes := do
  keep (← onLink (Link.arrive arrival rest))

/-- Receives until a judge of the messages has an outcome; `arrivals` are the inbox. -/
def exchangeFrom (judge : Bytes → Act (τ × Endpoint) (Option α)) :
    (arrivals : List Arrival) → Act (τ × Endpoint) α
  | [] => Act.onSecond (onLink Link.starve)
  | arrival :: rest => do
    let datagram ← Act.onSecond (accept arrival rest)
    let (messages, ending) := Datagram.messages datagram
    match ← walk judge messages ending with
    | some a => return a
    | none => exchangeFrom judge rest

/-- Receives until a judge of the messages has an outcome. -/
def exchange (judge : Bytes → Act (τ × Endpoint) (Option α)) : Act (τ × Endpoint) α := do
  exchangeFrom judge (← get).2.link.inbox

/-- What a message is to a request of this endpoint. -/
def check (sequence : UInt32) (message : Bytes) : Act Endpoint Cursor.Relevance := do
  MonadExcept.ofExcept (Cursor.scan (Cursor.checkHeader (← get).port sequence) message)

/-- Takes the message that answers a request. -/
def answer (sequence : UInt32) (message : Bytes) : Act (τ × Endpoint) (Option Bytes) := do
  match ← Act.onSecond (check sequence message) with
  | .answer _ => return some message
  | .stray h =>
    debug s!"Skipping message with sequence number {h.sequence} while waiting for {sequence}"
    return none

/-- Sends a request and returns the message that answers it. -/
def request (draft : Draft) : Act Endpoint Bytes := do
  let sequence ← send draft
  Act.starting () (exchange (answer sequence))

/-- Takes part of a dump: it ends with a message that says so or with an acknowledgement. -/
def part (consume : Bytes → Act τ Unit) (sequence : UInt32) (message : Bytes) :
    Act (τ × Endpoint) (Option Unit) := do
  match ← Act.onSecond (check sequence message) with
  | .answer h =>
    -- A report of an error that is left here is an acknowledgement.
    if h.isDone || h.isError then return some ()
    Act.onFirst (consume message)
    return none
  | .stray h =>
    debug s!"Skipping message with sequence number {h.sequence} during dump {sequence}"
    return none

/-- Sends a request for a dump and hands each message of the dump to `consume`, whose failure ends
the dump. -/
def dump (draft : Draft) (consume : Bytes → Act τ Unit) : Act (τ × Endpoint) Unit := do
  let sequence ← Act.onSecond (send draft)
  exchange (part consume sequence)

/-- Adds what a message says to what is there, the newest first. -/
def gather (decode : Bytes → Except Failure α) (message : Bytes) : Act (List α) Unit := do
  let a ← MonadExcept.ofExcept (decode message)
  modify (a :: ·)

/-- Sends a request for a dump and returns what its messages say. -/
def collect (draft : Draft) (decode : Bytes → Except Failure α) : Act Endpoint (List α) :=
  Act.starting [] do
    dump draft (gather decode)
    return (← get).1.reverse

/-- Receives one datagram and hands its messages over until one of them decides. -/
def receive (judge : Bytes → Act (τ × Endpoint) (Option α)) : Act (τ × Endpoint) (Option α) := do
  let datagram ← Act.onSecond do keep (← onLink Link.receive)
  let (messages, ending) := Datagram.messages datagram
  walk judge messages ending

end Endpoint

end VSwitch
