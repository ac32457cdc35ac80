import VSwitch.Datagram
import VSwitch.Failure

/-!
# Handling what arrives unasked

A handler takes messages one by one and is told of failures, its own included.

* `VSwitch.Handler.dispatch` hands over every message of a datagram. A message that the handler
  fails on does not keep it from the next ones; what is no message ends the datagram.
-/

namespace VSwitch

/-- What takes messages that arrive unasked. -/
structure Handler (σ : Type) where
  /-- Takes a message. What it fails with is a failure, and no panic. -/
  handle : Bytes → Act σ Unit
  /-- Takes note of a failure; a fatal one is the last thing that it is told. -/
  report : Failure → (fatal : Bool) → StateM σ Unit

namespace Handler

variable {σ : Type} [Journal σ] (h : Handler σ)

/-- Hands over a message and reports a failure. -/
def handleOne (message : Bytes) : StateM σ Unit := do
  match ← (h.handle message).run with
  | .ok () => return
  | .error e =>
    warnOf (e.wordedBehind "Failed to handle message: ")
    h.report e false

/-- Hands over messages one after the other. -/
def handleEach : List Bytes → StateM σ Unit
  | [] => return
  | message :: rest => do
    h.handleOne message
    handleEach rest

/-- Hands over the messages of a datagram, and reports what follows them if it is no message. -/
def dispatch (datagram : Bytes) : StateM σ Unit := do
  let (messages, ending) := Datagram.messages datagram
  h.handleEach messages
  match ending with
  | none => return
  | some e =>
    warn s!"Dropping malformed datagram: {e.message}"
    h.report (.decode e) false

end Handler

end VSwitch
