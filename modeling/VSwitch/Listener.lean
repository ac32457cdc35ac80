import VSwitch.Buffer
import VSwitch.Handler

/-!
# Listeners

A listener waits for its socket and for a signal to stop. When the socket is ready, it receives
until there is nothing left and hands the datagrams to its handler. It ends with the signal, or
with a failure of the system that is not passing; such a failure is reported as fatal.

* `VSwitch.Wake` is what ends a wait, and `VSwitch.Receipt` what receiving gives;
* `VSwitch.Listener.run` goes through wakes until one of them ends the listener.
-/

namespace VSwitch

/-- What receiving gives. -/
inductive Receipt
  /-- A datagram. -/
  | datagram (octets : Bytes)
  /-- An error of the system. -/
  | fault (errno : Int32)
  deriving DecidableEq, Repr

/-- What is ready after a wait. -/
inductive Ready
  /-- The signal, which tells the listener to stop if it can be read. -/
  | signal (readable : Bool)
  /-- The socket, with what receiving gives until there is nothing left. -/
  | socket (receipts : List Receipt)
  deriving DecidableEq, Repr

/-- What ends a wait. -/
inductive Wake
  /-- Waiting fails. -/
  | fault (errno : Int32)
  /-- Something is ready, or nothing is. -/
  | ready (what : List Ready)
  deriving DecidableEq, Repr

/-- What a listener keeps. -/
structure Listener where
  /-- The port of its socket. -/
  port : UInt32
  /-- The receive buffer. -/
  buffer : Bytes
  deriving DecidableEq, Repr

namespace Listener

variable {σ : Type} [Journal σ] (h : Handler σ)

/-- The listener on a port. -/
def start (port : UInt32) (bufferLength : Nat) : Listener := ⟨port, Buffer.fresh bufferLength⟩

/-- Notes that the listener has started. -/
def announce (l : Listener) : StateM σ Unit := debug s!"Listener on port ID {l.port} started"

/-- Notes that the listener has been told to stop. -/
def farewell (l : Listener) : StateM σ Unit :=
  debug s!"Listener on port ID {l.port} signaled to exit; exiting"

/-- Takes a datagram. One that did not fit is reported and dropped. -/
def accept (octets : Bytes) : StateM (Listener × σ) Unit := fun (l, s) =>
  let l := { l with buffer := Buffer.overlay l.buffer octets }
  match Buffer.received l.buffer octets.length with
  | .ok datagram => ((), l, (h.dispatch datagram s).2)
  | .error e =>
    let act : StateM σ Unit := do
      warnOf (e.wordedBehind s!"Dropping datagram on port ID {l.port}: ")
      h.report e false
    ((), l, (act s).2)

/-- Reports a failure that ends the listener. -/
def fail (text : String) (errno : Int32) : StateM (Listener × σ) Unit := fun (l, s) =>
  let act : StateM σ Unit := do
    complain text
    h.report (.socket (.system errno)) true
  ((), l, (act s).2)

/-- Goes through what receiving gives, until there is nothing to receive for now. Tells whether the
listener goes on. -/
def drain : List Receipt → StateM (Listener × σ) Bool
  | [] => return true
  | .datagram octets :: rest => do
    accept h octets
    drain rest
  | .fault errno :: rest => do
    -- There is nothing left to receive for now.
    if errno = Errno.tryAgain then return true
    else if errno = Errno.interrupted then drain rest
    else
      let cause := (SocketError.system errno).message
      fail h s!"Receive failed on listener port ID {(← get).1.port}: {cause}; exiting" errno
      return false

/-- Goes through what is ready. Tells whether the listener goes on. -/
def attend : List Ready → StateM (Listener × σ) Bool
  | [] => return true
  | .signal readable :: rest => do
    if readable then
      farewell (← get).1
      return false
    else attend rest
  | .socket receipts :: rest => do
    if ← drain h receipts then attend rest else return false

/-- Goes through wakes. Tells whether the listener goes on. -/
def run : List Wake → StateM (Listener × σ) Bool
  | [] => return true
  | .fault errno :: rest => do
    if errno = Errno.interrupted then run rest
    else
      let cause := (SocketError.system errno).message
      fail h s!"Failed to epoll file descriptors: {cause}; exiting listener" errno
      return false
  | .ready what :: rest => do
    if ← attend h what then run rest else return false

/-- The life of a listener: it starts, goes through wakes and is told to stop. Tells whether it was
going on when it was told so, and whether it was not afterwards. -/
def live (wakes : List Wake) : StateM (Listener × σ) (Bool × Bool) := do
  announce (← get).1
  let before ← run h wakes
  let after ← run h [.ready [.signal true]]
  return (before, !after)

end Listener

end VSwitch
