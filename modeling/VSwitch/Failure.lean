import VSwitch.EncodeError
import VSwitch.Header
import VSwitch.Journal

/-!
# Failures

What an operation on the kernel can fail with. Computations that may fail run over a state and
keep the state they have reached when they fail: `VSwitch.Act σ α`. A computation that panics ends
in the same way, with the overflow that it panics for, and whatever passes failures on passes this
on, too.

* `VSwitch.Failure.message` words a failure and `VSwitch.Failure.source?` what lies behind it;
* `VSwitch.Failure.errno?` is the error number of the kernel or of the system;
* `VSwitch.Failure.isKernelErrno` tells an answer of the kernel, which settles a request, from an
  error of the socket with the same number, which does not.

All of them need the number of an error that the kernel has reported, and panic if there is none.
-/

namespace VSwitch

/-- What an operation fails with. -/
inductive Failure
  /-- Something else. -/
  | other (text : String)
  /-- The kernel answered with an error. -/
  | kernel (report : KernelError)
  /-- A message could not be written. -/
  | encode (cause : EncodeError)
  /-- A message could not be read. -/
  | decode (cause : DecodeError)
  /-- The socket failed. -/
  | socket (cause : SocketError)
  /-- A message is for another port. -/
  | wrongPort (expected found : UInt32)
  /-- A family is not there, even after loading its module was tried. -/
  | familyUnavailable (name : String)
  /-- An answer is about another datapath. -/
  | wrongDatapath (expected found : Int32)
  /-- A datagram did not fit into the receive buffer. -/
  | truncated (length bufferLength : Nat)
  /-- The session is closed. -/
  | closed
  /-- A family has no group of a name. -/
  | noGroup (group family : String)
  /-- There is no failure to tell of: the program has panicked. -/
  | overflow (cause : Overflow)
  deriving DecidableEq, Repr

namespace Failure

/-- The wording of the failure. -/
def message : Failure → Except Overflow String
  | .other text => .ok text
  | .kernel report => do
    let cause ← report.message
    return s!"Error response received from netlink: {cause}"
  | .encode cause => .ok s!"Serialization error: {cause.message}"
  | .decode cause => .ok s!"Deserialization error: {cause.message}"
  | .socket cause => .ok s!"Netlink socket failure: {cause.message}"
  | .wrongPort expected found => .ok s!"PID {found} does not match the socket PID {expected}"
  | .familyUnavailable name =>
    .ok s!"Generic netlink family {name} is not available; is the kernel module loaded?"
  | .wrongDatapath expected found =>
    .ok s!"Response is for datapath {found} but the request was for datapath {expected}"
  | .truncated length bufferLength =>
    .ok (s!"Received a {length} byte datagram into a {bufferLength} byte buffer; " ++
      "raise recv_buffer_len")
  | .closed => .ok "The datapath client has been closed"
  | .noGroup group family =>
    .ok s!"No generic netlink multicast group {group} in family {family}"
  | .overflow cause => .error cause

/-- The wording of the failure behind another text, if there is a wording. -/
def wordedBehind (text : String) (e : Failure) : Option String :=
  e.message.toOption.map (text ++ ·)

/-- The wording of what lies behind the failure, if something does. -/
def source? : Failure → Except Overflow (Option String)
  | .kernel report => return some (← report.message)
  | .encode cause => .ok (some cause.message)
  | .decode cause => .ok (some cause.message)
  | .socket cause => .ok (some cause.message)
  | .overflow cause => .error cause
  | _ => .ok none

/-- The error number of the kernel or of the system, if there is one. -/
def errno? : Failure → Except Overflow (Option Int32)
  | .kernel report => return some (← report.errno)
  | .socket cause => .ok cause.errno?
  | .overflow cause => .error cause
  | _ => .ok none

/-- Whether the kernel answered with this error number. -/
def isKernelErrno (n : Int32) : Failure → Except Overflow Bool
  | .kernel report => return (← report.errno) == n
  | .overflow cause => .error cause
  | _ => .ok false

/-- Whether the kernel refused to create what exists already. -/
def isAlreadyExists : Failure → Except Overflow Bool := isKernelErrno Errno.alreadyExists

end Failure

/-! ### Computations that may fail -/

/-- Computations over a state that may fail and keep the state they have reached. -/
abbrev Act (σ α : Type) := ExceptT Failure (StateM σ) α

namespace Act

variable {σ τ α : Type}

/-- Runs a computation from a state. -/
def outcome (act : Act σ α) (s : σ) : Except Failure α × σ := act.run s

/-- Fails as a message that cannot be read does. -/
def ofDecode (r : Except DecodeError α) : Act σ α := fun s => (r.mapError .decode, s)

/-- Fails as a message that cannot be written does. -/
def ofEncode (r : Except EncodeError α) : Act σ α := fun s => (r.mapError .encode, s)

/-- Panics for want of a number. -/
def ofNumber (r : Except Overflow α) : Act σ α := fun s => (r.mapError .overflow, s)

/-- Fails as a socket does. -/
def ofSocket (r : Except SocketError α) : Act σ α := fun s => (r.mapError .socket, s)

/-- Runs a computation on a part of the state, which `part` reads and `put` writes. -/
def within (part : σ → τ) (put : τ → σ → σ) (act : Act τ α) : Act σ α := fun s =>
  let (r, t) := act (part s)
  (r, put t s)

/-- Runs a computation on the first part of a pair. -/
def onFirst (act : Act τ α) : Act (τ × σ) α := fun (t, s) =>
  let (r, t') := act t
  (r, t', s)

/-- Runs a computation on the second part of a pair. -/
def onSecond (act : Act σ α) : Act (τ × σ) α := fun (t, s) =>
  let (r, s') := act s
  (r, t, s')

/-- Runs a computation over a pair from a given first part, and hands out what became of it. -/
def carrying (t : τ) (act : Act (τ × σ) α) : Act σ (α × τ) := fun s =>
  let (r, t', s') := act (t, s)
  (r.map fun a => (a, t'), s')

/-- Runs a computation over a pair from a given first part, which is forgotten afterwards. -/
def starting (t : τ) (act : Act (τ × σ) α) : Act σ α := fun s =>
  let (r, _, s') := act (t, s)
  (r, s')

/-- Runs a computation and hands out a failure instead of failing. -/
def attempt (act : Act σ α) : Act σ (Except Failure α) := fun s =>
  let (r, s') := act s
  (.ok r, s')

/-- Runs a computation and, if it fails, what undoes it. -/
def undoing (undo : StateM σ Unit) (act : Act σ α) : Act σ α := fun s =>
  match act s with
  | (.ok a, s') => (.ok a, s')
  | (.error e, s') => (.error e, (undo s').2)

end Act

end VSwitch
