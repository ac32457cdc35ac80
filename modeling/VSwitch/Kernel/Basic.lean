import VSwitch.Duration
import VSwitch.Groups
import VSwitch.Link
import VSwitch.Listener
import VSwitch.Vocabulary.Netlink

/-!
# The kernel behind the sockets

What a program sees of the kernel: descriptors that are opened, used and closed by system calls,
each of which may fail, and what arrives on the sockets. What will arrive and which calls will fail
is part of the state, and so is the record of the calls made.

* `VSwitch.Kernel` is the state and `VSwitch.SystemCall` a call with the descriptor that it uses;
* `VSwitch.Kernel.ask` makes a call that may be refused;
* `VSwitch.Hosts` are the states that a kernel is part of.
-/

namespace VSwitch

/-- A descriptor of a program. Descriptors are numbered as they are opened, and a number is not
used again. -/
inductive Descriptor
  /-- A socket. -/
  | socket (number : Nat)
  /-- A signal, a duplicate of one, or a set of descriptors to wait for. -/
  | auxiliary (number : Nat)
  deriving DecidableEq, Repr

/-- The kinds of system calls that may be refused, but for those that send. -/
inductive CallKind
  | openSocket | bind | setOption | socketName | control | openSignal | duplicate | openPoll | watch
  | wait | device
  deriving DecidableEq, Repr

/-- A system call. -/
inductive SystemCall
  /-- Opens a socket of a domain and a protocol. -/
  | openSocket (socket : Nat) (domain protocol : Int32)
  /-- Binds a socket to a port of a family, or to one that the kernel chooses if it is zero. -/
  | bind (socket : Nat) (family : Int32) (port : UInt32)
  /-- Joins a multicast group. -/
  | join (socket : Nat) (group : UInt32)
  /-- Limits how long receiving may wait. -/
  | limit (socket : Nat) (time : TimeValue)
  /-- Asks for the port of a socket. -/
  | socketName (socket : Nat)
  /-- Asks for the flags of a socket. -/
  | getFlags (socket : Nat)
  /-- Makes receiving fail rather than wait. -/
  | setNonblocking (socket : Nat)
  /-- Sends a message. -/
  | send (socket : Nat) (message : Bytes)
  /-- Asks for a device by name, which loads a module of that name if there is no such device. -/
  | device (socket : Nat) (name : String)
  /-- Opens a signal. -/
  | openSignal (auxiliary : Nat)
  /-- Duplicates a signal. -/
  | duplicate (signal auxiliary : Nat)
  /-- Opens a set of descriptors to wait for. -/
  | openPoll (auxiliary : Nat)
  /-- Adds a descriptor to such a set. -/
  | watch (poll : Nat) (added : Descriptor)
  /-- Closes a descriptor. -/
  | close (closed : Descriptor)
  deriving DecidableEq, Repr

/-- A call in the record. -/
inductive Deed
  /-- The call was carried out. -/
  | done (call : SystemCall)
  /-- The call was refused. -/
  | refused (call : SystemCall)
  deriving DecidableEq, Repr

/-- A socket. -/
structure Socket where
  /-- The port. -/
  port : UInt32
  /-- What receiving gives as long as it may wait. -/
  replies : List Arrival
  /-- What has arrived unasked. -/
  pending : List Receipt
  /-- Whether receiving waits. -/
  isBlocking : Bool
  /-- Whether the socket has not been closed. -/
  isOpen : Bool
  deriving DecidableEq, Repr

/-- What is known of a socket of netlink before it is opened. -/
structure Announcement where
  /-- The port that the kernel will choose. -/
  port : UInt32
  /-- What receiving will give. -/
  replies : List Arrival
  deriving DecidableEq, Repr

/-- The kernel as a program sees it. -/
structure Kernel where
  /-- The sockets by number. -/
  sockets : List Socket
  /-- Number of other descriptors opened so far. -/
  auxiliaries : Nat
  /-- The next sockets of netlink. -/
  announced : List Announcement
  /-- For each kind of call, which of the next ones are refused and why. -/
  refusals : CallKind → List (Option Int32)
  /-- What becomes of the next messages. -/
  outcomes : List SendOutcome
  /-- The names of the devices there are. -/
  devices : List String
  /-- The calls made so far, the latest first. -/
  deeds : List Deed
  /-- Whether the module has been asked for. -/
  probed : Bool
  /-- The sequence number of the next message. -/
  nextSequence : UInt32
  /-- The lines of the journal. -/
  logbook : Logbook

namespace Kernel

instance : Journal Kernel where
  write l k := { k with logbook := Journal.write l k.logbook }

/-- A kernel that nothing has been asked of. -/
def start (nextSequence : UInt32) (probed : Bool) : Kernel where
  sockets := []
  auxiliaries := 0
  announced := []
  refusals := fun _ => []
  outcomes := []
  devices := []
  deeds := []
  probed := probed
  nextSequence := nextSequence
  logbook := .empty

/-- System calls, which fail with an error number. -/
abbrev Sys (α : Type) := ExceptT Int32 (StateM Kernel) α

/-- Fails as a socket does. -/
def Sys.act {α : Type} (call : Sys α) : Act Kernel α := fun k =>
  let (r, k) := call k
  (r.mapError fun errno => .socket (.system errno), k)

/-- Adds a call to the record. -/
def record (deed : Deed) : StateM Kernel Unit := modify fun k => { k with deeds := deed :: k.deeds }

/-- What becomes of the next call of a kind. -/
def refusal? (kind : CallKind) : StateM Kernel (Option Int32) := fun k =>
  ((k.refusals kind).headD none,
    { k with refusals := fun c => if c = kind then (k.refusals c).tail else k.refusals c })

/-- Makes a call that may be refused. -/
def ask (kind : CallKind) (call : SystemCall) : Sys Unit := do
  match ← refusal? kind with
  | none => record (.done call)
  | some errno =>
    record (.refused call)
    throw errno

/-- A socket, or one that is closed if there is none of that number. -/
def socket (k : Kernel) (number : Nat) : Socket :=
  (k.sockets[number]?).getD ⟨0, [], [], true, false⟩

/-- Changes a socket. -/
def adjust (number : Nat) (change : Socket → Socket) : StateM Kernel Unit :=
  modify fun k => { k with sockets := k.sockets.modify number change }

/-- Closes a descriptor. -/
def close (d : Descriptor) : StateM Kernel Unit := do
  record (.done (.close d))
  match d with
  | .socket number => adjust number fun s => { s with isOpen := false }
  | .auxiliary _ => return

end Kernel

/-! ### States with a kernel in them -/

/-- States that a kernel is part of. -/
class Hosts (σ : Type) where
  /-- The kernel. -/
  kernel : σ → Kernel
  /-- The state with another kernel. -/
  put : Kernel → σ → σ

namespace Hosts

instance : Hosts Kernel where
  kernel k := k
  put k _ := k

instance {τ σ : Type} [Hosts σ] : Hosts (τ × σ) where
  kernel s := kernel s.2
  put k s := (s.1, put k s.2)

variable {σ α : Type} [Hosts σ]

/-- Runs a computation on the kernel. -/
def act (a : Act Kernel α) : Act σ α := Act.within kernel put a

/-- Runs a computation on the kernel that does not fail. -/
def run (a : StateM Kernel α) : StateM σ α := fun s =>
  let (r, k) := a (kernel s)
  (r, put k s)

end Hosts

end VSwitch
