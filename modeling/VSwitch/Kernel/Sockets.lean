import VSwitch.Kernel.Basic

/-!
# Sockets

Opening, binding and using sockets. What a failing operation has opened it closes again.

* `VSwitch.Kernel.connect` opens a netlink socket and joins groups;
* `VSwitch.Kernel.onLink` exchanges messages over a socket, seen as a link;
* `VSwitch.Kernel.probe` makes the kernel load the module of the switch, at most once.
-/

namespace VSwitch

namespace Kernel

/-- Opens a socket and returns its number. -/
def openSocket (domain : AddressFamily) (protocol : Int32) : Sys Nat := do
  let number := (← get).sockets.length
  ask .openSocket (.openSocket number (Vocabulary.number domain) protocol)
  let chosen : Announcement := ⟨UInt32.ofNat (5000 + number), []⟩
  modify fun k =>
    -- The socket that loads the module has no place among those of netlink.
    let (s, announced) := match domain with
      | .netlink => (k.announced.headD chosen, k.announced.tail)
      | _ => (chosen, k.announced)
    { k with
      sockets := k.sockets ++ [⟨s.port, s.replies, [], true, true⟩]
      announced := announced }
  return number

/-- Binds a socket to a port, or to one that the kernel chooses if it is zero. -/
def bind (number : Nat) (port : UInt32) : Sys Unit := do
  ask .bind (.bind number (Vocabulary.number AddressFamily.netlink) port)
  if port ≠ 0 then adjust number fun s => { s with port := port }

/-- Joins a multicast group. -/
def join (number : Nat) (group : UInt32) : Sys Unit := ask .setOption (.join number group)

/-- Joins multicast groups one after the other. -/
def joinEach (number : Nat) : List UInt32 → Sys Unit
  | [] => return
  | group :: rest => do
    join number group
    joinEach number rest

/-- Limits how long receiving may wait. -/
def limitReceive (number : Nat) (timeout? : Option Duration) : Sys Unit :=
  ask .setOption (.limit number (TimeValue.ofDuration timeout?))

/-- The port of a socket. -/
def portOf (number : Nat) : Sys UInt32 := do
  ask .socketName (.socketName number)
  return ((← get).socket number).port

/-- Makes receiving fail rather than wait. -/
def setNonblocking (number : Nat) : Sys Unit := do
  ask .control (.getFlags number)
  ask .control (.setNonblocking number)
  adjust number fun s => { s with isBlocking := false }

/-- Opens a netlink socket of a protocol, binds it to a port and joins groups. -/
def connect (protocol : Int32) (port? : Option UInt32) (groups : Groups) : Act Kernel Nat := do
  let number ← (openSocket .netlink protocol).act
  Act.undoing (close (.socket number)) do
    Sys.act do
      bind number (port?.getD 0)
      joinEach number groups.numbers
    return number

/-! ### Exchanging messages -/

/-- The link that a socket is. -/
def link (k : Kernel) (number : Nat) : Link where
  inbox := (k.socket number).replies
  drained := .system Errno.tryAgain
  outcomes := k.outcomes
  calls := []
  nextSequence := k.nextSequence
  logbook := k.logbook

/-- What a call on a link is in the record. -/
def deedOf (number : Nat) : Call → Option Deed
  | .send message .delivered => some (.done (.send number message))
  | .send message _ => some (.refused (.send number message))
  | .receive => none

/-- The kernel after an exchange over a socket. -/
def putLink (number : Nat) (l : Link) (k : Kernel) : Kernel :=
  { k with
    sockets := k.sockets.modify number fun s => { s with replies := l.inbox }
    outcomes := l.outcomes
    deeds := l.calls.filterMap (deedOf number) ++ k.deeds
    nextSequence := l.nextSequence
    logbook := l.logbook }

/-- Exchanges messages over a socket. -/
def onLink {α : Type} (number : Nat) (act : Act Link α) : Act Kernel α :=
  Act.within (fun k => k.link number) (putLink number) act

/-- Receives a datagram from a socket. -/
def receive (number : Nat) : Act Kernel Bytes := do
  let s := (← get).socket number
  if s.isBlocking then onLink number Link.receive
  else
    match s.pending with
    | [] => throw (.socket (.system Errno.tryAgain))
    | receipt :: rest =>
      adjust number fun s => { s with pending := rest }
      match receipt with
      | .datagram octets => return octets
      | .fault errno => throw (.socket (.system errno))

/-- Receives a datagram into a buffer. Gives the length of the datagram, of which only a part may
be in the buffer. -/
def receiveInto (number : Nat) (buffer : Bytes) : Act Kernel (Nat × Bytes) := do
  let datagram ← receive number
  return (datagram.length, Buffer.overlay buffer datagram)

/-- Lets something arrive unasked. Tells whether the socket was there to get it. -/
def deliver (number : Nat) (receipt : Receipt) : StateM Kernel Bool := do
  if ((← get).socket number).isOpen then
    adjust number fun s => { s with pending := s.pending ++ [receipt] }
    return true
  else return false

/-! ### The module -/

/-- Name of the module of the switch, which is asked for as if it were a device. -/
def moduleName : String := "openvswitch"

/-- Asks for a device by name. -/
def seekDevice (number : Nat) (name : String) : Sys Unit := do
  ask .device (.device number name)
  unless (← get).devices.contains name do throw Errno.noDevice

/-- Makes the kernel load the module of the switch, if that has not been tried yet, by asking for a
device of the name of the module. -/
def probe : StateM Kernel Unit := do
  if (← get).probed then return
  modify fun k => { k with probed := true }
  match ← (openSocket .inet 0).run with
  | .error errno =>
    let cause := (SocketError.system errno).message
    warn s!"Could not open socket to load the openvswitch module: {cause}"
  | .ok number =>
    -- There is no such device as a rule; that the module has been loaded does not show.
    match ← (seekDevice number moduleName).run with
    | .error errno =>
      debug s!"Module load probe finished: {(SocketError.system errno).message}"
    | .ok () => pure ()
    close (.socket number)

end Kernel

end VSwitch
