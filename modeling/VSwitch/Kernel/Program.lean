import VSwitch.Kernel.Subscription
import VSwitch.Recorder

/-!
# Programs

A program holds things of the kernel under names of its own, and notes what its listeners are
given. What is held under a name is given back when the name is used again or the program ends.

* `VSwitch.Program` is the state of a program and `VSwitch.Holding` what it may hold;
* `VSwitch.Program.openClient`, `VSwitch.Program.consumeMisses`, `VSwitch.Program.consumeEvents` and
  `VSwitch.Program.spawn` make what listens and what is asked;
* `VSwitch.Program.inject` lets something arrive on a socket and be handled.
-/

namespace VSwitch

/-- What a program may hold. -/
inductive Holding
  /-- A client. -/
  | client (c : Client)
  /-- A socket. -/
  | socket (number : Nat)
  /-- A socket for requests. -/
  | connection (c : Connection)
  /-- A listener. -/
  | station (s : Station) (handler : Handler (Noted Kernel))
  /-- What takes the misses of a datapath. -/
  | misses (m : MissStation) (families : Families) (consumer : MissConsumer (Noted Kernel))

namespace Holding

/-- Gives back what is held. -/
def discard : Holding → StateM Kernel Unit
  | .client c => c.discard
  | .socket number => Kernel.close (.socket number)
  | .connection c => Kernel.close (.socket c.socket)
  | .station s _ => s.discard
  | .misses m _ _ => m.discard

/-- Lets a listener on a socket handle what has arrived there. -/
def resume (number : Nat) : Holding → StateM (Noted Kernel) Holding
  | .station s handler => do
    if s.socket = number then return .station (← s.resume handler) handler
    return .station s handler
  | .misses m families consumer => do
    let mut m := m
    if m.listener.socket = number then m ← m.resumeMisses families consumer
    if m.events.socket = number then m ← m.resumeEvents families consumer
    return .misses m families consumer
  | held => return held

/-- The stations of a listener, the one for misses first. -/
def stations : Holding → List Station
  | .station s _ => [s]
  | .misses m _ _ => [m.listener, m.events]
  | .client _ | .socket _ | .connection _ => []

/-- Ends a listener and keeps what it holds beyond that. -/
def stop : Holding → StateM Kernel Holding
  | .station s handler => do return .station (← s.stop) handler
  | .misses m families consumer => do return .misses (← m.stop) families consumer
  | held => return held

/-- Whether a vport has been pointed at what takes misses. -/
def isConfigured (id : VportId) : Holding → Bool
  | .misses m _ _ => m.upcall.isConfigured id
  | _ => false

end Holding

/-- A program on a kernel. -/
structure Program where
  /-- What it holds by name, the latest first. -/
  held : List (String × Holding)
  /-- The notes of its listeners and the kernel. -/
  noted : Noted Kernel

namespace Program

/-- A program that holds nothing. -/
def start (k : Kernel) : Program := ⟨[], [], k⟩

/-- The kernel. -/
def kernel (p : Program) : Kernel := p.noted.2

variable {α : Type}

/-- Runs a computation over the notes and the kernel. -/
def onNoted (act : Act (Noted Kernel) α) : Act Program α :=
  Act.within noted (fun n p => { p with noted := n }) act

/-- Runs a computation over the kernel. -/
def onKernel (act : Act Kernel α) : Act Program α := onNoted (Act.onSecond act)

/-- Runs a computation over the kernel that does not fail. -/
def always (act : StateM Kernel α) : StateM Program α := fun p =>
  let (a, k) := act p.kernel
  (a, { p with noted := (p.noted.1, k) })

/-- What is held under a name. -/
def find (name : String) : Act Program Holding := do
  match (← get).held.lookup name with
  | some h => return h
  | none => throw (.other s!"nothing is held as {name}")

/-- Holds something else under a name, without giving back what was. -/
def replace (name : String) (h : Holding) : StateM Program Unit :=
  modify fun p => { p with held := (name, h) :: p.held.filter fun e => e.1 != name }

/-- Holds nothing under a name, without giving back what was. -/
def forget (name : String) : StateM Program Unit :=
  modify fun p => { p with held := p.held.filter fun e => e.1 != name }

/-- Holds something under a name. -/
def hold (name : String) (h : Holding) : StateM Program Unit := do
  let old? := (← get).held.lookup name
  replace name h
  always (old?.forM Holding.discard)

/-- Gives back what is held under a name. -/
def release (name : String) : StateM Program Unit := do
  let old? := (← get).held.lookup name
  forget name
  always (old?.forM Holding.discard)

/-- Gives back everything. -/
def finish : StateM Program Unit := do
  let held := (← get).held
  modify fun p => { p with held := [] }
  -- What was made first is given back first.
  always (held.reverse.forM fun e => e.2.discard)

/-! ### Using what is held -/

/-- The client held under a name. -/
def client (name : String) : Act Program Client := do
  match ← find name with
  | .client c => return c
  | _ => throw (.other s!"{name} is no client")

/-- Runs a computation over a client. -/
def onClient (name : String) (act : Act (Client × Noted Kernel) α) : Act Program α := do
  let c ← client name
  fun p =>
    let (r, c, n) := act (c, p.noted)
    (r, (replace name (.client c) { p with noted := n }).2)

/-- Runs a computation over the session of a client. -/
def onSession (name : String) (act : Act Session α) : Act Program α :=
  onClient name (Client.run act)

/-- Runs a computation over a socket for requests. -/
def onConnection (name : String) (act : Act (Connection × Noted Kernel) α) : Act Program α := do
  match ← find name with
  | .connection c =>
    fun p =>
      let (r, c, n) := act (c, p.noted)
      (r, (replace name (.connection c) { p with noted := n }).2)
  | _ => throw (.other s!"{name} is no socket for requests")

/-- The socket held under a name. -/
def socket (name : String) : Act Program Nat := do
  match ← find name with
  | .socket number => return number
  | _ => throw (.other s!"{name} is no socket")

/-! ### Making what is held -/

/-- Opens a client. -/
def openClient (name : String) (config : Config) : Act Program Client := do
  let c ← onKernel (Client.connect config)
  hold name (.client c)
  return c

/-- Opens another client with the families and the settings of one. -/
def reopenClient (other name : String) : Act Program Client := do
  let c ← onKernel (← client other).reconnect
  hold name (.client c)
  return c

/-- Opens a socket. -/
def openSocket (name : String) (protocol : Int32) (port? : Option UInt32) (groups : Groups) :
    Act Program Unit := do
  hold name (.socket (← onKernel (Kernel.connect protocol port? groups)))

/-- Opens a socket for requests. -/
def openConnection (name : String) (groups : Groups) (timeout? : Option Duration)
    (bufferLength : Nat) : Act Program Connection := do
  let c ← onKernel (Connection.connect groups timeout? bufferLength)
  hold name (.connection c)
  return c

/-- Makes a listener of a station, which handles what has arrived already. -/
def listen (name : String) (s : Station) (handler : Handler (Noted Kernel)) :
    Act Program Station := do
  let s ← onNoted (s.resume handler)
  hold name (.station s handler)
  return s

/-- Makes a listener of a socket, which is not held under its name any more. -/
def spawn (other name : String) (bufferLength : Nat) (handler : Handler (Noted Kernel)) :
    Act Program Station := do
  let number ← socket other
  forget other
  listen name (← onKernel (Station.spawn number bufferLength)) handler

/-- Makes a listener for vport events. -/
def consumeEvents (other name : String) (consumer : VportConsumer (Noted Kernel)) :
    Act Program Station := do
  let c ← client other
  let s ← onKernel c.subscribe
  listen name s (VportEvents.handler c.families.vport.id consumer)

/-- Takes over the misses of a datapath. -/
def consumeMisses (other name : String) (dp : Datapath) (consumer : MissConsumer (Noted Kernel)) :
    Act Program MissStation := do
  let m ← onClient other (MissStation.start dp consumer)
  hold name (.misses m (← client other).families consumer)
  return m

/-- Ends the listener that is held under a name. -/
def stop (name : String) : Act Program Unit := do
  let h ← find name
  let stopped ← (always h.stop : StateM Program Holding)
  replace name stopped

/-! ### What arrives -/

/-- Lets the listeners on a socket handle what has arrived there. -/
def resume (number : Nat) : StateM Program Unit := fun p =>
  let act : StateM (Noted Kernel) (List (String × Holding)) :=
    p.held.mapM fun (name, h) => do return (name, ← h.resume number)
  let (held, noted) := act p.noted
  ((), ⟨held, noted⟩)

/-- Lets something arrive on a socket and be handled. Tells for each whether the socket was there
to get it. -/
def inject (number : Nat) : List Receipt → StateM Program (List Bool)
  | [] => return []
  | receipt :: rest => do
    let taken ← always (Kernel.deliver number receipt)
    if taken then resume number
    return taken :: (← inject number rest)

end Program

end VSwitch
