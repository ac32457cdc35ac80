import VSwitch.Miss
import VSwitch.Vport.Events

/-!
# Pointing vports at an upcall port

Each vport sends its misses to a port of its own choice. To get all misses of a datapath, every
vport has to be pointed at the same port, those that are added later included.

Setting the port of a vport makes the kernel announce it as new. So what has been pointed already
is remembered until the vport is deleted, and the announcement does not set anything again.

* `VSwitch.Upcall` is the port of a datapath's misses with the vports that point at it;
* `VSwitch.Upcall.configure` points a vport at it and `VSwitch.Upcall.forget` forgets one;
* `VSwitch.Upcall.follow` does both as vport events tell.
-/

namespace VSwitch

/-- What points a vport of a datapath at a port. -/
abbrev Setter (σ : Type) := Datapath → VportId → (port : UInt32) → Act σ Unit

/-- The port that takes the misses of a datapath. -/
structure Upcall where
  /-- The datapath. -/
  datapath : Datapath
  /-- The port. -/
  port : UInt32
  /-- The vports that have been pointed at it. -/
  configured : List VportId
  deriving DecidableEq, Repr

namespace Upcall

/-- A port that no vport has been pointed at. -/
def start (datapath : Datapath) (port : UInt32) : Upcall := ⟨datapath, port, []⟩

/-- Whether a vport has been pointed at the port. -/
def isConfigured (u : Upcall) (id : VportId) : Bool := u.configured.contains id

/-- The vport has been pointed at the port. -/
def remember (u : Upcall) (id : VportId) : Upcall := { u with configured := id :: u.configured }

/-- The vport has been deleted. -/
def forget (u : Upcall) (id : VportId) : Upcall :=
  { u with configured := u.configured.filter (· ≠ id) }

variable {σ : Type} [Journal σ] (set : Setter σ)

/-- Points a vport at the port, unless that has been done. Tells whether it was set now. -/
def configure (id : VportId) : Act (Upcall × σ) Bool := do
  let (u, _) ← get
  if u.isConfigured id then return false
  Act.onSecond (set u.datapath id u.port)
  -- Only now: a vport that could not be pointed is tried again next time.
  modify fun (u, s) => (u.remember id, s)
  debug (s!"Misses of vport {id} of datapath {u.datapath.ifindex} " ++
    s!"go to port ID {u.port}")
  return true

variable (meanwhile : StateM (Upcall × σ) Unit)

/-- Points vports at the port, one after the other. Between any two steps there is time for
`meanwhile`, which is what others do. -/
def configureEach : List Vport → Act (Upcall × σ) Unit
  | [] => meanwhile
  | vport :: rest => do
    meanwhile
    let _ ← configure set vport.id
    configureEach rest

/-- Points every vport at the port that `vports` finds. There is time for `meanwhile` before they are
looked for, too. -/
def configureAll (vports : Act σ (List Vport)) : Act (Upcall × σ) Unit := do
  meanwhile
  configureEach set meanwhile (← Act.onSecond vports)

/-- Points new vports of the datapath at the port and forgets deleted ones. Failures are told to
the consumer of the misses. -/
def follow (consumer : MissConsumer σ) : VportConsumer (Upcall × σ) where
  added dp vport := do
    if dp = (← get).1.datapath then
      let _ ← configure set vport.id
  removed dp vport := do
    if dp = (← get).1.datapath then modify fun (u, s) => (u.forget vport.id, s)
  report := consumer.onSecond.report

end Upcall

end VSwitch
