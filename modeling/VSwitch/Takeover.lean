import VSwitch.Upcall

/-!
# Taking over the misses of a datapath

To get all misses of a datapath takes three things: a listener for misses, a connection by which
vports are pointed at that listener, and a listener for vport events, so that vports that are added
later are pointed at it, too.

The vports that are there already are gone through twice, before and after the events are
subscribed to. Without the second time, those that are added in between would be missed.

* `VSwitch.Takeover.perform` does all that, given the `VSwitch.Surroundings`. If one step fails,
  what the steps before it have made is given back.
-/

namespace VSwitch

/-- What a takeover makes use of, where a listener is a `μ`, a connection a `κ` and a subscription
to vport events an `ε`. -/
structure Surroundings (σ μ κ ε : Type) where
  /-- Starts to listen for misses. -/
  listen : Act σ μ
  /-- The port of a listener. -/
  portOf : μ → UInt32
  /-- Gives a listener back. -/
  stopListening : μ → StateM σ Unit
  /-- Opens a connection by which vports are pointed. -/
  connect : Act σ κ
  /-- Gives a connection back. -/
  disconnect : κ → StateM σ Unit
  /-- The vports that there are. -/
  vports : Act σ (List Vport)
  /-- Points a vport at a port. -/
  set : Setter (κ × σ)
  /-- Starts to listen for vport events. -/
  subscribe : Act σ ε
  /-- Gives a subscription back. -/
  unsubscribe : ε → StateM σ Unit
  /-- What others do between two steps, such as handling vport events. -/
  meanwhile : StateM (Upcall × κ × σ) Unit

/-- What a takeover has made. -/
structure Takeover (μ κ ε : Type) where
  /-- The listener for misses. -/
  listener : μ
  /-- The connection by which vports are pointed. -/
  connection : κ
  /-- The subscription to vport events. -/
  events : ε
  /-- The port of the listener, with the vports that point at it. -/
  upcall : Upcall

namespace Takeover

variable {σ μ κ ε : Type} [Journal σ] (world : Surroundings σ μ κ ε)

/-- Points the vports that there are at the port. -/
def configureAll : Act (Upcall × κ × σ) Unit :=
  Upcall.configureAll world.set world.meanwhile (Act.onSecond world.vports)

/-- Points every vport at the port, now and from now on. -/
def follow : Act (Upcall × κ × σ) ε := do
  configureAll world
  -- Vports added up to here may go unnoticed until the second time.
  let events ← Act.onSecond (Act.onSecond world.subscribe)
  Act.undoing (fun (u, c, s) => ((), u, c, (world.unsubscribe events s).2)) do
    configureAll world
    return events

/-- Takes over the misses of a datapath. -/
def perform (dp : Datapath) : Act σ (Takeover μ κ ε) := do
  let listener ← world.listen
  Act.undoing (world.stopListening listener) do
    let port := world.portOf listener
    debug s!"Consuming misses of datapath {dp.ifindex} on port ID {port}"
    let connection ← world.connect
    Act.undoing (world.disconnect connection) do
      let ((events, upcall), connection) ←
        Act.carrying connection (Act.carrying (Upcall.start dp port) (follow world))
      return ⟨listener, connection, events, upcall⟩

end Takeover

end VSwitch
