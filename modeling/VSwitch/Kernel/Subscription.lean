import VSwitch.Kernel.Client
import VSwitch.Kernel.Station
import VSwitch.Takeover
import VSwitch.Vport

/-!
# Listening for vport events and misses

* `VSwitch.Client.subscribe` listens for vport events;
* `VSwitch.MissStation` takes the misses of a datapath: one station listens for misses, another one
  for vport events, and a client of its own points the vports at the first;
* `VSwitch.MissStation.start` takes over the misses of a datapath.
-/

namespace VSwitch

namespace Client

/-- Opens a socket that joins groups. -/
def dialGroups (groups : Groups) : Act Kernel Nat :=
  Kernel.connect (Vocabulary.number SocketProtocol.generic) none groups

/-- Listens for vport events. -/
def subscribe (c : Client) : Act Kernel Station := do
  let group ← MonadExcept.ofExcept (c.families.vport.group vportGroupName)
  let number ← dialGroups (.ofList [group])
  debug s!"Subscribed to vport events on group {group}"
  Station.spawn number c.config.bufferLength

/-- Listens for misses. -/
def listen (c : Client) : Act Kernel Station := do
  let number ← dialGroups .empty
  Act.undoing (Kernel.close (.socket number)) do
    let _ ← Kernel.Sys.act (Kernel.portOf number)
  Station.spawn number c.config.bufferLength

end Client

/-- What takes the misses of a datapath. -/
abbrev MissStation := Takeover Station Client Station

namespace MissStation

variable {σ : Type} [Hosts σ] [Journal σ]

/-- The handler of the station for misses. -/
def missHandler (families : Families) (dp : Datapath) (consumer : MissConsumer σ) : Handler σ :=
  Miss.handler families.packet.id dp consumer

/-- Points a vport at a port by way of a client. -/
def setter : Setter (Client × σ) := fun dp id port => Client.run (Vport.setUpcall dp id port)

/-- The handler of the station for vport events. -/
def eventHandler (families : Families) (consumer : MissConsumer σ) :
    Handler (Upcall × Client × σ) :=
  VportEvents.handler families.vport.id (Upcall.follow setter consumer.onSecond)

/-- What a takeover by a client makes use of. -/
def surroundings (dp : Datapath) (consumer : MissConsumer (Client × σ)) :
    Surroundings (Client × σ) Station Client Station where
  listen := do
    let (c, _) ← get
    let s ← Hosts.act c.listen
    Station.resume (missHandler c.families dp consumer) s
  portOf s := s.listener.port
  stopListening s := Hosts.run s.discard
  connect := do Hosts.act (← get).1.reconnect
  disconnect c := Hosts.run c.discard
  vports := Client.run (Vport.all dp)
  set := setter
  subscribe := do Hosts.act (← get).1.subscribe
  unsubscribe s := Hosts.run s.discard
  meanwhile := pure ()

/-- Lets the station for misses handle what has arrived. -/
def resumeMisses (families : Families) (consumer : MissConsumer σ) (m : MissStation) :
    StateM σ MissStation := do
  let handler := missHandler families m.upcall.datapath consumer
  return { m with listener := ← Station.resume handler m.listener }

/-- Lets the station for vport events handle what has arrived. -/
def resumeEvents (families : Families) (consumer : MissConsumer σ) (m : MissStation) :
    StateM σ MissStation := fun s =>
  let (events, upcall, c, s) :=
    Station.resume (eventHandler families consumer) m.events (m.upcall, m.connection, s)
  ({ m with events := events, upcall := upcall, connection := c }, s)

/-- Takes over the misses of a datapath. -/
def start (dp : Datapath) (consumer : MissConsumer σ) : Act (Client × σ) MissStation := do
  let m ← Takeover.perform (surroundings dp consumer.onSecond) dp
  Act.onSecond (resumeEvents (← get).1.families consumer m)

/-- Ends both stations. -/
def stop (m : MissStation) : StateM Kernel MissStation := do
  -- The events come first: nothing is pointed at a listener that has ended.
  let events ← m.events.stop
  let listener ← m.listener.stop
  return { m with events := events, listener := listener }

/-- Ends both stations and gives back all that is left. -/
def discard (m : MissStation) : StateM Kernel Unit := do
  m.events.discard
  m.listener.discard
  m.connection.discard

end MissStation

end VSwitch
