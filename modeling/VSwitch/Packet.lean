import VSwitch.Flow
import VSwitch.Session

/-!
# Executing packets

A packet can be handed to the kernel to have actions carried out on it. The kernel does not answer,
so what it has against the packet is not known.
-/

namespace VSwitch

namespace Packet

/-- The message that has actions carried out on a packet with the given keys. -/
def execution (families : Families) (dp : Datapath) (packet : Bytes) (keys : Match)
    (actions : List Action) : Request where
  family := families.packet.id
  flags := requestFlag
  command := Vocabulary.number PacketCommand.execute
  version := packetVersion
  datapath? := some dp.ifindex
  attributes :=
    [.slice (Vocabulary.number PacketAttribute.packet) packet,
      .nested (Vocabulary.number PacketAttribute.key) (AttributeTree.puts keys.keyTrees),
      .nested (Vocabulary.number PacketAttribute.actions)
        (AttributeTree.puts (actions.map Action.tree))]

/-- Has actions carried out on a packet with the given keys. -/
def execute (dp : Datapath) (packet : Bytes) (keys : Match) (actions : List Action) :
    Act Session Unit := do
  Session.send (execution (← get).families dp packet keys actions)

end Packet

end VSwitch
