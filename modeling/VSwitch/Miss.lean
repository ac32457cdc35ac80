import VSwitch.Flow
import VSwitch.Handler

/-!
# Misses

A packet that matches no flow of its datapath is a miss. The kernel sends it with the keys that it
has found in it, all of them exact, to the port of the vport that the packet came in by.

* `VSwitch.Miss.parse` reads a message with a miss of a datapath;
* `VSwitch.Miss.handler` hands misses to a consumer.
-/

namespace VSwitch

/-- A packet that matched no flow. -/
structure Miss where
  /-- The packet. -/
  packet : Bytes
  /-- What the kernel found in it. -/
  keys : Match
  deriving DecidableEq

/-- What takes misses. -/
structure MissConsumer (σ : Type) where
  /-- Takes a miss. -/
  take : Miss → Act σ Unit
  /-- Takes note of a failure; after a fatal one, a listener has ended. -/
  report : Failure → (fatal : Bool) → StateM σ Unit

/-- The consumer that leaves a further part of the state alone. -/
def MissConsumer.onSecond {τ σ : Type} (consumer : MissConsumer σ) : MissConsumer (τ × σ) where
  take miss := Act.onSecond (consumer.take miss)
  report e fatal := fun (t, s) => ((), t, (consumer.report e fatal s).2)

namespace Miss

/-- The miss in a set of attributes. -/
def ofAttributes (s : AttributeSet) : Except DecodeError Miss := do
  let keys ← Match.parse (← s.nested (Vocabulary.number PacketAttribute.key)) none
  let packet ← s.bytes (Vocabulary.number PacketAttribute.packet)
  return ⟨packet, keys⟩

/-- Reads a message of the packet family with a miss of a datapath. -/
def parse (family : UInt16) (dp : Datapath) : Bytes → Except Failure Miss :=
  Cursor.scan do
    let commands := [Vocabulary.number PacketCommand.miss]
    let (_, header) ← Cursor.reading (Cursor.checkHeaders family commands)
    MonadExcept.ofExcept (dp.ensure ⟨header.ifindex⟩)
    let s ← Cursor.reading Cursor.attributes
    MonadExcept.ofExcept ((ofAttributes s).mapError .decode)

/-- Hands the misses of a datapath to a consumer. -/
def handler {σ : Type} (family : UInt16) (dp : Datapath) (consumer : MissConsumer σ) :
    Handler σ where
  handle message := do consumer.take (← MonadExcept.ofExcept (parse family dp message))
  report := consumer.report

end Miss

end VSwitch
