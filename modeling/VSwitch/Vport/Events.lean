import VSwitch.Handler
import VSwitch.Vport.Basic

/-!
# Vport events

The kernel announces vports that come and go, in any datapath, to a multicast group. A vport that
is set up anew is announced as a new one.

* `VSwitch.VportEvents.handler` hands the events to a consumer.
-/

namespace VSwitch

/-- What takes vport events. -/
structure VportConsumer (σ : Type) where
  /-- A vport has been added to a datapath, or has been set up anew. -/
  added : Datapath → Vport → Act σ Unit
  /-- A vport has been removed from a datapath. -/
  removed : Datapath → Vport → Act σ Unit
  /-- Takes note of a failure; after a fatal one there are no more events. -/
  report : Failure → (fatal : Bool) → StateM σ Unit

namespace VportEvents

/-- The commands of messages that tell of a vport. -/
def commands : List UInt8 :=
  [ObjectCommand.new, ObjectCommand.del, ObjectCommand.set, ObjectCommand.get].map
    Vocabulary.number

variable {σ : Type}

/-- Hands over what a message says. Only what comes and goes is an event. -/
def deliver (consumer : VportConsumer σ) (notice : VportNotice) : Act σ Unit :=
  match (Vocabulary.ofNumber notice.command : ObjectCommand) with
  | .new => consumer.added notice.datapath notice.vport
  | .del => consumer.removed notice.datapath notice.vport
  | _ => return

/-- Hands the events of the vport family to a consumer. -/
def handler (family : UInt16) (consumer : VportConsumer σ) : Handler σ where
  handle message := do deliver consumer (← Act.ofDecode (VportNotice.parse family commands message))
  report := consumer.report

end VportEvents

end VSwitch
