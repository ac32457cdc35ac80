import VSwitch.Report.Switch
import VSwitch.Upcall

/-!
# Recorders

A recorder is a consumer that notes what it is given, and refuses some of it.

* `VSwitch.Recorder.messages` notes messages, `VSwitch.Recorder.misses` misses, and
  `VSwitch.Recorder.vports` vport events; each of them notes failures, too;
* `VSwitch.Recorder.setter` notes the vports that are to be pointed at a port.
-/

namespace VSwitch

/-- States with notes, the latest first. -/
abbrev Noted (σ : Type) := List Report × σ

namespace Recorder

open Report

variable {σ α : Type}

/-- Takes a note. -/
def note {m : Type → Type} [MonadState (Noted σ) m] (r : Report) : m Unit :=
  modify fun s => (r :: s.1, s.2)

/-- Notes a failure. -/
def failure (e : Failure) (fatal : Bool) : StateM (Noted σ) Unit :=
  note ((report e).extend [field "fatal" fatal])

/-- Runs a computation from no notes and gives those that it has taken. -/
def noting (act : StateM (Noted σ) α) (s : σ) : α × List Report × σ :=
  let (a, notes, s) := act ([], s)
  (a, notes.reverse, s)

/-- Notes a message and refuses it if it is at the given place. -/
def message (refused? : Option Nat) (message : Bytes) : Act (List Report) Unit := do
  let notes ← get
  set (report message :: notes)
  if refused? = some notes.length then throw (.other "stop")

/-- Notes messages, but for those of the given types, which it refuses. -/
def messages (refused : List UInt16) : Handler (Noted σ) where
  handle message := do
    let h ← Act.ofDecode (MessageHeader.read message)
    if refused.contains h.type then throw (.other "bad message")
    note (.record [field "msg" message])
  report := failure

/-- Notes misses and refuses the given packets. -/
def misses (refused : List Bytes) : MissConsumer (Noted σ) where
  take miss := do
    note (.record [field "packet" miss.packet, field "keys" miss.keys])
    if refused.contains miss.packet then throw (.other "consumer refused")
  report := failure

/-- Notes a vport event and refuses vports of the given names. -/
def vport (refused : List Bytes) (word : String) (dp : Datapath) (v : Vport) :
    Act (Noted σ) Unit := do
  note (.record [field word v, field "ifindex" dp.ifindex])
  if refused.contains (Utf8.encode v.spec.name) then throw (.other "consumer refused")

/-- Notes vport events and refuses those of the given names. -/
def vports (refused : List Bytes) : VportConsumer (Noted σ) where
  added := vport refused "new"
  removed := vport refused "deleted"
  report := failure

/-- Notes the vports that are to be pointed at a port and refuses the given ones. -/
def setter (refused : List VportId) : Setter (Noted σ) := fun dp id port => do
  note (.record [field "set" [report dp.ifindex, report id, report port]])
  if refused.contains id then throw (.other "refused")

end Recorder

end VSwitch
