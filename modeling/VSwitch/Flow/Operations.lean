import VSwitch.Flow
import VSwitch.Session

/-!
# Installing, removing and listing flows

A flow is known by its match: installing and removing name the same attributes.

* `VSwitch.Flow.install`, `VSwitch.Flow.remove` and `VSwitch.Flow.all` are the operations.
-/

namespace VSwitch

namespace Flow

/-- A request of the flow family. -/
def messageFor (families : Families) (flags : UInt16) (command : ObjectCommand) (dp : Datapath)
    (attributes : List Put) : Request where
  family := families.flow.id
  flags := flags
  command := Vocabulary.number command
  version := flowVersion
  datapath? := some dp.ifindex
  attributes := attributes

/-- The request to install a flow. -/
def installation (families : Families) (dp : Datapath) (f : Flow) : Request :=
  messageFor families requestFlags .new dp (AttributeTree.puts f.trees)

/-- The request to remove a flow. -/
def removal (families : Families) (dp : Datapath) (f : Flow) : Request :=
  messageFor families requestFlags .del dp (AttributeTree.puts f.trees)

/-- The request for all flows. -/
def inquiryForAll (families : Families) (dp : Datapath) : Request :=
  messageFor families dumpFlags .get dp []

/-- What became of a flow that was to be removed. -/
inductive Removal
  /-- It is removed. -/
  | removed
  /-- There was no such flow. -/
  | notFound
  deriving DecidableEq, Repr

/-- Installs a flow. -/
def install (dp : Datapath) (f : Flow) : Act Session Unit := do
  let _ ← Session.request (installation (← get).families dp f)
  debug (s!"Created flow with {f.keys.size} keys and {f.actions.length} actions " ++
    s!"in datapath {dp.ifindex}")

/-- Removes the flow with the match of a flow. -/
def remove (dp : Datapath) (f : Flow) : Act Session Removal := do
  let r := removal (← get).families dp f
  match ← Session.unlessKernel Errno.noEntry (Session.request r) with
  | some _ => return .removed
  | none => return .notFound

/-- All flows of a datapath. -/
def all (dp : Datapath) : Act Session (List Flow) := do
  let families := (← get).families
  Session.collect (inquiryForAll families dp) (parse families.flow.id dp)

end Flow

end VSwitch
