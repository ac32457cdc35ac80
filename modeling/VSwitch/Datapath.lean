import VSwitch.Datapath.Basic
import VSwitch.Session

/-!
# Creating, finding and deleting datapaths

* `VSwitch.Datapath.create`, `VSwitch.Datapath.find`, `VSwitch.Datapath.nameOf`,
  `VSwitch.Datapath.all` and `VSwitch.Datapath.delete` are the operations on datapaths;
* `VSwitch.Datapath.parse` reads a message about a datapath.
-/

namespace VSwitch

namespace Datapath

/-! ### Messages -/

/-- A request of the datapath family. -/
def messageFor (families : Families) (flags : UInt16) (command : ObjectCommand) (dp : Datapath)
    (attributes : List Put) : Request where
  family := families.datapath.id
  flags := flags
  command := Vocabulary.number command
  version := datapathVersion
  datapath? := some dp.ifindex
  attributes := attributes

/-- The attribute with the name of a datapath. -/
def nameAttribute (name : String) : Put := .text (Vocabulary.number DatapathAttribute.name) name

/-- Features of a datapath: packets need not be aligned, and each vport has an upcall port of its
own. -/
def features : UInt32 := datapathFeatures.known

/-- The request to create a datapath. Its misses go nowhere until a vport says otherwise. -/
def creation (families : Families) (name : String) : Request :=
  messageFor families requestFlags .new unspecified
    [nameAttribute name, .u32 (Vocabulary.number DatapathAttribute.upcallPort) 0,
      .u32 (Vocabulary.number DatapathAttribute.features) features]

/-- The request for a datapath of a name. -/
def inquiry (families : Families) (name : String) : Request :=
  messageFor families requestFlags .get unspecified [nameAttribute name]

/-- The request for the datapath of an index. -/
def inquiryByIndex (families : Families) (dp : Datapath) : Request :=
  messageFor families requestFlags .get dp []

/-- The request for all datapaths. -/
def inquiryForAll (families : Families) : Request :=
  messageFor families dumpFlags .get unspecified []

/-- The request to delete a datapath. -/
def deletion (families : Families) (dp : Datapath) : Request :=
  messageFor families requestFlags .del dp []

/-- The commands of messages that tell of a datapath. -/
def replyCommands : List UInt8 :=
  [Vocabulary.number ObjectCommand.new, Vocabulary.number ObjectCommand.get]

/-- Reads a message of the datapath family: the datapath and its name. -/
def parse (family : UInt16) : Bytes → Except DecodeError (Datapath × String) :=
  Cursor.scan do
    let (_, header) ← Cursor.checkHeaders family replyCommands
    let s ← Cursor.attributes
    let name ← MonadExcept.ofExcept (s.text (Vocabulary.number DatapathAttribute.name))
    return (⟨header.ifindex⟩, name)

/-- Reads a message of the datapath family on behalf of a session. -/
def read (families : Families) (message : Bytes) : Except Failure (Datapath × String) :=
  (parse families.datapath.id message).mapError .decode

/-! ### Operations -/

/-- Creates a datapath. -/
def create (name : String) : Act Session Datapath := do
  let families := (← get).families
  let answer ← Session.request (creation families name)
  let (dp, _) ← MonadExcept.ofExcept (read families answer)
  debug s!"Created datapath {name} with ifindex {dp.ifindex}"
  return dp

/-- The datapath of a name, if there is one. -/
def find (name : String) : Act Session (Option Datapath) := do
  let families := (← get).families
  match ← Session.unlessKernel Errno.noDevice (Session.request (inquiry families name)) with
  | none => return none
  | some answer =>
    let (dp, _) ← MonadExcept.ofExcept (read families answer)
    return some dp

/-- The name of a datapath, if there is such a datapath. -/
def nameOf (dp : Datapath) : Act Session (Option String) := do
  let families := (← get).families
  match ← Session.unlessKernel Errno.noDevice (Session.request (inquiryByIndex families dp)) with
  | none => return none
  | some answer =>
    let (found, name) ← MonadExcept.ofExcept (read families answer)
    MonadExcept.ofExcept (dp.ensure found)
    return some name

/-- All datapaths by name. -/
def all : Act Session (Table String Datapath) := do
  let families := (← get).families
  let found ← Session.collect (inquiryForAll families) (read families)
  return Table.ofList (found.map fun (dp, name) => (name, dp))

/-- Deletes a datapath. -/
def delete (dp : Datapath) : Act Session Unit := do
  let _ ← Session.request (deletion (← get).families dp)
  debug s!"Deleted datapath with ifindex {dp.ifindex}"

end Datapath

end VSwitch
