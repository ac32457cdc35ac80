import VSwitch.Session
import VSwitch.Vport.Basic

/-!
# Creating, finding and deleting vports

Vports are numbered within their datapath, and their names are unique in all datapaths.

* `VSwitch.Vport.create`, `VSwitch.Vport.find`, `VSwitch.Vport.findIn`, `VSwitch.Vport.get`,
  `VSwitch.Vport.nameOf`, `VSwitch.Vport.all` and `VSwitch.Vport.delete` are the operations;
* `VSwitch.Vport.setUpcall` says which port gets the packets of a vport that no flow matches.
-/

namespace VSwitch

namespace Vport

/-! ### Messages -/

/-- A request of the vport family. -/
def messageFor (families : Families) (flags : UInt16) (command : ObjectCommand) (dp : Datapath)
    (attributes : List Put) : Request where
  family := families.vport.id
  flags := flags
  command := Vocabulary.number command
  version := vportVersion
  datapath? := some dp.ifindex
  attributes := attributes

/-- The attribute with the number of a vport. -/
def numberAttribute (id : VportId) : Put :=
  .u32 (Vocabulary.number VportAttribute.portNumber) id.number

/-- The attribute with the name of a vport. -/
def nameAttribute (name : String) : Put := .text (Vocabulary.number VportAttribute.name) name

/-- The attribute with the port that gets what no flow matches. -/
def upcallAttribute (port : UInt32) : Put :=
  .u32 (Vocabulary.number VportAttribute.upcallPort) port

/-- The request to create a vport. Its misses go nowhere. -/
def creation (families : Families) (dp : Datapath) (spec : VportSpec) : Request :=
  messageFor families requestFlags .new dp
    [nameAttribute spec.name,
      .u32 (Vocabulary.number VportAttribute.type) (Vocabulary.number spec.type),
      .nested (Vocabulary.number VportAttribute.options) (AttributeTree.puts spec.options),
      upcallAttribute 0]

/-- The request for a vport of a name. -/
def inquiry (families : Families) (dp : Datapath) (name : String) : Request :=
  messageFor families requestFlags .get dp [nameAttribute name]

/-- The request for a vport of a number. -/
def inquiryByNumber (families : Families) (dp : Datapath) (id : VportId) : Request :=
  messageFor families requestFlags .get dp [numberAttribute id]

/-- The request for all vports. -/
def inquiryForAll (families : Families) (dp : Datapath) : Request :=
  messageFor families dumpFlags .get dp []

/-- The request to delete a vport. -/
def deletion (families : Families) (dp : Datapath) (id : VportId) : Request :=
  messageFor families requestFlags .del dp [numberAttribute id]

/-- The request to send the misses of a vport to a port. -/
def redirection (families : Families) (dp : Datapath) (id : VportId) (port : UInt32) : Request :=
  messageFor families requestFlags .set dp [numberAttribute id, upcallAttribute port]

/-- The commands of messages that answer one of the given command. -/
def replyCommands (command : ObjectCommand) : List UInt8 :=
  [Vocabulary.number ObjectCommand.new, Vocabulary.number command]

/-- Reads the answer to a message of a command. -/
def read (families : Families) (command : ObjectCommand) (message : Bytes) :
    Except Failure VportNotice :=
  (VportNotice.parse families.vport.id (replyCommands command) message).mapError .decode

/-- Reads the answer to a message of a command about a datapath. -/
def readIn (families : Families) (command : ObjectCommand) (dp : Datapath) (message : Bytes) :
    Except Failure Vport := do
  let notice ← read families command message
  dp.ensure notice.datapath
  return notice.vport

/-! ### Operations -/

/-- Creates a vport and returns its number. -/
def create (dp : Datapath) (spec : VportSpec) : Act Session VportId := do
  let families := (← get).families
  let answer ← Session.request (creation families dp spec)
  let vport ← MonadExcept.ofExcept (readIn families .new dp answer)
  debug (s!"Created {spec.typeName} vport {spec.name} as port {vport.id} " ++
    s!"of datapath {dp.ifindex}")
  return vport.id

/-- What the kernel tells of the vport of a name. -/
def lookup (dp : Datapath) (name : String) : Act Session (Option VportNotice) := do
  let families := (← get).families
  match ← Session.unlessKernel Errno.noDevice (Session.request (inquiry families dp name)) with
  | none => return none
  | some answer => return some (← MonadExcept.ofExcept (read families .get answer))

/-- The vport of a name in any datapath, if there is one, and its datapath. -/
def find (name : String) : Act Session (Option (Datapath × Vport)) := do
  match ← lookup .unspecified name with
  | none => return none
  | some notice => return some (notice.datapath, notice.vport)

/-- The vport of a name in a datapath, if there is one. -/
def findIn (dp : Datapath) (name : String) : Act Session (Option Vport) := do
  match ← lookup dp name with
  | none => return none
  | some notice =>
    MonadExcept.ofExcept (dp.ensure notice.datapath)
    return some notice.vport

/-- The vport of a number in a datapath, if there is one. -/
def get (dp : Datapath) (id : VportId) : Act Session (Option Vport) := do
  let families := (← MonadState.get).families
  let inquiry := inquiryByNumber families dp id
  match ← Session.unlessKernel Errno.noDevice (Session.request inquiry) with
  | none => return none
  | some answer => return some (← MonadExcept.ofExcept (readIn families .get dp answer))

/-- The name of the vport of a number, or the numbers of the datapath and the vport if there is no
such vport. -/
def nameOf (dp : Datapath) (id : VportId) : Act Session String := do
  match ← get dp id with
  | some vport => return vport.spec.name
  | none => return s!"{dp.ifindex}:{id}"

/-- All vports of a datapath. -/
def all (dp : Datapath) : Act Session (List Vport) := do
  let families := (← MonadState.get).families
  Session.collect (inquiryForAll families dp) (readIn families .get dp)

/-- Deletes a vport. -/
def delete (dp : Datapath) (id : VportId) : Act Session Unit := do
  let _ ← Session.request (deletion (← MonadState.get).families dp id)

/-- Sends the misses of a vport to a port. -/
def setUpcall (dp : Datapath) (id : VportId) (port : UInt32) : Act Session Unit := do
  let _ ← Session.request (redirection (← MonadState.get).families dp id port)

end Vport

end VSwitch
