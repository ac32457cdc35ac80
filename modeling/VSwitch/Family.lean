import VSwitch.Endpoint
import VSwitch.Request
import VSwitch.Text.Quoted
import VSwitch.Vocabulary.Switch

/-!
# Families

Most families of generic netlink get their number when their module is loaded. The control family
tells the number of a family by its name, together with the multicast groups that it has.

* `VSwitch.Family.lookup` asks for a family;
* `VSwitch.Family.resolve` asks a second time, after a probe that may load the module, if the
  kernel does not know the family;
* `VSwitch.Families` are the four families of the switch.
-/

namespace VSwitch

/-- A family of generic netlink. -/
structure Family where
  /-- The name. -/
  name : String
  /-- The number, which is the type of the family's messages. -/
  id : UInt16
  /-- The numbers of the multicast groups by name. -/
  groups : Table String UInt32
  deriving DecidableEq

namespace Family

/-- A family without groups. -/
def plain (name : String) (id : UInt16) : Family := ⟨name, id, .empty⟩

/-- The number of a group. -/
def group (f : Family) (name : String) : Except Failure UInt32 :=
  match f.groups.get? name with
  | some id => .ok id
  | none => .error (.noGroup name f.name)

/-- A family in words. -/
def describe (f : Family) : String :=
  let groups := f.groups.entries.map fun (name, id) => s!"{Quoted.encode name}: {id}"
  s!"GenlFamily \x7b name: {Quoted.encode f.name}, id: {f.id}, " ++
    s!"mcast_groups: \x7b" ++ ", ".intercalate groups ++ "\x7d \x7d"

/-! ### Asking for a family -/

/-- The request for a family. -/
def request (name : String) : Request where
  family := Vocabulary.number FixedFamily.control
  flags := requestFlags
  command := Vocabulary.number ControlCommand.getFamily
  version := controlVersion
  datapath? := none
  attributes := [.text (Vocabulary.number ControlAttribute.familyName) name]

/-- Reads one group: its name and its number. -/
def parseGroup (octets : Bytes) : Except DecodeError (String × UInt32) := do
  let s ← AttributeSet.parse octets
  return (← s.text (Vocabulary.number GroupAttribute.name),
    ← s.u32 (Vocabulary.number GroupAttribute.id))

/-- Reads groups one after the other. -/
def parseEachGroup : List (UInt16 × Bytes) → Except DecodeError (List (String × UInt32))
  | [] => .ok []
  | (_, octets) :: rest => do
    let group ← parseGroup octets
    return group :: (← parseEachGroup rest)

/-- The groups in the attributes of a family. Of two groups of one name the last one counts. -/
def groupsOf (s : AttributeSet) : Except DecodeError (Table String UInt32) :=
  match s.get? (Vocabulary.number ControlAttribute.groups) with
  | none => .ok .empty
  | some octets => do
    return Table.ofList (← parseEachGroup (← Attribute.parse octets))

/-- Reads the answer to the request for a family. -/
def parse (name : String) : Bytes → Except DecodeError Family :=
  Cursor.scan do
    let _ ← Cursor.expectType (Vocabulary.number FixedFamily.control)
    let _ ← Cursor.expectCommand (Vocabulary.number ControlCommand.newFamily)
    let s ← Cursor.attributes
    let id ← MonadExcept.ofExcept (s.u16 (Vocabulary.number ControlAttribute.familyId))
    let groups ← MonadExcept.ofExcept (groupsOf s)
    return ⟨name, id, groups⟩

/-- Asks the control family for a family. -/
def lookup (name : String) : Act Endpoint Family := do
  let draft ← Act.ofEncode (request name).draft
  let answer ← Endpoint.request draft
  let family ← Act.ofDecode (parse name answer)
  debug s!"Resolved generic netlink family {family.describe}"
  return family

/-- Resolves a family by `lookup`. If the kernel does not know it and `autoload` is set, `probe`,
which may make it known, is run once, and the family is looked up once more. -/
def resolve {σ : Type} (lookup : String → Act σ Family) (probe : StateM σ Unit) (autoload : Bool)
    (name : String) : Act σ Family := do
  match ← Act.attempt (lookup name) with
  | .ok family => return family
  | .error first =>
    -- Any other failure says nothing about whether the family is known.
    unless ← Act.ofNumber (first.isKernelErrno Errno.noEntry) do throw first
    unless autoload do throw (.familyUnavailable name)
    probe
    match ← Act.attempt (lookup name) with
    | .ok family => return family
    | .error second =>
      if ← Act.ofNumber (second.isKernelErrno Errno.noEntry) then throw (.familyUnavailable name)
      throw second

end Family

/-! ### The families of the switch -/

/-- The families of the switch. -/
structure Families where
  /-- The family of datapaths. -/
  datapath : Family
  /-- The family of vports. -/
  vport : Family
  /-- The family of flows. -/
  flow : Family
  /-- The family of packets. -/
  packet : Family
  deriving DecidableEq

namespace Families

/-- Resolves the four families one after the other. -/
def resolve {σ : Type} (resolve : String → Act σ Family) : Act σ Families := do
  return {
    datapath := ← resolve datapathFamilyName
    vport := ← resolve vportFamilyName
    flow := ← resolve flowFamilyName
    packet := ← resolve packetFamilyName }

/-- The families in their order. -/
def toList (f : Families) : List Family := [f.datapath, f.vport, f.flow, f.packet]

end Families

end VSwitch
