import VSwitch.Attribute.Tree
import VSwitch.Cursor
import VSwitch.Datapath.Basic
import VSwitch.Vocabulary.Switch
import VSwitch.Vport.Id

/-!
# Vports

A vport is a port of a datapath: a network device that was there before, one that is made for the
datapath, or the end of a tunnel.

* `VSwitch.VportSpec` says what a vport is, and `VSwitch.Vport` has its number, too;
* `VSwitch.VportNotice.parse` reads a message about a vport.
-/

namespace VSwitch

/-- What a vport is. -/
inductive VportSpec
  /-- A network device that is attached to the datapath. -/
  | netdev (name : String)
  /-- A network device that is made for the datapath. -/
  | internal (name : String)
  /-- The end of a VXLAN tunnel, with its UDP port. -/
  | vxlan (name : String) (destinationPort : UInt16)
  deriving DecidableEq, Repr

namespace VportSpec

/-- The name of the vport. -/
def name : VportSpec → String
  | .netdev name | .internal name | .vxlan name _ => name

/-- The short name of the type. -/
def typeName : VportSpec → String
  | .netdev _ => "netdev"
  | .internal _ => "internal"
  | .vxlan _ _ => "vxlan"

/-- The type. -/
def type : VportSpec → VportType
  | .netdev _ => .netdev
  | .internal _ => .internal
  | .vxlan _ _ => .vxlan

/-- The attributes of the options. -/
def options : VportSpec → List AttributeTree
  | .vxlan _ port => [.u16 (Vocabulary.number TunnelOption.destinationPort) port]
  | .netdev _ | .internal _ => []

/-- What a vport of a type is, by its name and the attributes of its options. -/
def ofOptions (type : VportType) (name : String) (options : AttributeSet) :
    Except DecodeError VportSpec :=
  match type with
  | .netdev => .ok (.netdev name)
  | .internal => .ok (.internal name)
  | .vxlan =>
    (options.u16 (Vocabulary.number TunnelOption.destinationPort)).map (VportSpec.vxlan name)
  | other => .error (.unsupportedVport (Vocabulary.number other))

end VportSpec

/-- A vport. -/
structure Vport where
  /-- Its number within the datapath. -/
  id : VportId
  /-- What it is. -/
  spec : VportSpec
  deriving DecidableEq, Repr

/-- What a message says of a vport. -/
structure VportNotice where
  /-- The command. -/
  command : UInt8
  /-- The datapath that the vport is in. -/
  datapath : Datapath
  /-- The vport. -/
  vport : Vport
  deriving DecidableEq, Repr

namespace Vport

/-- The vport in a set of attributes. Without options it has none. -/
def ofAttributes (s : AttributeSet) : Except DecodeError Vport := do
  let id ← s.u32 (Vocabulary.number VportAttribute.portNumber)
  let type ← s.u32 (Vocabulary.number VportAttribute.type)
  let name ← s.text (Vocabulary.number VportAttribute.name)
  let options ← s.nested? (Vocabulary.number VportAttribute.options)
  let spec ← VportSpec.ofOptions (Vocabulary.ofNumber type) name (options.getD .empty)
  return ⟨⟨id⟩, spec⟩

end Vport

/-- Reads a message of the vport family with one of the commands. -/
def VportNotice.parse (family : UInt16) (commands : List UInt8) :
    Bytes → Except DecodeError VportNotice :=
  Cursor.scan do
    let (generic, header) ← Cursor.checkHeaders family commands
    let s ← Cursor.attributes
    let vport ← MonadExcept.ofExcept (Vport.ofAttributes s)
    return ⟨generic.command, ⟨header.ifindex⟩, vport⟩

end VSwitch
