import VSwitch.Vocabulary

/-!
# The vocabulary of netlink

Message types, the control family of generic netlink, and the numbers that opening a socket
takes.
-/

namespace VSwitch

/-! ### Messages and families -/

/-- Types of messages that netlink itself reserves. -/
inductive MessageType
  | noop | error | done | overrun
  /-- A number without a name. -/
  | other (number : UInt16)
  deriving DecidableEq, Repr

instance : Vocabulary MessageType UInt16 where
  named := [(.noop, "Noop"), (.error, "Error"), (.done, "Done"), (.overrun, "Overrun")]
  number
    | .noop => 1
    | .error => 2
    | .done => 3
    | .overrun => 4
    | .other n => n
  other := .other
  number_other _ := rfl

/-- Families whose number is fixed; the others are asked of the control family. -/
inductive FixedFamily
  | control
  /-- A number without a name. -/
  | other (number : UInt16)
  deriving DecidableEq, Repr

instance : Vocabulary FixedFamily UInt16 where
  named := [(.control, "Ctrl")]
  number
    | .control => 16
    | .other n => n
  other := .other
  number_other _ := rfl

/-- Commands of the control family. -/
inductive ControlCommand
  | unspec | newFamily | delFamily | getFamily | newOps | delOps | getOps | newGroup | delGroup
  | getGroup
  /-- A number without a name. -/
  | other (number : UInt8)
  deriving DecidableEq, Repr

instance : Vocabulary ControlCommand UInt8 where
  named := [(.unspec, "Unspec"), (.newFamily, "Newfamily"), (.delFamily, "Delfamily"),
    (.getFamily, "Getfamily"), (.newOps, "Newops"), (.delOps, "Delops"), (.getOps, "Getops"),
    (.newGroup, "NewmcastGrp"), (.delGroup, "DelmcastGrp"), (.getGroup, "GetmcastGrp")]
  number
    | .unspec => 0
    | .newFamily => 1
    | .delFamily => 2
    | .getFamily => 3
    | .newOps => 4
    | .delOps => 5
    | .getOps => 6
    | .newGroup => 7
    | .delGroup => 8
    | .getGroup => 9
    | .other n => n
  other := .other
  number_other _ := rfl

/-- Attributes of the control family. -/
inductive ControlAttribute
  | unspec | familyId | familyName | version | headerSize | maxAttribute | ops | groups
  /-- A number without a name. -/
  | other (number : UInt16)
  deriving DecidableEq, Repr

instance : Vocabulary ControlAttribute UInt16 where
  named := [(.unspec, "Unspec"), (.familyId, "FamilyId"), (.familyName, "FamilyName"),
    (.version, "Version"), (.headerSize, "Hdrsize"), (.maxAttribute, "Maxattr"), (.ops, "Ops"),
    (.groups, "McastGroups")]
  number
    | .unspec => 0
    | .familyId => 1
    | .familyName => 2
    | .version => 3
    | .headerSize => 4
    | .maxAttribute => 5
    | .ops => 6
    | .groups => 7
    | .other n => n
  other := .other
  number_other _ := rfl

/-- Attributes of one multicast group in a reply of the control family. -/
inductive GroupAttribute
  | unspec | name | id
  /-- A number without a name. -/
  | other (number : UInt16)
  deriving DecidableEq, Repr

instance : Vocabulary GroupAttribute UInt16 where
  named := [(.unspec, "Unspec"), (.name, "Name"), (.id, "Id")]
  number
    | .unspec => 0
    | .name => 1
    | .id => 2
    | .other n => n
  other := .other
  number_other _ := rfl

/-- Address families of sockets. -/
inductive AddressFamily
  | inet | netlink
  /-- A number without a name. -/
  | other (number : Int32)
  deriving DecidableEq, Repr

instance : Vocabulary AddressFamily Int32 where
  named := [(.inet, "Inet"), (.netlink, "Netlink")]
  number
    | .inet => 2
    | .netlink => 16
    | .other n => n
  other := .other
  number_other _ := rfl

/-- Protocols of netlink sockets. -/
inductive SocketProtocol
  | route | generic
  /-- A number without a name. -/
  | other (number : Int32)
  deriving DecidableEq, Repr

instance : Vocabulary SocketProtocol Int32 where
  named := [(.route, "Route"), (.generic, "Generic")]
  number
    | .route => 0
    | .generic => 16
    | .other n => n
  other := .other
  number_other _ := rfl

/-- Version of the control family that is spoken. -/
def controlVersion : UInt8 := 1

end VSwitch
