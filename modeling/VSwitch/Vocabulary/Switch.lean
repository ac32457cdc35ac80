import VSwitch.Vocabulary

/-!
# The vocabulary of the switch

Commands, attributes and types of the four families of the kernel datapath: datapaths, vports,
flows and packets.
-/

namespace VSwitch

/-- Commands of the families whose objects are created, deleted, read and changed: those of
datapaths, vports and flows. -/
inductive ObjectCommand
  | unspec | new | del | get | set
  /-- A number without a name. -/
  | other (number : UInt8)
  deriving DecidableEq, Repr

instance : Vocabulary ObjectCommand UInt8 where
  named := [(.unspec, "Unspec"), (.new, "New"), (.del, "Del"), (.get, "Get"), (.set, "Set")]
  number
    | .unspec => 0
    | .new => 1
    | .del => 2
    | .get => 3
    | .set => 4
    | .other n => n
  other := .other
  number_other _ := rfl

/-- Attributes of the datapath family. -/
inductive DatapathAttribute
  | unspec | name | upcallPort | stats | flowStats | features
  /-- A number without a name. -/
  | other (number : UInt16)
  deriving DecidableEq, Repr

instance : Vocabulary DatapathAttribute UInt16 where
  named := [(.unspec, "Unspec"), (.name, "Name"), (.upcallPort, "UpcallPid"), (.stats, "Stats"),
    (.flowStats, "MegaflowStats"), (.features, "UserFeatures")]
  number
    | .unspec => 0
    | .name => 1
    | .upcallPort => 2
    | .stats => 3
    | .flowStats => 4
    | .features => 5
    | .other n => n
  other := .other
  number_other _ := rfl

/-- Types of vports. -/
inductive VportType
  | unspec | netdev | internal | gre | vxlan | geneve
  /-- A number without a name. -/
  | other (number : UInt32)
  deriving DecidableEq, Repr

instance : Vocabulary VportType UInt32 where
  named := [(.unspec, "Unspec"), (.netdev, "Netdev"), (.internal, "Internal"), (.gre, "Gre"),
    (.vxlan, "Vxlan"), (.geneve, "Geneve")]
  number
    | .unspec => 0
    | .netdev => 1
    | .internal => 2
    | .gre => 3
    | .vxlan => 4
    | .geneve => 5
    | .other n => n
  other := .other
  number_other _ := rfl

/-- Attributes of the vport family. -/
inductive VportAttribute
  | unspec | portNumber | type | name | options | upcallPort | stats
  /-- A number without a name. -/
  | other (number : UInt16)
  deriving DecidableEq, Repr

instance : Vocabulary VportAttribute UInt16 where
  named := [(.unspec, "Unspec"), (.portNumber, "PortNo"), (.type, "Type"), (.name, "Name"),
    (.options, "Options"), (.upcallPort, "UpcallPid"), (.stats, "Stats")]
  number
    | .unspec => 0
    | .portNumber => 1
    | .type => 2
    | .name => 3
    | .options => 4
    | .upcallPort => 5
    | .stats => 6
    | .other n => n
  other := .other
  number_other _ := rfl

/-- Attributes among the options of a tunnel vport. -/
inductive TunnelOption
  | unspec | destinationPort
  /-- A number without a name. -/
  | other (number : UInt16)
  deriving DecidableEq, Repr

instance : Vocabulary TunnelOption UInt16 where
  named := [(.unspec, "Unspec"), (.destinationPort, "DstPort")]
  number
    | .unspec => 0
    | .destinationPort => 1
    | .other n => n
  other := .other
  number_other _ := rfl

/-- Attributes of the flow family. -/
inductive FlowAttribute
  | unspec | key | actions | stats | tcpFlags | used | clear | mask
  /-- A number without a name. -/
  | other (number : UInt16)
  deriving DecidableEq, Repr

instance : Vocabulary FlowAttribute UInt16 where
  named := [(.unspec, "Unspec"), (.key, "Key"), (.actions, "Actions"), (.stats, "Stats"),
    (.tcpFlags, "TcpFlags"), (.used, "Used"), (.clear, "Clear"), (.mask, "Mask")]
  number
    | .unspec => 0
    | .key => 1
    | .actions => 2
    | .stats => 3
    | .tcpFlags => 4
    | .used => 5
    | .clear => 6
    | .mask => 7
    | .other n => n
  other := .other
  number_other _ := rfl

/-- Types of flow keys. -/
inductive KeyType
  | unspec | encap | priority | inPort | ethernet | vlan | ethertype | ipv4 | ipv6 | tcp | udp
  | icmp | icmpv6 | arp | neighbour | skbMark | tunnel | sctp | tcpFlags | hash | recirculation
  /-- A number without a name. -/
  | other (number : UInt16)
  deriving DecidableEq, Repr

instance : Vocabulary KeyType UInt16 where
  named := [(.unspec, "Unspec"), (.encap, "Encap"), (.priority, "Priority"), (.inPort, "InPort"),
    (.ethernet, "Ethernet"), (.vlan, "Vlan"), (.ethertype, "Ethertype"), (.ipv4, "Ipv4"),
    (.ipv6, "Ipv6"), (.tcp, "Tcp"), (.udp, "Udp"), (.icmp, "Icmp"), (.icmpv6, "Icmpv6"),
    (.arp, "Arp"), (.neighbour, "Nd"), (.skbMark, "SkbMark"), (.tunnel, "Tunnel"), (.sctp, "Sctp"),
    (.tcpFlags, "TcpFlags"), (.hash, "DpHash"), (.recirculation, "RecircId")]
  number
    | .unspec => 0
    | .encap => 1
    | .priority => 2
    | .inPort => 3
    | .ethernet => 4
    | .vlan => 5
    | .ethertype => 6
    | .ipv4 => 7
    | .ipv6 => 8
    | .tcp => 9
    | .udp => 10
    | .icmp => 11
    | .icmpv6 => 12
    | .arp => 13
    | .neighbour => 14
    | .skbMark => 15
    | .tunnel => 16
    | .sctp => 17
    | .tcpFlags => 18
    | .hash => 19
    | .recirculation => 20
    | .other n => n
  other := .other
  number_other _ := rfl

/-- Fields of the tunnel key. -/
inductive TunnelField
  | id | source | destination | tos | ttl | dontFragment | checksum
  /-- A number without a name. -/
  | other (number : UInt16)
  deriving DecidableEq, Repr

instance : Vocabulary TunnelField UInt16 where
  named := [(.id, "Id"), (.source, "Ipv4Src"), (.destination, "Ipv4Dst"), (.tos, "Tos"),
    (.ttl, "Ttl"), (.dontFragment, "DontFragment"), (.checksum, "Csum")]
  number
    | .id => 0
    | .source => 1
    | .destination => 2
    | .tos => 3
    | .ttl => 4
    | .dontFragment => 5
    | .checksum => 6
    | .other n => n
  other := .other
  number_other _ := rfl

/-- Types of flow actions. -/
inductive ActionType
  | unspec | output | userspace | set
  /-- A number without a name. -/
  | other (number : UInt16)
  deriving DecidableEq, Repr

instance : Vocabulary ActionType UInt16 where
  named := [(.unspec, "Unspec"), (.output, "Output"), (.userspace, "Userspace"), (.set, "Set")]
  number
    | .unspec => 0
    | .output => 1
    | .userspace => 2
    | .set => 3
    | .other n => n
  other := .other
  number_other _ := rfl

/-- Commands of the packet family. -/
inductive PacketCommand
  | unspec | miss | action | execute
  /-- A number without a name. -/
  | other (number : UInt8)
  deriving DecidableEq, Repr

instance : Vocabulary PacketCommand UInt8 where
  named := [(.unspec, "Unspec"), (.miss, "Miss"), (.action, "Action"), (.execute, "Execute")]
  number
    | .unspec => 0
    | .miss => 1
    | .action => 2
    | .execute => 3
    | .other n => n
  other := .other
  number_other _ := rfl

/-- Attributes of the packet family. -/
inductive PacketAttribute
  | unspec | packet | key | actions | userdata
  /-- A number without a name. -/
  | other (number : UInt16)
  deriving DecidableEq, Repr

instance : Vocabulary PacketAttribute UInt16 where
  named := [(.unspec, "Unspec"), (.packet, "Packet"), (.key, "Key"), (.actions, "Actions"),
    (.userdata, "Userdata")]
  number
    | .unspec => 0
    | .packet => 1
    | .key => 2
    | .actions => 3
    | .userdata => 4
    | .other n => n
  other := .other
  number_other _ := rfl

/-! ### Names and versions -/

/-- Name of the datapath family. -/
def datapathFamilyName : String := "ovs_datapath"

/-- Name of the vport family. -/
def vportFamilyName : String := "ovs_vport"

/-- Name of the flow family. -/
def flowFamilyName : String := "ovs_flow"

/-- Name of the packet family. -/
def packetFamilyName : String := "ovs_packet"

/-- Name of the group of the vport family that announces vports coming and going. -/
def vportGroupName : String := "ovs_vport"

/-- Version of the datapath family that is spoken. -/
def datapathVersion : UInt8 := 2

/-- Version of the vport family that is spoken. -/
def vportVersion : UInt8 := 1

/-- Version of the flow family that is spoken. -/
def flowVersion : UInt8 := 1

/-- Version of the packet family that is spoken. -/
def packetVersion : UInt8 := 1

end VSwitch
