import VSwitch.Flow.Tunnel
import VSwitch.Vport.Id

/-!
# Flow keys

A flow key is a value of a packet, such as its source address, together with a mask of the same
shape. A bit that is set in the mask counts for matching; a mask without any set bit makes the key
count for nothing.

Most keys are strings of octets (`VSwitch.MaskedBytes`), and the tunnel key has fields
(`VSwitch.TunnelKey`).

* `VSwitch.FlowKey` is one key of a match, and `VSwitch.FlowKey.agrees` compares two of them in
  what counts;
* `VSwitch.KeyType.layout?` is the shape of each type of key. A type without a known shape cannot
  be read, as nothing can be said of what it matches;
* `VSwitch.FlowKey.parse` reads a key with the mask that `VSwitch.MaskSource` tells it to take.
-/

namespace VSwitch

/-! ### Ethernet addresses -/

/-- The two addresses of the Ethernet key. -/
structure EthernetPair where
  /-- The source address. -/
  source : Octets 6
  /-- The destination address. -/
  destination : Octets 6
  deriving DecidableEq, Repr

namespace EthernetPair

/-- Number of octets of both addresses. -/
def size : Nat := 12

/-- Nothing but zeros. -/
def zero : EthernetPair := ⟨.fill 6 0, .fill 6 0⟩

/-- Nothing but ones: the mask under which both addresses count. -/
def ones : EthernetPair := ⟨.fill 6 0xFF, .fill 6 0xFF⟩

/-- The addresses one after the other. -/
def toBytes (e : EthernetPair) : Bytes := e.source.val ++ e.destination.val

/-- Reads both addresses from the first octets. -/
def read (b : Bytes) : Except DecodeError EthernetPair := do
  ensureLength "ethernet key" b size
  return ⟨.ofBytes 6 b, .ofBytes 6 (b.drop 6)⟩

end EthernetPair

/-! ### Octets under a mask -/

/-- A key that is a string of octets, with its mask. -/
structure MaskedBytes where
  /-- Type of the key. -/
  type : KeyType
  /-- The value. -/
  key : Bytes
  /-- The bits that count. -/
  mask : Bytes
  /-- The mask is as long as the value. -/
  length_mask : mask.length = key.length
  deriving DecidableEq, Repr

namespace MaskedBytes

/-- A key of which every bit counts. -/
def exact (type : KeyType) (key : Bytes) : MaskedBytes :=
  ⟨type, key, List.replicate key.length 0xFF, List.length_replicate⟩

/-- A key of which the bits in `mask` count. -/
def masked (type : KeyType) (key mask : Bytes) : Except DecodeError MaskedBytes :=
  if h : mask.length = key.length then .ok ⟨type, key, mask, h⟩
  else .error (.badAttributeLength (Vocabulary.number type) key.length mask.length)

/-- Whether no bit counts. -/
def isIgnored (k : MaskedBytes) : Bool := k.mask.areAll 0

/-- Whether type and mask are the same and the values agree in what counts. -/
def agrees (a b : MaskedBytes) : Bool :=
  a.type == b.type && a.mask == b.mask && Bytes.agreeUnder a.mask a.key b.key

/-- The number of the port that the first four octets are, if there are as many. -/
def port? (k : MaskedBytes) : Option VportId :=
  if k.key.holds 4 then some ⟨Bytes.toU32 k.key⟩ else none

/-- The addresses in the value and in the mask, if they are long enough. -/
def ethernet? (k : MaskedBytes) : Option (EthernetPair × EthernetPair) := do
  let key ← (EthernetPair.read k.key).toOption
  let mask ← (EthernetPair.read k.mask).toOption
  return (key, mask)

end MaskedBytes

/-- The tunnel key with its mask. -/
structure TunnelKey where
  /-- The values. -/
  key : TunnelFields
  /-- The bits that count. -/
  mask : TunnelFields
  deriving DecidableEq, Repr

namespace TunnelKey

/-- Whether no bit counts. -/
def isIgnored (t : TunnelKey) : Bool := t.mask.isZero

/-- Whether the masks are the same and the values agree in what counts. -/
def agrees (a b : TunnelKey) : Bool :=
  a.mask == b.mask && Bytes.agreeUnder a.mask.toBytes a.key.toBytes b.key.toBytes

end TunnelKey

/-! ### Keys -/

/-- One key of a match. -/
inductive FlowKey
  /-- Octets without a further meaning. -/
  | plain (k : MaskedBytes)
  /-- The vport that the packet came in by. -/
  | inPort (k : MaskedBytes)
  /-- The Ethernet addresses, which the kernel wants even if they count for nothing. -/
  | ethernet (k : MaskedBytes)
  /-- The metadata of the tunnel that the packet came out of. -/
  | tunnel (k : TunnelKey)
  deriving DecidableEq, Repr

namespace FlowKey

/-- The key of packets that come in by a vport. -/
def ofPort (port : VportId) : FlowKey := .inPort (.exact .inPort (Bytes.ofU32 port.number))

/-- The key of Ethernet addresses under a mask. -/
def ofEthernet (key mask : EthernetPair) : FlowKey :=
  .ethernet ⟨.ethernet, key.toBytes, mask.toBytes, by
    simp [EthernetPair.toBytes, key.source.2, key.destination.2, mask.source.2,
      mask.destination.2]⟩

/-- The key of a priority. -/
def ofPriority (priority : UInt32) : FlowKey := .plain (.exact .priority (Bytes.ofU32 priority))

/-- The key of an Ethernet type, whose number has the highest octet first. -/
def ofEthertype (ethertype : UInt16) : FlowKey :=
  .plain (.exact .ethertype (Bytes.ofU16 ethertype).reverse)

/-- The key of a packet mark. -/
def ofMark (mark : UInt32) : FlowKey := .plain (.exact .skbMark (Bytes.ofU32 mark))

/-- The octets of a key that is not the tunnel. -/
def maskedBytes? : FlowKey → Option MaskedBytes
  | .plain k | .inPort k | .ethernet k => some k
  | .tunnel _ => none

/-- The type of a key. -/
def type : FlowKey → KeyType
  | .plain k | .inPort k | .ethernet k => k.type
  | .tunnel _ => .tunnel

/-- Whether a key counts for nothing. Such keys are not written; the Ethernet key always is. -/
def isIgnored : FlowKey → Bool
  | .plain k | .inPort k => k.isIgnored
  | .ethernet _ => false
  | .tunnel k => k.isIgnored

/-- Whether two keys agree in what counts. Keys that are octets are compared as octets, whatever
they mean. -/
def agrees : FlowKey → FlowKey → Bool
  | .tunnel a, .tunnel b => a.agrees b
  | a, b =>
    match a.maskedBytes?, b.maskedBytes? with
    | some a, some b => a.agrees b
    | _, _ => false

/-- The number of the type. -/
def typeNumber (k : FlowKey) : UInt16 := Vocabulary.number k.type

/-- The attribute with the value. -/
def keyTree (k : FlowKey) : AttributeTree :=
  match k with
  | .plain b | .inPort b | .ethernet b => .leaf k.typeNumber b.key
  | .tunnel t => .node k.typeNumber (t.key.trees t.mask.nonzero)

/-- The attribute with the mask. -/
def maskTree (k : FlowKey) : AttributeTree :=
  match k with
  | .plain b | .inPort b | .ethernet b => .leaf k.typeNumber b.mask
  | .tunnel t => .node k.typeNumber (t.mask.trees t.mask.nonzero)

end FlowKey

/-! ### Layouts -/

/-- The shape of a type of key. -/
inductive KeyLayout
  /-- A number of octets. -/
  | plain (size : Nat)
  /-- The number of a vport. -/
  | inPort
  /-- Two addresses. -/
  | ethernet
  /-- The fields of a tunnel. -/
  | tunnel
  deriving DecidableEq, Repr

/-- The shape of a type of key, if it is known. -/
def KeyType.layout? : KeyType → Option KeyLayout
  | .priority => some (.plain 4)
  | .inPort => some .inPort
  | .ethernet => some .ethernet
  | .vlan => some (.plain 2)
  | .ethertype => some (.plain 2)
  | .ipv4 => some (.plain 12)
  | .ipv6 => some (.plain 40)
  | .tcp => some (.plain 4)
  | .udp => some (.plain 4)
  | .icmp => some (.plain 2)
  | .icmpv6 => some (.plain 2)
  | .arp => some (.plain 24)
  | .neighbour => some (.plain 28)
  | .skbMark => some (.plain 4)
  | .tunnel => some .tunnel
  | .sctp => some (.plain 4)
  | .tcpFlags => some (.plain 2)
  | .hash => some (.plain 4)
  | .recirculation => some (.plain 4)
  | .unspec | .encap | .other _ => none

/-- Where the mask of a key comes from. -/
inductive MaskSource
  /-- There are no masks, so every bit counts. -/
  | exact
  /-- There are masks and none for this type, so no bit counts. -/
  | ignored
  /-- The mask for this type. -/
  | given (mask : Bytes)
  deriving DecidableEq, Repr

namespace MaskSource

/-- The mask of a key of `size` octets. -/
def octets (size : Nat) : MaskSource → Bytes
  | .exact => List.replicate size 0xFF
  | .ignored => List.replicate size 0
  | .given mask => mask

/-- The kernel matches the port exactly or not at all, and sends masks with some bits set when it
does not: such a mask selects nothing. -/
def ofPort : MaskSource → MaskSource
  -- An empty mask is left as it is, and refused for its length afterwards.
  | .given mask => if mask.areAll 0xFF then .given mask else .ignored
  | source => source

end MaskSource

namespace MaskedBytes

/-- Reads a key of `size` octets. Without a value the mask may not select any bit. -/
def parse (type : KeyType) (size : Nat) (key? : Option Bytes) (source : MaskSource) :
    Except DecodeError MaskedBytes :=
  let mask := source.octets size
  let number := Vocabulary.number type
  if hmask : mask.length = size then
    match key? with
    | some key =>
      if hkey : key.length = size then .ok ⟨type, key, mask, hmask.trans hkey.symm⟩
      else .error (.badAttributeLength number size key.length)
    | none =>
      if mask.areAll 0 then
        .ok ⟨type, List.replicate size 0, mask, hmask.trans List.length_replicate.symm⟩
      else .error (.maskWithoutKey number)
  else .error (.badAttributeLength number size mask.length)

end MaskedBytes

namespace TunnelKey

/-- The fields of the mask. -/
def maskOf : MaskSource → Except DecodeError TunnelFields
  | .exact => .ok .ones
  | .ignored => .ok .zero
  | .given mask => (TunnelFields.parse mask).map (·.1)

/-- Reads a tunnel key. Without a value the mask may not select any bit. -/
def parse (key? : Option Bytes) (source : MaskSource) : Except DecodeError TunnelKey := do
  let mask ← maskOf source
  match key? with
  | some key => return ⟨(← TunnelFields.parse key).1, mask⟩
  | none =>
    if mask.isZero then return ⟨.zero, mask⟩
    else throw (.maskWithoutKey (Vocabulary.number KeyType.tunnel))

end TunnelKey

/-- Reads a key of the type with the given number. -/
def FlowKey.parse (number : UInt16) (key? : Option Bytes) (source : MaskSource) :
    Except DecodeError FlowKey :=
  let type : KeyType := Vocabulary.ofNumber number
  match type.layout? with
  | none => .error (.unknownKey number)
  | some (.plain size) => (MaskedBytes.parse type size key? source).map .plain
  | some .inPort => (MaskedBytes.parse type 4 key? source.ofPort).map .inPort
  | some .ethernet => (MaskedBytes.parse type EthernetPair.size key? source).map .ethernet
  | some .tunnel => (TunnelKey.parse key? source).map .tunnel

end VSwitch
