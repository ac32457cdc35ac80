import VSwitch.Attribute.Set
import VSwitch.Attribute.Tree
import VSwitch.Vocabulary.Switch

/-!
# Tunnel metadata

The tunnel key of a flow is a set of fields that are present independently of each other. The same
fields serve as values, as masks and as what an action sets; which of them are written is said
apart from their values.

* `VSwitch.TunnelFields` holds the values and `VSwitch.TunnelPresence` which fields there are;
* `VSwitch.TunnelFields.trees` writes the fields that are present, of the flags only those set;
* `VSwitch.TunnelFields.parse` reads a set of fields. What is missing counts as zero.
-/

namespace VSwitch

/-- Which fields of a tunnel there are. -/
structure TunnelPresence where
  /-- The tunnel's number. -/
  id : Bool := false
  /-- The outer source address. -/
  source : Bool := false
  /-- The outer destination address. -/
  destination : Bool := false
  /-- The outer type of service. -/
  tos : Bool := false
  /-- The outer time to live. -/
  ttl : Bool := false
  /-- The flag against fragments. -/
  dontFragment : Bool := false
  /-- The flag for a checksum. -/
  checksum : Bool := false
  deriving DecidableEq, Repr

/-- The fields of a tunnel. -/
structure TunnelFields where
  /-- The tunnel's number, the highest octet first. -/
  id : Octets 8
  /-- The outer source address. -/
  source : Octets 4
  /-- The outer destination address. -/
  destination : Octets 4
  /-- The outer type of service. -/
  tos : UInt8
  /-- The outer time to live. -/
  ttl : UInt8
  /-- The flag against fragments. -/
  dontFragment : Bool
  /-- The flag for a checksum. -/
  checksum : Bool
  deriving DecidableEq, Repr

namespace TunnelFields

/-- Nothing but zeros. -/
def zero : TunnelFields where
  id := .fill 8 0
  source := .fill 4 0
  destination := .fill 4 0
  tos := 0
  ttl := 0
  dontFragment := false
  checksum := false

/-- Nothing but ones: the mask under which every field counts. -/
def ones : TunnelFields where
  id := .fill 8 0xFF
  source := .fill 4 0xFF
  destination := .fill 4 0xFF
  tos := 0xFF
  ttl := 0xFF
  dontFragment := true
  checksum := true

variable (f : TunnelFields)

/-- The fields that are not zero. -/
def nonzero : TunnelPresence where
  id := !f.id.isZero
  source := !f.source.isZero
  destination := !f.destination.isZero
  tos := f.tos != 0
  ttl := f.ttl != 0
  dontFragment := f.dontFragment
  checksum := f.checksum

/-- Whether there is nothing but zeros. -/
def isZero : Bool := f == zero

/-- The octets of a flag: all ones if it is set. -/
def flagOctet (set : Bool) : UInt8 := if set then 0xFF else 0

/-- The fields one after the other, as 20 octets. -/
def toBytes : Bytes :=
  f.id.val ++ f.source.val ++ f.destination.val ++
    [f.tos, f.ttl, flagOctet f.dontFragment, flagOctet f.checksum]

/-- What of the fields there is, with zeros in place of the others. -/
def restrict (p : TunnelPresence) : TunnelFields where
  id := if p.id then f.id else .fill 8 0
  source := if p.source then f.source else .fill 4 0
  destination := if p.destination then f.destination else .fill 4 0
  tos := if p.tos then f.tos else 0
  ttl := if p.ttl then f.ttl else 0
  dontFragment := p.dontFragment && f.dontFragment
  checksum := p.checksum && f.checksum

/-- The number of a field. -/
def field (t : TunnelField) : UInt16 := Vocabulary.number t

/-- The attributes of the fields that are present. A flag is written only if it is set. -/
def trees (p : TunnelPresence) : List AttributeTree :=
  (if p.id then [.leaf (field .id) f.id.val] else []) ++
  (if p.source then [.leaf (field .source) f.source.val] else []) ++
  (if p.destination then [.leaf (field .destination) f.destination.val] else []) ++
  (if p.tos then [.u8 (field .tos) f.tos] else []) ++
  (if p.ttl then [.u8 (field .ttl) f.ttl] else []) ++
  (if p.dontFragment && f.dontFragment then [.flag (field .dontFragment)] else []) ++
  (if p.checksum && f.checksum then [.flag (field .checksum)] else [])

/-- The octets of a field, if it is there. -/
def octets? (s : AttributeSet) (n : Nat) (t : TunnelField) :
    Except DecodeError (Option (Octets n)) :=
  s.optional (field t) fun s type => s.octets type n

/-- The fields in a set of attributes, and which of them it has. -/
def ofAttributes (s : AttributeSet) : Except DecodeError (TunnelFields × TunnelPresence) := do
  let id ← octets? s 8 .id
  let source ← octets? s 4 .source
  let destination ← octets? s 4 .destination
  let tos ← s.u8? (field .tos)
  let ttl ← s.u8? (field .ttl)
  -- A flag is set by being there, whatever it holds.
  let dontFragment := s.contains (field .dontFragment)
  let checksum := s.contains (field .checksum)
  let fields : TunnelFields := {
    id := id.getD (.fill 8 0)
    source := source.getD (.fill 4 0)
    destination := destination.getD (.fill 4 0)
    tos := tos.getD 0
    ttl := ttl.getD 0
    dontFragment
    checksum }
  let presence : TunnelPresence := {
    id := id.isSome
    source := source.isSome
    destination := destination.isSome
    tos := tos.isSome
    ttl := ttl.isSome
    dontFragment
    checksum }
  return (fields, presence)

/-- Reads the fields of a tunnel, and tells which of them there are. -/
def parse (octets : Bytes) : Except DecodeError (TunnelFields × TunnelPresence) := do
  ofAttributes (← AttributeSet.parse octets)

end TunnelFields

end VSwitch
