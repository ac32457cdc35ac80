import VSwitch.Draft

/-!
# Trees of attributes

What a message says in its attributes is a forest: a leaf has a value of octets, and a node has
attributes again. The parts of the switch describe themselves as forests.

* `VSwitch.AttributeTree.put` turns a tree into the call that writes it;
* `VSwitch.AttributeTree.encode` are the octets of a forest, and `VSwitch.AttributeTree.message` is
  a message that holds nothing else.
-/

namespace VSwitch

/-- An attribute with a value, or with attributes in it. -/
inductive AttributeTree
  /-- An attribute with a value of octets. -/
  | leaf (type : UInt16) (value : Bytes)
  /-- An attribute with attributes in it. -/
  | node (type : UInt16) (children : List AttributeTree)

namespace AttributeTree

/-- An attribute with an 8 bit number. -/
def u8 (type : UInt16) (v : UInt8) : AttributeTree := .leaf type [v]

/-- An attribute with a 16 bit number. -/
def u16 (type : UInt16) (v : UInt16) : AttributeTree := .leaf type (Bytes.ofU16 v)

/-- An attribute with a 32 bit number. -/
def u32 (type : UInt16) (v : UInt32) : AttributeTree := .leaf type (Bytes.ofU32 v)

/-- An attribute that says all by being there. -/
def flag (type : UInt16) : AttributeTree := .leaf type []

/-- The type of an attribute. -/
def type : AttributeTree → UInt16
  | .leaf type _ => type
  | .node type _ => type

mutual

/-- The call that writes an attribute. -/
def put : AttributeTree → Put
  | .leaf type value => .slice type value
  | .node type children => .nested type (puts children)

/-- The calls that write a forest. -/
def puts : List AttributeTree → List Put
  | [] => []
  | t :: rest => put t :: puts rest

end

/-- The octets of a forest. -/
def encode (trees : List AttributeTree) : Except EncodeError Bytes :=
  (Put.writeOn (puts trees) ⟨[]⟩).map (·.bytes)

/-- The message of a type that holds nothing but a forest. -/
def message (type : UInt16) (trees : List AttributeTree) (sequence : UInt32) :
    Except EncodeError Bytes := do
  (← Put.writeOn (puts trees) (Draft.start 0 type)).finish sequence

end AttributeTree

end VSwitch
