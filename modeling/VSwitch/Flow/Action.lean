import VSwitch.Flow.Tunnel
import VSwitch.Vport.Id

/-!
# Actions

What a flow does with its packets, in order; the same action may occur more than once.

* `VSwitch.Action.tree` writes an action and `VSwitch.Action.parse` reads one;
* `VSwitch.Action.agrees` compares two actions in what they write.
-/

namespace VSwitch

/-- An action that sets the metadata of the tunnel that a packet goes into. -/
structure SetTunnel where
  /-- The values. -/
  fields : TunnelFields
  /-- The fields that are set. A flag is set only where its value is, too. -/
  presence : TunnelPresence
  deriving DecidableEq, Repr

namespace SetTunnel

/-- The action that sets every field that is not zero. -/
def ofFields (fields : TunnelFields) : SetTunnel := ⟨fields, fields.nonzero⟩

/-- What the action writes: the values of the fields that are set, and which these are. -/
def effective (s : SetTunnel) : SetTunnel :=
  let fields := s.fields.restrict s.presence
  ⟨fields, { s.presence with
    dontFragment := fields.dontFragment
    checksum := fields.checksum }⟩

/-- Whether two actions write the same. -/
def agrees (a b : SetTunnel) : Bool := a.effective == b.effective

end SetTunnel

/-- An action. -/
inductive Action
  /-- The packet leaves by a vport. -/
  | output (port : VportId)
  /-- The metadata of the tunnel is set for what follows. -/
  | setTunnel (s : SetTunnel)
  deriving DecidableEq, Repr

namespace Action

/-- The type of an action. -/
def type : Action → ActionType
  | .output _ => .output
  | .setTunnel _ => .set

/-- Whether two actions write the same. -/
def agrees : Action → Action → Bool
  | .output p, .output q => p == q
  | .setTunnel a, .setTunnel b => a.agrees b
  | _, _ => false

/-- Whether two lists of actions write the same. -/
def listAgrees : List Action → List Action → Bool
  | [], [] => true
  | a :: as, b :: bs => a.agrees b && listAgrees as bs
  | _, _ => false

/-- The attribute of an action. -/
def tree (a : Action) : AttributeTree :=
  match a with
  | .output port => .u32 (Vocabulary.number a.type) port.number
  | .setTunnel s =>
    .node (Vocabulary.number a.type)
      [.node (Vocabulary.number KeyType.tunnel) (s.effective.fields.trees s.effective.presence)]

/-- Reads the vport that a packet leaves by; octets after its number are passed over. -/
def parseOutput (number : UInt16) (value : Bytes) : Except DecodeError Action :=
  if value.holds 4 then .ok (.output ⟨Bytes.toU32 value⟩)
  else .error (.badAttributeLength number 4 value.length)

/-- Reads the one key that an action sets, which has to be the tunnel. -/
def parseSet (value : Bytes) : Except DecodeError Action := do
  match ← Attribute.parse value with
  | [(number, value)] =>
    if number = Vocabulary.number KeyType.tunnel then
      let (fields, presence) ← TunnelFields.parse value
      return .setTunnel ⟨fields, presence⟩
    else throw (.unsupportedSet number)
  | several => throw (.notOneSet several.length)

/-- Reads an action of the type with the given number. -/
def parse (number : UInt16) (value : Bytes) : Except DecodeError Action :=
  match (Vocabulary.ofNumber number : ActionType) with
  | .output => parseOutput number value
  | .set => parseSet value
  | .unspec | .userspace | .other _ => .error (.unknownAction number)

/-- Reads actions one after the other. -/
def parseEach : List (UInt16 × Bytes) → Except DecodeError (List Action)
  | [] => .ok []
  | (number, value) :: rest => do
    let action ← parse number value
    return action :: (← parseEach rest)

/-- Reads a list of actions. -/
def parseAll (octets : Bytes) : Except DecodeError (List Action) := do
  parseEach (← Attribute.parse octets)

end Action

end VSwitch
