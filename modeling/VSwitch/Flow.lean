import VSwitch.Cursor
import VSwitch.Datapath.Basic
import VSwitch.Flow.Action
import VSwitch.Flow.Match

/-!
# Flows

A flow is a match and the actions on the packets that match; one that is read from the kernel has
counters, too.

* `VSwitch.Flow.trees` is what a flow says in a message;
* `VSwitch.Flow.parse` reads a message about a flow of a datapath;
* `VSwitch.Flow.agrees` compares two flows, whatever their counters.
-/

namespace VSwitch

/-- The counters of a flow. -/
structure FlowStats where
  /-- Number of packets that matched. -/
  packets : UInt64
  /-- Number of octets in them. -/
  bytes : UInt64
  /-- When the last one matched, in milliseconds since the system was started. -/
  used? : Option UInt64
  /-- The TCP flags seen in any of them. -/
  tcpFlags? : Option UInt8
  deriving DecidableEq, Repr

/-- A flow. -/
structure Flow where
  /-- Which packets match. -/
  keys : Match
  /-- What is done with them, in order. -/
  actions : List Action
  /-- The counters, if the flow was read from the kernel and has any. -/
  stats? : Option FlowStats
  deriving DecidableEq

namespace FlowStats

/-- Number of octets of the counters that are always there. -/
def size : Nat := 16

/-- The counters in the attributes of a flow. -/
def ofAttributes (s : AttributeSet) : Except DecodeError (Option FlowStats) := do
  match s.get? (Vocabulary.number FlowAttribute.stats) with
  | none => return none
  | some counters =>
    ensureLength "flow stats" counters size
    return some {
      packets := Bytes.toU64 counters
      bytes := Bytes.toU64 (counters.drop 8)
      used? := ← s.u64? (Vocabulary.number FlowAttribute.used)
      tcpFlags? := ← s.u8? (Vocabulary.number FlowAttribute.tcpFlags) }

end FlowStats

namespace Flow

/-- Whether two flows match and do the same. -/
def agrees (a b : Flow) : Bool := a.keys.agrees b.keys && Action.listAgrees a.actions b.actions

/-- The attributes of a flow: the values of its keys, their masks, and its actions, each of them
written even if it is empty. -/
def trees (f : Flow) : List AttributeTree :=
  [.node (Vocabulary.number FlowAttribute.key) f.keys.keyTrees,
    .node (Vocabulary.number FlowAttribute.mask) f.keys.maskTrees,
    .node (Vocabulary.number FlowAttribute.actions) (f.actions.map Action.tree)]

/-- The flow in a set of attributes. -/
def ofAttributes (s : AttributeSet) : Except DecodeError Flow := do
  let keys ← s.nested (Vocabulary.number FlowAttribute.key)
  let masks? ← s.nested? (Vocabulary.number FlowAttribute.mask)
  let keys ← Match.parse keys masks?
  -- A flow without actions still has the attribute for them.
  let actions ← Action.parseAll (← s.bytes (Vocabulary.number FlowAttribute.actions))
  let stats? ← FlowStats.ofAttributes s
  return { keys, actions, stats? }

/-- The commands of messages that hold a flow. -/
def replyCommands : List UInt8 :=
  [Vocabulary.number ObjectCommand.new, Vocabulary.number ObjectCommand.get]

/-- Reads a message of the flow family about a datapath. -/
def parse (family : UInt16) (dp : Datapath) : Bytes → Except Failure Flow :=
  Cursor.scan do
    let (_, header) ← Cursor.reading (Cursor.checkHeaders family replyCommands)
    MonadExcept.ofExcept (dp.ensure ⟨header.ifindex⟩)
    let attributes ← Cursor.reading Cursor.attributes
    MonadExcept.ofExcept ((ofAttributes attributes).mapError .decode)

end Flow

end VSwitch
