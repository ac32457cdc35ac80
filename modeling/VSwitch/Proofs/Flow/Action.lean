import VSwitch.Flow.Action
import VSwitch.Proofs.Flow.Tunnel

/-!
# Actions on the wire and back

An action is one attribute, and a list of actions is a list of attributes in which a type may occur
more than once. An action that sets the metadata of a tunnel comes back as what it writes,
`VSwitch.SetTunnel.effective`, and this is all that two such actions are compared by.

* `VSwitch.Action.reread` is what comes back of an action;
* `VSwitch.Action.parseAll_wires`: a list of actions comes back in its order;
* `VSwitch.Action.listAgrees_reread` and `VSwitch.Action.reread_listAgrees` compare the two lists.
-/

namespace VSwitch

/-! ### What an action writes -/

namespace SetTunnel

/-- What is left out is left out only once. -/
theorem restrict_effective (s : SetTunnel) :
    s.effective.fields.restrict s.effective.presence = s.effective.fields := by
  simp only [effective, TunnelFields.restrict, Bool.and_self]
  congr 1 <;> split <;> simp_all

theorem written_effective (s : SetTunnel) :
    s.effective.fields.written s.effective.presence = s.effective.presence := by
  simp only [effective, TunnelFields.written, Bool.and_self]

/-- **An action that is what it writes** writes itself. -/
theorem effective_effective (s : SetTunnel) : s.effective.effective = s.effective := by
  have hfields := s.restrict_effective
  rw [effective, hfields]
  rfl

end SetTunnel

namespace Action

variable {a : Action} {actions : List Action}

/-- What comes back of an action that is written and read. -/
def reread : Action → Action
  | .output port => .output port
  | .setTunnel s => .setTunnel s.effective

theorem type_tree_lt (a : Action) : a.tree.type < 0x4000 := by
  cases a with
  | output port => exact (by decide : Vocabulary.number ActionType.output < (0x4000 : UInt16))
  | setTunnel s => exact (by decide : Vocabulary.number ActionType.set < (0x4000 : UInt16))

/-! ### Reading actions -/

theorem parseSet_wires (s : SetTunnel)
    (h : AttributeTree.Fits (.node (Vocabulary.number KeyType.tunnel)
      (s.effective.fields.trees s.effective.presence))) :
    parseSet (AttributeTree.wires [.node (Vocabulary.number KeyType.tunnel)
      (s.effective.fields.trees s.effective.presence)]) = .ok (.setTunnel s.effective) := by
  have hplain : Vocabulary.number KeyType.tunnel < (0x4000 : UInt16) := by decide
  have hfields := TunnelFields.parse_wires_trees s.effective.fields s.effective.presence
  rw [s.restrict_effective, s.written_effective] at hfields
  rw [parseSet, AttributeTree.parse_wires_singleton h hplain]
  simp only [AttributeTree.type, AttributeTree.payload, bind, Except.bind, if_true, hfields, pure,
    Except.pure]

/-- **An action that is written comes back.** -/
theorem parse_tree (a : Action) (h : a.tree.Fits) :
    parse a.tree.type a.tree.payload = .ok a.reread := by
  cases a with
  | output port =>
    have hvalue := Bytes.toU32_ofU32 port.number
    change parseOutput (Vocabulary.number ActionType.output) (Bytes.ofU32 port.number) = _
    rw [parseOutput, if_pos (by simp [Bytes.holds]), hvalue]
    rfl
  | setTunnel s =>
    change parseSet (AttributeTree.wires _) = _
    rw [tree, AttributeTree.Fits, AttributeTree.FitAll] at h
    exact parseSet_wires s h.1.1

theorem parseEach_trees (h : ∀ a ∈ actions, a.tree.Fits) :
    parseEach (actions.map fun a => (a.tree.type, a.tree.payload)) =
      .ok (actions.map reread) := by
  induction actions with
  | nil => rfl
  | cons a rest ih =>
    have ha := parse_tree a (h a List.mem_cons_self)
    have hrest := ih fun b hb => h b (List.mem_cons_of_mem a hb)
    simp only [List.map_cons, parseEach, ha, hrest]
    rfl

/-- **Actions come back in their order.** -/
theorem parseAll_wires (h : AttributeTree.FitAll (actions.map tree)) :
    parseAll (AttributeTree.wires (actions.map tree)) = .ok (actions.map reread) := by
  have hplain : ∀ t ∈ actions.map tree, t.type < 0x4000 := by
    rintro t ht
    obtain ⟨a, -, rfl⟩ := List.mem_map.1 ht
    exact a.type_tree_lt
  have hfits : ∀ a ∈ actions, a.tree.Fits := fun a ha =>
    AttributeTree.fitAll_iff.1 h _ (List.mem_map_of_mem ha)
  rw [parseAll, AttributeTree.parse_wires h hplain, List.map_map]
  exact parseEach_trees hfits

/-! ### What comes back agrees -/

/-- **An action agrees with what comes back of it.** -/
theorem agrees_reread (a : Action) : a.agrees a.reread = true := by
  cases a with
  | output port => simp [agrees, reread]
  | setTunnel s => simp [agrees, reread, SetTunnel.agrees, s.effective_effective]

theorem reread_agrees (a : Action) : a.reread.agrees a = true := by
  cases a with
  | output port => simp [agrees, reread]
  | setTunnel s => simp [agrees, reread, SetTunnel.agrees, s.effective_effective]

theorem listAgrees_reread (actions : List Action) :
    listAgrees actions (actions.map reread) = true := by
  induction actions with
  | nil => rfl
  | cons a rest ih => rw [List.map_cons, listAgrees, a.agrees_reread, ih, Bool.and_self]

theorem reread_listAgrees (actions : List Action) :
    listAgrees (actions.map reread) actions = true := by
  induction actions with
  | nil => rfl
  | cons a rest ih => rw [List.map_cons, listAgrees, a.reread_agrees, ih, Bool.and_self]

end Action

end VSwitch
