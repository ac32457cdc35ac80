import Mathlib
import VSwitch.Proofs.Flow.Exact

/-!
# Actions and what they write

Two lists of actions are compared by what they write. Writing tells no more apart than the
comparison does, since it goes by what the actions effectively set, and it does not blur anything
either, since all of this is read back: the fields of a tunnel that are there, the flags among them
that are set, and where one action ends and the next one begins.

* `VSwitch.Action.fitAll_trees`: every list of actions can be written;
* `VSwitch.Action.listAgrees_iff`: two lists agree exactly if the same comes back of both;
* `VSwitch.Action.agrees_as_written` is the result.
-/

namespace VSwitch

/-! ### Writing on any draft -/

namespace AttributeTree

/-- An attribute starts at the next multiple of four, wherever the draft ends. -/
theorem run_put_align (t : AttributeTree) (d : Draft) : (put t).run d.align = (put t).run d := by
  cases t with
  | leaf type value =>
    rw [put, Put.run, Put.run, Put.runSlice, Put.runSlice, Draft.align_align, Draft.reserve_align]
  | node type children =>
    rw [put, Put.run, Put.run, Draft.align_align, Draft.reserve_align]

/-- A forest that fits is written behind the padding of any draft. -/
theorem writeOn_puts_cons {t : AttributeTree} {rest : List AttributeTree}
    (h : FitAll (t :: rest)) (d : Draft) :
    Put.writeOn (puts (t :: rest)) d = .ok (d.align.append (wires (t :: rest))) := by
  have hwrite := (writeOn_eq_ok_iff d.length_align_mod_four).2 ⟨h, rfl⟩
  rw [puts, Put.writeOn, Put.runAll, run_put_align] at hwrite
  rwa [puts, Put.writeOn, Put.runAll]

end AttributeTree

namespace Action

variable {a b : Action} {as bs : List Action}

/-! ### Every action can be written -/

theorem fits_tree (a : Action) : a.tree.Fits := by
  cases a with
  | output port =>
    rw [tree, AttributeTree.u32, AttributeTree.Fits, Bytes.length_ofU32]
    decide
  | setTunnel s =>
    have hlength := s.effective.fields.length_wires_trees_le s.effective.presence
    have hfields := s.effective.fields.fitAll_trees s.effective.presence
    have hsize : AttributeHeader.size = 4 := rfl
    have hmax : Draft.maxAttributeLength = 65535 := rfl
    -- The key that is set, with the fields in it, is all that the action holds.
    have hkey : AttributeTree.Fits (.node (Vocabulary.number KeyType.tunnel)
        (s.effective.fields.trees s.effective.presence)) := by
      rw [AttributeTree.Fits]
      exact ⟨hfields, by omega⟩
    have hset : (AttributeTree.wires [.node (Vocabulary.number KeyType.tunnel)
        (s.effective.fields.trees s.effective.presence)]).length ≤ 112 := by
      rw [AttributeTree.wires_cons, AttributeTree.wires_nil, List.append_nil,
        Attribute.length_block, AttributeTree.payload, align4]
      omega
    rw [tree, AttributeTree.Fits]
    exact ⟨⟨hkey, trivial⟩, by omega⟩

/-- **Every list of actions can be written.** -/
theorem fitAll_trees (actions : List Action) : AttributeTree.FitAll (actions.map tree) := by
  rw [AttributeTree.fitAll_iff]
  intro t ht
  obtain ⟨a, -, rfl⟩ := List.mem_map.1 ht
  exact a.fits_tree

/-! ### What the comparison tells apart -/

/-- Two actions agree exactly if the same comes back of both. -/
theorem agrees_iff : a.agrees b = true ↔ a.reread = b.reread := by
  cases a <;> cases b <;> simp [agrees, reread, SetTunnel.agrees]

theorem listAgrees_iff : listAgrees as bs = true ↔ as.map reread = bs.map reread := by
  induction as generalizing bs with
  | nil => cases bs <;> simp [listAgrees]
  | cons a as ih =>
    cases bs with
    | nil => simp [listAgrees]
    | cons b bs => simp [listAgrees, agrees_iff, ih]

/-- Lists of which the same comes back are written as the same attributes. -/
theorem map_tree_eq (h : as.map reread = bs.map reread) : as.map tree = bs.map tree := by
  have htree : ∀ actions : List Action, actions.map tree = (actions.map reread).map tree := by
    intro actions
    rw [List.map_map]
    exact List.map_congr_left fun a _ => a.tree_reread.symm
  rw [htree as, htree bs, h]

/-- **Nothing is blurred**: from the octets of actions it can be told what comes back of them. -/
theorem map_reread_eq
    (h : AttributeTree.wires (as.map tree) = AttributeTree.wires (bs.map tree)) :
    as.map reread = bs.map reread := by
  have hparse := parseAll_wires (fitAll_trees as)
  rw [h, parseAll_wires (fitAll_trees bs)] at hparse
  exact (Except.ok.inj hparse).symm

/-! ### The result -/

/-- A list of actions appends its octets, behind padding if there are any. -/
theorem writeOn_trees (actions : List Action) (d : Draft) :
    Put.writeOn (AttributeTree.puts (actions.map tree)) d = .ok (if actions = [] then d
      else d.align.append (AttributeTree.wires (actions.map tree))) := by
  cases actions with
  | nil =>
    rw [List.map_nil, AttributeTree.puts, if_pos rfl]
    rfl
  | cons a rest =>
    rw [if_neg (List.cons_ne_nil a rest)]
    exact AttributeTree.writeOn_puts_cons (fitAll_trees (a :: rest)) d

/-- Actions make a draft longer. -/
theorem bytes_append_wires_ne (a : Action) (rest : List Action) (d : Draft) :
    (d.align.append (AttributeTree.wires ((a :: rest).map tree))).bytes ≠ d.bytes := by
  intro h
  have hlength := congrArg List.length h
  have hpad := le_align4 d.bytes.length
  have hblock := le_align4 (AttributeHeader.size + a.tree.payload.length)
  have hsize : AttributeHeader.size = 4 := rfl
  rw [List.map_cons, AttributeTree.wires_cons, Draft.append, List.length_append,
    List.length_append, Attribute.length_block, Draft.align, Bytes.length_pad4] at hlength
  omega

/-- Lists that leave the same draft have the same octets. -/
theorem wires_eq_of_bytes_eq {d : Draft}
    (h : (if as = [] then d else d.align.append (AttributeTree.wires (as.map tree))).bytes =
      (if bs = [] then d else d.align.append (AttributeTree.wires (bs.map tree))).bytes) :
    AttributeTree.wires (as.map tree) = AttributeTree.wires (bs.map tree) := by
  cases as with
  | nil =>
    cases bs with
    | nil => rfl
    | cons b bs => exact absurd h.symm (bytes_append_wires_ne b bs d)
  | cons a as =>
    cases bs with
    | nil => exact absurd h (bytes_append_wires_ne a as d)
    | cons b bs => exact List.append_cancel_left h

/-- **Actions agree exactly if they write the same.** Whatever two lists of actions are, both can be
written on any draft, and what stands there afterwards is the same exactly if the lists agree. What
is written is read as a list of the same length and in the same order: a vport that packets leave by
is the same one, and an action that sets the metadata of a tunnel is what it effectively sets. -/
theorem agrees_as_written (as bs : List Action) :
    (∀ d : Draft, ∃ d₁ d₂, Put.writeOn (AttributeTree.puts (as.map tree)) d = .ok d₁ ∧
      Put.writeOn (AttributeTree.puts (bs.map tree)) d = .ok d₂ ∧
      (d₁.bytes = d₂.bytes ↔ listAgrees as bs = true)) ∧
    ∃ (octets : Bytes) (back : List Action), AttributeTree.encode (as.map tree) = .ok octets ∧
      parseAll octets = .ok back ∧ back.length = as.length ∧
      (∀ (i : Nat) (port : VportId), as[i]? = some (.output port) →
        back[i]? = some (.output port)) ∧
      ∀ (i : Nat) (s : SetTunnel), as[i]? = some (.setTunnel s) →
        back[i]? = some (.setTunnel s.effective) := by
  have hfits := fitAll_trees as
  have hencode : AttributeTree.encode (as.map tree) = .ok (AttributeTree.wires (as.map tree)) := by
    rw [AttributeTree.encode, (AttributeTree.writeOn_eq_ok_iff (d := ⟨[]⟩) rfl).2 ⟨hfits, rfl⟩]
    rfl
  refine ⟨fun d => ⟨_, _, writeOn_trees as d, writeOn_trees bs d, ?_⟩, _, as.map reread, hencode,
    parseAll_wires hfits, List.length_map reread, ?_, ?_⟩
  · rw [listAgrees_iff]
    constructor
    · intro hbytes
      exact map_reread_eq (wires_eq_of_bytes_eq hbytes)
    · intro hreread
      have hempty : as = [] ↔ bs = [] := by
        rw [← List.map_eq_nil_iff (f := reread), hreread, List.map_eq_nil_iff]
      rw [map_tree_eq hreread]
      simp only [hempty]
  · intro i port hi
    rw [List.getElem?_map, hi]
    rfl
  · intro i s hi
    rw [List.getElem?_map, hi]
    rfl

/-- A field that is left out, whatever its value is, and a flag that is said to be there but is not
set make no difference; a field of zeros that is there does. -/
example :
    listAgrees [.setTunnel ⟨{ TunnelFields.zero with tos := 3 }, { dontFragment := true }⟩]
        [.setTunnel ⟨.zero, {}⟩] = true ∧
      listAgrees [.setTunnel ⟨.zero, { tos := true }⟩] [.setTunnel ⟨.zero, {}⟩] = false := by
  decide

end Action

end VSwitch
