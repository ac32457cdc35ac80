import Mathlib.Data.List.Forall2
import VSwitch.Flow.Operations
import VSwitch.Proofs.Envelope
import VSwitch.Proofs.Flow.Action
import VSwitch.Proofs.Flow.Match

/-!
# Flows on the wire and back

A flow that can be written at all is read from its message again, as a flow that matches and does
the same: the keys that count, each with its mask, and the actions in their order.

* `VSwitch.Flow.reread` is the flow that is read, and `VSwitch.Flow.ofAttributes_wires_trees` that
  it is;
* `VSwitch.Flow.roundTrip` is the result about messages.
-/

namespace VSwitch

/-! ### What a key may come back as -/

namespace FlowKey

/-- What a key may come back as: octets as they are, a tunnel with the mask that it had. -/
inductive ReadAs : FlowKey → FlowKey → Prop
  /-- Octets, whatever they mean. -/
  | octets {k : FlowKey} (h : k.maskedBytes?.isSome = true) : ReadAs k k
  /-- The fields of a tunnel, of which only those that the mask selects need to be the same. -/
  | tunnel (key key' mask : TunnelFields) : ReadAs (.tunnel ⟨key, mask⟩) (.tunnel ⟨key', mask⟩)

theorem readAs_reread (k : FlowKey) : k.ReadAs k.reread := by
  cases k with
  | plain b | inPort b | ethernet b => exact .octets rfl
  | tunnel t => exact .tunnel _ _ _

end FlowKey

namespace Flow

variable {families : Families} {flags : UInt16} {command : ObjectCommand} {dp : Datapath}
  {f : Flow} {d : Draft}

/-- The flow that comes back of a flow that is written and read. -/
def reread (f : Flow) : Flow where
  keys := f.keys.reread
  actions := f.actions.map Action.reread
  stats? := none

/-! ### The attributes -/

/-- The set of the attributes of a flow, from the octets of each. -/
def attributeSet (keys masks actions : Bytes) : AttributeSet :=
  Table.ofList [(Vocabulary.number FlowAttribute.key, keys),
    (Vocabulary.number FlowAttribute.mask, masks),
    (Vocabulary.number FlowAttribute.actions, actions)]

theorem get?_attributeSet (keys masks actions : Bytes) (type : UInt16) :
    (attributeSet keys masks actions).get? type =
      if Vocabulary.number FlowAttribute.actions = type then some actions
      else if Vocabulary.number FlowAttribute.mask = type then some masks
      else if Vocabulary.number FlowAttribute.key = type then some keys else none := by
  simp only [attributeSet, Table.ofList, List.foldl_cons, List.foldl_nil, Table.get?_insert,
    Table.get?_empty]

theorem parse_wires_trees (h : AttributeTree.FitAll f.trees) :
    AttributeSet.parse (AttributeTree.wires f.trees) = .ok (attributeSet
      (AttributeTree.wires f.keys.keyTrees) (AttributeTree.wires f.keys.maskTrees)
      (AttributeTree.wires (f.actions.map Action.tree))) := by
  have hplain : ∀ t ∈ f.trees, t.type < 0x4000 := by
    simp [trees, AttributeTree.type, Vocabulary.number]
  exact AttributeTree.attributes_wires h hplain

/-- A flow is read from the three attributes that it is written as; there are no counters. -/
theorem ofAttributes_attributeSet {keyOctets maskOctets actionOctets : Bytes}
    {keys masks : AttributeSet} {m : Match} {actions : List Action}
    (hkeys : AttributeSet.parse keyOctets = .ok keys)
    (hmasks : AttributeSet.parse maskOctets = .ok masks)
    (hmatch : Match.parse keys (some masks) = .ok m)
    (hactions : Action.parseAll actionOctets = .ok actions) :
    ofAttributes (attributeSet keyOctets maskOctets actionOctets) = .ok ⟨m, actions, none⟩ := by
  have hget := get?_attributeSet keyOctets maskOctets actionOctets
  have hkey : (attributeSet keyOctets maskOctets actionOctets).nested
      (Vocabulary.number FlowAttribute.key) = .ok keys := by
    rw [AttributeSet.nested, AttributeSet.bytes, hget]
    exact hkeys
  have hmask : (attributeSet keyOctets maskOctets actionOctets).nested?
      (Vocabulary.number FlowAttribute.mask) = .ok (some masks) := by
    rw [AttributeSet.nested?, AttributeSet.optional, Table.contains, AttributeSet.nested,
      AttributeSet.bytes, hget]
    change (AttributeSet.parse maskOctets).map some = _
    rw [hmasks]
    rfl
  have haction : (attributeSet keyOctets maskOctets actionOctets).bytes
      (Vocabulary.number FlowAttribute.actions) = .ok actionOctets := by
    rw [AttributeSet.bytes, hget]
    rfl
  have hstats : FlowStats.ofAttributes (attributeSet keyOctets maskOctets actionOctets) =
      .ok none := by
    rw [FlowStats.ofAttributes, hget]
    rfl
  simp only [ofAttributes, hkey, hmask, hmatch, haction, hactions, hstats, bind, Except.bind]
  rfl

/-- **The attributes of a flow are read as the flow that comes back.** -/
theorem ofAttributes_wires_trees (hwf : f.keys.WellFormed) (h : AttributeTree.FitAll f.trees) :
    ∃ s, AttributeSet.parse (AttributeTree.wires f.trees) = .ok s ∧
      ofAttributes s = .ok f.reread := by
  refine ⟨_, parse_wires_trees h, ?_⟩
  simp only [trees, AttributeTree.FitAll, AttributeTree.Fits] at h
  obtain ⟨⟨hkeys, -⟩, ⟨hmasks, -⟩, ⟨hactions, -⟩, -⟩ := h
  obtain ⟨keys, masks, hkeys, hmasks, hmatch⟩ := Match.parse_wires_trees hwf hkeys hmasks
  exact ofAttributes_attributeSet hkeys hmasks hmatch (Action.parseAll_wires hactions)

/-! ### The message -/

/-- The attributes of a flow are too short to make a message too long. -/
theorem length_wires_trees_le (h : AttributeTree.FitAll f.trees) :
    (AttributeTree.wires f.trees).length ≤ 3 * 0x10000 := by
  simp only [trees, AttributeTree.FitAll, AttributeTree.Fits] at h
  obtain ⟨⟨-, hkeys⟩, ⟨-, hmasks⟩, ⟨-, hactions⟩, -⟩ := h
  simp only [Draft.maxAttributeLength] at hkeys hmasks hactions
  simp only [trees, AttributeTree.wires_cons, AttributeTree.wires_nil, List.append_nil,
    List.length_append, Attribute.length_block, AttributeTree.payload]
  simp only [align4]
  omega

/-- What the attributes behind the three headers say is what a message about the datapath says. -/
theorem parse_of_ofAttributes {header : MessageHeader} {generic : GenericHeader} {octets : Bytes}
    {s : AttributeSet} (hcommand : generic.command ∈ replyCommands)
    (hset : AttributeSet.parse octets = .ok s) (hflow : ofAttributes s = .ok f) :
    parse header.type dp (header.toBytes ++ (generic.toBytes ++
      (DatapathHeader.toBytes ⟨dp.ifindex⟩ ++ octets))) = .ok f := by
  have hensure : dp.ensure ⟨dp.ifindex⟩ = .ok () := by simp [Datapath.ensure]
  have hresult : (ofAttributes s).mapError Failure.decode = .ok f := by rw [hflow]; rfl
  refine Cursor.Reads.scan (?_ : Cursor.Reads _ _ f [])
  refine (Cursor.reads_checkHeaders header ⟨dp.ifindex⟩ hcommand).reading.bind ?_
  refine .bind (.ofExcept hensure) ?_
  exact (Cursor.reads_attributes hset).reading.bind (.ofExcept hresult)

/-- The message of a flow that can be written, and what it is read as. -/
theorem parse_message (hcommand : Vocabulary.number command ∈ replyCommands)
    (hwf : f.keys.WellFormed)
    (hdraft : (messageFor families flags command dp (AttributeTree.puts f.trees)).draft = .ok d)
    (sequence : UInt32) :
    ∃ message, d.finish sequence = .ok message ∧
      parse families.flow.id dp message = .ok f.reread := by
  obtain ⟨hfits, rfl⟩ := (Request.draft_eq_ok_iff rfl).1 hdraft
  obtain ⟨s, hset, hflow⟩ := ofAttributes_wires_trees hwf hfits
  have hlength := length_wires_trees_le hfits
  have haligned := AttributeTree.length_wires_mod_four f.trees
  -- The headers behind the first one are those of a request that names a datapath.
  have hhead : (messageFor families flags command dp (AttributeTree.puts f.trees)).head =
      GenericHeader.toBytes ⟨Vocabulary.number command, flowVersion⟩ ++
        DatapathHeader.toBytes ⟨dp.ifindex⟩ := rfl
  rw [hhead, List.append_assoc]
  refine ⟨_, Draft.finish_start_append _ _ _ ?_ ?_, ?_⟩
  · simp only [List.length_append, GenericHeader.length_toBytes, DatapathHeader.length_toBytes,
      GenericHeader.size, DatapathHeader.size]
    omega
  · simp only [List.length_append, GenericHeader.length_toBytes, DatapathHeader.length_toBytes,
      GenericHeader.size, DatapathHeader.size, MessageHeader.size, Draft.maxLength]
    omega
  · have hmem : (⟨Vocabulary.number command, flowVersion⟩ : GenericHeader).command ∈
        replyCommands := hcommand
    exact parse_of_ofAttributes hmem hset hflow

/-- **A flow comes back.** If every key of a flow has the shape of its type and the flow can be
written behind the headers of a datapath, in a message that creates or tells a flow, then this
message can be finished, and it is read as a flow without counters that agrees with the one
written. Its keys are those that count, each as `FlowKey.ReadAs` says, and its actions write the
same one by one. -/
theorem roundTrip (hcommand : command = .new ∨ command = .get) (hwf : f.keys.WellFormed)
    (hdraft : (messageFor families flags command dp (AttributeTree.puts f.trees)).draft = .ok d)
    (sequence : UInt32) :
    ∃ message g, d.finish sequence = .ok message ∧
      parse families.flow.id dp message = .ok g ∧
      f.agrees g = true ∧ g.agrees f = true ∧ g.stats? = none ∧
      List.Forall₂ FlowKey.ReadAs f.keys.counting g.keys.toList ∧
      List.Forall₂ (fun a b => a.agrees b = true) f.actions g.actions := by
  have hreply : Vocabulary.number command ∈ replyCommands := by
    rcases hcommand with rfl | rfl <;> simp [replyCommands]
  obtain ⟨message, hfinish, hparse⟩ := parse_message hreply hwf hdraft sequence
  refine ⟨message, f.reread, hfinish, hparse, ?_, ?_, rfl, ?_, ?_⟩
  · rw [agrees, reread, f.keys.agrees_reread, Action.listAgrees_reread, Bool.and_self]
  · rw [agrees, reread, f.keys.reread_agrees, Action.reread_listAgrees, Bool.and_self]
  · rw [reread, Match.toList_reread, List.forall₂_map_right_iff]
    exact List.forall₂_same.2 fun k _ => k.readAs_reread
  · rw [reread, List.forall₂_map_right_iff]
    exact List.forall₂_same.2 fun a _ => a.agrees_reread

/-- A flow of packets that come out of a tunnel: some bits of its number and of its time to live
count, the priority counts for nothing, and the packets leave twice by one vport. -/
def outOfTunnel : Flow where
  keys := .ofList [
    .tunnel ⟨⟨.fill 8 0x21, .fill 4 10, .fill 4 11, 1, 64, true, false⟩,
      ⟨.fill 8 0x0F, .fill 4 0, .fill 4 0, 0, 0xC0, true, false⟩⟩,
    .plain ⟨.priority, [1, 2, 3, 4], [0, 0, 0, 0], rfl⟩,
    .ofPort ⟨3⟩]
  actions := [.output ⟨1⟩, .setTunnel (.ofFields ⟨.fill 8 7, .fill 4 0, .fill 4 9, 0, 64, true,
    false⟩), .output ⟨1⟩]
  stats? := none

theorem wellFormed_outOfTunnel : outOfTunnel.keys.WellFormed := by
  have hlist : outOfTunnel.keys.toList = [
      .plain ⟨.priority, [1, 2, 3, 4], [0, 0, 0, 0], rfl⟩,
      .ofPort ⟨3⟩,
      .tunnel ⟨⟨.fill 8 0x21, .fill 4 10, .fill 4 11, 1, 64, true, false⟩,
        ⟨.fill 8 0x0F, .fill 4 0, .fill 4 0, 0, 0xC0, true, false⟩⟩] := by decide
  intro k hk
  rw [hlist] at hk
  simp only [List.mem_cons, List.not_mem_nil, or_false] at hk
  rcases hk with rfl | rfl | rfl
  · exact .plain rfl rfl
  · exact .inPort rfl rfl (.inr rfl)
  · exact .tunnel _

theorem roundTrip_outOfTunnel :
    ∃ d message g, (messageFor ⟨.plain datapathFamilyName 24, .plain vportFamilyName 25,
        .plain flowFamilyName 26, .plain packetFamilyName 27⟩ requestFlags .new ⟨2⟩
        (AttributeTree.puts outOfTunnel.trees)).draft = .ok d ∧
      d.finish 7 = .ok message ∧ parse 26 ⟨2⟩ message = .ok g ∧ outOfTunnel.agrees g = true := by
  have hfits : AttributeTree.FitAll outOfTunnel.trees := by decide
  have hdraft : (messageFor ⟨.plain datapathFamilyName 24, .plain vportFamilyName 25,
      .plain flowFamilyName 26, .plain packetFamilyName 27⟩ requestFlags .new ⟨2⟩
      (AttributeTree.puts outOfTunnel.trees)).draft = .ok _ :=
    (Request.draft_eq_ok_iff rfl).2 ⟨hfits, rfl⟩
  obtain ⟨message, g, hfinish, hparse, hagrees, -⟩ :=
    roundTrip (.inl rfl) wellFormed_outOfTunnel hdraft 7
  exact ⟨_, message, g, hdraft, hfinish, hparse, hagrees⟩

end Flow

end VSwitch
