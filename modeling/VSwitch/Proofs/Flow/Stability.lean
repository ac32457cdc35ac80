import Mathlib
import VSwitch.Proofs.Flow.RoundTrip

/-!
# Flows that were read

The kernel may tell a flow as nobody would write it: the attributes in any order, some of them
twice, the last one unpadded, without masks, with masks for keys that have no value, or with octets
behind the number of a vport. Whatever of this is read at all is read as a flow whose keys have the
shapes of their types, so the flow can be told to the kernel again and comes back as one that
matches and does the same. From then on nothing changes any more: what comes back is written with
the attributes that it was read from.

* `VSwitch.FlowKey.wellFormed_of_parse`, `VSwitch.Match.wellFormed_of_parse` and
  `VSwitch.Flow.wellFormed_of_parse` say so of a key, of a match and of a message;
* `VSwitch.Flow.trees_reread`: a flow that came back is written as it was;
* `VSwitch.Flow.stable` is the result.
-/

namespace VSwitch

/-! ### What is read as a key -/

theorem Bytes.areAll_replicate (n : Nat) (v : UInt8) : areAll (List.replicate n v) v = true := by
  rw [areAll, List.all_eq_true]
  intro x hx
  rw [List.eq_of_mem_replicate hx, beq_self_eq_true]

/-- A port is matched as a whole or not at all. -/
theorem MaskSource.octets_ofPort (source : MaskSource) (size : Nat) :
    (source.ofPort.octets size).areAll 0 = true ∨
      (source.ofPort.octets size).areAll 0xFF = true := by
  cases source with
  | exact => exact .inr (Bytes.areAll_replicate size 0xFF)
  | ignored => exact .inl (Bytes.areAll_replicate size 0)
  | given mask =>
    by_cases hones : mask.areAll 0xFF = true
    · rw [ofPort, if_pos hones]
      exact .inr hones
    · rw [ofPort, if_neg hones]
      exact .inl (Bytes.areAll_replicate size 0)

/-- Octets that are read are of the type and of the length asked for, under the mask asked for. -/
theorem MaskedBytes.of_parse {type : KeyType} {size : Nat} {key? : Option Bytes}
    {source : MaskSource} {b : MaskedBytes} (h : parse type size key? source = .ok b) :
    b.type = type ∧ b.key.length = size ∧ b.mask = source.octets size := by
  unfold parse at h
  dsimp only at h
  split at h
  · split at h
    · split at h
      · rename_i hkey
        cases h
        exact ⟨rfl, hkey, rfl⟩
      · cases h
    · split at h
      · cases h
        exact ⟨rfl, List.length_replicate, rfl⟩
      · cases h
  · cases h

namespace FlowKey

variable {k : FlowKey}

/-- **Whatever is read as a key has the shape of its type.** -/
theorem wellFormed_of_parse {number : UInt16} {key? : Option Bytes} {source : MaskSource}
    (h : FlowKey.parse number key? source = .ok k) : k.WellFormed := by
  unfold FlowKey.parse at h
  dsimp only at h
  split at h
  next => cases h
  next size hlayout =>
    obtain ⟨b, hb, rfl⟩ := map_eq_ok_iff.1 h
    obtain ⟨htype, hlength, -⟩ := MaskedBytes.of_parse hb
    rw [← htype] at hlayout
    exact .plain hlayout hlength
  next hlayout =>
    obtain ⟨b, hb, rfl⟩ := map_eq_ok_iff.1 h
    obtain ⟨htype, hlength, hmask⟩ := MaskedBytes.of_parse hb
    rw [← htype] at hlayout
    refine .inPort hlayout hlength ?_
    -- Whatever mask was sent, it has become one of the two before the octets are read.
    rw [hmask]
    exact source.octets_ofPort 4
  next hlayout =>
    obtain ⟨b, hb, rfl⟩ := map_eq_ok_iff.1 h
    obtain ⟨htype, hlength, -⟩ := MaskedBytes.of_parse hb
    rw [← htype] at hlayout
    exact .ethernet hlayout hlength
  next =>
    obtain ⟨t, -, rfl⟩ := map_eq_ok_iff.1 h
    exact .tunnel t

end FlowKey

/-! ### What is read as a match -/

namespace Match

variable {m m' : Match}

theorem WellFormed.add {k : FlowKey} (hm : m.WellFormed) (hk : k.WellFormed) :
    (m.add k).WellFormed := by
  intro l hl
  obtain ⟨e, he, rfl⟩ := List.mem_map.1 hl
  rcases Table.mem_insertEntry he with rfl | he
  · exact hk
  · exact hm e.2 (List.mem_map_of_mem he)

/-- One key after the other leaves nothing but keys of the right shapes. -/
theorem WellFormed.addEach {l : List Entry} (hm : m.WellFormed) (h : m.addEach l = .ok m') :
    m'.WellFormed := by
  induction l generalizing m with
  | nil =>
    cases h
    exact hm
  | cons e rest ih =>
    obtain ⟨k, hk, hrest⟩ := bind_eq_ok_iff.1 h
    exact ih (hm.add (FlowKey.wellFormed_of_parse hk)) hrest

/-- **Whatever is read as a match has keys of the right shapes**, with masks or without. -/
theorem wellFormed_of_parse {keys : AttributeSet} {masks? : Option AttributeSet}
    (h : parse keys masks? = .ok m) : m.WellFormed := by
  have hempty : empty.WellFormed := by
    intro k hk
    cases hk
  exact hempty.addEach h

end Match

/-! ### What is read as a flow -/

namespace Flow

variable {family : UInt16} {dp : Datapath} {octets : Bytes} {f : Flow}

theorem wellFormed_of_ofAttributes {s : AttributeSet} (h : ofAttributes s = .ok f) :
    f.keys.WellFormed := by
  obtain ⟨keys, -, h⟩ := bind_eq_ok_iff.1 h
  obtain ⟨masks?, -, h⟩ := bind_eq_ok_iff.1 h
  obtain ⟨m, hm, h⟩ := bind_eq_ok_iff.1 h
  obtain ⟨actionOctets, -, h⟩ := bind_eq_ok_iff.1 h
  obtain ⟨actions, -, h⟩ := bind_eq_ok_iff.1 h
  obtain ⟨stats?, -, h⟩ := bind_eq_ok_iff.1 h
  -- Only the third step, which reads the match, has a say in the keys.
  cases h
  exact Match.wellFormed_of_parse hm

/-- A message that is read holds attributes that are read. -/
theorem exists_ofAttributes_of_parse (h : parse family dp octets = .ok f) :
    ∃ s, ofAttributes s = .ok f := by
  obtain ⟨⟨generic, header⟩, c, -, h⟩ := run_bind_eq_ok_iff.1 h
  obtain ⟨-, c', -, h⟩ := run_bind_eq_ok_iff.1 h
  obtain ⟨s, c'', -, h⟩ := run_bind_eq_ok_iff.1 h
  rw [run_ofExcept] at h
  exact ⟨s, mapError_eq_ok_iff.1 h⟩

/-- **Whatever is read as a flow has keys of the right shapes.** -/
theorem wellFormed_of_parse (h : parse family dp octets = .ok f) : f.keys.WellFormed := by
  obtain ⟨s, hs⟩ := exists_ofAttributes_of_parse h
  exact wellFormed_of_ofAttributes hs

end Flow

/-! ### What is written again -/

/-- What is left out of the fields of a tunnel is not written anyway. -/
theorem TunnelFields.trees_restrict (f : TunnelFields) (p : TunnelPresence) :
    (f.restrict p).trees p = f.trees p := by
  have hleaf : ∀ (c : Bool) (n : Nat) (type : UInt16) (a b : Octets n),
      (if c = true then [AttributeTree.leaf type (if c = true then a else b).val] else []) =
        if c = true then [AttributeTree.leaf type a.val] else [] := by
    intro c n type a b
    cases c <;> rfl
  have hoctet : ∀ (c : Bool) (type : UInt16) (a b : UInt8),
      (if c = true then [AttributeTree.u8 type (if c = true then a else b)] else []) =
        if c = true then [AttributeTree.u8 type a] else [] := by
    intro c type a b
    cases c <;> rfl
  simp only [trees, restrict, Bool.and_self_left, hleaf, hoctet]

namespace FlowKey

theorem isIgnored_reread (k : FlowKey) : k.reread.isIgnored = k.isIgnored := by
  cases k <;> rfl

theorem maskTree_reread (k : FlowKey) : k.reread.maskTree = k.maskTree := by
  cases k <;> rfl

theorem keyTree_reread (k : FlowKey) : k.reread.keyTree = k.keyTree := by
  cases k with
  | plain b | inPort b | ethernet b => rfl
  | tunnel t =>
    have htrees := t.key.trees_restrict t.mask.nonzero
    rw [reread, keyTree, keyTree, htrees]
    rfl

end FlowKey

namespace Match

/-- Every key that comes back counts. -/
theorem counting_reread (m : Match) : m.reread.counting = m.counting.map FlowKey.reread := by
  rw [counting, toList_reread, List.filter_eq_self]
  intro l hl
  obtain ⟨k, hk, rfl⟩ := List.mem_map.1 hl
  rw [FlowKey.isIgnored_reread, (mem_counting.1 hk).2]
  rfl

theorem keyTrees_reread (m : Match) : m.reread.keyTrees = m.keyTrees := by
  rw [keyTrees, counting_reread, List.map_map]
  exact List.map_congr_left fun k _ => k.keyTree_reread

theorem maskTrees_reread (m : Match) : m.reread.maskTrees = m.maskTrees := by
  rw [maskTrees, counting_reread, List.map_map]
  exact List.map_congr_left fun k _ => k.maskTree_reread

end Match

theorem Action.tree_reread (a : Action) : a.reread.tree = a.tree := by
  cases a with
  | output port => rfl
  | setTunnel s =>
    rw [reread, tree, tree, s.effective_effective]
    rfl

namespace Flow

variable {family : UInt16} {dp : Datapath} {octets : Bytes} {f : Flow}

/-- **A flow that came back is written as it was.** -/
theorem trees_reread (f : Flow) : f.reread.trees = f.trees := by
  have hactions : (f.actions.map Action.reread).map Action.tree = f.actions.map Action.tree := by
    rw [List.map_map]
    exact List.map_congr_left fun a _ => a.tree_reread
  rw [trees, trees, reread, f.keys.keyTrees_reread, f.keys.maskTrees_reread, hactions]

/-- **Reading, writing and reading is stable.** Whatever message about a datapath is read as a flow,
this flow can be written behind the headers of a request for a new flow of the datapath, unless one
of its attributes is too long. The message is read as a flow that agrees with the first one. Its
keys have the types of those of the first one that count, and it is written with the same
attributes again. -/
theorem stable (h : parse family dp octets = .ok f) (families : Families) (flags : UInt16)
    (sequence : UInt32) :
    (∃ length, (messageFor families flags .new dp (AttributeTree.puts f.trees)).draft =
        .error (.attributeTooLong length)) ∨
      ∃ d message g,
        (messageFor families flags .new dp (AttributeTree.puts f.trees)).draft = .ok d ∧
        d.finish sequence = .ok message ∧ parse families.flow.id dp message = .ok g ∧
        f.agrees g = true ∧ g.agrees f = true ∧
        g.keys.toList.map FlowKey.type = f.keys.counting.map FlowKey.type ∧
        g.trees = f.trees := by
  cases hdraft : (messageFor families flags .new dp (AttributeTree.puts f.trees)).draft with
  | error e =>
    obtain ⟨length, rfl⟩ := Request.exists_attributeTooLong rfl hdraft
    exact .inl ⟨length, rfl⟩
  | ok d =>
    have hreply : Vocabulary.number ObjectCommand.new ∈ replyCommands := by simp [replyCommands]
    obtain ⟨message, hfinish, hparse⟩ :=
      parse_message hreply (wellFormed_of_parse h) hdraft sequence
    have hagrees : f.agrees f.reread = true := by
      rw [agrees, reread, f.keys.agrees_reread, Action.listAgrees_reread, Bool.and_self]
    have hagrees' : f.reread.agrees f = true := by
      rw [agrees, reread, f.keys.reread_agrees, Action.reread_listAgrees, Bool.and_self]
    have htypes : f.reread.keys.toList.map FlowKey.type = f.keys.counting.map FlowKey.type := by
      rw [reread, Match.toList_reread, List.map_map]
      exact List.map_congr_left fun k _ => k.type_reread
    exact .inr ⟨d, message, f.reread, rfl, hfinish, hparse, hagrees, hagrees', htypes,
      f.trees_reread⟩

/-- A message that tells a flow: the actions come first and the number of the vport has octets
behind it, the attribute for the keys is there twice and ends without padding, the mask of the port
selects some of its bits, and there is a mask for a packet mark without a value. -/
def told : Bytes :=
  MessageHeader.toBytes ⟨90, 26, 0, 0, 0⟩ ++ GenericHeader.toBytes ⟨1, 1⟩ ++
    DatapathHeader.toBytes ⟨2⟩ ++
    [16, 0, 2, 0, 12, 0, 1, 0, 3, 0, 0, 0, 0xAA, 0, 0, 0] ++
    [4, 0, 1, 0] ++
    [28, 0, 7, 0, 8, 0, 15, 0, 0, 0, 0, 0, 8, 0, 3, 0, 0xFF, 0, 0, 0] ++
    [6, 0, 6, 0, 0xFF, 0xFF, 0, 0] ++
    [18, 0, 1, 0, 8, 0, 3, 0, 5, 0, 0, 0, 6, 0, 6, 0, 8, 0]

/-- The flow that this message tells: of its keys only the Ethernet type counts. -/
def toldFlow : Flow where
  keys := .ofList [.inPort ⟨.inPort, [5, 0, 0, 0], [0, 0, 0, 0], by decide⟩, .ofEthertype 0x0800,
    .plain ⟨.skbMark, List.replicate 4 0, [0, 0, 0, 0], by decide⟩]
  actions := [.output ⟨3⟩]
  stats? := none

theorem parse_told : parse 26 ⟨2⟩ told = .ok toldFlow := by
  cbv

/-- Families, numbered as a kernel may do it. -/
def numbered : Families :=
  ⟨.plain datapathFamilyName 24, .plain vportFamilyName 25, .plain flowFamilyName 26,
    .plain packetFamilyName 27⟩

theorem stable_told : parse 26 ⟨2⟩ told = .ok toldFlow ∧
    ∃ d message g, (messageFor numbered requestFlags .new ⟨2⟩
        (AttributeTree.puts toldFlow.trees)).draft = .ok d ∧
      d.finish 7 = .ok message ∧ parse 26 ⟨2⟩ message = .ok g ∧ toldFlow.agrees g = true ∧
      g.keys.toList.map FlowKey.type = [.ethertype] := by
  refine ⟨parse_told, ?_⟩
  rcases stable parse_told numbered requestFlags 7 with
    ⟨length, hlong⟩ | ⟨d, message, g, hdraft, hfinish, hparse, hagrees, -, htypes, -⟩
  · have hfits : AttributeTree.FitAll toldFlow.trees := by decide
    have hdraft : (messageFor numbered requestFlags .new ⟨2⟩
        (AttributeTree.puts toldFlow.trees)).draft = .ok _ :=
      (Request.draft_eq_ok_iff rfl).2 ⟨hfits, rfl⟩
    rw [hdraft] at hlong
    cases hlong
  · refine ⟨d, message, g, hdraft, hfinish, hparse, hagrees, ?_⟩
    rw [htypes]
    decide

end Flow

end VSwitch
