import Mathlib
import VSwitch.Proofs.Outline
import VSwitch.Proofs.Texts
import VSwitch.Vport

/-!
# What describes a vport

Four attributes say what a vport is: its number, its type, its name, and its options, which are
attributes again. The numbers of types and options stand in two places, where a vport is written and
where one is read, and nothing but the following ties these together: whatever vport is described,
the description is read as this vport. The four may come in any order, and any others may come in
between, since a reader looks them up.

* `VSwitch.Vport.description` are the calls that write what a vport is, the same ones that requests
  are made of, and `VSwitch.Vport.trees` the attributes that they write;
* `VSwitch.Vport.isOnly_of_perm`: in any order, each of the four is found by its key;
* `VSwitch.Vport.ofAttributes_of_get?`: a set in which the four are found is read as the vport;
* `VSwitch.Vport.parse_described` is the result.
-/

namespace VSwitch

namespace Vport

/-! ### The description -/

/-- The calls that write what a vport is. -/
def description (v : Vport) : List Put :=
  [numberAttribute v.id,
    .u32 (Vocabulary.number VportAttribute.type) (Vocabulary.number v.spec.type),
    nameAttribute v.spec.name,
    .nested (Vocabulary.number VportAttribute.options) (AttributeTree.puts v.spec.options)]

/-- The attributes that say what a vport is. -/
def trees (v : Vport) : List AttributeTree :=
  [.u32 (Vocabulary.number VportAttribute.portNumber) v.id.number,
    .u32 (Vocabulary.number VportAttribute.type) (Vocabulary.number v.spec.type),
    .text (Vocabulary.number VportAttribute.name) v.spec.name,
    .node (Vocabulary.number VportAttribute.options) v.spec.options]

/-- The types of these attributes. -/
def keys : List UInt16 :=
  [Vocabulary.number VportAttribute.portNumber, Vocabulary.number VportAttribute.type,
    Vocabulary.number VportAttribute.name, Vocabulary.number VportAttribute.options]

variable {v : Vport}

theorem forall₂_makes_description (hnul : '\x00' ∉ v.spec.name.toList) :
    List.Forall₂ Put.Makes v.description v.trees :=
  .cons rfl (.cons rfl (.cons (Put.makes_text hnul _) (.cons rfl .nil)))

theorem map_key_trees (v : Vport) : v.trees.map AttributeTree.key = keys := by
  have htypes : v.trees.map AttributeTree.type = keys := rfl
  have hplain : ∀ type ∈ keys, type < 0x4000 := by simp [keys, Vocabulary.number]
  rw [← htypes] at hplain ⊢
  exact List.map_congr_left fun t ht =>
    AttributeTree.key_of_lt (hplain t.type (List.mem_map_of_mem ht))

theorem isOnly_trees {t : AttributeTree} (ht : t ∈ v.trees) : t.IsOnly v.trees := by
  refine AttributeTree.isOnly_of_nodup ht ?_
  rw [map_key_trees]
  decide

/-- Options are short. -/
theorem fits_options (spec : VportSpec) (type : UInt16) :
    (AttributeTree.node type spec.options).Fits := by
  cases spec with
  | netdev name | internal name =>
    refine ⟨trivial, ?_⟩
    rw [VportSpec.options, AttributeTree.wires_nil]
    decide
  | vxlan name port =>
    have hfits :
        AttributeTree.Fits (.u16 (Vocabulary.number TunnelOption.destinationPort) port) := by
      rw [AttributeTree.u16, AttributeTree.Fits, Bytes.length_ofU16]
      decide
    refine ⟨⟨hfits, trivial⟩, ?_⟩
    rw [VportSpec.options, AttributeTree.wires_cons, AttributeTree.wires_nil, List.append_nil,
      Attribute.length_block, AttributeTree.u16, AttributeTree.payload, Bytes.length_ofU16]
    decide

/-- The attributes can be written if the name can. -/
theorem fits_of_mem_trees (hname : v.spec.name.utf8ByteSize ≤ 65530) {t : AttributeTree}
    (ht : t ∈ v.trees) : t.Fits := by
  have hnumber : ∀ type n, (AttributeTree.u32 type n).Fits := by
    intro type n
    rw [AttributeTree.u32, AttributeTree.Fits, Bytes.length_ofU32]
    decide
  simp only [trees, List.mem_cons, List.not_mem_nil, or_false] at ht
  rcases ht with rfl | rfl | rfl | rfl
  · exact hnumber _ _
  · exact hnumber _ _
  · exact Utf8.size_terminated_le_iff.2 hname
  · exact fits_options v.spec _

/-! ### Reading the description -/

/-- The type is among those that have names. -/
theorem ofNumber_type (spec : VportSpec) :
    (Vocabulary.ofNumber (Vocabulary.number spec.type) : VportType) = spec.type := by
  cases spec <;> rfl

/-- Options are read as those of the vport that they are of. -/
theorem exists_ofOptions (spec : VportSpec) : ∃ options,
    AttributeSet.parse (AttributeTree.wires spec.options) = .ok options ∧
      VportSpec.ofOptions spec.type spec.name options = .ok spec := by
  have hfits : AttributeTree.FitAll spec.options := (fits_options spec 0).1
  refine ⟨_, AttributeTree.attributes_wires_masked hfits, ?_⟩
  cases spec with
  | netdev name | internal name => rfl
  | vxlan name port =>
    have honly : AttributeTree.IsOnly (.u16 (Vocabulary.number TunnelOption.destinationPort) port)
        (VportSpec.vxlan name port).options :=
      AttributeTree.isOnly_of_nodup (List.mem_singleton_self _) (List.nodup_singleton _)
    have hget := honly.get?_type (Vocabulary.number TunnelOption.destinationPort) rfl (by decide)
    have hport := AttributeSet.u16_eq_ok_iff.2
      ⟨⟨_, Bytes.length_ofU16 port⟩, hget, Bytes.toU16_ofU16 port⟩
    exact map_eq_ok_iff.2 ⟨port, hport, rfl⟩

/-- **A set in which the four attributes are found** is read as the vport. -/
theorem ofAttributes_of_get? (hnul : '\x00' ∉ v.spec.name.toList) {s : AttributeSet}
    (hs : ∀ t ∈ v.trees, s.get? t.key = some t.payload) : ofAttributes s = .ok v := by
  have hkeys := v.map_key_trees
  simp only [trees, keys, List.map_cons, List.cons.injEq] at hkeys
  simp only [trees, List.forall_mem_cons, hkeys] at hs
  obtain ⟨hid, htype, hname, hoptions, -⟩ := hs
  obtain ⟨options, hparse, hspec⟩ := exists_ofOptions v.spec
  rw [ofAttributes, bind_eq_ok_iff]
  refine ⟨v.id.number, AttributeSet.u32_eq_ok_iff.2
    ⟨⟨_, Bytes.length_ofU32 _⟩, hid, Bytes.toU32_ofU32 _⟩, bind_eq_ok_iff.2 ?_⟩
  refine ⟨Vocabulary.number v.spec.type, AttributeSet.u32_eq_ok_iff.2
    ⟨⟨_, Bytes.length_ofU32 _⟩, htype, Bytes.toU32_ofU32 _⟩, bind_eq_ok_iff.2 ?_⟩
  refine ⟨v.spec.name, ?_, bind_eq_ok_iff.2 ⟨some options, ?_, bind_eq_ok_iff.2 ⟨v.spec, ?_, rfl⟩⟩⟩
  · rw [AttributeSet.text_of_get? hname]
    exact AttributeSet.textOf_eq_ok_iff.2 ⟨rfl, hnul⟩
  · exact AttributeSet.nested?_eq_ok_iff.2 (.inr ⟨_, _, hoptions, hparse, rfl⟩)
  · rw [ofNumber_type]
    exact hspec

/-- In any order and among others of other keys, each of the four attributes is the only one. -/
theorem isOnly_of_perm {others forest : List AttributeTree} (hothers : ∀ u ∈ others, u.key ∉ keys)
    (hperm : forest.Perm (v.trees ++ others)) {t : AttributeTree} (ht : t ∈ v.trees) :
    t.IsOnly forest := by
  refine ⟨hperm.mem_iff.2 (List.mem_append_left others ht), fun u hu hkey => ?_⟩
  rcases List.mem_append.1 (hperm.mem_iff.1 hu) with hown | hother
  · exact (isOnly_trees ht).2 u hown hkey
  · refine absurd ?_ (hothers u hother)
    rw [hkey, ← map_key_trees v]
    exact List.mem_map_of_mem ht

/-- **What is described is read.** Let a message start with the headers of its family, with one of
the commands that are waited for, and go on with the four attributes of a vport, in any order and
among any others of other keys. Then it can be written, whatever number, type, name or options the
vport has, as long as its name has no zero in it and fits into an attribute; and it is read as this
vport, in the datapath of the header, with the command. -/
theorem parse_described (v : Vport) (header : MessageHeader) (generic : GenericHeader)
    (datapath : DatapathHeader) (commands : List UInt8) (others : List AttributeTree)
    (calls : List Put) (hcommand : generic.command ∈ commands)
    (hnul : '\x00' ∉ v.spec.name.toList) (hname : v.spec.name.utf8ByteSize ≤ 65530)
    (hothers : ∀ t ∈ others, t.Fits ∧ t.key ∉ keys)
    (hcalls : calls.Perm (v.description ++ AttributeTree.puts others)) :
    ∃ d, Put.writeOn calls ⟨header.toBytes ++ (generic.toBytes ++ datapath.toBytes)⟩ = .ok d ∧
      VportNotice.parse header.type commands d.bytes =
        .ok ⟨generic.command, ⟨datapath.ifindex⟩, v⟩ := by
  -- The order of the calls is the order of the attributes that they write.
  obtain ⟨forest, hmakes, hperm⟩ := List.perm_comp_forall₂ hcalls
    (List.rel_append (forall₂_makes_description hnul) (Put.forall₂_makes_puts others))
  have hfits : AttributeTree.FitAll forest := AttributeTree.fitAll_iff.2 fun t ht => by
    rcases List.mem_append.1 (hperm.mem_iff.1 ht) with hown | hother
    · exact fits_of_mem_trees hname hown
    · exact (hothers t hother).1
  have haligned : (Draft.mk (header.toBytes ++ (generic.toBytes ++ datapath.toBytes))).length % 4 =
      0 := by
    simp [Draft.length, MessageHeader.size, GenericHeader.size, DatapathHeader.size]
  have hwrite := (AttributeTree.writeOn_eq_ok_iff haligned).2 ⟨hfits, rfl⟩
  rw [← Put.writeOn_of_makes hmakes] at hwrite
  refine ⟨_, hwrite, ?_⟩
  rw [Draft.append, List.append_assoc, List.append_assoc]
  have hset := ofAttributes_of_get? hnul fun t ht =>
    (isOnly_of_perm (fun u hu => (hothers u hu).2) hperm ht).get?_eq
  have hattributes := Cursor.reads_attributes (AttributeTree.attributes_wires_masked hfits)
  let notice : VportNotice := ⟨generic.command, ⟨datapath.ifindex⟩, v⟩
  exact ((Cursor.reads_checkHeaders header datapath hcommand).bind
    (hattributes.bind (.bind (.ofExcept hset) (.pure notice)))).scan

/-- Two attributes of a tunnel's description that nobody asked for, one of which has the number of
the options but for a bit that counts. -/
def asides : List AttributeTree := [.leaf 0x2004 [1, 2, 3], .node 0x8006 [.u32 1 7]]

theorem parse_described_vxlan :
    let v : Vport := ⟨⟨7⟩, .vxlan "vü" 4789⟩
    ((1 : UInt8) ∈ [1, 3] ∧ '\x00' ∉ "vü".toList ∧ "vü".utf8ByteSize ≤ 65530 ∧
      ∀ t ∈ asides, t.Fits ∧ t.key ∉ keys) ∧
    ∃ d, Put.writeOn (.slice 0x2004 [1, 2, 3] :: (v.description.reverse ++
        [.nested 0x8006 [.u32 1 7]])) ⟨MessageHeader.toBytes ⟨0, 30, 2, 5, 9⟩ ++
          (GenericHeader.toBytes ⟨1, 1⟩ ++ DatapathHeader.toBytes ⟨-4⟩)⟩ = .ok d ∧
      VportNotice.parse 30 [1, 3] d.bytes = .ok ⟨1, ⟨-4⟩, v⟩ := by
  intro v
  have hothers : ∀ t ∈ asides, t.Fits ∧ t.key ∉ keys := by decide
  have hperm : (Put.slice 0x2004 [1, 2, 3] :: (v.description.reverse ++
      [.nested 0x8006 [.u32 1 7]])).Perm (v.description ++ AttributeTree.puts asides) :=
    List.perm_middle.symm.trans ((List.reverse_perm v.description).append_right _)
  refine ⟨⟨by decide, by decide, by decide, hothers⟩, ?_⟩
  exact parse_described v ⟨0, 30, 2, 5, 9⟩ ⟨1, 1⟩ ⟨-4⟩ [1, 3] asides _ (by decide) (by decide)
    (by decide) hothers hperm

end Vport

end VSwitch
