import Mathlib.Data.List.Infix
import VSwitch.Proofs.Octets

/-!
# Blocks one after the other

Datagrams are cut into messages and lists of attributes into attributes by one and the same rule. A
block starts with a header that tells how long it is, and the next one starts at the next multiple
of four. The octets in between are padding; nobody looks at them, and behind the last block they may
be missing in part or altogether. So octets are blocks up to the end, or up to something that is no
block and is reported.

* `VSwitch.Framing` is what headers tell, with the two instances `VSwitch.Framing.messages` and
  `VSwitch.Framing.attributes`;
* `VSwitch.Framing.IsBlock` says what a block is, and `VSwitch.Framing.Fault` what is reported of
  octets that do not start with one;
* `VSwitch.Framing.Splits` is the rule, which puts octets together out of blocks and padding;
* `VSwitch.Framing.splits_cons_iff` takes the first block off again,
  `VSwitch.Framing.Splits.unique` says that there is one way to do so, and
  `VSwitch.Framing.Splits.isPrefix` what becomes of it when the end of the octets is lost;
* `VSwitch.Framing.measure` is how a reader finds out how long the first block is.
-/

namespace VSwitch

/-! ### Headers -/

/-- What the header of a block tells. -/
structure Framing where
  /-- What a header is called when it is reported. -/
  headerName : String
  /-- What a block is called when it is reported. -/
  blockName : String
  /-- Number of octets of a header. -/
  size : Nat
  /-- The number of octets that a block claims to have, its header included. -/
  declared : Bytes → Nat
  size_pos : 0 < size
  /-- The claim is in the header, so what follows the header does not change it. -/
  declared_of_isPrefix : ∀ {a b : Bytes}, a <+: b → size ≤ a.length → declared a = declared b

theorem Bytes.take_of_isPrefix {a b : Bytes} {n : Nat} (h : a <+: b) (hn : n ≤ a.length) :
    a.take n = b.take n := by
  obtain ⟨rest, rfl⟩ := h
  exact (List.take_append_of_le_length hn).symm

namespace Framing

/-- Messages, whose length has 32 bits. -/
def messages : Framing where
  headerName := "netlink header"
  blockName := "netlink message"
  size := MessageHeader.size
  declared b := (MessageHeader.ofBytes b).length.toNat
  size_pos := by decide
  declared_of_isPrefix h hn := by
    have htake := Bytes.take_of_isPrefix h (n := 4) (Nat.le_trans (by decide) hn)
    simp only [MessageHeader.ofBytes, Bytes.toU32, htake]

/-- Attributes, whose length has 16 bits. -/
def attributes : Framing where
  headerName := "attribute header"
  blockName := "attribute"
  size := AttributeHeader.size
  declared b := (AttributeHeader.ofBytes b).length.toNat
  size_pos := by decide
  declared_of_isPrefix h hn := by
    have htake := Bytes.take_of_isPrefix h (n := 2) (Nat.le_trans (by decide) hn)
    simp only [AttributeHeader.ofBytes, Bytes.toU16, htake]

variable (F : Framing)

/-! ### Blocks -/

/-- A block has a header, and is as long as this says. -/
structure IsBlock (block : Bytes) : Prop where
  size_le : F.size ≤ block.length
  declared_eq : F.declared block = block.length

/-- What is reported of octets that do not start with a block. Of no octets at all there is nothing
to report. -/
inductive Fault (octets : Bytes) : DecodeError → Prop
  /-- The header is not all there. -/
  | header (some : octets ≠ []) (short : octets.length < F.size) :
    Fault octets (.truncated F.headerName F.size octets.length)
  /-- The block would be shorter than its header. -/
  | length (whole : F.size ≤ octets.length) (small : F.declared octets < F.size) :
    Fault octets (.badLength F.blockName (F.declared octets))
  /-- The block is not all there. -/
  | block (whole : F.size ≤ octets.length) (large : F.size ≤ F.declared octets)
    (short : octets.length < F.declared octets) :
    Fault octets (.truncated F.blockName (F.declared octets) octets.length)

/-- **Octets are blocks**, each followed by its padding, and behind them there is nothing or what is
reported. Only the last block may lack some of its padding, and there is nothing behind it then. -/
inductive Splits : Bytes → List Bytes → Option DecodeError → Prop
  /-- There is nothing more. -/
  | done : Splits [] [] none
  /-- There is one more block, with less than its padding. -/
  | last {block padding : Bytes} (isBlock : F.IsBlock block)
    (short : block.length + padding.length < align4 block.length) :
    Splits (block ++ padding) [block] none
  /-- There is a block with its padding, and then the rest. -/
  | next {block padding rest : Bytes} {blocks : List Bytes} {ending : Option DecodeError}
    (isBlock : F.IsBlock block) (whole : block.length + padding.length = align4 block.length)
    (later : Splits rest blocks ending) :
    Splits (block ++ (padding ++ rest)) (block :: blocks) ending
  /-- There is no block, and yet something. -/
  | fault {octets : Bytes} {e : DecodeError} (fault : F.Fault octets e) :
    Splits octets [] (some e)

variable {F} {a b d d' : Bytes} {e e' : DecodeError} {blocks blocks' : List Bytes}
  {ending ending' : Option DecodeError}

theorem IsBlock.ne_nil (h : F.IsBlock b) : b ≠ [] :=
  List.ne_nil_of_length_pos (Nat.lt_of_lt_of_le F.size_pos h.size_le)

theorem Fault.ne_nil (h : F.Fault d e) : d ≠ [] := by
  cases h with
  | header some short => exact some
  | length whole small => exact List.ne_nil_of_length_pos (Nat.lt_of_lt_of_le F.size_pos whole)
  | block whole large short =>
    exact List.ne_nil_of_length_pos (Nat.lt_of_lt_of_le F.size_pos whole)

/-- Octets start with at most one block. -/
theorem IsBlock.eq_of_isPrefix (ha : F.IsBlock a) (hb : F.IsBlock b) (had : a <+: d)
    (hbd : b <+: d) : a = b := by
  have hlength : a.length = b.length := calc
    a.length = F.declared d := by
      rw [← ha.declared_eq, F.declared_of_isPrefix had ha.size_le]
    _ = b.length := by
      rw [← hb.declared_eq, F.declared_of_isPrefix hbd hb.size_le]
  exact (List.prefix_of_prefix_length_le had hbd (Nat.le_of_eq hlength)).eq_of_length hlength

/-- Nothing is reported of octets that start with a block. -/
theorem IsBlock.not_fault (hb : F.IsBlock b) (hbd : b <+: d) : ¬ F.Fault d e := by
  have hle := hbd.length_le
  have hsize := hb.size_le
  have hdeclared : F.declared d = b.length := by
    rw [← hb.declared_eq, F.declared_of_isPrefix hbd hb.size_le]
  rintro (⟨-, short⟩ | ⟨-, small⟩ | ⟨-, -, short⟩) <;> omega

theorem Fault.unique (h : F.Fault d e) (h' : F.Fault d e') : e = e' := by
  -- The lengths tell the three faults apart.
  cases h <;> cases h' <;> first | rfl | omega

/-! ### Taking blocks off -/

theorem splits_nil_iff : F.Splits [] blocks ending ↔ blocks = [] ∧ ending = none := by
  constructor
  · intro h
    -- Blocks are not empty, so that of no octets there is none to take off.
    generalize hd : ([] : Bytes) = d at h
    cases h with
    | done => exact ⟨rfl, rfl⟩
    | last isBlock short => exact absurd (List.append_eq_nil_iff.1 hd.symm).1 isBlock.ne_nil
    | next isBlock whole later => exact absurd (List.append_eq_nil_iff.1 hd.symm).1 isBlock.ne_nil
    | fault fault => exact absurd hd.symm fault.ne_nil
  · rintro ⟨rfl, rfl⟩
    exact .done

theorem splits_none_iff : F.Splits d [] none ↔ d = [] := by
  constructor
  · intro h
    cases h
    rfl
  · rintro rfl
    exact .done

theorem splits_some_iff : F.Splits d [] (some e) ↔ F.Fault d e := by
  constructor
  · intro h
    cases h
    assumption
  · exact .fault

/-- **The first block is taken off** with its padding, as far as there is any. -/
theorem splits_cons_iff : F.Splits d (b :: blocks) ending ↔
    F.IsBlock b ∧ b <+: d ∧ F.Splits (d.drop (align4 b.length)) blocks ending := by
  constructor
  · intro h
    cases h with
    | @last _ padding isBlock short =>
      have hdrop : (b ++ padding).drop (align4 b.length) = [] :=
        List.drop_of_length_le (by rw [List.length_append]; omega)
      refine ⟨isBlock, List.prefix_append b padding, ?_⟩
      rw [hdrop]
      exact .done
    | @next _ padding rest _ _ isBlock whole later =>
      have hdrop : (b ++ (padding ++ rest)).drop (align4 b.length) = rest := by
        rw [← List.append_assoc]
        exact List.drop_left' (by rw [List.length_append, whole])
      refine ⟨isBlock, List.prefix_append b _, ?_⟩
      rwa [hdrop]
  · rintro ⟨hb, ⟨behind, rfl⟩, h⟩
    have hle := le_align4 b.length
    rcases Nat.lt_or_ge (b ++ behind).length (align4 b.length) with hshort | hwhole
    · -- The padding is cut short, so nothing is left.
      rw [List.drop_of_length_le (Nat.le_of_lt hshort)] at h
      obtain ⟨rfl, rfl⟩ := splits_nil_iff.1 h
      exact .last hb (by rwa [List.length_append] at hshort)
    · rw [List.length_append] at hwhole
      have hpadding : b.length + (behind.take (align4 b.length - b.length)).length =
          align4 b.length := by
        rw [List.length_take]
        omega
      have hdrop : (b ++ behind).drop (align4 b.length) =
          behind.drop (align4 b.length - b.length) := by
        rw [List.drop_append, List.drop_of_length_le hle, List.nil_append]
      rw [hdrop] at h
      have hnext := Splits.next hb hpadding h
      rwa [List.take_append_drop] at hnext

/-- Octets that start with a block are this block, and then the rest. -/
theorem Splits.exists_of_isPrefix (h : F.Splits d blocks ending) (hb : F.IsBlock b)
    (hbd : b <+: d) : ∃ rest, blocks = b :: rest ∧
      F.Splits (d.drop (align4 b.length)) rest ending := by
  cases blocks with
  | nil =>
    cases ending with
    | none =>
      rw [splits_none_iff.1 h] at hbd
      exact absurd (List.prefix_nil.1 hbd) hb.ne_nil
    | some e => exact absurd (splits_some_iff.1 h) (hb.not_fault hbd)
  | cons c rest =>
    obtain ⟨hc, hcd, hrest⟩ := splits_cons_iff.1 h
    obtain rfl := hc.eq_of_isPrefix hb hcd hbd
    exact ⟨rest, rfl, hrest⟩

/-- **Where the end of the octets is lost, so are the last blocks**, and nothing else changes. -/
theorem Splits.isPrefix (h : F.Splits d blocks ending) (h' : F.Splits d' blocks' ending')
    (hd : d' <+: d) : blocks' <+: blocks := by
  induction blocks' generalizing d d' blocks with
  | nil => exact List.nil_prefix
  | cons b rest' ih =>
    obtain ⟨hb, hbd, hrest'⟩ := splits_cons_iff.1 h'
    obtain ⟨rest, rfl, hrest⟩ := h.exists_of_isPrefix hb (hbd.trans hd)
    exact List.cons_prefix_cons.2 ⟨rfl, ih hrest hrest' (hd.drop _)⟩

/-- **Octets are blocks in one way only.** -/
theorem Splits.unique (h : F.Splits d blocks ending) (h' : F.Splits d blocks' ending') :
    blocks = blocks' ∧ ending = ending' := by
  -- The blocks of either way are among the first ones of the other.
  obtain rfl : blocks = blocks' := (h'.isPrefix h (List.prefix_refl d)).eq_of_length_le
    (h.isPrefix h' (List.prefix_refl d)).length_le
  refine ⟨rfl, ?_⟩
  induction blocks generalizing d with
  | nil =>
    cases ending with
    | none =>
      rw [splits_none_iff.1 h] at h'
      exact (splits_nil_iff.1 h').2.symm
    | some e =>
      have he := splits_some_iff.1 h
      cases ending' with
      | none => exact absurd (splits_none_iff.1 h') he.ne_nil
      | some e' => exact congrArg some (he.unique (splits_some_iff.1 h'))
  | cons b rest ih => exact ih (splits_cons_iff.1 h).2.2 (splits_cons_iff.1 h').2.2

/-! ### Putting blocks together -/

theorem IsBlock.splits_self (h : F.IsBlock b) : F.Splits b [b] none := by
  have hdrop : b.drop (align4 b.length) = [] := List.drop_of_length_le (le_align4 b.length)
  refine splits_cons_iff.2 ⟨h, List.prefix_refl b, ?_⟩
  rw [hdrop]
  exact .done

/-- Blocks that are padded with zeros come in front of the rest. -/
theorem Splits.pad4_append (h : F.Splits d blocks ending) {front : List Bytes}
    (hfront : ∀ b ∈ front, F.IsBlock b) :
    F.Splits (front.flatMap Bytes.pad4 ++ d) (front ++ blocks) ending := by
  induction front with
  | nil => exact h
  | cons b rest ih =>
    obtain ⟨hb, hrest⟩ := List.forall_mem_cons.1 hfront
    have hwhole : b.length + (List.replicate (align4 b.length - b.length) (0 : UInt8)).length =
        align4 b.length := by
      have := le_align4 b.length
      rw [List.length_replicate]
      omega
    have hnext := Splits.next hb hwhole (ih hrest)
    rwa [List.flatMap_cons, Bytes.pad4, List.append_assoc, List.append_assoc]

/-! ### Reading the first block -/

variable (F) in
/-- The length of the first block. -/
def measure (octets : Bytes) : Except DecodeError Nat :=
  match ensureLength F.headerName octets F.size with
  | .error e => .error e
  | .ok () =>
    if F.declared octets < F.size then .error (.badLength F.blockName (F.declared octets))
    else match ensureLength F.blockName octets (F.declared octets) with
      | .error e => .error e
      | .ok () => .ok (F.declared octets)

/-- **What is measured is the block that octets start with**, or else what is reported of them. -/
theorem measure_cases (hd : d ≠ []) :
    (∃ b, F.IsBlock b ∧ b <+: d ∧ F.measure d = .ok b.length) ∨
      ∃ e, F.Fault d e ∧ F.measure d = .error e := by
  rw [measure]
  rcases Nat.lt_or_ge d.length F.size with hshort | hwhole
  · rw [ensureLength_of_lt hshort]
    exact .inr ⟨_, .header hd hshort, rfl⟩
  rw [ensureLength_of_le hwhole]
  rcases Nat.lt_or_ge (F.declared d) F.size with hsmall | hlarge
  · exact .inr ⟨_, .length hwhole hsmall, if_pos hsmall⟩
  simp only [if_neg (Nat.not_lt.2 hlarge)]
  rcases Nat.lt_or_ge d.length (F.declared d) with hcut | hle
  · rw [ensureLength_of_lt hcut]
    exact .inr ⟨_, .block hwhole hlarge hcut, rfl⟩
  · have hlength : (d.take (F.declared d)).length = F.declared d := List.length_take_of_le hle
    have hstart := List.take_prefix (F.declared d) d
    have hsize : F.size ≤ (d.take (F.declared d)).length := by rwa [hlength]
    refine .inl ⟨_, ⟨hsize, ?_⟩, hstart, ?_⟩
    · rw [F.declared_of_isPrefix hstart hsize, hlength]
    · rw [ensureLength_of_le hle, hlength]

end Framing

end VSwitch
