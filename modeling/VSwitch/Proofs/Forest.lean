import VSwitch.Proofs.Envelope

/-!
# Forests there and back

A forest that is written after the headers of a message comes back when the message is read: the
headers first, then the list of attributes, and then the list in the value of each attribute that is
known to hold one. Nothing on the wire tells a value of octets from a list of attributes, so the
reader is given the shape of the forest and nothing else of it.

What can be written is described here without regard to how it is written. The length of a leaf
leaves its padding out, the length of a node takes the padding in it along; so a leaf may hold up to
65531 octets, and the children of a node may take up to 65528.

* `VSwitch.AttributeTree.TooLong` is the limit, and `VSwitch.AttributeTree.fitAll_iff_forall_inside`
  that a forest fits exactly if no tree in it is beyond;
* `VSwitch.Shape.readAll` reads a forest of a shape;
* `VSwitch.AttributeTree.comes_back` is the result.
-/

namespace VSwitch

namespace AttributeTree

/-! ### What is too long -/

mutual

/-- Number of octets of a tree, its padding included. -/
def encodedLength : AttributeTree → Nat
  | .leaf _ value => align4 (AttributeHeader.size + value.length)
  | .node _ children => AttributeHeader.size + encodedLengths children

/-- Number of octets of a forest. -/
def encodedLengths : List AttributeTree → Nat
  | [] => 0
  | t :: rest => encodedLength t + encodedLengths rest

end

mutual

/-- A tree and all trees in it. -/
def subtrees : AttributeTree → List AttributeTree
  | .leaf type value => [.leaf type value]
  | .node type children => .node type children :: inside children

/-- The trees of a forest and all trees in them. -/
def inside : List AttributeTree → List AttributeTree
  | [] => []
  | t :: rest => subtrees t ++ inside rest

end

/-- Whether a tree holds more octets than an attribute can. -/
def TooLong : AttributeTree → Prop
  | .leaf _ value => 65531 < value.length
  | .node _ children => 65528 < encodedLengths children

instance (t : AttributeTree) : Decidable t.TooLong :=
  match t with
  | .leaf _ value => inferInstanceAs (Decidable (65531 < value.length))
  | .node _ children => inferInstanceAs (Decidable (65528 < encodedLengths children))

theorem mem_subtrees_self (t : AttributeTree) : t ∈ t.subtrees := by
  cases t with
  | leaf type value =>
    rw [subtrees]
    exact List.mem_singleton_self _
  | node type children =>
    rw [subtrees]
    exact List.mem_cons_self

theorem mem_inside {t : AttributeTree} {trees : List AttributeTree} (h : t ∈ trees) :
    t ∈ inside trees := by
  induction trees with
  | nil => cases h
  | cons u rest ih =>
    rw [inside]
    rcases List.mem_cons.1 h with rfl | h
    · exact List.mem_append_left _ t.mem_subtrees_self
    · exact List.mem_append_right _ (ih h)

mutual

/-- A block is as long as the length of its tree says. -/
theorem align4_payload (t : AttributeTree) :
    align4 (AttributeHeader.size + t.payload.length) = t.encodedLength := by
  cases t with
  | leaf type value => rw [payload, encodedLength]
  | node type children =>
    have hmod := length_wires_mod_four children
    rw [payload, encodedLength, ← length_wires children, align4_of_aligned]
    rw [AttributeHeader.size]
    omega

/-- The octets of a forest are as many as its lengths say. -/
theorem length_wires (trees : List AttributeTree) :
    (wires trees).length = encodedLengths trees := by
  cases trees with
  | nil => rw [wires_nil, encodedLengths, List.length_nil]
  | cons t rest =>
    rw [wires_cons, encodedLengths, List.length_append, Attribute.length_block,
      align4_payload t, length_wires rest]

end

mutual

/-- A tree fits if and only if no tree in it is too long. -/
theorem fits_iff_forall_subtrees (t : AttributeTree) :
    t.Fits ↔ ∀ u ∈ t.subtrees, ¬ u.TooLong := by
  cases t with
  | leaf type value =>
    simp only [Fits, subtrees, List.forall_mem_singleton, TooLong, AttributeHeader.size,
      Draft.maxAttributeLength]
    omega
  | node type children =>
    have hmod := length_wires_mod_four children
    rw [Fits, subtrees, List.forall_mem_cons, TooLong, ← length_wires children,
      ← fitAll_iff_forall_inside children, AttributeHeader.size, Draft.maxAttributeLength]
    -- The padding is counted, so a length beyond 65528 is beyond 65531, too.
    constructor
    · rintro ⟨hfits, hlength⟩
      exact ⟨by omega, hfits⟩
    · rintro ⟨hlength, hfits⟩
      exact ⟨hfits, by omega⟩

/-- **A forest fits if and only if no tree in it is too long.** -/
theorem fitAll_iff_forall_inside (trees : List AttributeTree) :
    FitAll trees ↔ ∀ u ∈ inside trees, ¬ u.TooLong := by
  cases trees with
  | nil => simp [FitAll, inside]
  | cons t rest =>
    rw [FitAll, inside, fits_iff_forall_subtrees t, fitAll_iff_forall_inside rest,
      List.forall_mem_append]

end

end AttributeTree

/-! ### Reading a forest of a shape -/

/-- Which attributes have attributes in them. -/
inductive Shape
  /-- An attribute with a value of octets. -/
  | leaf
  /-- An attribute with attributes of these shapes in it. -/
  | node (children : List Shape)

namespace Shape

mutual

/-- Reads an attribute of a shape. -/
def read : Shape → UInt16 × Bytes → Except DecodeError AttributeTree
  | .leaf, (type, value) => .ok (.leaf type value)
  | .node children, (type, value) => do
    let attributes ← Attribute.parse value
    return .node type (← readAll children attributes)

/-- Reads attributes, one for each shape. Those that are left over are taken for leaves. -/
def readAll : List Shape → List (UInt16 × Bytes) → Except DecodeError (List AttributeTree)
  | shape :: shapes, first :: rest => do
    let t ← read shape first
    return t :: (← readAll shapes rest)
  | [], rest => .ok (rest.map fun (type, value) => .leaf type value)
  | _ :: _, [] => .ok []

end

/-- Reads a message: its headers, of which the second one has to be of a command, and then a forest
of a shape. -/
def readMessage (shapes : List Shape) (command : UInt8) :
    Scan DecodeError (MessageHeader × GenericHeader × DatapathHeader × List AttributeTree) := do
  let header ← Cursor.messageHeader
  let generic ← Cursor.expectCommand command
  let datapath ← Cursor.datapathHeader
  let attributes ← Cursor.attributeList
  return (header, generic, datapath, ← readAll shapes attributes)

end Shape

namespace AttributeTree

mutual

/-- The shape of a tree. -/
def shape : AttributeTree → Shape
  | .leaf _ _ => .leaf
  | .node _ children => .node (shapes children)

/-- The shapes of the trees of a forest. -/
def shapes : List AttributeTree → List Shape
  | [] => []
  | t :: rest => shape t :: shapes rest

end

mutual

/-- A tree is read by its shape from its type and its value. -/
theorem read_shape {t : AttributeTree} (hfits : t.Fits)
    (hplain : ∀ u ∈ t.subtrees, u.type < 0x4000) : t.shape.read (t.type, t.payload) = .ok t := by
  cases t with
  | leaf type value => rw [shape, Shape.read, AttributeTree.type, payload]
  | node type children =>
    rw [Fits] at hfits
    rw [subtrees, List.forall_mem_cons] at hplain
    have hparse := parse_wires hfits.1 fun u hu => hplain.2 u (mem_inside hu)
    have hread := readAll_shapes hfits.1 hplain.2
    rw [shape, Shape.read, AttributeTree.type, payload, hparse]
    simp only [bind, Except.bind, hread]
    rfl

/-- **A forest is read by its shapes** from the types and values of its trees. -/
theorem readAll_shapes {trees : List AttributeTree} (hfits : FitAll trees)
    (hplain : ∀ u ∈ inside trees, u.type < 0x4000) :
    Shape.readAll (shapes trees) (trees.map fun t => (t.type, t.payload)) = .ok trees := by
  cases trees with
  | nil => rw [shapes, List.map_nil, Shape.readAll, List.map_nil]
  | cons t rest =>
    rw [FitAll] at hfits
    rw [inside, List.forall_mem_append] at hplain
    have htree := read_shape hfits.1 hplain.1
    have hrest := readAll_shapes hfits.2 hplain.2
    rw [shapes, List.map_cons, Shape.readAll, htree]
    simp only [bind, Except.bind, hrest]
    rfl

end

/-- The message that holds a forest behind its headers. -/
def wrapped (family flags : UInt16) (generic : GenericHeader) (ifindex : Int32)
    (trees : List AttributeTree) (sequence : UInt32) : Except EncodeError Bytes := do
  let draft ← Request.draft
    ⟨family, flags, generic.command, generic.version, some ifindex, puts trees⟩
  draft.finish sequence

/-- Number of octets of the headers in front of a forest. -/
def headersSize : Nat := MessageHeader.size + (GenericHeader.size + DatapathHeader.size)

section

variable (family flags : UInt16) (generic : GenericHeader) (ifindex : Int32)
  {trees : List AttributeTree} (sequence : UInt32)

theorem length_headers (trees : List AttributeTree) :
    MessageHeader.size + (generic.toBytes ++ DatapathHeader.toBytes ⟨ifindex⟩ ++
      wires trees).length = headersSize + encodedLengths trees := by
  simp only [List.length_append, GenericHeader.length_toBytes, DatapathHeader.length_toBytes,
    length_wires, headersSize]
  omega

/-- What a forest is wrapped to, if it fits. -/
theorem wrapped_of_fitAll (hfits : FitAll trees)
    (hlength : headersSize + encodedLengths trees ≤ Draft.maxLength) :
    wrapped family flags generic ifindex trees sequence =
      .ok (MessageHeader.toBytes ⟨UInt32.ofNat (headersSize + encodedLengths trees), family, flags,
        sequence, 0⟩ ++ (generic.toBytes ++ DatapathHeader.toBytes ⟨ifindex⟩ ++ wires trees)) := by
  have hsize := length_headers generic ifindex trees
  have hdraft : Request.draft
      ⟨family, flags, generic.command, generic.version, some ifindex, puts trees⟩ = .ok _ :=
    (Request.draft_eq_ok_iff rfl).2 ⟨hfits, rfl⟩
  have hmod : (generic.toBytes ++ DatapathHeader.toBytes ⟨ifindex⟩ ++ wires trees).length % 4 =
      0 := by
    have := length_wires_mod_four trees
    simp only [List.length_append, GenericHeader.length_toBytes, DatapathHeader.length_toBytes,
      GenericHeader.size, DatapathHeader.size]
    omega
  have hfinish := Draft.finish_start_append flags family sequence hmod (hsize ▸ hlength)
  rw [hsize] at hfinish
  rw [wrapped, hdraft]
  exact hfinish

/-- A forest that does not fit is not wrapped, because of the length of an attribute. -/
theorem wrapped_of_not_fitAll (hfits : ¬ FitAll trees) :
    ∃ n, wrapped family flags generic ifindex trees sequence = .error (.attributeTooLong n) := by
  cases hdraft : Request.draft
      ⟨family, flags, generic.command, generic.version, some ifindex, puts trees⟩ with
  | ok draft => exact absurd ((Request.draft_eq_ok_iff rfl).1 hdraft).1 hfits
  | error e =>
    obtain ⟨n, rfl⟩ := Request.exists_attributeTooLong rfl hdraft
    exact ⟨n, by rw [wrapped, hdraft]; rfl⟩

/-- The octets of a message with a forest are read as its headers and the forest. -/
theorem reads_readMessage (header : MessageHeader) (hfits : FitAll trees)
    (hplain : ∀ t ∈ inside trees, t.type < 0x4000) :
    Cursor.Reads (Shape.readMessage (shapes trees) generic.command)
      (header.toBytes ++ (generic.toBytes ++ DatapathHeader.toBytes ⟨ifindex⟩ ++ wires trees))
      (header, generic, ⟨ifindex⟩, trees) [] := by
  have hparse := parse_wires hfits fun t ht => hplain t (mem_inside ht)
  rw [List.append_assoc]
  refine (Cursor.reads_messageHeader header).bind ?_
  refine (Cursor.reads_expectCommandOf generic (List.mem_singleton_self _)).bind ?_
  refine (Cursor.reads_datapathHeader ⟨ifindex⟩).bind ?_
  refine (Cursor.reads_attributeList hparse).bind ?_
  exact .bind (.lift (readAll_shapes hfits hplain)) (.pure _)

/-- **A forest comes back.** It can be wrapped in a message if and only if no tree in it is too
long; whoever reads the message then finds its headers and the forest as it was. -/
theorem comes_back (hplain : ∀ t ∈ inside trees, t.type < 0x4000)
    (hlength : headersSize + encodedLengths trees < UInt32.size) :
    ((∃ e, wrapped family flags generic ifindex trees sequence = .error e) ↔
      ∃ t ∈ inside trees, t.TooLong) ∧
    (∀ e, wrapped family flags generic ifindex trees sequence = .error e →
      ∃ n, e = .attributeTooLong n) ∧
    ∀ message, wrapped family flags generic ifindex trees sequence = .ok message →
      Cursor.scan (Shape.readMessage (shapes trees) generic.command) message =
        .ok (⟨UInt32.ofNat message.length, family, flags, sequence, 0⟩, generic, ⟨ifindex⟩,
          trees) := by
  by_cases hfits : FitAll trees
  · have hok := wrapped_of_fitAll family flags generic ifindex sequence hfits
      (by simp only [Draft.maxLength, UInt32.size] at hlength ⊢; omega)
    have hnone := (fitAll_iff_forall_inside trees).1 hfits
    refine ⟨⟨?_, ?_⟩, ?_, ?_⟩
    · rintro ⟨e, herror⟩
      rw [hok] at herror
      cases herror
    · rintro ⟨t, ht, hlong⟩
      exact absurd hlong (hnone t ht)
    · intro e herror
      rw [hok] at herror
      cases herror
    · intro message hmessage
      rw [hok] at hmessage
      injection hmessage with hmessage
      rw [← hmessage, (reads_readMessage generic ifindex _ hfits hplain).scan, List.length_append,
        MessageHeader.length_toBytes, length_headers]
  · obtain ⟨n, herror⟩ := wrapped_of_not_fitAll family flags generic ifindex sequence hfits
    have hlong : ∃ t ∈ inside trees, t.TooLong := by
      simpa [fitAll_iff_forall_inside] using hfits
    rw [herror]
    refine ⟨⟨fun _ => hlong, fun _ => ⟨_, rfl⟩⟩, ?_, ?_⟩
    · intro e hfail
      injection hfail with he
      exact ⟨n, he.symm⟩
    · intro message hmessage
      cases hmessage

end

/-- A forest with repeated types, values that are padded, and nodes without and with children. -/
def grove : List AttributeTree :=
  [.leaf 1 [1, 2, 3],
    .node 2 [.leaf 1 [], .node 3 [.leaf 0x3FFF [7], .leaf 1 [8, 8, 8, 8]], .node 3 [], .leaf 1 [7]],
    .leaf 1 [9, 9, 9, 9, 9]]

theorem comes_back_grove :
    (∀ t ∈ inside grove, t.type < 0x4000) ∧ headersSize + encodedLengths grove < UInt32.size ∧
      ∃ message, wrapped 32 1 ⟨3, 1⟩ (-9) grove 5 = .ok message ∧
        Cursor.scan (Shape.readMessage (shapes grove) 3) message =
          .ok (⟨UInt32.ofNat message.length, 32, 1, 5, 0⟩, ⟨3, 1⟩, ⟨-9⟩, grove) := by
  have hplain : ∀ t ∈ inside grove, t.type < 0x4000 := by decide +kernel
  have hlength : headersSize + encodedLengths grove < UInt32.size := by decide +kernel
  obtain ⟨hfails, -, hback⟩ := comes_back 32 1 ⟨3, 1⟩ (-9) 5 hplain hlength
  refine ⟨hplain, hlength, ?_⟩
  cases hwrapped : wrapped 32 1 ⟨3, 1⟩ (-9) grove 5 with
  | error e =>
    have hnone : ∀ t ∈ inside grove, ¬ t.TooLong := by decide +kernel
    obtain ⟨t, ht, hlong⟩ := hfails.1 ⟨e, hwrapped⟩
    exact absurd hlong (hnone t ht)
  | ok message => exact ⟨message, rfl, hback message hwrapped⟩

end AttributeTree

end VSwitch
