import Mathlib.Data.List.Forall2
import VSwitch.Proofs.Arrivals
import VSwitch.Proofs.Envelope
import VSwitch.Proofs.Sending

/-!
# Well-formed messages

What is known of a message before it is written: the family that it goes to, what its headers say,
the types of its attributes, and which of them hold attributes again. A message is well formed if it
is as long as it says, stands alone in its datagram, and whoever reads it finds just that.

* `VSwitch.Outline` is what is known beforehand, and `VSwitch.Outline.Describes` says that a message
  is well formed;
* `VSwitch.Put.Makes` says that a call writes an attribute, which may be a text, and
  `VSwitch.Put.Writes` what calls come to if all of them can be made;
* `VSwitch.Request.Follows` compares a request with an outline, and `VSwitch.Request.describes` is
  the result: what a request is finished to is well formed.
-/

namespace VSwitch

/-! ### Outlines -/

/-- What is known of a message before it is written. -/
structure Outline where
  /-- The family that the message goes to. -/
  family : UInt16
  /-- The command and the version. -/
  generic : GenericHeader
  /-- The datapath that the message is about; messages to the control family name none. -/
  datapath? : Option DatapathHeader
  /-- The types of its attributes, in order. -/
  types : List UInt16
  /-- The types of those attributes that hold attributes again. -/
  sets : List UInt16

namespace Outline

/-- Reads a message of a family and a command: its headers but the first one, and its attributes. -/
def read (o : Outline) : Scan DecodeError
    (GenericHeader × Option DatapathHeader × List (UInt16 × Bytes)) := do
  let _ ← Cursor.expectType o.family
  let generic ← Cursor.expectCommand o.generic.command
  if o.datapath?.isSome then
    let datapath ← Cursor.datapathHeader
    return (generic, some datapath, ← Cursor.attributeList)
  else
    return (generic, none, ← Cursor.attributeList)

/-- A message is well formed, and it is what the outline says. -/
structure Describes (o : Outline) (m : Bytes) : Prop where
  /-- The length in the header is the length of the message. -/
  length_eq : ∃ h, MessageHeader.read m = .ok h ∧ h.length.toNat = m.length
  aligned : m.length % 4 = 0
  /-- As a datagram it is one message and nothing else. -/
  alone : Datagram.split m 0 = ([⟨m, m.length⟩], none)
  /-- The headers are as the outline says, and each list of attributes can be read. -/
  reads : ∃ attributes, Cursor.scan o.read m = .ok (o.generic, o.datapath?, attributes) ∧
    attributes.map Prod.fst = o.types ∧
    ∀ a ∈ attributes, a.1 ∈ o.sets → ∃ inner, Attribute.parse a.2 = .ok inner

end Outline

/-! ### Standing alone -/

/-- A message that is as long as its header says is all there is to its datagram. -/
theorem Datagram.split_of_length_eq {m : Bytes} {h : MessageHeader}
    (hread : MessageHeader.read m = .ok h) (hsize : MessageHeader.size ≤ m.length)
    (hlength : h.length.toNat = m.length) (haligned : m.length % 4 = 0) :
    split m 0 = ([⟨m, m.length⟩], none) := by
  have hfirst : first m = .ok m.length := by
    rw [first, hread]
    simp only [hlength]
    rw [if_neg (Nat.not_lt.2 hsize), ensureLength_of_le (Nat.le_refl _)]
  have hnext : next? 0 m = .ok (some ⟨m, m.length⟩) := by
    have hne : m ≠ [] := List.ne_nil_of_length_pos (Nat.lt_of_lt_of_le (by decide) hsize)
    obtain ⟨b, tail, rfl⟩ := List.exists_cons_of_ne_nil hne
    rw [next?, hfirst]
    simp only [Except.map, reach, align4_of_aligned haligned, List.take_length, Nat.zero_add]
  have hdone : splitFrom m.length (m.drop (m.length - 0)) = ([], none) := by
    rw [Nat.sub_zero, List.drop_length]
    exact splitFrom_of_none rfl
  rw [split, List.drop_zero, splitFrom_of_some hnext]
  simp only [hdone]

/-! ### Texts -/

namespace AttributeTree

/-- Whether an attribute has attributes in it. -/
def isNode : AttributeTree → Bool
  | .leaf _ _ => false
  | .node _ _ => true

/-- The value of a node that fits can be read as a list of attributes. -/
theorem exists_parse_payload {t : AttributeTree} (hfits : t.Fits) (hnode : t.isNode = true) :
    ∃ inner, Attribute.parse t.payload = .ok inner := by
  cases t with
  | leaf type value => cases hnode
  | node type children =>
    rw [Fits] at hfits
    rw [payload]
    exact ⟨_, parse_wires_masked hfits.1⟩

/-- An attribute with a text that a zero ends. -/
def text (type : UInt16) (content : String) : AttributeTree :=
  .leaf type (Utf8.encode content ++ [0])

end AttributeTree

namespace Put

/-- A call writes an attribute, whatever the draft is. -/
def Makes (p : Put) (t : AttributeTree) : Prop := p.run = (AttributeTree.put t).run

/-- A text without a zero is written as a value with a zero behind it. -/
theorem makes_text {content : String} (h : '\x00' ∉ content.toList) (type : UInt16) :
    Makes (.text type content) (.text type content) := by
  funext d
  rw [run, String.contains_char_eq, if_neg (by rwa [decide_eq_true_iff]), AttributeTree.text,
    AttributeTree.put, run]

theorem forall₂_makes_puts (trees : List AttributeTree) :
    List.Forall₂ Makes (AttributeTree.puts trees) trees := by
  induction trees with
  | nil => exact .nil
  | cons t rest ih =>
    rw [AttributeTree.puts]
    exact .cons rfl ih

/-- What writes the attributes one by one writes all of them. -/
theorem writeOn_of_makes {calls : List Put} {trees : List AttributeTree}
    (h : List.Forall₂ Makes calls trees) : writeOn calls = writeOn (AttributeTree.puts trees) := by
  have hrun : runAll calls = runAll (AttributeTree.puts trees) := by
    induction h with
    | nil => rfl
    | cons hp _ ih =>
      funext d
      rw [AttributeTree.puts, runAll, runAll, hp, ih]
  funext d
  rw [writeOn, writeOn, hrun]

/-- What the calls write, if none of them fails, is the given forest. -/
def Writes (puts : List Put) (trees : List AttributeTree) : Prop :=
  ∀ d d', writeOn puts d = .ok d' → writeOn (AttributeTree.puts trees) d = .ok d'

theorem writes_puts (trees : List AttributeTree) : Writes (AttributeTree.puts trees) trees :=
  fun _ _ h => h

/-- A text that can be written is a value with a zero behind it. -/
theorem writes_text (type : UInt16) (content : String) (trees : List AttributeTree) :
    Writes (.text type content :: AttributeTree.puts trees) (.text type content :: trees) := by
  intro d d' h
  by_cases hnul : '\x00' ∈ content.toList
  · rw [writeOn, runAll, run, String.contains_char_eq, if_pos (decide_eq_true hnul)] at h
    cases h
  · rwa [writeOn_of_makes (.cons (makes_text hnul type) (forall₂_makes_puts trees))] at h

end Put

/-! ### Requests -/

namespace Request

/-- A request follows an outline: its attributes are a forest of the types that the outline lists,
in which the sets are nodes. -/
structure Follows (r : Request) (o : Outline) (trees : List AttributeTree) : Prop where
  writes : Put.Writes r.attributes trees
  family_eq : r.family = o.family
  generic_eq : (⟨r.command, r.version⟩ : GenericHeader) = o.generic
  datapath_eq : r.datapath?.map DatapathHeader.mk = o.datapath?
  types_eq : trees.map AttributeTree.type = o.types
  plain : o.types.all (· < 0x4000) = true
  sets_are_nodes : trees.all (fun t => !o.sets.contains t.type || t.isNode) = true

variable {r : Request} {trees : List AttributeTree} {m : Bytes}

/-- What a request is finished to: its headers and the octets of its forest. -/
theorem exists_of_yields (hwrites : Put.Writes r.attributes trees) (h : r.Yields m) :
    AttributeTree.FitAll trees ∧ ∃ header : MessageHeader, header.type = r.family ∧
      header.length.toNat = m.length ∧
      m = header.toBytes ++ (r.head ++ AttributeTree.wires trees) := by
  obtain ⟨draft, hdraft, sequence, hfinish⟩ := h
  rw [draft_eq_writeOn] at hdraft
  obtain ⟨hfits, rfl⟩ := (AttributeTree.writeOn_eq_ok_iff r.length_append_head_mod_four).1
    (hwrites _ _ hdraft)
  rw [Draft.append_append] at hfinish
  have hmod : (r.head ++ AttributeTree.wires trees).length % 4 = 0 := by
    have hhead := r.length_head_mod_four
    have hwires := AttributeTree.length_wires_mod_four trees
    rw [List.length_append]
    omega
  have hlength := Draft.length_le_of_finish hfinish
  rw [Draft.length_append, Draft.length_start] at hlength
  rw [Draft.finish_start_append r.flags r.family sequence hmod hlength] at hfinish
  injection hfinish with hm
  have hsize : m.length = MessageHeader.size + (r.head ++ AttributeTree.wires trees).length := by
    simp only [← hm, List.length_append, MessageHeader.length_toBytes]
  have hstamp : (UInt32.ofNat (MessageHeader.size +
      (r.head ++ AttributeTree.wires trees).length)).toNat = m.length := by
    rw [hsize, UInt32.toNat_ofNat', Nat.mod_eq_of_lt]
    rw [Draft.maxLength] at hlength
    omega
  exact ⟨hfits, _, rfl, hstamp, hm.symm⟩

/-- The message of a request is read as its headers and its attributes. -/
theorem reads_read {o : Outline} (h : r.Follows o trees) (hfits : AttributeTree.FitAll trees)
    {header : MessageHeader} (htype : header.type = r.family) :
    Cursor.Reads o.read (header.toBytes ++ (r.head ++ AttributeTree.wires trees))
      (o.generic, o.datapath?,
        trees.map fun t => (t.type, t.payload)) [] := by
  have hplain : ∀ t ∈ trees, t.type < 0x4000 := by
    intro t ht
    have hall := h.plain
    rw [← h.types_eq, List.all_eq_true] at hall
    exact of_decide_eq_true (hall t.type (List.mem_map_of_mem ht))
  have hlist := Cursor.reads_attributeList (AttributeTree.parse_wires hfits hplain)
  rw [head, h.generic_eq, List.append_assoc, ← h.datapath_eq, Outline.read, ← h.family_eq, ← htype]
  refine (Cursor.reads_expectType header).bind ?_
  refine (Cursor.reads_expectCommandOf o.generic (List.mem_singleton_self _)).bind ?_
  rw [← h.datapath_eq]
  cases r.datapath? with
  | none => exact hlist.bind (.pure _)
  | some ifindex => exact (Cursor.reads_datapathHeader ⟨ifindex⟩).bind (hlist.bind (.pure _))

/-- **What a request is finished to is well formed**, and it is what the outline says. -/
theorem describes {o : Outline} (h : r.Follows o trees) (hm : r.Yields m) : o.Describes m := by
  obtain ⟨hfits, header, htype, hlength, hm⟩ := exists_of_yields h.writes hm
  have hread : MessageHeader.read m = .ok header := by
    rw [hm, MessageHeader.read_toBytes_append]
  have haligned : m.length % 4 = 0 := by
    have hhead := r.length_head_mod_four
    have hwires := AttributeTree.length_wires_mod_four trees
    rw [hm, List.length_append, List.length_append, MessageHeader.length_toBytes,
      MessageHeader.size]
    omega
  have hsize : MessageHeader.size ≤ m.length := by
    rw [hm, List.length_append, MessageHeader.length_toBytes]
    omega
  have halone := Datagram.split_of_length_eq hread hsize hlength haligned
  refine ⟨⟨header, hread, hlength⟩, haligned, halone,
    ⟨_, hm ▸ (reads_read h hfits htype).scan, ?_, ?_⟩⟩
  · rw [List.map_map]
    exact h.types_eq
  · intro a ha hset
    obtain ⟨t, ht, rfl⟩ := List.mem_map.1 ha
    have hnode : t.isNode = true := by
      simpa [hset] using List.all_eq_true.1 h.sets_are_nodes t ht
    exact AttributeTree.exists_parse_payload (AttributeTree.fitAll_iff.1 hfits t ht) hnode

end Request

end VSwitch
