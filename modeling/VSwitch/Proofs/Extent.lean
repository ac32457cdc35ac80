import Mathlib.Data.List.Basic
import VSwitch.Proofs.Envelope

/-!
# What can be written

Writing an attribute fails for a zero in a text and for a length that does not fit into 16 bits. As
attributes hold attributes again, which are padded, and the padding counts, it takes an account of
all lengths to say beforehand whether a request can be written. This is the account. It mentions
neither octets nor drafts.

* `VSwitch.Put.extent` is the number of octets that an attribute takes;
* `VSwitch.Put.Offends` says that an attribute, or one in it, cannot be written, and
  `VSwitch.Put.run_of_isAttribute` that this is what it is;
* `VSwitch.Request.Unwritable` says that a request cannot be written, and
  `VSwitch.Request.draft_cases` that this is what it is.
-/

namespace VSwitch

namespace Put

/-! ### The account -/

mutual

/-- Number of octets that an attribute takes, with its header and its padding. -/
def extent : Put → Nat
  | .slice _ value => align4 (AttributeHeader.size + value.length)
  | .text _ content => align4 (AttributeHeader.size + ((Utf8.encode content).length + 1))
  | .nested _ inner => AttributeHeader.size + extents inner
  | _ => 0

/-- Number of octets that attributes take one after the other. -/
def extents : List Put → Nat
  | [] => 0
  | p :: rest => extent p + extents rest

end

/-- An attribute cannot be written, or one of those in it cannot. -/
inductive Offends : Put → Prop
  /-- A text holds a zero. -/
  | nul {type : UInt16} {content : String} (h : content.contains '\x00' = true) :
    Offends (.text type content)
  /-- A text, with the zero behind it, is too long. -/
  | text {type : UInt16} {content : String}
    (h : Draft.maxAttributeLength < AttributeHeader.size + ((Utf8.encode content).length + 1)) :
    Offends (.text type content)
  /-- A value is too long. -/
  | slice {type : UInt16} {value : Bytes}
    (h : Draft.maxAttributeLength < AttributeHeader.size + value.length) :
    Offends (.slice type value)
  /-- A list of attributes is too long. -/
  | nested {type : UInt16} {inner : List Put}
    (h : Draft.maxAttributeLength < AttributeHeader.size + extents inner) :
    Offends (.nested type inner)
  /-- One in a list of attributes cannot be written. -/
  | inside {type : UInt16} {inner : List Put} {p : Put} (hp : p ∈ inner) (h : Offends p) :
    Offends (.nested type inner)

mutual

/-- Whether a call writes an attribute with octets, with a text or with attributes. -/
def IsAttribute : Put → Prop
  | .slice _ _ | .text _ _ => True
  | .nested _ inner => AreAttributes inner
  | _ => False

/-- Whether each call writes such an attribute. -/
def AreAttributes : List Put → Prop
  | [] => True
  | p :: rest => IsAttribute p ∧ AreAttributes rest

end

variable {type : UInt16} {value : Bytes} {content : String} {inner : List Put}

theorem offends_slice_iff : Offends (.slice type value) ↔
    Draft.maxAttributeLength < AttributeHeader.size + value.length := by
  constructor
  · rintro (_ | _ | h | _ | _)
    exact h
  · exact .slice

theorem offends_text_iff : Offends (.text type content) ↔ content.contains '\x00' = true ∨
    Draft.maxAttributeLength < AttributeHeader.size + ((Utf8.encode content).length + 1) := by
  constructor
  · rintro (h | h | _ | _ | _)
    · exact .inl h
    · exact .inr h
  · rintro (h | h)
    · exact .nul h
    · exact .text h

theorem offends_nested_iff : Offends (.nested type inner) ↔ (∃ p ∈ inner, p.Offends) ∨
    Draft.maxAttributeLength < AttributeHeader.size + extents inner := by
  constructor
  · rintro (_ | _ | _ | h | ⟨hp, h⟩)
    · exact .inr h
    · exact .inl ⟨_, hp, h⟩
  · rintro (⟨p, hp, h⟩ | h)
    · exact .inside hp h
    · exact .nested h

mutual

theorem extent_mod_four (p : Put) : p.extent % 4 = 0 := by
  cases p with
  | slice | text =>
    rw [extent]
    exact align4_mod_four _
  | nested type inner =>
    have hinner := extents_mod_four inner
    rw [extent, AttributeHeader.size]
    omega
  | _ => rfl

theorem extents_mod_four (puts : List Put) : extents puts % 4 = 0 := by
  cases puts with
  | nil => rfl
  | cons p rest =>
    have hp := extent_mod_four p
    have hrest := extents_mod_four rest
    rw [extents]
    omega

end

/-- A number of 32 bits can always be written. -/
theorem not_offends_u32 (type : UInt16) (v : UInt32) : ¬ (u32 type v).Offends := by
  rw [u32, offends_slice_iff, Bytes.length_ofU32]
  decide

theorem extent_u32 (type : UInt16) (v : UInt32) : (u32 type v).extent = 8 := by
  rw [u32, extent, Bytes.length_ofU32]
  rfl

/-! ### It is right -/

/-- What comes of a call, or of some, that offend or not: some octets are appended, or it fails. -/
def ComesTo (offends : Prop) (extent : Nat) (d : Draft) (run : Except EncodeError Unit × Draft) :
    Prop :=
  ¬ offends ∧ (∃ octets, run = (.ok (), d.append octets) ∧ octets.length = extent) ∨
    offends ∧ ∃ cause d', run = (.error cause, d')

theorem comesTo_runSlice {d : Draft} (h : d.length % 4 = 0) (type : UInt16) (value : Bytes) :
    ComesTo (Draft.maxAttributeLength < AttributeHeader.size + value.length)
      (align4 (AttributeHeader.size + value.length)) d (runSlice type value d) := by
  rw [runSlice_of_aligned h]
  by_cases hle : AttributeHeader.size + value.length ≤ Draft.maxAttributeLength
  · rw [if_pos hle]
    exact .inl ⟨Nat.not_lt.2 hle, _, rfl, Attribute.length_block type value⟩
  · rw [if_neg hle]
    exact .inr ⟨Nat.not_le.1 hle, _, _, rfl⟩

mutual

/-- **An attribute is written exactly if it does not offend**, and it takes its extent. -/
theorem run_of_isAttribute (p : Put) (hp : p.IsAttribute) {d : Draft} (h : d.length % 4 = 0) :
    ComesTo p.Offends p.extent d (p.run d) := by
  cases p with
  | slice type value =>
    rw [run, extent, offends_slice_iff]
    exact comesTo_runSlice h type value
  | text type content =>
    rw [run, extent, offends_text_iff]
    by_cases hnul : content.contains '\x00' = true
    · rw [if_pos hnul]
      exact .inr ⟨.inl hnul, _, _, rfl⟩
    · have hslice := comesTo_runSlice h type (Utf8.encode content ++ [0])
      rw [List.length_append, List.length_singleton] at hslice
      rw [if_neg hnul, or_iff_right hnul]
      exact hslice
  | nested type inner =>
    have hreserve : (d.reserve AttributeHeader.size).length % 4 = 0 := by
      rw [Draft.reserve_of_aligned h, Draft.length_append, List.length_replicate]
      simp only [AttributeHeader.size]
      omega
    rw [IsAttribute] at hp
    rw [run, extent, offends_nested_iff]
    rcases runAll_of_areAttributes inner hp hreserve with
      ⟨hinner, octets, hrun, hlength⟩ | ⟨hinner, cause, d', hrun⟩
    · have haligned : octets.length % 4 = 0 := hlength ▸ extents_mod_four inner
      have hpad : ((d.reserve AttributeHeader.size).append octets).align =
          (d.reserve AttributeHeader.size).append octets := by
        rw [Draft.align_append hreserve, Bytes.pad4_of_aligned haligned]
      -- Nothing inside offends, so it is the length of all of it that decides.
      simp only [hrun, hpad, Draft.align_of_aligned h, Draft.close_reserve h, hlength]
      rw [or_iff_right hinner]
      by_cases hle : AttributeHeader.size + extents inner ≤ Draft.maxAttributeLength
      · rw [if_pos hle]
        refine .inl ⟨Nat.not_lt.2 hle, _, rfl, ?_⟩
        rw [List.length_append, AttributeHeader.length_toBytes, hlength]
      · rw [if_neg hle]
        exact .inr ⟨Nat.not_le.1 hle, _, _, rfl⟩
    · simp only [hrun]
      exact .inr ⟨.inl hinner, cause, d', rfl⟩
  | _ =>
    -- The other calls write no attribute of these kinds.
    simp only [IsAttribute] at hp

/-- **Attributes are written exactly if none of them offends**, and they take their extents. -/
theorem runAll_of_areAttributes (puts : List Put) (hputs : AreAttributes puts) {d : Draft}
    (h : d.length % 4 = 0) :
    ComesTo (∃ p ∈ puts, p.Offends) (extents puts) d (runAll puts d) := by
  cases puts with
  | nil =>
    refine .inl ⟨?_, [], ?_, rfl⟩
    · rintro ⟨p, hp, -⟩
      cases hp
    · simp [runAll, Draft.append]
  | cons p rest =>
    rw [AreAttributes] at hputs
    rw [runAll, extents, List.exists_mem_cons_iff]
    rcases run_of_isAttribute p hputs.1 h with ⟨hp, octets, hrun, hlength⟩ | ⟨hp, cause, d', hrun⟩
    · have hnext : (d.append octets).length % 4 = 0 := by
        have := extent_mod_four p
        rw [Draft.length_append, hlength]
        omega
      simp only [hrun, or_iff_right hp]
      rcases runAll_of_areAttributes rest hputs.2 hnext with
        ⟨hrest, later, hruns, hlater⟩ | ⟨hrest, cause, d', hruns⟩
      · refine .inl ⟨hrest, octets ++ later, ?_, ?_⟩
        · rw [hruns, Draft.append_append]
        · rw [List.length_append, hlength, hlater]
      · exact .inr ⟨hrest, cause, d', hruns⟩
    · simp only [hrun]
      exact .inr ⟨.inl hp, cause, d', rfl⟩

end

mutual

/-- What writes a tree writes an attribute. -/
theorem isAttribute_put (t : AttributeTree) : t.put.IsAttribute := by
  cases t with
  | leaf type value =>
    rw [AttributeTree.put, IsAttribute]
    trivial
  | node type children =>
    rw [AttributeTree.put, IsAttribute]
    exact areAttributes_puts children

theorem areAttributes_puts (trees : List AttributeTree) :
    AreAttributes (AttributeTree.puts trees) := by
  cases trees with
  | nil =>
    rw [AttributeTree.puts, AreAttributes]
    trivial
  | cons t rest =>
    rw [AttributeTree.puts, AreAttributes]
    exact ⟨isAttribute_put t, areAttributes_puts rest⟩

end

end Put

/-! ### Requests -/

/-- Whether a message can be finished does not depend on its sequence number. -/
theorem Draft.finish_eq_error {d : Draft} {sequence : UInt32} {cause : EncodeError}
    (h : d.finish sequence = .error cause) (other : UInt32) : d.finish other = .error cause := by
  unfold finish at h ⊢
  dsimp only at h ⊢
  split at h
  · cases h
  · next hlong =>
    rw [if_neg hlong]
    exact h

theorem Draft.finish_of_aligned {d : Draft} (h : d.length % 4 = 0) (sequence : UInt32) :
    (∃ message, d.finish sequence = .ok message) ↔ d.length ≤ maxLength := by
  unfold finish
  rw [align_of_aligned h]
  dsimp only
  change _ ↔ d.bytes.length ≤ maxLength
  split <;> simp_all

namespace Request

/-- A request cannot be written: one of its attributes cannot, or all of them together are too long
for a message. -/
def Unwritable (r : Request) : Prop :=
  (∃ p ∈ r.attributes, p.Offends) ∨
    Draft.maxLength < MessageHeader.size + r.head.length + Put.extents r.attributes

/-- **A request is written to its end exactly if it can be**: there is a draft, and a message for
every sequence number. -/
theorem draft_cases {r : Request} (h : Put.AreAttributes r.attributes) :
    ¬ r.Unwritable ∧
        (∃ d, r.draft = .ok d ∧ ∀ sequence, ∃ message, d.finish sequence = .ok message) ∨
      r.Unwritable ∧ ((∃ cause, r.draft = .error cause) ∨
        ∃ d cause, r.draft = .ok d ∧ ∀ sequence, d.finish sequence = .error cause) := by
  rw [draft_eq_writeOn, Put.writeOn, Unwritable]
  rcases Put.runAll_of_areAttributes r.attributes h r.length_append_head_mod_four with
    ⟨hoffends, octets, hrun, hlength⟩ | ⟨hoffends, cause, d', hrun⟩
  · rw [hrun, or_iff_right hoffends]
    have haligned : (((Draft.start r.flags r.family).append r.head).append octets).length % 4 =
        0 := by
      have hhead := r.length_append_head_mod_four
      have hextents := Put.extents_mod_four r.attributes
      rw [Draft.length_append, hlength]
      omega
    have htotal : (((Draft.start r.flags r.family).append r.head).append octets).length =
        MessageHeader.size + r.head.length + Put.extents r.attributes := by
      rw [Draft.length_append, Draft.length_append, Draft.length_start, hlength]
    have hfinish := fun sequence => Draft.finish_of_aligned haligned sequence
    rw [htotal] at hfinish
    by_cases hle : MessageHeader.size + r.head.length + Put.extents r.attributes ≤ Draft.maxLength
    · exact .inl ⟨Nat.not_lt.2 hle, _, rfl, fun sequence => (hfinish sequence).2 hle⟩
    · refine .inr ⟨Nat.not_le.1 hle, .inr ?_⟩
      cases hzero : (((Draft.start r.flags r.family).append r.head).append octets).finish 0 with
      | ok message => exact absurd ((hfinish 0).1 ⟨message, hzero⟩) hle
      | error cause => exact ⟨_, cause, rfl, fun sequence => Draft.finish_eq_error hzero sequence⟩
  · rw [hrun]
    exact .inr ⟨.inl hoffends, .inl ⟨cause, rfl⟩⟩

end Request

end VSwitch
