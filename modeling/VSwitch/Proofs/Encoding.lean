import VSwitch.Attribute.Set
import VSwitch.Attribute.Tree
import VSwitch.Proofs.Octets

/-!
# Forests of attributes on the wire

Writing a forest goes through a draft, where each header is filled in when the value behind it is
known; reading takes one block after the other off a string of octets. Both meet at a description
of the octets that mentions neither: a **block** is a header, a value and padding, and the octets
of a forest are the blocks of its trees, whose values are octets again.

* `VSwitch.Attribute.block` is an attribute on the wire, and `VSwitch.AttributeTree.wires` are the
  octets of a forest;
* `VSwitch.AttributeTree.Fits` says of a tree that every length in it can be written;
* `VSwitch.AttributeTree.writeOn_eq_ok_iff`: a forest is written exactly if its trees fit, and what
  is appended then are its octets;
* `VSwitch.AttributeTree.parse_wires`: the octets of a forest are read as its types and values.
-/

namespace VSwitch

/-! ### Blocks -/

namespace Attribute

/-- An attribute on the wire: its header, its value, and the padding behind them. -/
def block (type : UInt16) (value : Bytes) : Bytes :=
  Bytes.pad4 (AttributeHeader.toBytes ⟨UInt16.ofNat (AttributeHeader.size + value.length), type⟩ ++
    value)

theorem length_block (type : UInt16) (value : Bytes) :
    (block type value).length = align4 (AttributeHeader.size + value.length) := by
  simp [block, Bytes.length_pad4]

variable {type : UInt16} {value : Bytes}

theorem block_eq_append (type : UInt16) (value : Bytes) : ∃ zeros, block type value =
    AttributeHeader.toBytes ⟨UInt16.ofNat (AttributeHeader.size + value.length), type⟩ ++
      (value ++ zeros) :=
  ⟨_, by rw [block, Bytes.pad4, List.append_assoc]⟩

theorem first_block_append
    (hlength : AttributeHeader.size + value.length ≤ Draft.maxAttributeLength) (rest : Bytes) :
    first (block type value ++ rest) =
      .ok (type &&& AttributeHeader.typeMask, AttributeHeader.size + value.length) := by
  obtain ⟨zeros, hzeros⟩ := block_eq_append type value
  have hsize : (UInt16.ofNat (AttributeHeader.size + value.length)).toNat =
      AttributeHeader.size + value.length := by
    rw [UInt16.toNat_ofNat', Nat.mod_eq_of_lt]
    simp only [Draft.maxAttributeLength] at hlength
    omega
  have henough : AttributeHeader.size + value.length ≤ (block type value ++ rest).length := by
    have := le_align4 (AttributeHeader.size + value.length)
    rw [List.length_append, length_block]
    omega
  have hread : AttributeHeader.read (block type value ++ rest) =
      .ok ⟨UInt16.ofNat (AttributeHeader.size + value.length),
        type &&& AttributeHeader.typeMask⟩ := by
    rw [hzeros, List.append_assoc, AttributeHeader.read_toBytes_append]
  unfold first
  rw [hread]
  simp only [hsize, ensureLength_of_le henough]
  rw [if_neg (by omega)]

theorem value_block_append (type : UInt16) (value rest : Bytes) :
    Attribute.value (block type value ++ rest) (AttributeHeader.size + value.length) = value := by
  obtain ⟨zeros, hzeros⟩ := block_eq_append type value
  have hheader := AttributeHeader.length_toBytes
    ⟨UInt16.ofNat (AttributeHeader.size + value.length), type⟩
  rw [Attribute.value, hzeros, List.append_assoc, List.append_assoc, ← List.append_assoc,
    List.take_left' (by rw [List.length_append, hheader]), List.drop_left' hheader]

theorem block_append_ne_nil (type : UInt16) (value rest : Bytes) :
    block type value ++ rest ≠ [] := by
  intro hnil
  have hlength := congrArg List.length hnil
  have := le_align4 (AttributeHeader.size + value.length)
  simp only [List.length_append, length_block, AttributeHeader.size, List.length_nil]
    at hlength this
  omega

/-- The first attribute is read, and then the rest. -/
theorem parse_of_first_ok {d : Bytes} {n : Nat} (hd : d ≠ []) (h : first d = .ok (type, n)) :
    parse d = (parse (d.drop (align4 n))).map ((type, Attribute.value d n) :: ·) := by
  obtain ⟨b, tail, rfl⟩ := List.exists_cons_of_ne_nil hd
  rw [parse]
  split
  · rename_i e he
    rw [h] at he
    cases he
  · rename_i type' n' he
    rw [h] at he
    cases he
    cases parse ((b :: tail).drop (align4 n)) <;> rfl

/-- **A block is read as the attribute it was made of**, but for the flag bits of its type, and
reading goes on behind it. -/
theorem parse_block_append
    (hlength : AttributeHeader.size + value.length ≤ Draft.maxAttributeLength) (rest : Bytes) :
    parse (block type value ++ rest) =
      (parse rest).map ((type &&& AttributeHeader.typeMask, value) :: ·) := by
  have hdrop : (block type value ++ rest).drop (align4 (AttributeHeader.size + value.length)) =
      rest := List.drop_left' (length_block type value)
  rw [parse_of_first_ok (block_append_ne_nil type value rest) (first_block_append hlength rest),
    value_block_append, hdrop]

@[simp]
theorem parse_nil : parse [] = .ok [] := by
  rw [parse]

end Attribute

namespace AttributeTree

/-! ### The octets of a forest -/

mutual

/-- The value of an attribute on the wire. -/
def payload : AttributeTree → Bytes
  | .leaf _ value => value
  | .node _ children => wires children

/-- The octets of a forest: a block for each tree. -/
def wires : List AttributeTree → Bytes
  | [] => []
  | t :: rest => Attribute.block t.type t.payload ++ wires rest

end

@[simp]
theorem wires_nil : wires [] = [] := by
  rw [wires]

theorem wires_cons (t : AttributeTree) (rest : List AttributeTree) :
    wires (t :: rest) = Attribute.block t.type t.payload ++ wires rest := by
  rw [wires]

theorem length_wires_mod_four (trees : List AttributeTree) : (wires trees).length % 4 = 0 := by
  induction trees with
  | nil => simp
  | cons t rest ih =>
    have := align4_mod_four (AttributeHeader.size + t.payload.length)
    rw [wires_cons, List.length_append, Attribute.length_block]
    omega

mutual

/-- Whether the length of an attribute and every length in it can be written. -/
def Fits : AttributeTree → Prop
  | .leaf _ value => AttributeHeader.size + value.length ≤ Draft.maxAttributeLength
  | .node _ children =>
    FitAll children ∧ AttributeHeader.size + (wires children).length ≤ Draft.maxAttributeLength

/-- Whether every tree of a forest fits. -/
def FitAll : List AttributeTree → Prop
  | [] => True
  | t :: rest => Fits t ∧ FitAll rest

end

mutual

instance decidableFits : (t : AttributeTree) → Decidable t.Fits
  | .leaf _ value =>
    inferInstanceAs (Decidable (AttributeHeader.size + value.length ≤ Draft.maxAttributeLength))
  | .node _ children =>
    have := decidableFitAll children
    inferInstanceAs (Decidable (FitAll children ∧ _ ≤ Draft.maxAttributeLength))

instance decidableFitAll : (trees : List AttributeTree) → Decidable (FitAll trees)
  | [] => inferInstanceAs (Decidable True)
  | t :: rest =>
    have := decidableFits t
    have := decidableFitAll rest
    inferInstanceAs (Decidable (t.Fits ∧ FitAll rest))

end

theorem fitAll_iff {trees : List AttributeTree} : FitAll trees ↔ ∀ t ∈ trees, t.Fits := by
  induction trees with
  | nil => simp [FitAll]
  | cons t rest ih => simp [FitAll, ih]

theorem Fits.length_le {t : AttributeTree} (h : t.Fits) :
    AttributeHeader.size + t.payload.length ≤ Draft.maxAttributeLength := by
  cases t with
  | leaf type value => simpa [Fits, payload] using h
  | node type children =>
    rw [Fits] at h
    rw [payload]
    exact h.2

/-- The octets of a forest are read in order, without the flag bits of the types. -/
theorem parse_wires_masked {trees : List AttributeTree} (hfits : FitAll trees) :
    Attribute.parse (wires trees) =
      .ok (trees.map fun t => (t.type &&& AttributeHeader.typeMask, t.payload)) := by
  induction trees with
  | nil => simp
  | cons t rest ih =>
    rw [FitAll] at hfits
    rw [wires_cons, Attribute.parse_block_append hfits.1.length_le, ih hfits.2]
    rfl

/-- What an attribute is found by in a set: its type without the flag bits. -/
def key (t : AttributeTree) : UInt16 := t.type &&& AttributeHeader.typeMask

theorem key_of_lt {t : AttributeTree} (h : t.type < 0x4000) : t.key = t.type :=
  AttributeHeader.and_typeMask_of_lt h

/-- As a set, the octets of a forest are read as a table of its keys and values. -/
theorem attributes_wires_masked {trees : List AttributeTree} (hfits : FitAll trees) :
    AttributeSet.parse (wires trees) =
      .ok (Table.ofList (trees.map fun t => (t.key, t.payload))) := by
  rw [AttributeSet.parse, parse_wires_masked hfits]
  rfl

/-- **The octets of a forest are read as its types and values**, in order. -/
theorem parse_wires {trees : List AttributeTree} (hfits : FitAll trees)
    (hplain : ∀ t ∈ trees, t.type < 0x4000) :
    Attribute.parse (wires trees) = .ok (trees.map fun t => (t.type, t.payload)) := by
  rw [parse_wires_masked hfits]
  congr 1
  refine List.map_congr_left fun t ht => ?_
  rw [AttributeHeader.and_typeMask_of_lt (hplain t ht)]

theorem parse_wires_singleton {t : AttributeTree} (hfits : t.Fits) (hplain : t.type < 0x4000) :
    Attribute.parse (wires [t]) = .ok [(t.type, t.payload)] :=
  parse_wires ⟨hfits, trivial⟩ fun _ hu => List.mem_singleton.1 hu ▸ hplain

/-- As a set, the octets of a forest are read as a table of its types and values. -/
theorem attributes_wires {trees : List AttributeTree} (hfits : FitAll trees)
    (hplain : ∀ t ∈ trees, t.type < 0x4000) : AttributeSet.parse (wires trees) =
      .ok (Table.ofList (trees.map fun t => (t.type, t.payload))) := by
  rw [AttributeSet.parse, parse_wires hfits hplain]
  rfl

end AttributeTree

/-! ### Writing a forest -/

namespace Draft

variable {d : Draft}

theorem align_of_aligned (h : d.length % 4 = 0) : d.align = d := by
  rw [align, Bytes.pad4_of_aligned h]

theorem length_align_mod_four (d : Draft) : d.align.length % 4 = 0 := by
  rw [length, align, Bytes.length_pad4]
  exact align4_mod_four _

@[simp]
theorem align_align (d : Draft) : d.align.align = d.align :=
  align_of_aligned d.length_align_mod_four

theorem reserve_align (d : Draft) (n : Nat) : d.align.reserve n = d.reserve n := by
  rw [reserve, align_align, reserve]

@[simp]
theorem length_append (d : Draft) (b : Bytes) : (d.append b).length = d.length + b.length := by
  simp [length, append]

theorem append_append (d : Draft) (a b : Bytes) : (d.append a).append b = d.append (a ++ b) := by
  simp [append]

theorem align_append (h : d.length % 4 = 0) (b : Bytes) :
    (d.append b).align = d.append b.pad4 := by
  rw [align, append, Bytes.pad4_append h]
  rfl

theorem reserve_of_aligned (h : d.length % 4 = 0) (n : Nat) :
    d.reserve n = d.append (List.replicate n 0) := by
  rw [reserve, align_of_aligned h]

/-- Closing fills the header in, if the length can be written. -/
theorem close_reserve (h : d.length % 4 = 0) (type : UInt16) (value : Bytes) :
    ((d.reserve AttributeHeader.size).append value).close d.length type =
      if AttributeHeader.size + value.length ≤ maxAttributeLength then
        (.ok (), d.append (AttributeHeader.toBytes
          ⟨UInt16.ofNat (AttributeHeader.size + value.length), type⟩ ++ value))
      else (.error (.attributeTooLong (AttributeHeader.size + value.length)),
        (d.reserve AttributeHeader.size).append value) := by
  have hlength : ((d.reserve AttributeHeader.size).append value).length - d.length =
      AttributeHeader.size + value.length := by
    rw [reserve_of_aligned h]
    simp only [length_append, List.length_replicate]
    omega
  unfold close
  simp only [hlength]
  by_cases hle : AttributeHeader.size + value.length ≤ maxAttributeLength
  · rw [if_pos hle, if_pos hle, reserve_of_aligned h, append_append]
    simp only [append, length]
    rw [Bytes.patch_append _ _ _ _ (by simp)]
  · rw [if_neg hle, if_neg hle]

end Draft

namespace Put

variable {d : Draft}

/-- **An attribute with a value of octets** is written as a block, unless it is too long. -/
theorem runSlice_of_aligned (h : d.length % 4 = 0) (type : UInt16) (value : Bytes) :
    runSlice type value d =
      if AttributeHeader.size + value.length ≤ Draft.maxAttributeLength then
        (.ok (), d.append (Attribute.block type value))
      else (.error (.attributeTooLong (AttributeHeader.size + value.length)),
        (d.reserve AttributeHeader.size).append value) := by
  rw [runSlice, Draft.align_of_aligned h, Draft.close_reserve h]
  by_cases hle : AttributeHeader.size + value.length ≤ Draft.maxAttributeLength
  · rw [if_pos hle, if_pos hle]
    simp only [Draft.align_append h, Attribute.block]
  · rw [if_neg hle, if_neg hle]

end Put

namespace AttributeTree

mutual

/-- A tree is written as a block if it fits, and not at all otherwise. -/
theorem run_put (t : AttributeTree) {d : Draft} (h : d.length % 4 = 0) :
    t.Fits ∧ (put t).run d = (.ok (), d.append (Attribute.block t.type t.payload)) ∨
      ¬ t.Fits ∧ ∃ n d', (put t).run d = (.error (.attributeTooLong n), d') := by
  cases t with
  | leaf type value =>
    rw [put, Put.run, Put.runSlice_of_aligned h, Fits, AttributeTree.type, payload]
    by_cases hle : AttributeHeader.size + value.length ≤ Draft.maxAttributeLength
    · rw [if_pos hle]
      exact .inl ⟨hle, rfl⟩
    · rw [if_neg hle]
      exact .inr ⟨hle, _, _, rfl⟩
  | node type children =>
    have hreserve : (d.reserve AttributeHeader.size).length % 4 = 0 := by
      rw [Draft.reserve_of_aligned h, Draft.length_append, List.length_replicate]
      simp only [AttributeHeader.size]
      omega
    rw [put, Put.run, Fits, AttributeTree.type, payload]
    rcases runAll_puts children hreserve with ⟨hfit, hrun⟩ | ⟨hfit, n, d', hrun⟩
    · have halign : ((d.reserve AttributeHeader.size).append (wires children)).align =
          (d.reserve AttributeHeader.size).append (wires children) := by
        rw [Draft.align_append hreserve,
          Bytes.pad4_of_aligned (length_wires_mod_four children)]
      simp only [hrun, halign, Draft.align_of_aligned h]
      rw [Draft.close_reserve h]
      by_cases hle : AttributeHeader.size + (wires children).length ≤ Draft.maxAttributeLength
      · have hpad := length_wires_mod_four children
        rw [if_pos hle, Attribute.block, Bytes.pad4_of_aligned]
        · exact .inl ⟨⟨hfit, hle⟩, rfl⟩
        · simp only [List.length_append, AttributeHeader.length_toBytes, AttributeHeader.size]
          omega
      · rw [if_neg hle]
        exact .inr ⟨fun hboth => hle hboth.2, _, _, rfl⟩
    · simp only [hrun]
      exact .inr ⟨fun hboth => hfit hboth.1, n, d', rfl⟩

/-- A forest is written as its octets if its trees fit, and not to its end otherwise. -/
theorem runAll_puts (trees : List AttributeTree) {d : Draft} (h : d.length % 4 = 0) :
    FitAll trees ∧ Put.runAll (puts trees) d = (.ok (), d.append (wires trees)) ∨
      ¬ FitAll trees ∧ ∃ n d', Put.runAll (puts trees) d = (.error (.attributeTooLong n), d') := by
  cases trees with
  | nil =>
    rw [puts, Put.runAll, FitAll, wires_nil]
    exact .inl ⟨trivial, by simp [Draft.append]⟩
  | cons t rest =>
    rw [puts, Put.runAll, FitAll, wires_cons]
    rcases run_put t h with ⟨hfit, hrun⟩ | ⟨hfit, n, d', hrun⟩
    · have hblock : (d.append (Attribute.block t.type t.payload)).length % 4 = 0 := by
        have := align4_mod_four (AttributeHeader.size + t.payload.length)
        rw [Draft.length_append, Attribute.length_block]
        omega
      simp only [hrun]
      rcases runAll_puts rest hblock with ⟨hfits, hruns⟩ | ⟨hfits, n, d', hruns⟩
      · rw [hruns, Draft.append_append]
        exact .inl ⟨⟨hfit, hfits⟩, rfl⟩
      · exact .inr ⟨fun hboth => hfits hboth.2, n, d', hruns⟩
    · simp only [hrun]
      exact .inr ⟨fun hboth => hfit hboth.1, n, d', rfl⟩

end

/-- **A forest is written exactly if its trees fit**, and then its octets are appended. -/
theorem writeOn_eq_ok_iff {trees : List AttributeTree} {d d' : Draft} (h : d.length % 4 = 0) :
    Put.writeOn (puts trees) d = .ok d' ↔ FitAll trees ∧ d' = d.append (wires trees) := by
  rw [Put.writeOn]
  rcases runAll_puts trees h with ⟨hfits, hrun⟩ | ⟨hfits, n, left, hrun⟩
  · simp [hrun, hfits, eq_comm]
  · simp [hrun, hfits]

/-- Only the length of an attribute keeps a forest from being written. -/
theorem exists_attributeTooLong {trees : List AttributeTree} {d : Draft} {e : EncodeError}
    (h : d.length % 4 = 0) (herror : Put.writeOn (puts trees) d = .error e) :
    ∃ n, e = .attributeTooLong n := by
  rw [Put.writeOn] at herror
  rcases runAll_puts trees h with ⟨-, hrun⟩ | ⟨-, n, left, hrun⟩
  · rw [hrun] at herror
    cases herror
  · rw [hrun] at herror
    injection herror with herror
    exact ⟨n, herror.symm⟩

end AttributeTree

end VSwitch
