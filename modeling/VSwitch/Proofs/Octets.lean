import VSwitch.Header

/-!
# Octets in place

What is written at a place of a string of octets is read back there, whatever stands before and
behind it. The records of fixed size are all of this kind, so each of them comes with two facts:
when its octets are enough to be read, and that what was written is what is read.

* `VSwitch.Bytes.patch_append` replaces octets in the middle of a string;
* `VSwitch.MessageHeader.read_of_le` reads any sufficiently long string as a header, whose fields
  `VSwitch.MessageHeader.ofBytes` names;
* `VSwitch.MessageHeader.read_toBytes_append`, `VSwitch.AttributeHeader.read_toBytes_append`,
  `VSwitch.GenericHeader.read_toBytes_append` and `VSwitch.DatapathHeader.read_toBytes_append` read
  back what was written.
-/

namespace VSwitch

/-! ### Alignment -/

theorem align4_of_aligned {n : Nat} (h : n % 4 = 0) : align4 n = n := by
  unfold align4
  omega

namespace Bytes

theorem length_pad4 (b : Bytes) : b.pad4.length = align4 b.length := by
  have := le_align4 b.length
  simp only [pad4, List.length_append, List.length_replicate]
  omega

theorem pad4_of_aligned {b : Bytes} (h : b.length % 4 = 0) : b.pad4 = b := by
  simp [pad4, align4_of_aligned h]

/-- Padding looks at nothing but the last octets: what is aligned in front of it may stay apart. -/
theorem pad4_append {a : Bytes} (h : a.length % 4 = 0) (b : Bytes) :
    (a ++ b).pad4 = a ++ b.pad4 := by
  have hle := le_align4 b.length
  have hsum : align4 (a.length + b.length) = a.length + align4 b.length := by
    unfold align4
    omega
  rw [pad4, pad4, List.length_append, hsum, Nat.add_sub_add_left, List.append_assoc]

/-! ### Numbers and slices -/

@[simp]
theorem length_ofU16 (v : UInt16) : (ofU16 v).length = 2 := length_ofNat 2 _

@[simp]
theorem length_ofU32 (v : UInt32) : (ofU32 v).length = 4 := length_ofNat 4 _

@[simp]
theorem length_ofI32 (v : Int32) : (ofI32 v).length = 4 := length_ofU32 _

@[simp]
theorem toU32_ofU32 (v : UInt32) : toU32 (ofU32 v) = v := by
  simpa using toU32_ofU32_append v []

@[simp]
theorem toU16_ofU16 (v : UInt16) : toU16 (ofU16 v) = v := by
  simpa using toU16_ofU16_append v []

@[simp]
theorem toI32_ofI32_append (v : Int32) (rest : Bytes) : toI32 (ofI32 v ++ rest) = v := by
  rw [toI32, ofI32, toU32_ofU32_append]

/-- A piece as long as what it replaces leaves the rest where it was. -/
theorem patch_append (a b c piece : Bytes) (h : piece.length = b.length) :
    (a ++ (b ++ c)).patch a.length piece = a ++ (piece ++ c) := by
  rw [patch, List.take_left' rfl, h, List.drop_append, List.drop_of_length_le (by omega),
    Nat.add_sub_cancel_left, List.drop_left' rfl, List.nil_append, List.append_assoc]

/-- A piece never makes a string shorter. -/
theorem le_length_patch (b : Bytes) (pos : Nat) (piece : Bytes) :
    b.length ≤ (b.patch pos piece).length := by
  simp only [patch, List.length_append, List.length_take, List.length_drop]
  omega

/-- A piece that fits keeps the length. -/
theorem length_patch {b piece : Bytes} {pos : Nat} (h : pos + piece.length ≤ b.length) :
    (b.patch pos piece).length = b.length := by
  rw [patch, List.length_append, List.length_append, List.length_take, List.length_drop]
  omega

/-- Patching changes the octets of the piece alone. -/
theorem getElem?_patch {b piece : Bytes} {pos : Nat} (h : pos + piece.length ≤ b.length)
    (i : Nat) : (b.patch pos piece)[i]? =
      if pos ≤ i ∧ i < pos + piece.length then piece[i - pos]? else b[i]? := by
  have htake : (b.take pos).length = pos := by
    rw [List.length_take]
    omega
  rw [patch, List.append_assoc]
  rcases Nat.lt_or_ge i pos with hlt | hge
  · rw [List.getElem?_append_left (by omega), List.getElem?_take_of_lt hlt, if_neg (by omega)]
  rw [List.getElem?_append_right (by omega), htake]
  rcases Nat.lt_or_ge i (pos + piece.length) with hlt | hge'
  · rw [List.getElem?_append_left (by omega), if_pos ⟨hge, hlt⟩]
  · rw [List.getElem?_append_right (by omega), List.getElem?_drop, if_neg (by omega)]
    congr 1
    omega

/-- A number that is put in its place is read there. -/
theorem toU32_drop_patch {b : Bytes} {pos : Nat} (h : pos ≤ b.length) (v : UInt32) :
    toU32 ((b.patch pos (ofU32 v)).drop pos) = v := by
  have htake : (b.take pos).length = pos := by rw [List.length_take, Nat.min_eq_left h]
  rw [patch, List.append_assoc, List.drop_left' htake, toU32_ofU32_append]

end Bytes

/-! ### Lengths that suffice -/

theorem ensureLength_of_le {context : String} {octets : Bytes} {needed : Nat}
    (h : needed ≤ octets.length) : ensureLength context octets needed = .ok () := by
  rw [ensureLength, if_pos (Bytes.holds_iff.2 h)]

theorem ensureLength_of_lt {context : String} {octets : Bytes} {needed : Nat}
    (h : octets.length < needed) :
    ensureLength context octets needed = .error (.truncated context needed octets.length) := by
  rw [ensureLength, if_neg (by rw [Bytes.holds_iff]; omega)]

/-! ### Records -/

namespace MessageHeader

/-- The header in the first octets, of which missing ones count as zero. -/
def ofBytes (b : Bytes) : MessageHeader where
  length := Bytes.toU32 b
  type := Bytes.toU16 (b.drop 4)
  flags := Bytes.toU16 (b.drop 6)
  sequence := Bytes.toU32 (b.drop 8)
  port := Bytes.toU32 (b.drop 12)

theorem read_of_le {b : Bytes} (h : size ≤ b.length) : read b = .ok (ofBytes b) := by
  rw [read, ensureLength_of_le h]
  rfl

theorem read_of_lt {b : Bytes} (h : b.length < size) :
    read b = .error (.truncated "netlink header" size b.length) := by
  rw [read, ensureLength_of_lt h]
  rfl

@[simp]
theorem length_toBytes (h : MessageHeader) : h.toBytes.length = size := by
  simp [toBytes, size]

theorem ofBytes_toBytes_append (h : MessageHeader) (rest : Bytes) :
    ofBytes (h.toBytes ++ rest) = h := by
  have h4 : (h.toBytes ++ rest).drop 4 = Bytes.ofU16 h.type ++ (Bytes.ofU16 h.flags ++
      (Bytes.ofU32 h.sequence ++ (Bytes.ofU32 h.port ++ rest))) := by
    simp [toBytes]
  have h6 : (h.toBytes ++ rest).drop 6 = Bytes.ofU16 h.flags ++
      (Bytes.ofU32 h.sequence ++ (Bytes.ofU32 h.port ++ rest)) := by
    simp [toBytes, List.drop_append]
  have h8 : (h.toBytes ++ rest).drop 8 =
      Bytes.ofU32 h.sequence ++ (Bytes.ofU32 h.port ++ rest) := by
    simp [toBytes, List.drop_append, List.drop_of_length_le]
  have h12 : (h.toBytes ++ rest).drop 12 = Bytes.ofU32 h.port ++ rest := by
    simp [toBytes, List.drop_append, List.drop_of_length_le]
  have h0 : h.toBytes ++ rest = Bytes.ofU32 h.length ++ (Bytes.ofU16 h.type ++
      (Bytes.ofU16 h.flags ++ (Bytes.ofU32 h.sequence ++ (Bytes.ofU32 h.port ++ rest)))) := by
    simp [toBytes]
  rw [ofBytes, h4, h6, h8, h12, h0]
  simp

theorem read_toBytes_append (h : MessageHeader) (rest : Bytes) :
    read (h.toBytes ++ rest) = .ok h := by
  rw [read_of_le (by simp), ofBytes_toBytes_append]

end MessageHeader

namespace AttributeHeader

/-- The header in the first octets, of which missing ones count as zero. -/
def ofBytes (b : Bytes) : AttributeHeader where
  length := Bytes.toU16 b
  type := Bytes.toU16 (b.drop 2) &&& typeMask

theorem read_of_le {b : Bytes} (h : size ≤ b.length) : read b = .ok (ofBytes b) := by
  rw [read, ensureLength_of_le h]
  rfl

theorem read_of_lt {b : Bytes} (h : b.length < size) :
    read b = .error (.truncated "attribute header" size b.length) := by
  rw [read, ensureLength_of_lt h]
  rfl

@[simp]
theorem length_toBytes (h : AttributeHeader) : h.toBytes.length = size := by
  simp [toBytes, size]

/-- A number below the flag bits has none of them. -/
theorem and_typeMask_of_lt {type : UInt16} (h : type < 0x4000) : type &&& typeMask = type := by
  have hmask : type.toNat &&& 0x3FFF = type.toNat % 2 ^ 14 :=
    Nat.and_two_pow_sub_one_eq_mod type.toNat 14
  have hlt : type.toNat < 0x4000 := UInt16.lt_iff_toNat_lt.1 h
  rw [← UInt16.toNat_inj, UInt16.toNat_and]
  change type.toNat &&& 0x3FFF = type.toNat
  rw [hmask]
  exact Nat.mod_eq_of_lt hlt

/-- A header is read back without the flag bits of its type. -/
theorem read_toBytes_append (h : AttributeHeader) (rest : Bytes) :
    read (h.toBytes ++ rest) = .ok ⟨h.length, h.type &&& typeMask⟩ := by
  have h2 : (h.toBytes ++ rest).drop 2 = Bytes.ofU16 h.type ++ rest := by
    simp [toBytes]
  have h0 : h.toBytes ++ rest = Bytes.ofU16 h.length ++ (Bytes.ofU16 h.type ++ rest) := by
    simp [toBytes]
  rw [read, ensureLength_of_le (by simp), h2, h0]
  simp only [Bytes.toU16_ofU16_append]
  rfl

end AttributeHeader

namespace GenericHeader

@[simp]
theorem length_toBytes (h : GenericHeader) : h.toBytes.length = size := rfl

theorem read_toBytes_append (h : GenericHeader) (rest : Bytes) :
    read (h.toBytes ++ rest) = .ok h := by
  rw [read, ensureLength_of_le (by simp)]
  rfl

end GenericHeader

namespace DatapathHeader

@[simp]
theorem length_toBytes (h : DatapathHeader) : h.toBytes.length = size := by
  simp [toBytes, size]

theorem read_toBytes_append (h : DatapathHeader) (rest : Bytes) :
    read (h.toBytes ++ rest) = .ok h := by
  rw [read, ensureLength_of_le (by simp), toBytes, Bytes.toI32_ofI32_append]
  rfl

end DatapathHeader

namespace KernelError

/-- The report in the first octets, of which missing ones count as zero. -/
def ofBytes (b : Bytes) : KernelError where
  code := Bytes.toI32 b
  request := MessageHeader.ofBytes (b.drop 4)

theorem read_of_le {b : Bytes} (h : size ≤ b.length) : read b = .ok (ofBytes b) := by
  rw [read, ensureLength_of_le h, MessageHeader.read_of_le]
  · rfl
  · simp only [size, MessageHeader.size, List.length_drop] at h ⊢
    omega

theorem read_of_lt {b : Bytes} (h : b.length < size) :
    read b = .error (.truncated "netlink error" size b.length) := by
  rw [read, ensureLength_of_lt h]
  rfl

end KernelError

end VSwitch
