/-!
# Bytes on the wire

Messages are lists of octets. This file holds what every other one needs of them: numbers in
little endian order, the four byte alignment of headers and attributes, slices of a fixed size
and the comparison of octets under a mask.

* `VSwitch.Bytes.ofNat` and `VSwitch.Bytes.toNat` write and read a number of a given width;
* `VSwitch.align4` is the least multiple of four that is not smaller;
* `VSwitch.Octets n` is a value of exactly `n` octets, such as an address;
* `VSwitch.Bytes.patch` replaces the octets at an offset.
-/

namespace VSwitch

/-- A string of octets. -/
abbrev Bytes := List UInt8

/-- The least multiple of four that is not below `n`. -/
def align4 (n : Nat) : Nat := (n + 3) / 4 * 4

theorem le_align4 (n : Nat) : n ≤ align4 n := by
  unfold align4
  omega

theorem align4_mod_four (n : Nat) : align4 n % 4 = 0 := by
  unfold align4
  omega

theorem align4_pos {n : Nat} (h : 0 < n) : 0 < align4 n := by
  unfold align4
  omega

namespace Bytes

/-! ### Numbers -/

/-- The `width` low octets of `n`, the lowest first. -/
def ofNat : (width : Nat) → (n : Nat) → Bytes
  | 0, _ => []
  | width + 1, n => UInt8.ofNat n :: ofNat width (n / 256)

/-- The number whose octets, the lowest first, are given. -/
def toNat : Bytes → Nat
  | [] => 0
  | b :: rest => b.toNat + 256 * toNat rest

@[simp]
theorem length_ofNat (width n : Nat) : (ofNat width n).length = width := by
  induction width generalizing n with
  | zero => rfl
  | succ w ih => simp [ofNat, ih]

/-- **Reading what was written** gives the number back up to the width. -/
theorem toNat_ofNat (width n : Nat) : toNat (ofNat width n) = n % Nat.pow 256 width := by
  induction width generalizing n with
  | zero => exact (Nat.mod_one n).symm
  | succ w ih =>
    have low : (UInt8.ofNat n).toNat = n % 256 := by simp
    rw [ofNat, toNat, ih, low, ← Nat.mod_mul, Nat.mul_comm]
    rfl

/-- The two octets of a 16 bit number. -/
def ofU16 (v : UInt16) : Bytes := ofNat 2 v.toNat

/-- The four octets of a 32 bit number. -/
def ofU32 (v : UInt32) : Bytes := ofNat 4 v.toNat

/-- The eight octets of a 64 bit number. -/
def ofU64 (v : UInt64) : Bytes := ofNat 8 v.toNat

/-- The four octets of a signed 32 bit number, in two's complement. -/
def ofI32 (v : Int32) : Bytes := ofU32 v.toUInt32

/-- The 16 bit number in the first two octets. -/
def toU16 (b : Bytes) : UInt16 := UInt16.ofNat (toNat (b.take 2))

/-- The 32 bit number in the first four octets. -/
def toU32 (b : Bytes) : UInt32 := UInt32.ofNat (toNat (b.take 4))

/-- The 64 bit number in the first eight octets. -/
def toU64 (b : Bytes) : UInt64 := UInt64.ofNat (toNat (b.take 8))

/-- The signed 32 bit number in the first four octets. -/
def toI32 (b : Bytes) : Int32 := Int32.ofUInt32 (toU32 b)

@[simp]
theorem toU16_ofU16_append (v : UInt16) (rest : Bytes) : toU16 (ofU16 v ++ rest) = v := by
  have h : (ofU16 v ++ rest).take 2 = ofU16 v := List.take_left' (length_ofNat 2 v.toNat)
  rw [toU16, h, ofU16, toNat_ofNat, Nat.mod_eq_of_lt (by exact v.toNat_lt), UInt16.ofNat_toNat]

@[simp]
theorem toU32_ofU32_append (v : UInt32) (rest : Bytes) : toU32 (ofU32 v ++ rest) = v := by
  have h : (ofU32 v ++ rest).take 4 = ofU32 v := List.take_left' (length_ofNat 4 v.toNat)
  rw [toU32, h, ofU32, toNat_ofNat, Nat.mod_eq_of_lt (by exact v.toNat_lt), UInt32.ofNat_toNat]

@[simp]
theorem toU64_ofU64_append (v : UInt64) (rest : Bytes) : toU64 (ofU64 v ++ rest) = v := by
  have h : (ofU64 v ++ rest).take 8 = ofU64 v := List.take_left' (length_ofNat 8 v.toNat)
  rw [toU64, h, ofU64, toNat_ofNat, Nat.mod_eq_of_lt (by exact v.toNat_lt), UInt64.ofNat_toNat]

/-! ### Slices -/

/-- Whether there are at least `n` octets. Looks at no more than `n` of them. -/
def holds (b : Bytes) (n : Nat) : Bool := (b.take n).length == n

theorem holds_iff {b : Bytes} {n : Nat} : holds b n = true ↔ n ≤ b.length := by
  rw [holds, beq_iff_eq, List.length_take]
  omega

/-- The octets with those from offset `pos` on replaced by `piece`. -/
def patch (b : Bytes) (pos : Nat) (piece : Bytes) : Bytes :=
  b.take pos ++ piece ++ b.drop (pos + piece.length)

/-- The octets with the first ones replaced by `record`, if the record fits. -/
def overwrite? (b record : Bytes) : Option Bytes :=
  if b.holds record.length then some (b.patch 0 record) else none

/-- Zeros up to the next multiple of four. -/
def pad4 (b : Bytes) : Bytes := b ++ List.replicate (align4 b.length - b.length) 0

/-! ### Masks -/

/-- Whether every octet is `v`. -/
def areAll (b : Bytes) (v : UInt8) : Bool := b.all (· == v)

/-- Whether two values agree on the bits that `mask` selects, as far as all three reach. -/
def agreeUnder (mask a b : Bytes) : Bool :=
  ((a.zip b).zip mask).all fun ((x, y), m) => (x ^^^ y) &&& m == 0

end Bytes

/-! ### Values of a fixed size -/

/-- A value of exactly `n` octets. -/
abbrev Octets (n : Nat) := { b : Bytes // b.length = n }

namespace Octets

/-- `n` times the same octet. -/
def fill (n : Nat) (v : UInt8) : Octets n := ⟨List.replicate n v, List.length_replicate⟩

/-- The value with the given octets, if their number is right. -/
def ofBytes? (n : Nat) (b : Bytes) : Option (Octets n) :=
  if h : b.length = n then some ⟨b, h⟩ else none

/-- The first `n` octets, followed by zeros where there are fewer. -/
def ofBytes (n : Nat) (b : Bytes) : Octets n :=
  ⟨b.take n ++ List.replicate (n - (b.take n).length) 0, by
    have := List.length_take_le n b
    simp only [List.length_append, List.length_replicate]
    omega⟩

/-- Whether every octet is zero. -/
def isZero {n : Nat} (o : Octets n) : Bool := Bytes.areAll o.val 0

end Octets

end VSwitch
