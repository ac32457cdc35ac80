import VSwitch.Header

/-!
# Lists of attributes

The rest of a message after its headers is a list of attributes: each has a header with its type
and its length, a value, and zeros up to the next multiple of four, which may be missing after the
last one. The value of an attribute may be such a list again.

* `VSwitch.Attribute.first` reads what the first attribute is and how far it reaches;
* `VSwitch.Attribute.parse` reads a list in order, with every repetition.
-/

namespace VSwitch

namespace Attribute

/-- Reads the type of the first attribute and its length, its header included. -/
def first (octets : Bytes) : Except DecodeError (UInt16 × Nat) :=
  match AttributeHeader.read octets with
  | .error e => .error e
  | .ok h =>
    let length := h.length.toNat
    if length < AttributeHeader.size then .error (.badLength "attribute" length)
    else match ensureLength "attribute" octets length with
      | .error e => .error e
      | .ok () => .ok (h.type, length)

/-- An attribute is at least as long as its header. -/
theorem size_le_of_first {octets : Bytes} {type : UInt16} {length : Nat}
    (h : first octets = .ok (type, length)) : AttributeHeader.size ≤ length := by
  unfold first at h
  split at h
  · cases h
  · dsimp only at h
    split at h
    · cases h
    · split at h
      · cases h
      · injection h with h
        injection h with _ h
        omega

/-- The value of the first attribute, which has the given length. -/
def value (octets : Bytes) (length : Nat) : Bytes :=
  (octets.take length).drop AttributeHeader.size

/-- Reads a list of attributes: types and values in order. -/
def parse (octets : Bytes) : Except DecodeError (List (UInt16 × Bytes)) :=
  match octets with
  | [] => .ok []
  | b :: tail =>
    match _h : first (b :: tail) with
    | .error e => .error e
    | .ok (type, length) =>
      match parse ((b :: tail).drop (align4 length)) with
      | .error e => .error e
      | .ok rest => .ok ((type, value (b :: tail) length) :: rest)
termination_by octets.length
decreasing_by
  have := align4_pos (Nat.lt_of_lt_of_le (by decide) (size_le_of_first _h))
  simp only [List.length_drop, List.length_cons]
  omega

end Attribute

end VSwitch
