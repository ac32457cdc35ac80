import VSwitch.Header

/-!
# Datagrams

A datagram holds messages one after the other, each padded to a multiple of four but the last one.

* `VSwitch.Datagram.next?` takes the first message off;
* `VSwitch.Datagram.split` takes off one message after the other, with the place that each one
  ends at, until nothing is left or what is left is no message;
* `VSwitch.Datagram.messages` forgets the places.
-/

namespace VSwitch

namespace Datagram

/-- The length that the first message of what is left claims, if it is all there. -/
def first (octets : Bytes) : Except DecodeError Nat :=
  match MessageHeader.read octets with
  | .error e => .error e
  | .ok h =>
    let length := h.length.toNat
    if length < MessageHeader.size then .error (.badLength "netlink message" length)
    else match ensureLength "netlink message" octets length with
      | .error e => .error e
      | .ok () => .ok length

/-- A message is at least as long as its header. -/
theorem size_le_of_first {octets : Bytes} {length : Nat} (h : first octets = .ok length) :
    MessageHeader.size ≤ length := by
  unfold first at h
  split at h
  · cases h
  · dsimp only at h
    split at h
    · cases h
    · split at h
      · cases h
      · injection h with h
        omega

/-- How far a message of the given length reaches in what is left: up to the next multiple of
four, or to the end. -/
def reach (octets : Bytes) (length : Nat) : Nat := (octets.take (align4 length)).length

/-- A message of a datagram. -/
structure Piece where
  /-- The message, without the padding after it. -/
  message : Bytes
  /-- Where the next message starts. -/
  stop : Nat
  deriving DecidableEq, Repr

/-- The first message of `octets`, which are what is left of a datagram from `pos` on, or nothing
at the end. -/
def next? (pos : Nat) (octets : Bytes) : Except DecodeError (Option Piece) :=
  match octets with
  | [] => .ok none
  | _ :: _ => (first octets).map fun length => some ⟨octets.take length, pos + reach octets length⟩

/-- A message takes octets off a datagram. -/
theorem lt_stop_of_next? {pos : Nat} {octets : Bytes} {piece : Piece}
    (h : next? pos octets = .ok (some piece)) : octets ≠ [] ∧ pos < piece.stop := by
  cases octets with
  | nil => simp [next?] at h
  | cons b tail =>
    refine ⟨List.cons_ne_nil b tail, ?_⟩
    simp only [next?] at h
    cases hf : first (b :: tail) with
    | error e => simp [hf, Except.map] at h
    | ok length =>
      simp only [hf, Except.map, Except.ok.injEq, Option.some.injEq] at h
      have hpos := align4_pos (Nat.lt_of_lt_of_le (by decide) (size_le_of_first hf))
      subst h
      simp only [reach, List.length_take, List.length_cons]
      omega

/-- The messages of `octets`, which are what is left of a datagram from `pos` on, and what keeps
the rest from being a message. -/
def splitFrom (pos : Nat) (octets : Bytes) : List Piece × Option DecodeError :=
  match _h : next? pos octets with
  | .error e => ([], some e)
  | .ok none => ([], none)
  | .ok (some piece) =>
    let (rest, ending) := splitFrom piece.stop (octets.drop (piece.stop - pos))
    (piece :: rest, ending)
termination_by octets.length
decreasing_by
  obtain ⟨hne, hlt⟩ := lt_stop_of_next? _h
  have := List.length_pos_iff.2 hne
  simp only [List.length_drop]
  omega

/-- The messages of a datagram from `pos` on. -/
def split (datagram : Bytes) (pos : Nat) : List Piece × Option DecodeError :=
  splitFrom pos (datagram.drop pos)

/-- The messages of a datagram, and what keeps the rest from being a message. -/
def messages (datagram : Bytes) : List Bytes × Option DecodeError :=
  let (pieces, ending) := split datagram 0
  (pieces.map (·.message), ending)

end Datagram

end VSwitch
