import VSwitch.Bytes

/-!
# Text in UTF-8

`VSwitch.Utf8.encode` writes a text and `VSwitch.Utf8.decode` reads one, telling for octets that
are no text where the first bad sequence starts and how long it is.

The first octet of a character tells how many octets follow it and which values the second one
may have (`VSwitch.Utf8.lead?`); every later octet lies between `0x80` and `0xBF`. A sequence is
bad from its first octet up to the last one that still could have led to a character.
-/

namespace VSwitch

/-- Why octets are no text: where the first bad sequence starts, and its length, or no length if
the octets end within a sequence that more octets could complete. -/
structure Utf8Error where
  /-- Number of octets before the bad sequence. -/
  start : Nat
  /-- Length of the bad sequence, if it is not merely incomplete. -/
  length? : Option Nat
  deriving DecidableEq, Repr

/-- The wording of the error. -/
def Utf8Error.message (e : Utf8Error) : String :=
  match e.length? with
  | some n => s!"invalid utf-8 sequence of {n} bytes from index {e.start}"
  | none => s!"incomplete utf-8 byte sequence from index {e.start}"

namespace Utf8

/-- What the first octet of a character announces. -/
structure Lead where
  /-- Number of octets that follow. -/
  owed : Nat
  /-- The least value of the second octet. -/
  low : UInt8
  /-- The greatest value of the second octet. -/
  high : UInt8
  /-- The bits of the code point in the first octet. -/
  bits : Nat

/-- What an octet announces as the first one of a character, if it can be that. -/
def lead? (b : UInt8) : Option Lead :=
  if b < 0x80 then some ⟨0, 0x80, 0xBF, b.toNat⟩
  -- `0xC0` and `0xC1` could only start a long form of a character that one octet holds.
  else if b < 0xC2 then none
  else if b < 0xE0 then some ⟨1, 0x80, 0xBF, b.toNat % 32⟩
  -- A second octet below `0xA0` would make a long form of what two octets hold.
  else if b = 0xE0 then some ⟨2, 0xA0, 0xBF, b.toNat % 16⟩
  -- A second octet above `0x9F` would make a surrogate.
  else if b = 0xED then some ⟨2, 0x80, 0x9F, b.toNat % 16⟩
  else if b < 0xF0 then some ⟨2, 0x80, 0xBF, b.toNat % 16⟩
  -- A second octet below `0x90` would make a long form of what three octets hold.
  else if b = 0xF0 then some ⟨3, 0x90, 0xBF, b.toNat % 8⟩
  else if b < 0xF4 then some ⟨3, 0x80, 0xBF, b.toNat % 8⟩
  -- A second octet above `0x8F` would lead past the last code point.
  else if b = 0xF4 then some ⟨3, 0x80, 0x8F, b.toNat % 8⟩
  else none

/-- Reads the `owed` octets that follow the first `seen` ones of a character whose bits so far are
`bits`, the next one lying between `low` and `high`. Gives the code point, or the length of the bad
sequence if the octets do not merely end too early. -/
def tails : (owed : Nat) → (low high : UInt8) → (bits seen : Nat) → Bytes → Except (Option Nat) Nat
  | 0, _, _, bits, _, _ => .ok bits
  | _ + 1, _, _, _, _, [] => .error none
  | owed + 1, low, high, bits, seen, b :: rest =>
    if low ≤ b ∧ b ≤ high then tails owed 0x80 0xBF (bits * 64 + b.toNat % 64) (seen + 1) rest
    else .error (some seen)

/-- The characters that `octets` hold after those in `before` (the last one first), which took
`start` octets. -/
def decodeFrom (start : Nat) (before : List Char) (octets : Bytes) : Except Utf8Error (List Char) :=
  match octets with
  | [] => .ok before.reverse
  | b :: rest =>
    match lead? b with
    | none => .error ⟨start, some 1⟩
    | some l =>
      match tails l.owed l.low l.high l.bits 1 rest with
      | .error length? => .error ⟨start, length?⟩
      | .ok code => decodeFrom (start + 1 + l.owed) (Char.ofNat code :: before) (rest.drop l.owed)
termination_by octets.length
decreasing_by
  simp only [List.length_drop, List.length_cons]
  omega

/-- The text that the octets hold. -/
def decode (octets : Bytes) : Except Utf8Error String :=
  (decodeFrom 0 [] octets).map String.ofList

/-- The octets of a text. -/
def encode (text : String) : Bytes := text.toList.flatMap String.utf8EncodeChar

end Utf8

end VSwitch
