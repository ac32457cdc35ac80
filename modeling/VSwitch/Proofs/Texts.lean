import VSwitch.Proofs.Characters
import VSwitch.Proofs.Listing

/-!
# Texts in attributes

A text is written with a zero behind it, which is how a reader knows where it ends. So a text that
holds a zero cannot be written, and neither can one that is too long for the length of an attribute.
Any other one can, and is read again. Of the values that are read, which may come from anybody,
those are texts that look as if they had been written this way, and what they are read as is written
as the same octets.

* `VSwitch.AttributeSet.IsText` says what the value of a text looks like, in terms of the language's
  own notion of UTF-8;
* `VSwitch.AttributeSet.textOf_eq_ok_iff` and `VSwitch.AttributeSet.exists_textOf_iff` are what is
  read, and `VSwitch.Put.run_text_of_mem` and `VSwitch.Put.run_text_of_not_mem` what is written;
* `VSwitch.AttributeSet.length_le_of_get?`: what was read as an attribute fits into one;
* `VSwitch.AttributeSet.texts_as_written` is the result.
-/

namespace VSwitch

/-! ### The values of attributes -/

/-- Everything in front of the end is blocks. -/
theorem Framing.Splits.isBlock_of_mem {F : Framing} {d b : Bytes} {blocks : List Bytes}
    {ending : Option DecodeError} (h : F.Splits d blocks ending) (hb : b ∈ blocks) :
    F.IsBlock b := by
  induction h with
  | done | fault => cases hb
  | last isBlock =>
    rw [List.mem_singleton.1 hb]
    exact isBlock
  | next isBlock _ _ ih =>
    rcases List.mem_cons.1 hb with rfl | hb
    · exact isBlock
    · exact ih hb

/-- What is read as an attribute is short enough to be written as one. -/
theorem Attribute.length_le_of_parse {octets : Bytes} {l : List (UInt16 × Bytes)}
    {e : UInt16 × Bytes} (h : parse octets = .ok l) (he : e ∈ l) :
    AttributeHeader.size + e.2.length ≤ Draft.maxAttributeLength := by
  obtain ⟨blocks, hsplits, rfl⟩ := parse_eq_ok_iff.1 h
  obtain ⟨block, hblock, rfl⟩ := List.mem_map.1 he
  have hsize : AttributeHeader.size ≤ block.length := (hsplits.isBlock_of_mem hblock).size_le
  have hdeclared : (AttributeHeader.ofBytes block).length.toNat = block.length :=
    (hsplits.isBlock_of_mem hblock).declared_eq
  have hlt := (AttributeHeader.ofBytes block).length.toNat_lt
  simp only [ofBlock, List.length_drop, Draft.maxAttributeLength]
  omega

/-! ### What is read -/

namespace AttributeSet

/-- **What the value of a text is**: the octets of a text without a zero, and a zero. -/
def IsText (value : Bytes) : Prop :=
  ∃ body : Bytes, value = body ++ [0] ∧ 0 ∉ body ∧ body.toByteArray.IsValidUTF8

theorem textOf_concat (body : Bytes) : textOf (body ++ [0]) =
    if 0 ∈ body then .error .interiorNul else (Utf8.decode body).mapError .badText := by
  rw [textOf, List.getLast?_concat]
  simp only [List.dropLast_concat, List.contains_eq_mem, decide_eq_true_eq]

/-- A value is read as a text exactly if it was written as one. -/
theorem textOf_eq_ok_iff {value : Bytes} {text : String} :
    textOf value = .ok text ↔ value = Utf8.encode text ++ [0] ∧ '\x00' ∉ text.toList := by
  rw [← Utf8.zero_mem_encode_iff]
  constructor
  · intro h
    have hlast : value.getLast? = some 0 := by
      rw [textOf] at h
      split at h
      · assumption
      · cases h
    obtain ⟨body, rfl⟩ := List.getLast?_eq_some_iff.1 hlast
    rw [textOf_concat] at h
    split at h
    · cases h
    · next hzero =>
      obtain rfl := Utf8.decode_eq_ok_iff.1 (mapError_eq_ok_iff.1 h)
      exact ⟨rfl, hzero⟩
  · rintro ⟨rfl, hzero⟩
    rw [textOf_concat, if_neg hzero, mapError_eq_ok_iff]
    exact Utf8.decode_eq_ok_iff.2 rfl

/-- A value is read as a text exactly if it is one. -/
theorem exists_textOf_iff {value : Bytes} : (∃ text, textOf value = .ok text) ↔ IsText value := by
  simp only [textOf_eq_ok_iff, IsText, ← Utf8.exists_decode_iff, Utf8.decode_eq_ok_iff]
  constructor
  · rintro ⟨text, rfl, hzero⟩
    exact ⟨_, rfl, mt Utf8.zero_mem_encode_iff.1 hzero, text, rfl⟩
  · rintro ⟨body, rfl, hzero, text, rfl⟩
    exact ⟨text, rfl, mt Utf8.zero_mem_encode_iff.2 hzero⟩

theorem text_of_get? {s : AttributeSet} {key : UInt16} {value : Bytes}
    (h : s.get? key = some value) : s.text key = textOf value := by
  rw [text, bytes_eq_ok_iff.2 h]
  rfl

end AttributeSet

/-! ### What is written -/

namespace Utf8

/-- How long the attribute of a text is. -/
theorem size_terminated (text : String) :
    AttributeHeader.size + (encode text ++ [0]).length = text.utf8ByteSize + 5 := by
  rw [List.length_append, length_encode, List.length_singleton, AttributeHeader.size]
  omega

theorem size_terminated_le_iff {text : String} :
    AttributeHeader.size + (encode text ++ [0]).length ≤ Draft.maxAttributeLength ↔
      text.utf8ByteSize ≤ 65530 := by
  rw [size_terminated, Draft.maxAttributeLength]
  omega

end Utf8

namespace Put

variable (type : UInt16) (value : Bytes) {text : String} (d : Draft)

/-- An attribute starts at the next multiple of four, wherever the draft ends. -/
theorem runSlice_align : runSlice type value d.align = runSlice type value d := by
  rw [runSlice, runSlice, Draft.align_align, Draft.reserve_align]

/-- A text that holds a zero leaves the draft as it is. -/
theorem run_text_of_mem (h : '\x00' ∈ text.toList) :
    (Put.text type text).run d = (.error .nulInText, d) := by
  rw [run, String.contains_char_eq, if_pos (decide_eq_true h)]

/-- Another text is written as its octets are. -/
theorem run_text_of_not_mem (h : '\x00' ∉ text.toList) :
    (Put.text type text).run d =
      if text.utf8ByteSize ≤ 65530 then
        (.ok (), d.align.append (Attribute.block type (Utf8.encode text ++ [0])))
      else (.error (.attributeTooLong (text.utf8ByteSize + 5)),
        (d.align.reserve AttributeHeader.size).append (Utf8.encode text ++ [0])) := by
  rw [run, String.contains_char_eq, if_neg (by rwa [decide_eq_true_iff]), ← runSlice_align,
    runSlice_of_aligned d.length_align_mod_four]
  simp only [Utf8.size_terminated_le_iff]
  rw [Utf8.size_terminated]

end Put

namespace AttributeSet

/-- What is in a set was read as an attribute. -/
theorem length_le_of_get? {octets value : Bytes} {s : AttributeSet} {key : UInt16}
    (h : parse octets = .ok s) (hget : s.get? key = some value) :
    AttributeHeader.size + value.length ≤ Draft.maxAttributeLength := by
  obtain ⟨l, hl, hlast⟩ := parse_eq_ok_iff.1 h
  obtain ⟨before, after, rfl, -⟩ := (hlast key value).1 hget
  exact Attribute.length_le_of_parse hl (List.mem_append_right before List.mem_cons_self)

/-- **Texts are written and read alike.** A text that holds a zero cannot be written, and one of
more than 65530 octets does not fit; any other one is written behind the padding of the draft, as an
attribute that is read as one, whose value is read as the text wherever it comes up. And whatever
octets are read as attributes, a value among them is read as a text exactly if it is the octets of
one without a zero, followed by a zero; and then writing that text writes this value. -/
theorem texts_as_written (type : UInt16) (d : Draft) :
    (∀ text : String,
      ('\x00' ∈ text.toList → (Put.text type text).run d = (.error .nulInText, d)) ∧
      ('\x00' ∉ text.toList → 65530 < text.utf8ByteSize → ∃ d',
        (Put.text type text).run d = (.error (.attributeTooLong (text.utf8ByteSize + 5)), d')) ∧
      ('\x00' ∉ text.toList → text.utf8ByteSize ≤ 65530 →
        let value := Utf8.encode text ++ [0]
        (Put.text type text).run d = (.ok (), d.align.append (Attribute.block type value)) ∧
        Attribute.parse (Attribute.block type value) =
          .ok [(type &&& AttributeHeader.typeMask, value)] ∧
        ∀ (s : AttributeSet) (key : UInt16), s.get? key = some value → s.text key = .ok text)) ∧
    ∀ (octets : Bytes) (s : AttributeSet), parse octets = .ok s →
      ∀ (key : UInt16) (value : Bytes), s.get? key = some value →
        ((∃ text, s.text key = .ok text) ↔ IsText value) ∧
        ∀ text, s.text key = .ok text →
          (Put.text type text).run d = (.ok (), d.align.append (Attribute.block type value)) := by
  refine ⟨fun text => ⟨Put.run_text_of_mem type d, fun hzero hlong => ?_, fun hzero hshort => ?_⟩,
    fun octets s hs key value hget => ⟨?_, fun text htext => ?_⟩⟩
  · rw [Put.run_text_of_not_mem type d hzero, if_neg (Nat.not_le.2 hlong)]
    exact ⟨_, rfl⟩
  · have hparse := @Attribute.parse_block_append type _ (Utf8.size_terminated_le_iff.2 hshort) []
    rw [List.append_nil, Attribute.parse_nil] at hparse
    rw [Put.run_text_of_not_mem type d hzero, if_pos hshort]
    refine ⟨rfl, hparse, fun s key hget => ?_⟩
    rw [text_of_get? hget]
    exact textOf_eq_ok_iff.2 ⟨rfl, hzero⟩
  · rw [text_of_get? hget]
    exact exists_textOf_iff
  · rw [text_of_get? hget] at htext
    obtain ⟨rfl, hzero⟩ := textOf_eq_ok_iff.1 htext
    have hshort := Utf8.size_terminated_le_iff.1 (length_le_of_get? hs hget)
    rw [Put.run_text_of_not_mem type d hzero, if_pos hshort]

/-- A letter of two octets is written behind another octet and its padding, and read again without
the flag bit of its type. -/
theorem texts_as_written_umlaut :
    ('\x00' ∉ "ü".toList ∧ "ü".utf8ByteSize ≤ 65530) ∧
    (Put.text 0x8001 "ü").run ⟨[7]⟩ =
      (.ok (), ⟨[7, 0, 0, 0, 7, 0, 1, 128, 195, 188, 0, 0]⟩) ∧
    ∃ s, parse (Attribute.block 0x8001 [195, 188, 0]) = .ok s ∧ s.text 1 = .ok "ü" ∧
      IsText [195, 188, 0] := by
  have hshort : '\x00' ∉ "ü".toList ∧ "ü".utf8ByteSize ≤ 65530 := by decide
  obtain ⟨hwrite, hread⟩ := texts_as_written 0x8001 ⟨[7]⟩
  obtain ⟨hrun, hparse, htext⟩ := (hwrite "ü").2.2 hshort.1 hshort.2
  have hvalue : Utf8.encode "ü" ++ [0] = [195, 188, 0] := by decide
  rw [hvalue] at hrun hparse
  have hset : parse (Attribute.block 0x8001 [195, 188, 0]) =
      .ok (Table.ofList [(1, [195, 188, 0])]) := by
    rw [parse, hparse]
    rfl
  have hu := htext (Table.ofList [(1, [195, 188, 0])]) 1 (by rw [hvalue]; rfl)
  exact ⟨hshort, hrun, _, hset, hu, (hread _ _ hset 1 _ rfl).1.1 ⟨_, hu⟩⟩

end AttributeSet

end VSwitch
