import VSwitch.Proofs.Outcome
import VSwitch.Text.Utf8

/-!
# The octets of characters

A character has one to four octets. Which ones these are is said here as a grammar, apart from the
two programs that go by it: the one that writes a character, which is the encoder of the language,
and the one that reads, which takes the first octet to a lead and then checks the octets it is owed.
What is written follows the grammar, and whatever follows it is read as what it spells and would be
written in the same way. So the two programs fit together in both directions, over texts of any
length.

* `VSwitch.Utf8.Spells` is the grammar, with one constructor for each number of octets;
* `VSwitch.Utf8.spells_utf8EncodeChar` and `VSwitch.Utf8.Spells.utf8EncodeChar_eq` tie writing to
  it, and `VSwitch.Utf8.Spells.exists_lead` and `VSwitch.Utf8.exists_spells_of_tails` reading;
* `VSwitch.Utf8.decode_eq_ok_iff`: octets are read as the text that they encode;
* `VSwitch.Utf8.exists_decode_iff`: what can be read is what the language has for valid UTF-8;
* `VSwitch.Utf8.length_encode` and `VSwitch.Utf8.zero_mem_encode_iff` are what a text in an
  attribute is checked for.
-/

namespace VSwitch

namespace Utf8

/-! ### One character -/

/-- An octet behind the first one of a character. -/
def IsTail (b : UInt8) : Prop := 128 ≤ b.toNat ∧ b.toNat ≤ 191

/-- **The octets of a code point.** The bounds of the second octet keep out longer forms of code
points that fewer octets hold, the surrogates, and what is past the last code point. -/
inductive Spells : Nat → Bytes → Prop
  /-- Seven bits in one octet. -/
  | one {v : Nat} {a : UInt8} (ha : a.toNat < 128) (hv : v = a.toNat) : Spells v [a]
  /-- Eleven bits in two octets. -/
  | two {v : Nat} {a b : UInt8} (ha : 194 ≤ a.toNat ∧ a.toNat < 224) (hb : IsTail b)
    (hv : v = a.toNat % 32 * 64 + b.toNat % 64) : Spells v [a, b]
  /-- Sixteen bits in three octets. -/
  | three {v : Nat} {a b c : UInt8} (ha : 224 ≤ a.toNat ∧ a.toNat < 240)
    (hb : IsTail b ∧ (a.toNat = 224 → 160 ≤ b.toNat) ∧ (a.toNat = 237 → b.toNat ≤ 159))
    (hc : IsTail c)
    (hv : v = (a.toNat % 16 * 64 + b.toNat % 64) * 64 + c.toNat % 64) : Spells v [a, b, c]
  /-- Twenty-one bits in four octets. -/
  | four {v : Nat} {a b c d : UInt8} (ha : 240 ≤ a.toNat ∧ a.toNat < 245)
    (hb : IsTail b ∧ (a.toNat = 240 → 144 ≤ b.toNat) ∧ (a.toNat = 244 → b.toNat ≤ 143))
    (hc : IsTail c) (hd : IsTail d)
    (hv : v = ((a.toNat % 8 * 64 + b.toNat % 64) * 64 + c.toNat % 64) * 64 + d.toNat % 64) :
    Spells v [a, b, c, d]

/-- Only characters are spelled. -/
theorem Spells.isValidChar {v : Nat} {octets : Bytes} (h : Spells v octets) : v.isValidChar := by
  unfold Nat.isValidChar
  cases h with
  | one ha hv => omega
  | two ha hb hv => omega
  | three ha hb hc hv =>
    simp only [IsTail] at hb
    omega
  | four ha hb hc hd hv =>
    simp only [IsTail] at hb
    omega

/-- **A character is encoded as it is spelled.** -/
theorem spells_utf8EncodeChar (c : Char) : Spells c.toNat (String.utf8EncodeChar c) := by
  have hvalid : c.val.toNat < 55296 ∨ 57343 < c.val.toNat ∧ c.val.toNat < 1114112 := c.valid
  rw [Char.toNat, String.utf8EncodeChar]
  generalize c.val.toNat = v at hvalid
  split
  · refine .one ?_ ?_ <;> rw [UInt8.toNat_ofNat'] <;> omega
  split
  · refine .two ?_ ?_ ?_ <;> simp only [IsTail, UInt8.toNat_ofNat'] <;> omega
  split
  · refine .three ?_ ?_ ?_ ?_ <;> simp only [IsTail, UInt8.toNat_ofNat'] <;> omega
  · refine .four ?_ ?_ ?_ ?_ ?_ <;> simp only [IsTail, UInt8.toNat_ofNat'] <;> omega

theorem toNat_ofNat_of_isValidChar {v : Nat} (h : v.isValidChar) :
    (Char.ofNat v).val.toNat = v := by
  rw [Char.ofNat, dif_pos h]
  rfl

theorem ofNat_eq_of_toNat {n : Nat} {b : UInt8} (h : n = b.toNat) : UInt8.ofNat n = b := by
  rw [h, UInt8.ofNat_toNat]

/-- What is spelled is the encoding of its character. -/
theorem Spells.utf8EncodeChar_eq {v : Nat} {octets : Bytes} (h : Spells v octets) :
    String.utf8EncodeChar (Char.ofNat v) = octets := by
  rw [String.utf8EncodeChar, toNat_ofNat_of_isValidChar h.isValidChar]
  cases h with
  | one ha hv =>
    rw [if_pos (by omega), ofNat_eq_of_toNat hv]
  | two ha hb hv =>
    simp only [IsTail] at hb
    rw [if_neg (by omega), if_pos (by omega), ofNat_eq_of_toNat (n := v / 64 % 32 + 192),
      ofNat_eq_of_toNat (n := v % 64 + 128)]
    all_goals omega
  | three ha hb hc hv =>
    simp only [IsTail] at hb hc
    rw [if_neg (by omega), if_neg (by omega), if_pos (by omega),
      ofNat_eq_of_toNat (n := v / 4096 % 16 + 224),
      ofNat_eq_of_toNat (n := v / 64 % 64 + 128), ofNat_eq_of_toNat (n := v % 64 + 128)]
    all_goals omega
  | four ha hb hc hd hv =>
    simp only [IsTail] at hb hc hd
    rw [if_neg (by omega), if_neg (by omega), if_neg (by omega),
      ofNat_eq_of_toNat (n := v / 262144 % 8 + 240),
      ofNat_eq_of_toNat (n := v / 4096 % 64 + 128),
      ofNat_eq_of_toNat (n := v / 64 % 64 + 128), ofNat_eq_of_toNat (n := v % 64 + 128)]
    all_goals omega

/-! ### Reading characters -/

/-- What an octet announces, by its number. -/
theorem lead?_eq (b : UInt8) : lead? b =
    if b.toNat < 128 then some ⟨0, 0x80, 0xBF, b.toNat⟩
    else if b.toNat < 194 then none
    else if b.toNat < 224 then some ⟨1, 0x80, 0xBF, b.toNat % 32⟩
    else if b.toNat < 240 then some ⟨2, if b.toNat = 224 then 0xA0 else 0x80,
      if b.toNat = 237 then 0x9F else 0xBF, b.toNat % 16⟩
    else if b.toNat < 245 then some ⟨3, if b.toNat = 240 then 0x90 else 0x80,
      if b.toNat = 244 then 0x8F else 0xBF, b.toNat % 8⟩
    else none := by
  simp only [lead?, UInt8.lt_iff_toNat_lt, ← UInt8.toNat_inj, UInt8.reduceToNat]
  grind

theorem tails_succ_eq_ok_iff {owed bits seen code : Nat} {low high : UInt8} {octets : Bytes} :
    tails (owed + 1) low high bits seen octets = .ok code ↔ ∃ b rest, octets = b :: rest ∧
      low.toNat ≤ b.toNat ∧ b.toNat ≤ high.toNat ∧
      tails owed 0x80 0xBF (bits * 64 + b.toNat % 64) (seen + 1) rest = .ok code := by
  cases octets with
  | nil => simp [tails]
  | cons b rest =>
    simp only [tails, UInt8.le_iff_toNat_le]
    constructor
    · intro h
      split at h
      · next hb => exact ⟨b, rest, rfl, hb.1, hb.2, h⟩
      · cases h
    · rintro ⟨b', rest', heq, hlow, hhigh, h⟩
      cases heq
      rw [if_pos ⟨hlow, hhigh⟩, h]

theorem tails_zero (low high : UInt8) (bits seen : Nat) (octets : Bytes) :
    tails 0 low high bits seen octets = .ok bits := by
  rw [tails]

/-- The second octet of a character is bounded more tightly behind some first ones. -/
theorem toNat_ite (p : Prop) [Decidable p] (x y : UInt8) :
    (if p then x else y).toNat = if p then x.toNat else y.toNat := apply_ite UInt8.toNat p x y

/-- A character is read as it is spelled. -/
theorem Spells.exists_lead {v : Nat} {b : UInt8} {behind : Bytes} (h : Spells v (b :: behind))
    (rest : Bytes) : ∃ l, lead? b = some l ∧ behind.length = l.owed ∧
      tails l.owed l.low l.high l.bits 1 (behind ++ rest) = .ok v := by
  cases h with
  | one ha hv =>
    refine ⟨⟨0, 0x80, 0xBF, b.toNat⟩, by rw [lead?_eq, if_pos ha], rfl, ?_⟩
    rw [tails_zero, hv]
  | two ha hb hv =>
    have hlead := lead?_eq b
    rw [if_neg (by omega), if_neg (by omega), if_pos (by omega)] at hlead
    refine ⟨_, hlead, rfl, tails_succ_eq_ok_iff.2 ⟨_, _, rfl, hb.1, hb.2, ?_⟩⟩
    rw [tails_zero, hv]
  | three ha hb hc hv =>
    have hlead := lead?_eq b
    rw [if_neg (by omega), if_neg (by omega), if_neg (by omega), if_pos (by omega)] at hlead
    simp only [IsTail] at hb
    refine ⟨_, hlead, rfl, tails_succ_eq_ok_iff.2 ⟨_, _, rfl, ?_, ?_, ?_⟩⟩
    · rw [toNat_ite]
      split <;> simp only [UInt8.reduceToNat] <;> omega
    · rw [toNat_ite]
      split <;> simp only [UInt8.reduceToNat] <;> omega
    · exact tails_succ_eq_ok_iff.2 ⟨_, _, rfl, hc.1, hc.2, by rw [tails_zero, hv]⟩
  | four ha hb hc hd hv =>
    have hlead := lead?_eq b
    rw [if_neg (by omega), if_neg (by omega), if_neg (by omega), if_neg (by omega),
      if_pos (by omega)] at hlead
    simp only [IsTail] at hb
    refine ⟨_, hlead, rfl, tails_succ_eq_ok_iff.2 ⟨_, _, rfl, ?_, ?_, ?_⟩⟩
    · rw [toNat_ite]
      split <;> simp only [UInt8.reduceToNat] <;> omega
    · rw [toNat_ite]
      split <;> simp only [UInt8.reduceToNat] <;> omega
    · refine tails_succ_eq_ok_iff.2 ⟨_, _, rfl, hc.1, hc.2, ?_⟩
      exact tails_succ_eq_ok_iff.2 ⟨_, _, rfl, hd.1, hd.2, by rw [tails_zero, hv]⟩

/-- What is read as a character spells it. -/
theorem exists_spells_of_tails {v : Nat} {b : UInt8} {l : Lead} {octets : Bytes}
    (hl : lead? b = some l) (h : tails l.owed l.low l.high l.bits 1 octets = .ok v) :
    ∃ behind rest, octets = behind ++ rest ∧ behind.length = l.owed ∧ Spells v (b :: behind) := by
  rw [lead?_eq] at hl
  split at hl
  · next ha =>
    cases hl
    rw [tails_zero] at h
    cases h
    exact ⟨[], octets, rfl, rfl, .one ha rfl⟩
  split at hl
  · cases hl
  split at hl
  · cases hl
    obtain ⟨c, rest, rfl, hlow, hhigh, h⟩ := tails_succ_eq_ok_iff.1 h
    rw [tails_zero] at h
    cases h
    exact ⟨[c], rest, rfl, rfl, .two (by omega) ⟨hlow, hhigh⟩ rfl⟩
  split at hl
  · cases hl
    obtain ⟨c, rest, rfl, hlow, hhigh, h⟩ := tails_succ_eq_ok_iff.1 h
    obtain ⟨d, rest, rfl, hlow', hhigh', h⟩ := tails_succ_eq_ok_iff.1 h
    rw [tails_zero] at h
    cases h
    rw [toNat_ite] at hlow hhigh
    simp only [UInt8.reduceToNat] at hlow hhigh
    refine ⟨[c, d], rest, rfl, rfl, .three (by omega) ?_ ⟨hlow', hhigh'⟩ rfl⟩
    simp only [IsTail]
    split at hlow <;> split at hhigh <;> omega
  split at hl
  · cases hl
    obtain ⟨c, rest, rfl, hlow, hhigh, h⟩ := tails_succ_eq_ok_iff.1 h
    obtain ⟨d, rest, rfl, hlow', hhigh', h⟩ := tails_succ_eq_ok_iff.1 h
    obtain ⟨e, rest, rfl, hlow'', hhigh'', h⟩ := tails_succ_eq_ok_iff.1 h
    rw [tails_zero] at h
    cases h
    rw [toNat_ite] at hlow hhigh
    simp only [UInt8.reduceToNat] at hlow hhigh
    refine ⟨[c, d, e], rest, rfl, rfl, .four (by omega) ?_ ⟨hlow', hhigh'⟩ ⟨hlow'', hhigh''⟩ rfl⟩
    simp only [IsTail]
    split at hlow <;> split at hhigh <;> omega
  · cases hl

/-! ### Texts -/

/-- One more character is read. -/
theorem decodeFrom_cons {start code : Nat} {before : List Char} {b : UInt8} {rest : Bytes}
    {l : Lead} (hl : lead? b = some l)
    (htails : tails l.owed l.low l.high l.bits 1 rest = .ok code) :
    decodeFrom start before (b :: rest) =
      decodeFrom (start + 1 + l.owed) (Char.ofNat code :: before) (rest.drop l.owed) := by
  rw [decodeFrom, hl]
  simp only
  rw [htails]

/-- Characters that are encoded are read behind those before. -/
theorem decodeFrom_flatMap (start : Nat) (before chars : List Char) :
    decodeFrom start before (chars.flatMap String.utf8EncodeChar) =
      .ok (before.reverse ++ chars) := by
  induction chars generalizing start before with
  | nil => rw [List.flatMap_nil, decodeFrom, List.append_nil]
  | cons c rest ih =>
    obtain ⟨b, behind, hc⟩ := List.exists_cons_of_ne_nil (String.utf8EncodeChar_ne_nil (c := c))
    have hspells := spells_utf8EncodeChar c
    rw [hc] at hspells
    obtain ⟨l, hl, howed, htails⟩ :=
      hspells.exists_lead (rest.flatMap String.utf8EncodeChar)
    rw [List.flatMap_cons, hc, List.cons_append, decodeFrom_cons hl htails,
      List.drop_left' howed, ih, Char.ofNat_toNat, List.reverse_cons, List.append_assoc,
      List.singleton_append]

/-- What is read as characters encodes them. -/
theorem exists_of_decodeFrom {start : Nat} {before chars : List Char} {octets : Bytes}
    (h : decodeFrom start before octets = .ok chars) :
    ∃ later, chars = before.reverse ++ later ∧ octets = later.flatMap String.utf8EncodeChar := by
  fun_induction decodeFrom start before octets with
  | case1 start before =>
    cases h
    exact ⟨[], (List.append_nil _).symm, rfl⟩
  | case2 | case3 => cases h
  | case4 start before b rest l hl code htails ih =>
    obtain ⟨behind, rest, rfl, howed, hspells⟩ := exists_spells_of_tails hl htails
    obtain ⟨later, rfl, hrest⟩ := ih h
    rw [List.drop_left' howed] at hrest
    refine ⟨Char.ofNat code :: later, ?_, ?_⟩
    · rw [List.reverse_cons, List.append_assoc, List.singleton_append]
    · rw [List.flatMap_cons, hspells.utf8EncodeChar_eq, List.cons_append, hrest]

/-- **Octets are read as the text that they encode**, and as no other one. -/
theorem decode_eq_ok_iff {octets : Bytes} {text : String} :
    decode octets = .ok text ↔ encode text = octets := by
  rw [decode, map_eq_ok_iff]
  constructor
  · rintro ⟨chars, h, rfl⟩
    obtain ⟨later, rfl, rfl⟩ := exists_of_decodeFrom h
    rw [encode, String.toList_ofList]
  · rintro rfl
    exact ⟨text.toList, decodeFrom_flatMap 0 [] text.toList, String.ofList_toList⟩

/-- A text has the octets that it is kept in. -/
theorem toByteArray_encode (text : String) : (encode text).toByteArray = text.toByteArray :=
  String.utf8Encode_toList

theorem length_encode (text : String) : (encode text).length = text.utf8ByteSize := by
  rw [← List.size_toByteArray, toByteArray_encode]
  rfl

/-- **Octets can be read exactly if they are valid UTF-8.** -/
theorem exists_decode_iff {octets : Bytes} :
    (∃ text, decode octets = .ok text) ↔ octets.toByteArray.IsValidUTF8 := by
  constructor
  · rintro ⟨text, h⟩
    rw [← decode_eq_ok_iff.1 h, toByteArray_encode]
    exact text.isValidUTF8
  · rintro ⟨chars, h⟩
    refine ⟨String.ofList chars, decode_eq_ok_iff.2 ?_⟩
    have hdata := congrArg ByteArray.data h
    rw [List.utf8Encode, List.data_toByteArray, List.data_toByteArray] at hdata
    rw [encode, String.toList_ofList]
    exact (List.toArray_inj hdata).symm

/-- Only a zero has a zero among its octets. -/
theorem Spells.zero_mem_iff {v : Nat} {octets : Bytes} (h : Spells v octets) :
    0 ∈ octets ↔ v = 0 := by
  have hzero : ∀ b : UInt8, 0 = b ↔ b.toNat = 0 := fun b => by
    rw [eq_comm, ← UInt8.toNat_inj]
    rfl
  cases h with
  | one ha hv =>
    simp only [List.mem_cons, List.not_mem_nil, or_false, hzero]
    omega
  | two ha hb hv | three ha hb hc hv | four ha hb hc hd hv =>
    simp only [List.mem_cons, List.not_mem_nil, or_false, hzero]
    simp only [IsTail] at *
    omega

/-- **A text holds a zero exactly if its octets do.** -/
theorem zero_mem_encode_iff {text : String} : 0 ∈ encode text ↔ '\x00' ∈ text.toList := by
  have hzero : ∀ c : Char, 0 ∈ String.utf8EncodeChar c ↔ c = '\x00' := fun c => by
    rw [(spells_utf8EncodeChar c).zero_mem_iff]
    constructor
    · intro h
      rw [← Char.ofNat_toNat c, h]
    · rintro rfl
      rfl
  simp only [encode, List.mem_flatMap, hzero]
  exact exists_eq_right

end Utf8

end VSwitch
