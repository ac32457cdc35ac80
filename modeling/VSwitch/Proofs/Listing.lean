import Mathlib.Data.List.Nodup
import VSwitch.Proofs.Encoding
import VSwitch.Proofs.Entries
import VSwitch.Proofs.Framing

/-!
# Lists of attributes as octets

Octets are a list of attributes exactly if they are blocks up to their end. Then there is an
attribute for each block, and otherwise the first thing that is no block is reported. Reading the
same octets as a set makes no difference to this; the set has the last value of each type.

* `VSwitch.Attribute.ofBlock` is the attribute that a block is read as;
* `VSwitch.Attribute.parse_cases` is one step of reading, and `VSwitch.Attribute.parse_eq_ok_iff`
  and `VSwitch.Attribute.parse_eq_error_iff` are about all steps;
* `VSwitch.Table.IsLast` says which entry of a list counts, and
  `VSwitch.Table.get?_ofList_eq_some_iff` that it is the one that is found, so that
  `VSwitch.Table.ofList_eq_of_perm` holds where no two entries have the same key;
* `VSwitch.Attribute.read_as_blocks` is the result.
-/

namespace VSwitch

/-! ### The last entry of a key -/

namespace Table

variable {κ ν : Type}

/-- An entry of a list that no other one of its key comes after. -/
def IsLast (e : κ × ν) (l : List (κ × ν)) : Prop :=
  ∃ before after, l = before ++ e :: after ∧ ∀ a ∈ after, a.1 ≠ e.1

/-- **What is found are the last entries.** -/
theorem get?_ofList_eq_some_iff [KeyOrder κ] [DecidableEq κ] {l : List (κ × ν)} {k : κ} {v : ν} :
    (ofList l).get? k = some v ↔ IsLast (k, v) l := by
  rw [get?_ofList, Option.map_eq_some_iff]
  constructor
  · rintro ⟨⟨k', v⟩, hlast, rfl⟩
    obtain ⟨front, hfilter⟩ := List.getLast?_eq_some_iff.1 hlast
    obtain ⟨before, behind, rfl, -, hbehind⟩ := List.filter_eq_append_iff.1 hfilter
    obtain ⟨between, after, rfl, -, hk, hafter⟩ := List.filter_eq_cons_iff.1 hbehind
    obtain rfl : k' = k := by simpa using hk
    refine ⟨before ++ between, after, (List.append_assoc before between _).symm, fun a ha => ?_⟩
    simpa using List.filter_eq_nil_iff.1 hafter a ha
  · rintro ⟨before, after, rfl, hafter⟩
    have hnone : (after.filter fun e => e.1 == k) = [] :=
      List.filter_eq_nil_iff.2 fun a ha => by simpa using hafter a ha
    refine ⟨(k, v), ?_, rfl⟩
    rw [List.filter_append, List.filter_cons_of_pos (by simp), hnone, List.getLast?_concat]

variable {l l' : List (κ × ν)}

/-- Where each key occurs once, each entry counts. -/
theorem isLast_iff_mem {e : κ × ν} (hl : (l.map Prod.fst).Nodup) : IsLast e l ↔ e ∈ l := by
  constructor
  · rintro ⟨before, after, rfl, -⟩
    exact List.mem_append_right before List.mem_cons_self
  · intro he
    obtain ⟨before, after, rfl⟩ := List.append_of_mem he
    refine ⟨before, after, rfl, fun a ha heq => ?_⟩
    rw [List.map_append, List.map_cons] at hl
    obtain ⟨-, hbehind, -⟩ := List.nodup_append.1 hl
    exact (List.nodup_cons.1 hbehind).1 (List.mem_map.2 ⟨a, ha, heq⟩)

/-- **A table forgets the order of its entries** if they are of different keys. -/
theorem ofList_eq_of_perm [KeyOrder κ] [DecidableEq κ] (hperm : l.Perm l')
    (hl : (l.map Prod.fst).Nodup) : ofList l = ofList l' := by
  have hl' : (l'.map Prod.fst).Nodup := (hperm.map Prod.fst).nodup_iff.1 hl
  refine eq_of_get?_eq fun k => Option.ext fun v => ?_
  rw [get?_ofList_eq_some_iff, get?_ofList_eq_some_iff, isLast_iff_mem hl, isLast_iff_mem hl',
    hperm.mem_iff]

end Table

/-! ### Attributes -/

namespace Attribute

/-- What a block is read as: the type in its header, without the flag bits, and the octets behind
the header. -/
def ofBlock (block : Bytes) : UInt16 × Bytes :=
  ((AttributeHeader.ofBytes block).type, block.drop AttributeHeader.size)

theorem first_eq_measure (octets : Bytes) : first octets =
    (Framing.attributes.measure octets).map fun length =>
      ((AttributeHeader.ofBytes octets).type, length) := by
  rcases Nat.lt_or_ge octets.length AttributeHeader.size with hshort | hwhole
  · have hensure : ensureLength Framing.attributes.headerName octets Framing.attributes.size =
        .error (.truncated "attribute header" AttributeHeader.size octets.length) :=
      ensureLength_of_lt hshort
    rw [first, AttributeHeader.read_of_lt hshort, Framing.measure, hensure]
    rfl
  · have hensure : ensureLength Framing.attributes.headerName octets Framing.attributes.size =
        .ok () := ensureLength_of_le hwhole
    rw [first, AttributeHeader.read_of_le hwhole, Framing.measure, hensure]
    by_cases hsmall : Framing.attributes.declared octets < Framing.attributes.size
    · simp only [if_pos hsmall]
      exact if_pos hsmall
    · simp only [if_neg hsmall]
      refine (if_neg hsmall).trans ?_
      have hblock : ensureLength Framing.attributes.blockName octets
          (Framing.attributes.declared octets) =
          ensureLength "attribute" octets (AttributeHeader.ofBytes octets).length.toNat := rfl
      rw [hblock]
      cases ensureLength "attribute" octets (AttributeHeader.ofBytes octets).length.toNat <;> rfl

variable {d b : Bytes} {e : DecodeError}

theorem parse_of_first_error (hd : d ≠ []) (h : first d = .error e) : parse d = .error e := by
  obtain ⟨c, tail, rfl⟩ := List.exists_cons_of_ne_nil hd
  rw [parse]
  split
  · rename_i e' he
    rw [h] at he
    cases he
    rfl
  · rename_i type n he
    rw [h] at he
    cases he

/-- What is read of a block that octets start with does not depend on what follows it. -/
theorem read_of_isPrefix (hb : Framing.attributes.IsBlock b) (hstart : b <+: d) :
    ((AttributeHeader.ofBytes d).type, value d b.length) = ofBlock b := by
  obtain ⟨rest, rfl⟩ := hstart
  have hsize : AttributeHeader.size ≤ b.length := hb.size_le
  have hdrop : (b.drop 2).take 2 = ((b ++ rest).drop 2).take 2 := by
    refine Bytes.take_of_isPrefix ((List.prefix_append b rest).drop 2) ?_
    rw [List.length_drop]
    simp only [AttributeHeader.size] at hsize
    omega
  simp only [ofBlock, value, List.take_left' rfl, AttributeHeader.ofBytes, Bytes.toU16, hdrop]

/-- **One step of reading**: there is nothing left, or a block, which is read as an attribute, or
what is reported. -/
theorem parse_cases (d : Bytes) :
    d = [] ∧ parse d = .ok [] ∨
      (∃ b, Framing.attributes.IsBlock b ∧ b <+: d ∧
        parse d = (parse (d.drop (align4 b.length))).map (ofBlock b :: ·)) ∨
      ∃ e, Framing.attributes.Fault d e ∧ parse d = .error e := by
  by_cases hd : d = []
  · subst hd
    exact .inl ⟨rfl, parse_nil⟩
  right
  rcases Framing.attributes.measure_cases hd with
    ⟨b, hblock, hstart, hmeasure⟩ | ⟨e, hfault, hmeasure⟩
  · have hfirst := first_eq_measure d
    rw [hmeasure, Except.map] at hfirst
    refine .inl ⟨b, hblock, hstart, ?_⟩
    rw [parse_of_first_ok hd hfirst, read_of_isPrefix hblock hstart]
  · have hfirst := first_eq_measure d
    rw [hmeasure, Except.map] at hfirst
    exact .inr ⟨e, hfault, parse_of_first_error hd hfirst⟩

/-- Octets are blocks, and each of them is read; or what is reported is what ends the blocks. -/
theorem exists_splits_parse (d : Bytes) : ∃ blocks,
    Framing.attributes.Splits d blocks none ∧ parse d = .ok (blocks.map ofBlock) ∨
      ∃ e, Framing.attributes.Splits d blocks (some e) ∧ parse d = .error e := by
  -- A block takes off at least its header, so the induction is on the number of octets.
  induction hlength : d.length using Nat.strongRecOn generalizing d with
  | ind length ih =>
    rcases parse_cases d with ⟨rfl, hparse⟩ | ⟨b, hb, hstart, hparse⟩ | ⟨e, hfault, hparse⟩
    · exact ⟨[], .inl ⟨.done, hparse⟩⟩
    · have hle := hstart.length_le
      have hblock := List.length_pos_iff.2 hb.ne_nil
      have hpos := align4_pos hblock
      obtain ⟨blocks, ⟨hrest, hread⟩ | ⟨e, hrest, hread⟩⟩ :=
        ih (d.drop (align4 b.length)).length (by rw [List.length_drop]; omega) _ rfl
      · refine ⟨b :: blocks, .inl ⟨Framing.splits_cons_iff.2 ⟨hb, hstart, hrest⟩, ?_⟩⟩
        rw [hparse, hread]
        rfl
      · refine ⟨b :: blocks, .inr ⟨e, Framing.splits_cons_iff.2 ⟨hb, hstart, hrest⟩, ?_⟩⟩
        rw [hparse, hread]
        rfl
    · exact ⟨[], .inr ⟨e, .fault hfault, hparse⟩⟩

theorem parse_eq_ok_iff {l : List (UInt16 × Bytes)} : parse d = .ok l ↔
    ∃ blocks, Framing.attributes.Splits d blocks none ∧ l = blocks.map ofBlock := by
  obtain ⟨blocks, ⟨hsplits, hparse⟩ | ⟨e, hsplits, hparse⟩⟩ := exists_splits_parse d
  · constructor
    · intro h
      exact ⟨blocks, hsplits, Except.ok.inj (h.symm.trans hparse)⟩
    · rintro ⟨blocks', hsplits', rfl⟩
      rw [hparse, (hsplits.unique hsplits').1]
  · constructor
    · intro h
      rw [hparse] at h
      cases h
    · rintro ⟨blocks', hsplits', -⟩
      cases (hsplits.unique hsplits').2

theorem parse_eq_error_iff :
    parse d = .error e ↔ ∃ blocks, Framing.attributes.Splits d blocks (some e) := by
  obtain ⟨blocks, ⟨hsplits, hparse⟩ | ⟨e', hsplits, hparse⟩⟩ := exists_splits_parse d
  · constructor
    · intro h
      rw [hparse] at h
      cases h
    · rintro ⟨blocks', hsplits'⟩
      cases (hsplits.unique hsplits').2
  · constructor
    · intro h
      exact ⟨blocks, Except.error.inj (hparse.symm.trans h) ▸ hsplits⟩
    · rintro ⟨blocks', hsplits'⟩
      rw [hparse, Option.some.inj (hsplits.unique hsplits').2]

end Attribute

/-! ### Sets -/

theorem AttributeSet.parse_eq_ok_iff {d : Bytes} {s : AttributeSet} : parse d = .ok s ↔
    ∃ l, Attribute.parse d = .ok l ∧ ∀ type v, s.get? type = some v ↔ Table.IsLast (type, v) l := by
  rw [parse, map_eq_ok_iff]
  refine exists_congr fun l => and_congr_right fun _ => ?_
  constructor
  · rintro rfl type v
    exact Table.get?_ofList_eq_some_iff
  · intro h
    refine Table.eq_of_get?_eq fun type => Option.ext fun v => ?_
    rw [h type v, Table.get?_ofList_eq_some_iff]

namespace AttributeTree

/-- A forest has an attribute, and no other one of its key. -/
def IsOnly (t : AttributeTree) (trees : List AttributeTree) : Prop :=
  t ∈ trees ∧ ∀ u ∈ trees, u.key = t.key → u = t

/-- Where no key comes twice, every attribute is the only one of its key. -/
theorem isOnly_of_nodup {t : AttributeTree} {trees : List AttributeTree} (ht : t ∈ trees)
    (hkeys : (trees.map key).Nodup) : t.IsOnly trees :=
  ⟨ht, fun _ hu hkey => List.inj_on_of_nodup_map hkeys hu ht hkey⟩

/-- The value of the only attribute of a key is what is found. -/
theorem IsOnly.get?_eq {t : AttributeTree} {trees : List AttributeTree} (h : t.IsOnly trees) :
    (Table.ofList (trees.map fun u => (u.key, u.payload))).get? t.key = some t.payload := by
  refine Table.get?_ofList_of_mem (List.mem_map_of_mem h.1) fun d hd hkey => ?_
  obtain ⟨u, hu, rfl⟩ := List.mem_map.1 hd
  exact congrArg payload (h.2 u hu hkey)

theorem IsOnly.get?_type {t : AttributeTree} {trees : List AttributeTree} (h : t.IsOnly trees)
    (type : UInt16) (htype : t.type = type) (hplain : type < 0x4000) :
    (Table.ofList (trees.map fun u => (u.key, u.payload))).get? type = some t.payload := by
  subst htype
  rw [← h.get?_eq, key_of_lt hplain]

end AttributeTree

/-- **What is read as attributes**: octets are a list of attributes exactly if they are blocks up to
their end, and then each block is an attribute. Otherwise the first thing that is no block is
reported. As a set of attributes they are read just as well or badly, and the set has of each type
the last value in the list. -/
theorem Attribute.read_as_blocks (d : Bytes) :
    (∀ l, parse d = .ok l ↔
      ∃ blocks, Framing.attributes.Splits d blocks none ∧ l = blocks.map ofBlock) ∧
    (∀ e, parse d = .error e ↔ ∃ blocks, Framing.attributes.Splits d blocks (some e)) ∧
    (∀ e, AttributeSet.parse d = .error e ↔ parse d = .error e) ∧
    ∀ s, AttributeSet.parse d = .ok s ↔
      ∃ l, parse d = .ok l ∧ ∀ type v, s.get? type = some v ↔ Table.IsLast (type, v) l :=
  ⟨fun _ => parse_eq_ok_iff, fun _ => parse_eq_error_iff, fun _ => map_eq_error_iff,
    fun _ => AttributeSet.parse_eq_ok_iff⟩

end VSwitch
