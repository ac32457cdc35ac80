import Mathlib
import VSwitch.Proofs.Flow.Asking
import VSwitch.Proofs.Listing

/-!
# The order of attributes

The two sets that a match is read of keep no order, and whoever goes through them meets their
entries in some order. This makes no difference to the match, and nor does the order in which the
attributes have been sent.

* `VSwitch.Attribute.Rearranged` says that octets hold the same attributes in another order, and
  `VSwitch.Attribute.rearranged_wires` that these are the octets of the same trees;
* `VSwitch.Match.MayParse` is what reading two sets may give, in one order or another, and
  `VSwitch.Match.MayRead` what reading their octets may give, which `VSwitch.Match.AsSets` ties to
  sets;
* `VSwitch.Match.MayParse.eq_ok_iff`: it is the match that is asked for, if there is one;
* `VSwitch.Match.read_in_any_order` is the result.
-/

namespace VSwitch

/-! ### Octets in another order -/

namespace Attribute

/-- Octets hold the same attributes in another order, and no two of them are of one type. -/
def Rearranged (d d' : Bytes) : Prop :=
  ∃ l l', parse d = .ok l ∧ parse d' = .ok l' ∧ l.Perm l' ∧ (l.map Prod.fst).Nodup

/-- **As sets the attributes are the same.** -/
theorem Rearranged.exists_parse {d d' : Bytes} (h : Rearranged d d') :
    ∃ s, AttributeSet.parse d = .ok s ∧ AttributeSet.parse d' = .ok s := by
  obtain ⟨l, l', hl, hl', hperm, hnodup⟩ := h
  refine ⟨.ofList l, map_eq_ok_iff.2 ⟨l, hl, rfl⟩, map_eq_ok_iff.2 ⟨l', hl', ?_⟩⟩
  exact (Table.ofList_eq_of_perm hperm hnodup).symm

/-- Trees that are written in another order are read in another order. -/
theorem rearranged_wires {trees trees' : List AttributeTree} (hperm : trees.Perm trees')
    (hfits : AttributeTree.FitAll trees) (hplain : ∀ t ∈ trees, t.type < 0x4000)
    (hnodup : (trees.map AttributeTree.type).Nodup) :
    Rearranged (AttributeTree.wires trees) (AttributeTree.wires trees') := by
  have hfits' : AttributeTree.FitAll trees' := AttributeTree.fitAll_iff.2 fun t ht =>
    AttributeTree.fitAll_iff.1 hfits t (hperm.mem_iff.2 ht)
  refine ⟨_, _, AttributeTree.parse_wires hfits hplain,
    AttributeTree.parse_wires hfits' fun t ht => hplain t (hperm.mem_iff.2 ht), hperm.map _, ?_⟩
  rwa [List.map_map]

end Attribute

/-! ### Sets without an order -/

namespace Match

/-- What there is to read of types with a value, under the masks. -/
def valued (masks? : Option AttributeSet) (l : List (UInt16 × Bytes)) : List Entry :=
  l.map fun (n, key) => ⟨n, some key, maskSource masks? n⟩

/-- What there is to read of types with a mask, if they have no value. -/
def unvalued (keys : AttributeSet) (l : List (UInt16 × Bytes)) : List Entry :=
  (l.filter fun (n, _) => !keys.contains n).map fun (n, mask) => ⟨n, none, .given mask⟩

/-- What reading two sets may give. The values are gone through in some order, and then, if there
are masks, these in some order. -/
inductive MayParse (keys : AttributeSet) : Option AttributeSet → Except DecodeError Match → Prop
  /-- There are no masks. -/
  | exact {l : List (UInt16 × Bytes)} (order : l.Perm keys.entries) :
    MayParse keys none (empty.addEach (valued none l))
  /-- There are masks. -/
  | masked {masks : AttributeSet} {l l' : List (UInt16 × Bytes)} (order : l.Perm keys.entries)
    (order' : l'.Perm masks.entries) :
    MayParse keys (some masks) (empty.addEach (valued (some masks) l ++ unvalued keys l'))

variable {keys : AttributeSet} {masks? : Option AttributeSet} {r r' : Except DecodeError Match}

/-- The order in which the types are gone through here is one of the orders. -/
theorem mayParse_parse (keys : AttributeSet) (masks? : Option AttributeSet) :
    MayParse keys masks? (parse keys masks?) := by
  cases masks? with
  | none =>
    have hentries : entries keys none = valued none keys.entries := List.append_nil _
    rw [parse, hentries]
    exact .exact (.refl _)
  | some masks => exact .masked (.refl _) (.refl _)

/-- In whatever order the sets are gone through, there is the same to read. -/
theorem MayParse.exists_perm (h : MayParse keys masks? r) :
    ∃ l, l.Perm (entries keys masks?) ∧ empty.addEach l = r := by
  cases h with
  | exact order =>
    refine ⟨_, ?_, rfl⟩
    rw [entries, List.append_nil]
    exact order.map _
  | masked order order' => exact ⟨_, (order.map _).append ((order'.filter _).map _), rfl⟩

/-- **Just the match that is asked for** is read, in whatever order. -/
theorem MayParse.eq_ok_iff (h : MayParse keys masks? r) {m : Match} :
    r = .ok m ↔ m.IsAsked keys masks? := by
  obtain ⟨l, hl, rfl⟩ := h.exists_perm
  exact addEach_eq_ok_iff_isAsked fun _ => hl.mem_iff

/-- Two results of reading are the same match, or both of them are errors. -/
theorem MayParse.same (h : MayParse keys masks? r) (h' : MayParse keys masks? r') :
    (∃ m, r = .ok m ∧ r' = .ok m) ∨ ∃ e e', r = .error e ∧ r' = .error e' := by
  -- The two orders are not compared with each other, but both with what is asked for.
  cases r with
  | ok m => exact .inl ⟨m, rfl, h'.eq_ok_iff.2 (h.eq_ok_iff.1 rfl)⟩
  | error e =>
    cases r' with
    | ok m =>
      have hok : Except.error e = .ok m := h.eq_ok_iff.2 (h'.eq_ok_iff.1 rfl)
      cases hok
    | error e' => exact .inr ⟨e, e', rfl, rfl⟩

/-! ### Octets -/

/-- Octets of values and masks, and the sets that they are read as. -/
structure AsSets (k : Bytes) (m? : Option Bytes) (keys : AttributeSet)
    (masks? : Option AttributeSet) : Prop where
  keys : AttributeSet.parse k = .ok keys
  masks : Option.Rel (fun m masks => AttributeSet.parse m = .ok masks) m? masks?

/-- What reading a match from octets may give, if they can be read as sets. -/
def MayRead (k : Bytes) (m? : Option Bytes) (r : Except DecodeError Match) : Prop :=
  ∃ keys masks?, AsSets k m? keys masks? ∧ MayParse keys masks? r

variable {k k' : Bytes} {m? m'? : Option Bytes}

theorem AsSets.read_eq (h : AsSets k m? keys masks?) : read k m? = parse keys masks? := by
  obtain ⟨hkeys, hmasks⟩ := h
  rw [read, hkeys]
  cases hmasks with
  | none => rfl
  | some hmasks =>
    change (AttributeSet.parse _ >>= fun masks => parse keys (some masks)) = _
    rw [hmasks]
    rfl

/-- Octets are read as the same sets again. -/
theorem AsSets.unique {keys' : AttributeSet} {masks'? : Option AttributeSet}
    (h : AsSets k m? keys masks?) (h' : AsSets k m? keys' masks'?) :
    keys' = keys ∧ masks'? = masks? := by
  refine ⟨Except.ok.inj (h'.keys.symm.trans h.keys), ?_⟩
  cases h.masks with
  | none =>
    cases h'.masks
    rfl
  | some hmasks =>
    cases h'.masks with
    | some hmasks' => exact congrArg some (Except.ok.inj (hmasks'.symm.trans hmasks))

theorem AsSets.mayRead_iff (h : AsSets k m? keys masks?) :
    MayRead k m? r ↔ MayParse keys masks? r := by
  refine ⟨?_, fun hr => ⟨keys, masks?, h, hr⟩⟩
  rintro ⟨keys', masks'?, h', hr⟩
  obtain ⟨rfl, rfl⟩ := h.unique h'
  exact hr

/-- What is read is one of what may be read. -/
theorem AsSets.mayRead_read (h : AsSets k m? keys masks?) : MayRead k m? (read k m?) := by
  rw [h.mayRead_iff, h.read_eq]
  exact mayParse_parse keys masks?

/-- Rearranged octets of values and masks are read as the same sets. -/
theorem exists_asSets (hk : Attribute.Rearranged k k')
    (hm : Option.Rel Attribute.Rearranged m? m'?) :
    ∃ keys masks?, AsSets k m? keys masks? ∧ AsSets k' m'? keys masks? := by
  obtain ⟨keys, hkeys, hkeys'⟩ := hk.exists_parse
  cases hm with
  | none => exact ⟨keys, none, ⟨hkeys, .none⟩, hkeys', .none⟩
  | some h =>
    obtain ⟨masks, hmasks, hmasks'⟩ := h.exists_parse
    exact ⟨keys, some masks, ⟨hkeys, .some hmasks⟩, hkeys', .some hmasks'⟩

/-- **The order of attributes makes no difference to a match.** If both sets are sent with their
attributes in another order, and each of them is gone through in any order, then the match is the
same, with the same keys in the order of their types, or there is none in either case. What is
reported then may be another one of the things that are wrong; but it is the same things that may
be reported. -/
theorem read_in_any_order (hk : Attribute.Rearranged k k')
    (hm : Option.Rel Attribute.Rearranged m? m'?) :
    MayRead k m? (read k m?) ∧ MayRead k' m'? (read k' m'?) ∧
    (∀ r, MayRead k m? r ↔ MayRead k' m'? r) ∧
    ∀ r r', MayRead k m? r → MayRead k' m'? r' →
      (∃ m, r = .ok m ∧ r' = .ok m) ∨ ∃ e e', r = .error e ∧ r' = .error e' := by
  obtain ⟨keys, masks?, h, h'⟩ := exists_asSets hk hm
  refine ⟨h.mayRead_read, h'.mayRead_read, fun r => ?_, fun r r' hr hr' => ?_⟩
  · rw [h.mayRead_iff, h'.mayRead_iff]
  · exact (h.mayRead_iff.1 hr).same (h'.mayRead_iff.1 hr')

/-- The values of a port and of a type of Ethernet. -/
def twoValues : List AttributeTree := [.u32 3 1, .u16 6 0x0800]

/-- A mask of the port, and one of a priority, which selects nothing. -/
def twoMasks : List AttributeTree := [.u32 3 0xFFFFFFFF, .u32 2 0]

/-- A value without a mask, a mask without a value and a type with both, in either order. -/
theorem read_in_any_order_reversed :
    Attribute.Rearranged (AttributeTree.wires twoValues) (AttributeTree.wires twoValues.reverse) ∧
      Option.Rel Attribute.Rearranged (some (AttributeTree.wires twoMasks))
        (some (AttributeTree.wires twoMasks.reverse)) ∧
      ∃ m, read (AttributeTree.wires twoValues) (some (AttributeTree.wires twoMasks)) = .ok m ∧
        read (AttributeTree.wires twoValues.reverse)
          (some (AttributeTree.wires twoMasks.reverse)) = .ok m ∧
        m.toList.map FlowKey.type = [.priority, .inPort, .ethertype] := by
  have hvalues : Attribute.Rearranged (AttributeTree.wires twoValues)
      (AttributeTree.wires twoValues.reverse) :=
    Attribute.rearranged_wires (List.reverse_perm _).symm (by decide) (by decide) (by decide)
  have hmasks : Attribute.Rearranged (AttributeTree.wires twoMasks)
      (AttributeTree.wires twoMasks.reverse) :=
    Attribute.rearranged_wires (List.reverse_perm _).symm (by decide) (by decide) (by decide)
  have hsets : AsSets (AttributeTree.wires twoValues) (some (AttributeTree.wires twoMasks))
      (.ofList (twoValues.map fun t => (t.type, t.payload)))
      (some (.ofList (twoMasks.map fun t => (t.type, t.payload)))) :=
    ⟨AttributeTree.attributes_wires (by decide) (by decide),
      .some (AttributeTree.attributes_wires (by decide) (by decide))⟩
  have htypes : (read (AttributeTree.wires twoValues) (some (AttributeTree.wires twoMasks))).map
      (fun m => m.toList.map FlowKey.type) = .ok [.priority, .inPort, .ethertype] := by
    rw [hsets.read_eq]
    rfl
  obtain ⟨hread, hread', -, hsame⟩ := read_in_any_order hvalues (.some hmasks)
  rcases hsame _ _ hread hread' with ⟨m, hm, hm'⟩ | ⟨e, e', he, -⟩
  · rw [hm] at htypes
    exact ⟨hvalues, .some hmasks, m, hm, hm', Except.ok.inj htypes⟩
  · rw [he] at htypes
    cases htypes

end Match

end VSwitch
