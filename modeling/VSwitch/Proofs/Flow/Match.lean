import VSwitch.Flow.Match
import VSwitch.Proofs.Flow.Key

/-!
# Matches on the wire and back

A match is written as two sets, the values and the masks of the keys that count. The keys of a match
come in the order of their types, which for types that have a layout is that of their numbers: so
the sets hold them as they come, every value finds its mask, and no mask is without a value.

* `VSwitch.Match.reread` is what comes back of a match, and `VSwitch.Match.parse_wires_trees` that
  it does;
* `VSwitch.Match.toList_reread`: the keys that come back are those that count;
* `VSwitch.Match.agrees_reread` and `VSwitch.Match.reread_agrees` compare the two matches.
-/

namespace VSwitch

/-! ### The order of keys -/

/-- Types that have a layout are ordered as their numbers are. -/
theorem KeyType.rank_of_layout {type : KeyType} {layout : KeyLayout}
    (h : type.layout? = some layout) : type.rank = (Vocabulary.number type).toNat := by
  cases type <;> first | rfl | simp [layout?] at h

theorem FlowKey.WellFormed.typeNumber_lt {k : FlowKey} (h : k.WellFormed) :
    k.typeNumber < 0x4000 := by
  obtain ⟨_, hlayout⟩ := h.exists_layout
  exact KeyType.number_lt hlayout

theorem FlowKey.WellFormed.rank_type {k : FlowKey} (h : k.WellFormed) :
    k.type.rank = k.typeNumber.toNat := by
  obtain ⟨_, hlayout⟩ := h.exists_layout
  exact KeyType.rank_of_layout hlayout

@[simp]
theorem FlowKey.type_keyTree (k : FlowKey) : k.keyTree.type = k.typeNumber := by
  cases k <;> rfl

@[simp]
theorem FlowKey.type_maskTree (k : FlowKey) : k.maskTree.type = k.typeNumber := by
  cases k <;> rfl

namespace Match

/-- Every key of the match has the shape of its type. -/
def WellFormed (m : Match) : Prop := ∀ k ∈ m.toList, k.WellFormed

variable {m : Match} {l : List FlowKey}

/-- **The keys of a match come in the order of their types.** -/
theorem pairwise_toList (m : Match) : m.toList.Pairwise fun a b => a.type < b.type := by
  rw [toList, Table.values, List.pairwise_map]
  refine m.keys.increasing.imp_of_mem ?_
  intro a b ha hb hlt
  rwa [m.typed a ha, m.typed b hb]

theorem mem_counting {k : FlowKey} : k ∈ m.counting ↔ k ∈ m.toList ∧ k.isIgnored = false := by
  simp [counting]

theorem pairwise_counting (m : Match) : m.counting.Pairwise fun a b => a.type < b.type :=
  m.pairwise_toList.sublist List.filter_sublist

theorem WellFormed.counting (h : m.WellFormed) : ∀ k ∈ m.counting, k.WellFormed :=
  fun k hk => h k (mem_counting.1 hk).1

/-- Looking up a type gives the key of this type. -/
theorem get?_eq_some_iff {type : KeyType} {k : FlowKey} :
    m.get? type = some k ↔ k ∈ m.toList ∧ k.type = type := by
  rw [get?, Table.get?_eq_some_iff, toList, Table.values, List.mem_map]
  constructor
  · intro h
    exact ⟨⟨_, h, rfl⟩, m.typed _ h⟩
  · rintro ⟨⟨e, he, rfl⟩, htype⟩
    have hfst : e.1 = type := (m.typed e he).symm.trans htype
    rwa [← hfst]

/-! ### The two sets -/

/-- The numbers of keys that come in the order of their types increase. -/
theorem pairwise_typeNumber (hwf : ∀ k ∈ l, k.WellFormed)
    (hl : l.Pairwise fun a b => a.type < b.type) :
    l.Pairwise fun a b => a.typeNumber < b.typeNumber := by
  refine hl.imp_of_mem ?_
  intro a b ha hb hlt
  have hrank : a.type.rank < b.type.rank := hlt
  rwa [(hwf a ha).rank_type, (hwf b hb).rank_type, ← UInt16.lt_iff_toNat_lt] at hrank

/-- **Attributes written for keys in order** are read as a set of as many entries in this order. -/
theorem exists_parse_wires_map {write : FlowKey → AttributeTree}
    (htype : ∀ k, (write k).type = k.typeNumber) (hwf : ∀ k ∈ l, k.WellFormed)
    (hl : l.Pairwise fun a b => a.type < b.type) (hfits : AttributeTree.FitAll (l.map write)) :
    ∃ s, AttributeSet.parse (AttributeTree.wires (l.map write)) = .ok s ∧
      s.entries = l.map fun k => (k.typeNumber, (write k).payload) := by
  have hplain : ∀ t ∈ l.map write, t.type < 0x4000 := by
    rintro t ht
    obtain ⟨k, hk, rfl⟩ := List.mem_map.1 ht
    rw [htype]
    exact (hwf k hk).typeNumber_lt
  have hentries : (l.map write).map (fun t => (t.type, t.payload)) =
      l.map fun k => (k.typeNumber, (write k).payload) := by
    rw [List.map_map]
    exact List.map_congr_left fun k _ => Prod.ext (htype k) rfl
  refine ⟨Table.ofList (l.map fun k => (k.typeNumber, (write k).payload)), ?_, ?_⟩
  · rw [AttributeTree.attributes_wires hfits hplain, hentries]
  · refine Table.entries_ofList ?_
    rw [List.pairwise_map]
    exact pairwise_typeNumber hwf hl

/-- Every value finds its mask, and there are no other masks. -/
theorem entries_of_keys {keys masks : AttributeSet}
    (hkeys : keys.entries = l.map fun k => (k.typeNumber, k.keyTree.payload))
    (hmasks : masks.entries = l.map fun k => (k.typeNumber, k.maskTree.payload)) :
    entries keys (some masks) =
      l.map fun k => ⟨k.typeNumber, some k.keyTree.payload, .given k.maskTree.payload⟩ := by
  have hsource : ∀ k ∈ l, maskSource (some masks) k.typeNumber = .given k.maskTree.payload := by
    intro k hk
    have hmem : (k.typeNumber, k.maskTree.payload) ∈ masks.entries := by
      rw [hmasks]
      exact List.mem_map_of_mem hk
    simp only [maskSource, Table.get?_eq_some_iff.2 hmem]
  have hnone : (masks.entries.filter fun e => !keys.contains e.1) = [] := by
    rw [List.filter_eq_nil_iff]
    intro e he
    rw [hmasks, List.mem_map] at he
    obtain ⟨k, hk, rfl⟩ := he
    have hmem : (k.typeNumber, k.keyTree.payload) ∈ keys.entries := by
      rw [hkeys]
      exact List.mem_map_of_mem hk
    simp [Table.contains, Table.get?_eq_some_iff.2 hmem]
  simp only [entries, hnone, List.map_nil, List.append_nil]
  rw [hkeys, List.map_map]
  refine List.map_congr_left fun k hk => ?_
  simp only [Function.comp_apply, hsource k hk]

/-! ### Reading them -/

/-- Keys that count are read one after the other. -/
theorem addEach_map (hwf : ∀ k ∈ l, k.WellFormed) (hcounts : ∀ k ∈ l, k.isIgnored = false)
    (m : Match) :
    m.addEach (l.map fun k => ⟨k.typeNumber, some k.keyTree.payload, .given k.maskTree.payload⟩) =
      .ok ((l.map FlowKey.reread).foldl add m) := by
  induction l generalizing m with
  | nil => rfl
  | cons k rest ih =>
    have hk := FlowKey.parse_trees (hwf k List.mem_cons_self) (hcounts k List.mem_cons_self)
    simp only [List.map_cons, addEach, hk]
    exact ih (fun k hk => hwf k (List.mem_cons_of_mem _ hk))
      (fun k hk => hcounts k (List.mem_cons_of_mem _ hk)) _

/-- The match that comes back of a match that is written and read. -/
def reread (m : Match) : Match := ofList (m.counting.map FlowKey.reread)

/-- **A match that is written comes back** when its two sets are read. -/
theorem parse_wires_trees (hwf : m.WellFormed) (hkeys : AttributeTree.FitAll m.keyTrees)
    (hmasks : AttributeTree.FitAll m.maskTrees) :
    ∃ keys masks, AttributeSet.parse (AttributeTree.wires m.keyTrees) = .ok keys ∧
      AttributeSet.parse (AttributeTree.wires m.maskTrees) = .ok masks ∧
      parse keys (some masks) = .ok m.reread := by
  obtain ⟨keys, hkeys, hkeyEntries⟩ := exists_parse_wires_map FlowKey.type_keyTree hwf.counting
    m.pairwise_counting hkeys
  obtain ⟨masks, hmasks, hmaskEntries⟩ := exists_parse_wires_map FlowKey.type_maskTree hwf.counting
    m.pairwise_counting hmasks
  refine ⟨keys, masks, hkeys, hmasks, ?_⟩
  rw [parse, entries_of_keys hkeyEntries hmaskEntries]
  exact addEach_map hwf.counting (fun k hk => (mem_counting.1 hk).2) empty

/-! ### What comes back -/

theorem keys_foldl_add (m : Match) (l : List FlowKey) :
    (l.foldl add m).keys =
      (l.map fun k => (k.type, k)).foldl (fun t e => t.insert e.1 e.2) m.keys := by
  induction l generalizing m with
  | nil => rfl
  | cons k rest ih => exact ih (m.add k)

/-- A match that is made of keys in order has just these. -/
theorem toList_ofList (hl : l.Pairwise fun a b => a.type < b.type) : (ofList l).toList = l := by
  have hkeys : (ofList l).keys = Table.ofList (l.map fun k => (k.type, k)) :=
    keys_foldl_add empty l
  have hsorted : (l.map fun k => (k.type, k)).Pairwise fun a b => a.1 < b.1 :=
    List.pairwise_map.2 hl
  rw [toList, hkeys, Table.values, Table.entries_ofList hsorted, List.map_map]
  exact List.map_id l

/-- **The keys that come back are those that count**, each of them as it comes back. -/
theorem toList_reread (m : Match) : m.reread.toList = m.counting.map FlowKey.reread := by
  refine toList_ofList ?_
  rw [List.pairwise_map]
  simpa only [FlowKey.type_reread] using m.pairwise_counting

/-- A match has one key of each type. -/
theorem eq_of_type_eq {k k' : FlowKey} (hk : k ∈ m.toList) (hk' : k' ∈ m.toList)
    (htype : k.type = k'.type) : k = k' := by
  have h := get?_eq_some_iff.2 ⟨hk, rfl⟩
  rw [htype, get?_eq_some_iff.2 ⟨hk', rfl⟩] at h
  exact (Option.some.inj h).symm

theorem covers_reread (m : Match) : covers m m.reread = true := by
  rw [covers, List.all_eq_true]
  intro k hk
  cases hl : m.reread.get? k.type with
  | none =>
    cases hcounts : k.isIgnored with
    | true => rfl
    | false =>
      -- A key that counts would have come back.
      have hmem : k.reread ∈ m.reread.toList := by
        rw [toList_reread]
        exact List.mem_map_of_mem (mem_counting.2 ⟨hk, hcounts⟩)
      rw [get?_eq_some_iff.2 ⟨hmem, k.type_reread⟩] at hl
      cases hl
  | some l =>
    obtain ⟨hmem, htype⟩ := get?_eq_some_iff.1 hl
    rw [toList_reread, List.mem_map] at hmem
    obtain ⟨k', hk', rfl⟩ := hmem
    rw [FlowKey.type_reread] at htype
    obtain rfl := eq_of_type_eq (mem_counting.1 hk').1 hk htype
    exact k'.agrees_reread

theorem reread_covers (m : Match) : covers m.reread m = true := by
  rw [covers, List.all_eq_true]
  intro l hl
  rw [toList_reread, List.mem_map] at hl
  obtain ⟨k, hk, rfl⟩ := hl
  rw [get?_eq_some_iff.2 ⟨(mem_counting.1 hk).1, k.type_reread.symm⟩]
  exact k.reread_agrees

/-- **A match agrees with what comes back of it.** -/
theorem agrees_reread (m : Match) : m.agrees m.reread = true := by
  rw [agrees, covers_reread, reread_covers, Bool.and_self]

theorem reread_agrees (m : Match) : m.reread.agrees m = true := by
  rw [agrees, covers_reread, reread_covers, Bool.and_self]

end Match

end VSwitch
