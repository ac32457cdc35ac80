import Mathlib
import VSwitch.Proofs.Flow.Asking

/-!
# Exact keys

What comes without masks is meant as it is: every bit of a value counts. So keys are read otherwise
than those of a flow, and what is read can be said without regard to how it is done: one exact key
for each attribute, of its type and with its value.

* `VSwitch.FlowKey.IsExactly` says so of one key, and `VSwitch.FlowKey.parse_exact_eq_ok_iff` that
  just this key is read;
* `VSwitch.Match.parse_none_eq_ok_iff` says so of a match;
* `VSwitch.Match.fits_keyTrees`: the values of a match are few and short, so they can be written;
* `VSwitch.Match.parse_none_keyTrees`: a match of exact keys comes back from its values as it was,
  those flags of a tunnel included that are not set and not written.
-/

namespace VSwitch

/-! ### One key -/

namespace FlowKey

/-- Every bit of a key counts. -/
def IsExact : FlowKey → Prop
  | .plain b | .inPort b | .ethernet b => b.mask.areAll 0xFF = true
  | .tunnel t => t.mask = .ones

instance decidableIsExact : (k : FlowKey) → Decidable k.IsExact
  | .plain b | .inPort b | .ethernet b => inferInstanceAs (Decidable (b.mask.areAll 0xFF = true))
  | .tunnel t => inferInstanceAs (Decidable (t.mask = .ones))

/-- The value of a key is what the octets of an attribute say. -/
def Holds : FlowKey → Bytes → Prop
  | .plain b, value | .inPort b, value | .ethernet b, value => b.key = value
  | .tunnel t, value => ∃ presence, TunnelFields.parse value = .ok (t.key, presence)

/-- A key is what an attribute with a type and a value says where there are no masks. -/
structure IsExactly (k : FlowKey) (number : UInt16) (value : Bytes) : Prop where
  wellFormed : k.WellFormed
  typeNumber_eq : k.typeNumber = number
  isExact : k.IsExact
  holds : k.Holds value

variable {k : FlowKey} {number : UInt16} {value : Bytes}

theorem typeNumber_of_type (h : k.type = Vocabulary.ofNumber number) : k.typeNumber = number := by
  rw [typeNumber, h, Vocabulary.number_ofNumber]

/-- The layout of a key that has the shape of its type is that of the type. -/
theorem WellFormed.layout_eq (h : k.WellFormed) : k.type.layout? = some k.layout := by
  cases h with
  | plain layout length => rw [FlowKey.layout, length, ← layout, type]
  | inPort layout | ethernet layout => exact layout
  | tunnel t => rfl

/-- Every bit of a key counts exactly if its mask is all ones. -/
theorem WellFormed.isExact_iff (h : k.WellFormed) : k.IsExact ↔ k.mask = k.layout.ones := by
  have hoctets : ∀ {b : MaskedBytes} {n : Nat}, b.key.length = n →
      (b.mask.areAll 0xFF = true ↔ KeyValue.octets b.mask = .octets (List.replicate n 0xFF)) := by
    rintro b n rfl
    constructor
    · intro hones
      rw [← b.length_mask, ← Bytes.eq_replicate_of_areAll hones]
    · intro hmask
      rw [KeyValue.octets.inj hmask]
      exact Bytes.areAll_replicate _ _
  cases h with
  | plain layout length => exact hoctets rfl
  | inPort layout length | ethernet layout length => exact hoctets length
  | tunnel t => exact ⟨congrArg KeyValue.fields, KeyValue.fields.inj⟩

/-- The octets of an attribute say what the value of a key is exactly if they are this value. -/
theorem WellFormed.holds_iff (h : k.WellFormed) : k.Holds value ↔ k.layout.Reads value k.value := by
  have hoctets : ∀ {b : MaskedBytes} {layout : KeyLayout}, layout.length? = some b.key.length →
      (b.key = value ↔ layout.Reads value (.octets b.key)) := by
    intro b layout hlength
    rw [KeyLayout.reads_octets_iff hlength]
    constructor
    · rintro rfl
      exact ⟨rfl, rfl⟩
    · rintro ⟨-, hvalue⟩
      exact KeyValue.octets.inj hvalue
  cases h with
  | plain layout length => exact hoctets rfl
  | inPort layout length | ethernet layout length => exact hoctets (congrArg some length.symm)
  | tunnel t =>
    rw [Holds, layout, FlowKey.value, KeyLayout.reads_tunnel_iff]
    constructor
    · rintro ⟨p, hparse⟩
      exact ⟨_, p, rfl, hparse⟩
    · rintro ⟨f, p, hf, hparse⟩
      exact ⟨p, by rw [KeyValue.fields.inj hf, hparse]⟩

/-- **A key is read without a mask** exactly if it is what the attribute says. -/
theorem parse_exact_eq_ok_iff :
    FlowKey.parse number (some value) .exact = .ok k ↔ k.IsExactly number value := by
  obtain ⟨keys, hget⟩ : ∃ keys : AttributeSet, keys.get? number = some value :=
    ⟨Table.empty.insert number value, by rw [Table.get?_insert, if_pos rfl]⟩
  have hasked : FlowKey.parse number (some value) .exact = .ok k ↔
      k.IsAsked keys none number := by
    rw [← hget, ← Match.maskSource_none number]
    exact parse_eq_ok_iff
  constructor
  · intro h
    have hwf := wellFormed_of_parse h
    obtain ⟨htype, -, hmask, hkey, -⟩ := hasked.1 h
    exact ⟨hwf, typeNumber_of_type htype, hwf.isExact_iff.2 (KeyLayout.resolves_none_iff.1 hmask),
      hwf.holds_iff.2 (hkey value hget)⟩
  · rintro ⟨hwf, rfl, hexact, hholds⟩
    refine hasked.2 ⟨(KeyType.ofNumber_number hwf.layout_eq).symm, hwf.layout_eq,
      KeyLayout.resolves_none_iff.2 (hwf.isExact_iff.1 hexact), fun key h => ?_, fun h => ?_⟩
    · rw [← Option.some.inj (hget.symm.trans h)]
      exact hwf.holds_iff.1 hholds
    · rw [hget] at h
      cases h

end FlowKey

/-! ### A match -/

namespace Match

variable {m m' : Match}

theorem eq_of_toList_eq (h : m.toList = m'.toList) : m = m' :=
  eq_of_mem_toList_iff fun k => by rw [h]

/-- A match is made of its keys. -/
theorem ofList_toList (m : Match) : ofList m.toList = m :=
  eq_of_toList_eq (toList_ofList m.pairwise_toList)

/-- Keys are read one after the other. -/
theorem addEach_eq_ok_iff {l : List Entry} : m.addEach l = .ok m' ↔
    ∃ keys, List.Forall₂ (fun e k => FlowKey.parse e.number e.key? e.source = .ok k) l keys ∧
      keys.foldl add m = m' := by
  induction l generalizing m with
  | nil => simp [addEach]
  | cons e rest ih =>
    rw [addEach, bind_eq_ok_iff]
    simp only [ih]
    constructor
    · rintro ⟨k, hk, keys, hkeys, hm'⟩
      exact ⟨k :: keys, .cons hk hkeys, hm'⟩
    · rintro ⟨_, hkeys, hm'⟩
      obtain ⟨k, keys, hk, hrest, rfl⟩ := List.forall₂_cons_left_iff.1 hkeys
      exact ⟨k, hk, keys, hrest, hm'⟩

/-- Keys that are what the entries of a set say come in the order of their types. -/
theorem pairwise_of_forall₂ {s : AttributeSet} {l : List FlowKey}
    (h : List.Forall₂ (fun e k => k.IsExactly e.1 e.2) s.entries l) :
    l.Pairwise fun a b => a.type < b.type := by
  have hwf : ∀ k ∈ l, k.WellFormed :=
    ((List.forall₂_and_left _ _).1 (h.flip.imp fun _ _ hek => ⟨hek.wellFormed, hek⟩)).1
  have hnumbers : l.map FlowKey.typeNumber = s.entries.map Prod.fst := by
    refine List.forall₂_eq_eq_eq ▸ ?_
    rw [List.forall₂_map_left_iff, List.forall₂_map_right_iff]
    exact h.flip.imp fun _ _ hek => hek.typeNumber_eq
  have hlt : l.Pairwise fun a b => a.typeNumber < b.typeNumber := by
    rw [← List.pairwise_map (f := FlowKey.typeNumber), hnumbers, List.pairwise_map]
    exact s.increasing
  refine hlt.imp_of_mem fun {a b} ha hb hab => ?_
  change a.type.rank < b.type.rank
  rwa [(hwf a ha).rank_type, (hwf b hb).rank_type, ← UInt16.lt_iff_toNat_lt]

/-- **A match is read without masks** exactly if its keys are what the attributes say. -/
theorem parse_none_eq_ok_iff {s : AttributeSet} : parse s none = .ok m ↔
    List.Forall₂ (fun e k => k.IsExactly e.1 e.2) s.entries m.toList := by
  have hentries : entries s none = s.entries.map fun e => ⟨e.1, some e.2, .exact⟩ :=
    List.append_nil _
  rw [parse, hentries, addEach_eq_ok_iff]
  simp only [List.forall₂_map_left_iff, FlowKey.parse_exact_eq_ok_iff]
  constructor
  · rintro ⟨keys, hkeys, rfl⟩
    have hlist : (ofList keys).toList = keys := toList_ofList (pairwise_of_forall₂ hkeys)
    rw [ofList] at hlist
    rwa [hlist]
  · intro hkeys
    exact ⟨m.toList, hkeys, m.ofList_toList⟩

end Match

/-! ### The values on the wire -/

/-- Attributes with short values make few octets. -/
theorem AttributeTree.length_wires_le {trees : List AttributeTree} {n : Nat}
    (h : ∀ t ∈ trees, t.payload.length ≤ n) :
    (wires trees).length ≤ trees.length * (AttributeHeader.size + n + 3) := by
  induction trees with
  | nil => simp
  | cons t rest ih =>
    have ht := h t List.mem_cons_self
    have hrest := ih fun u hu => h u (List.mem_cons_of_mem t hu)
    have hblock : align4 (AttributeHeader.size + t.payload.length) ≤
        AttributeHeader.size + n + 3 := by
      simp only [align4]
      omega
    rw [wires_cons, List.length_append, Attribute.length_block, List.length_cons, Nat.succ_mul]
    omega

namespace TunnelFields

variable (f : TunnelFields)

/-- A tunnel has seven fields. -/
theorem length_trees_le (p : TunnelPresence) : (f.trees p).length ≤ 7 := by
  have hone : ∀ (c : Bool) (t : AttributeTree), (if c = true then [t] else []).length ≤ 1 := by
    intro c t
    cases c <;> simp
  simp only [trees, List.length_append]
  have hid := hone p.id (.leaf (field .id) f.id.val)
  have hsource := hone p.source (.leaf (field .source) f.source.val)
  have hdestination := hone p.destination (.leaf (field .destination) f.destination.val)
  have htos := hone p.tos (.u8 (field .tos) f.tos)
  have httl := hone p.ttl (.u8 (field .ttl) f.ttl)
  have hfragment := hone (p.dontFragment && f.dontFragment) (.flag (field .dontFragment))
  have hchecksum := hone (p.checksum && f.checksum) (.flag (field .checksum))
  omega

theorem length_wires_trees_le (p : TunnelPresence) :
    (AttributeTree.wires (f.trees p)).length ≤ 105 := by
  have hcount := f.length_trees_le p
  have hshort : ∀ t ∈ f.trees p, t.payload.length ≤ 8 := by
    intro t ht
    obtain ⟨type, value, rfl, -, hvalue⟩ := f.exists_leaf_of_mem_trees p ht
    rwa [AttributeTree.payload]
  exact Nat.le_trans (AttributeTree.length_wires_le hshort) (Nat.mul_le_mul_right _ hcount)

/-- Under a mask of nothing but ones, what is left out is not set anyway. -/
theorem restrict_nonzero_ones : f.restrict ones.nonzero = f := rfl

end TunnelFields

theorem KeyType.rank_lt {type : KeyType} {layout : KeyLayout} (h : type.layout? = some layout) :
    type.rank < 32 := by
  cases type <;> first | decide | simp [layout?] at h

theorem KeyType.size_bounds {type : KeyType} {size : Nat} (h : type.layout? = some (.plain size)) :
    0 < size ∧ size ≤ 40 := by
  cases type <;> simp [layout?] at h <;> omega

namespace FlowKey

variable {k : FlowKey}

/-- The octets of a key are some, but not many. -/
theorem WellFormed.length_bounds (h : k.WellFormed) {b : MaskedBytes}
    (hb : k.maskedBytes? = some b) : 0 < b.key.length ∧ b.key.length ≤ 40 := by
  cases h with
  | plain layout length =>
    obtain rfl := Option.some.inj hb
    rw [length]
    exact KeyType.size_bounds layout
  | inPort layout length =>
    obtain rfl := Option.some.inj hb
    omega
  | ethernet layout length =>
    obtain rfl := Option.some.inj hb
    rw [length]
    decide
  | tunnel t => cases hb

/-- The value of a key is written as not many octets, each attribute in it as few. -/
theorem WellFormed.fits_keyTree (h : k.WellFormed) :
    k.keyTree.Fits ∧ k.keyTree.payload.length ≤ 105 := by
  have hoctets : ∀ b, k.maskedBytes? = some b → k.keyTree = .leaf k.typeNumber b.key →
      k.keyTree.Fits ∧ k.keyTree.payload.length ≤ 105 := by
    intro b hb hleaf
    have hlength := h.length_bounds hb
    rw [hleaf, AttributeTree.Fits, AttributeTree.payload, AttributeHeader.size,
      Draft.maxAttributeLength]
    omega
  cases h with
  | plain | inPort | ethernet => exact hoctets _ rfl rfl
  | tunnel t =>
    have hlength := t.key.length_wires_trees_le t.mask.nonzero
    rw [keyTree, AttributeTree.Fits, AttributeTree.payload, AttributeHeader.size,
      Draft.maxAttributeLength]
    exact ⟨⟨t.key.fitAll_trees _, by omega⟩, hlength⟩

/-- A key of which every bit counts is not ignored. -/
theorem WellFormed.counts_of_isExact (h : k.WellFormed) (hexact : k.IsExact) :
    k.isIgnored = false := by
  have hoctets : ∀ b, k.maskedBytes? = some b → b.mask.areAll 0xFF = true →
      b.isIgnored = false := by
    intro b hb hones
    have hlength := (h.length_bounds hb).1
    rw [← b.length_mask] at hlength
    obtain ⟨m, rest, hmask⟩ := List.exists_cons_of_length_pos hlength
    rw [Bytes.areAll, hmask, List.all_cons, Bool.and_eq_true, beq_iff_eq] at hones
    rw [MaskedBytes.isIgnored, Bytes.areAll, hmask, List.all_cons, hones.1]
    rfl
  cases h with
  | plain | inPort => exact hoctets _ rfl hexact
  | ethernet => rfl
  | tunnel t =>
    rw [isIgnored, TunnelKey.isIgnored, show t.mask = .ones from hexact]
    decide

theorem IsExact.reread_eq (h : k.IsExact) : k.reread = k := by
  cases k with
  | plain b | inPort b | ethernet b => rfl
  | tunnel t =>
    have hones : t.mask = .ones := h
    rw [reread, hones, TunnelFields.restrict_nonzero_ones, ← hones]

/-- An exact key is what the attribute that it is written as says. -/
theorem WellFormed.isExactly_keyTree (h : k.WellFormed) (hexact : k.IsExact) :
    k.IsExactly k.typeNumber k.keyTree.payload := by
  refine ⟨h, rfl, hexact, ?_⟩
  cases k with
  | plain b | inPort b | ethernet b =>
    rw [keyTree, AttributeTree.payload]
    rfl
  | tunnel t =>
    have hones : t.mask = .ones := hexact
    refine ⟨t.key.written TunnelFields.ones.nonzero, ?_⟩
    rw [keyTree, AttributeTree.payload, TunnelFields.parse_wires_trees, hones,
      TunnelFields.restrict_nonzero_ones]

end FlowKey

namespace Match

variable {m : Match}

/-- Every bit of every key of the match counts. -/
def IsExact (m : Match) : Prop := ∀ k ∈ m.toList, k.IsExact

/-- There are no more keys than types. -/
theorem WellFormed.length_counting_le (h : m.WellFormed) : m.counting.length ≤ 32 := by
  have hnodup : (m.counting.map fun k => k.type.rank).Nodup := by
    rw [List.Nodup, List.pairwise_map]
    exact m.pairwise_counting.imp fun {a b} hlt =>
      Nat.ne_of_lt (show a.type.rank < b.type.rank from hlt)
  have hsubset : (m.counting.map fun k => k.type.rank) ⊆ List.range 32 := by
    intro n hn
    obtain ⟨k, hk, rfl⟩ := List.mem_map.1 hn
    obtain ⟨_, hlayout⟩ := (h.counting k hk).exists_layout
    exact List.mem_range.2 (KeyType.rank_lt hlayout)
  have hlength := (hnodup.subperm hsubset).length_le
  rwa [List.length_map, List.length_range] at hlength

/-- **The values of a match can be written**, one attribute each and all of them in one. -/
theorem fits_keyTrees (h : m.WellFormed) (type : UInt16) :
    (AttributeTree.node type m.keyTrees).Fits ∧ (AttributeTree.wires m.keyTrees).length ≤ 3584 := by
  have hfits : AttributeTree.FitAll m.keyTrees := by
    rw [AttributeTree.fitAll_iff]
    intro t ht
    obtain ⟨k, hk, rfl⟩ := List.mem_map.1 ht
    exact (h.counting k hk).fits_keyTree.1
  have hshort : ∀ t ∈ m.keyTrees, t.payload.length ≤ 105 := by
    intro t ht
    obtain ⟨k, hk, rfl⟩ := List.mem_map.1 ht
    exact (h.counting k hk).fits_keyTree.2
  have hcount : m.keyTrees.length ≤ 32 := by
    rw [keyTrees, List.length_map]
    exact h.length_counting_le
  have hbound : (AttributeTree.wires m.keyTrees).length ≤ 3584 :=
    Nat.le_trans (AttributeTree.length_wires_le hshort) (Nat.mul_le_mul_right _ hcount)
  rw [AttributeTree.Fits, AttributeHeader.size, Draft.maxAttributeLength]
  exact ⟨⟨hfits, by omega⟩, hbound⟩

theorem IsExact.counting_eq (h : m.IsExact) (hwf : m.WellFormed) : m.counting = m.toList := by
  rw [counting, List.filter_eq_self]
  intro k hk
  rw [(hwf k hk).counts_of_isExact (h k hk)]
  rfl

/-- A match of exact keys comes back as it was, too, when it is written with its masks. -/
theorem IsExact.reread_eq (h : m.IsExact) (hwf : m.WellFormed) : m.reread = m := by
  have hkeys : m.toList.map FlowKey.reread = m.toList := by
    refine (List.map_congr_left fun k hk => ?_).trans (List.map_id _)
    exact (h k hk).reread_eq
  refine eq_of_toList_eq ?_
  rw [toList_reread, h.counting_eq hwf, hkeys]

/-- **A match of exact keys comes back** when its values are read without masks. -/
theorem parse_none_keyTrees (hwf : m.WellFormed) (hexact : m.IsExact) :
    ∃ s, AttributeSet.parse (AttributeTree.wires m.keyTrees) = .ok s ∧ parse s none = .ok m := by
  have hfits : AttributeTree.FitAll m.keyTrees := (fits_keyTrees hwf 0).1.1
  obtain ⟨s, hs, hentries⟩ := exists_parse_wires_map FlowKey.type_keyTree hwf.counting
    m.pairwise_counting hfits
  refine ⟨s, hs, parse_none_eq_ok_iff.2 ?_⟩
  rw [hentries, hexact.counting_eq hwf, List.forall₂_map_left_iff]
  exact List.forall₂_same.2 fun k hk => (hwf k hk).isExactly_keyTree (hexact k hk)

end Match

end VSwitch
