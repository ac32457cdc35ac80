import Mathlib
import VSwitch.Proofs.Flow.Exact

/-!
# In which order keys are written

A match holds one key of each type, in the order of the types: the named ones by number, and behind
them the nameless ones, again by number. What is on the wire is the number alone. A nameless type
may have the number of a named one, and then both are written, or may have a number below that of a
named one, and then it is written behind it. Nothing else keeps the numbers on the wire from
increasing, and no match that has been read is concerned.

* `VSwitch.KeyType.rank_of_isNamed` and `VSwitch.KeyType.rank_of_not_isNamed` compare the place of
  a type with its number;
* `VSwitch.Match.wireTypes` are the numbers as a reader finds them, and `VSwitch.Match.WrittenAs`
  says that a set of attributes is written with them;
* `VSwitch.Match.increasing_iff` says when they increase;
* `VSwitch.Match.written_by_number` is the result, and `VSwitch.Match.written_twice` a match which
  has a number twice.
-/

namespace VSwitch

/-! ### Types and their numbers -/

namespace KeyType

/-- Whether a type has a name. -/
def isNamed : KeyType → Bool
  | .other _ => false
  | _ => true

/-- Named types come by number, and the others behind them. -/
theorem rank_of_isNamed {type : KeyType} (h : type.isNamed = true) :
    type.rank = (Vocabulary.number type).toNat ∧ type.rank < 21 := by
  cases type with
  | other n => cases h
  | _ => decide

theorem rank_of_not_isNamed {type : KeyType} (h : ¬ type.isNamed = true) :
    type.rank = 21 + (Vocabulary.number type).toNat := by
  cases type with
  | other n => rfl
  | _ => exact absurd rfl h

theorem isNamed_of_layout {type : KeyType} {layout : KeyLayout}
    (h : type.layout? = some layout) : type.isNamed = true := by
  cases type with
  | other n => cases h
  | _ => rfl

end KeyType

/-! ### Values and masks -/

/-- A key has the room that its mask has. -/
theorem FlowKey.fits_keyTree_iff (k : FlowKey) : k.keyTree.Fits ↔ k.maskTree.Fits := by
  cases k with
  | plain b | inPort b | ethernet b =>
    rw [keyTree, maskTree, AttributeTree.Fits, AttributeTree.Fits, b.length_mask]
  | tunnel t =>
    -- The fields of a tunnel are few and short, so they always fit.
    have hfits (f : TunnelFields) (type : UInt16) :
        (AttributeTree.node type (f.trees t.mask.nonzero)).Fits := by
      have hlength := f.length_wires_trees_le t.mask.nonzero
      rw [AttributeTree.Fits, AttributeHeader.size, Draft.maxAttributeLength]
      exact ⟨f.fitAll_trees _, by omega⟩
    exact iff_of_true (hfits t.key _) (hfits t.mask _)

namespace Match

variable {m : Match}

theorem fitAll_keyTrees_iff (m : Match) :
    AttributeTree.FitAll m.keyTrees ↔ AttributeTree.FitAll m.maskTrees := by
  rw [AttributeTree.fitAll_iff, AttributeTree.fitAll_iff, keyTrees, maskTrees,
    List.forall_mem_map, List.forall_mem_map]
  exact forall₂_congr fun k _ => k.fits_keyTree_iff

/-- The types of the keys that count, as a reader finds them: without the flag bits. -/
def wireTypes (m : Match) : List UInt16 :=
  m.counting.map fun k => k.typeNumber &&& AttributeHeader.typeMask

/-- A forest is written behind a draft, and a reader finds attributes of these types. -/
def WrittenAs (trees : List AttributeTree) (d : Draft) (types : List UInt16) : Prop :=
  ∃ octets attributes, Put.writeOn (AttributeTree.puts trees) d = .ok (d.append octets) ∧
    Attribute.parse octets = .ok attributes ∧ attributes.map Prod.fst = types

variable {d : Draft}

/-- What is written for the keys that count is read as of their types. -/
theorem writtenAs_map (hd : d.length % 4 = 0) {write : FlowKey → AttributeTree}
    (htype : ∀ k, (write k).type = k.typeNumber)
    (hfits : AttributeTree.FitAll (m.counting.map write)) :
    WrittenAs (m.counting.map write) d m.wireTypes := by
  refine ⟨_, _, (AttributeTree.writeOn_eq_ok_iff hd).2 ⟨hfits, rfl⟩,
    AttributeTree.parse_wires_masked hfits, ?_⟩
  rw [List.map_map, List.map_map, wireTypes]
  refine List.map_congr_left fun k _ => ?_
  show (write k).type &&& _ = _
  rw [htype]

/-- **Both sets are written**, as attributes of the same types, or neither is. -/
theorem writtenAs_or_error (hd : d.length % 4 = 0) (m : Match) :
    (WrittenAs m.keyTrees d m.wireTypes ∧ WrittenAs m.maskTrees d m.wireTypes) ∨
      (∃ e, Put.writeOn (AttributeTree.puts m.keyTrees) d = .error e) ∧
        ∃ e, Put.writeOn (AttributeTree.puts m.maskTrees) d = .error e := by
  have herror (trees : List AttributeTree) (h : ¬ AttributeTree.FitAll trees) :
      ∃ e, Put.writeOn (AttributeTree.puts trees) d = .error e := by
    cases hwrite : Put.writeOn (AttributeTree.puts trees) d with
    | ok d' => exact absurd ((AttributeTree.writeOn_eq_ok_iff hd).1 hwrite).1 h
    | error e => exact ⟨e, rfl⟩
  by_cases hkeys : AttributeTree.FitAll m.keyTrees
  · have hmasks := m.fitAll_keyTrees_iff.1 hkeys
    exact .inl ⟨writtenAs_map hd FlowKey.type_keyTree hkeys,
      writtenAs_map hd FlowKey.type_maskTree hmasks⟩
  · have hmasks := mt m.fitAll_keyTrees_iff.2 hkeys
    exact .inr ⟨herror _ hkeys, herror _ hmasks⟩

/-! ### The order of the numbers -/

/-- No nameless type of a key that counts has a number that a named one has or exceeds. -/
def NamelessLast (m : Match) : Prop :=
  ∀ a ∈ m.counting, ∀ b ∈ m.counting, a.type.isNamed = true → ¬ b.type.isNamed = true →
    a.typeNumber < b.typeNumber

instance decidableNamelessLast (m : Match) : Decidable m.NamelessLast :=
  inferInstanceAs (Decidable (∀ a ∈ m.counting, ∀ b ∈ m.counting, _))

/-- **The numbers on the wire increase** exactly if those of nameless types come behind all
others. -/
theorem increasing_iff (hplain : ∀ k ∈ m.counting, k.typeNumber < 0x4000) :
    m.wireTypes.Pairwise (· < ·) ↔ m.NamelessLast := by
  have hwire : m.wireTypes = m.counting.map FlowKey.typeNumber := by
    refine List.map_congr_left fun k hk => ?_
    exact AttributeHeader.and_typeMask_of_lt (hplain k hk)
  rw [hwire, List.pairwise_map]
  constructor
  · intro h a ha b hb hnamed hnameless
    have hbefore : a.type.rank < b.type.rank := by
      have hlast := (KeyType.rank_of_isNamed hnamed).2
      rw [KeyType.rank_of_not_isNamed hnameless]
      omega
    -- Of two keys that count, the one of the lower type is the one written first.
    have hsame : ∀ x ∈ m.counting, x.type.rank < x.type.rank → x.typeNumber < x.typeNumber :=
      fun x _ hlt => absurd hlt (Nat.lt_irrefl _)
    have hfirst : m.counting.Pairwise fun x y =>
        x.type.rank < y.type.rank → x.typeNumber < y.typeNumber :=
      h.imp fun {x y} (hlt : x.typeNumber < y.typeNumber) _ => hlt
    have hlater : m.counting.Pairwise fun x y =>
        y.type.rank < x.type.rank → y.typeNumber < x.typeNumber :=
      m.pairwise_counting.imp fun hlt hgt => absurd hgt (Nat.lt_asymm hlt)
    exact List.Pairwise.forall_of_forall_of_flip hsame hfirst hlater ha hb hbefore
  · intro h
    refine m.pairwise_counting.imp_of_mem fun {a b} ha hb hlt => ?_
    have hrank : a.type.rank < b.type.rank := hlt
    show a.typeNumber < b.typeNumber
    by_cases hnamed : a.type.isNamed = true
    · by_cases hnamed' : b.type.isNamed = true
      · rw [(KeyType.rank_of_isNamed hnamed).1, (KeyType.rank_of_isNamed hnamed').1] at hrank
        exact UInt16.lt_iff_toNat_lt.2 hrank
      · exact h a ha b hb hnamed hnamed'
    · have hbehind := KeyType.rank_of_not_isNamed hnamed
      by_cases hnamed' : b.type.isNamed = true
      · have := (KeyType.rank_of_isNamed hnamed').2
        omega
      · rw [hbehind, KeyType.rank_of_not_isNamed hnamed'] at hrank
        exact UInt16.lt_iff_toNat_lt.2 (Nat.lt_of_add_lt_add_left hrank)

/-- A match that has been read has no nameless types. -/
theorem WellFormed.increasing (h : m.WellFormed) : m.wireTypes.Pairwise (· < ·) := by
  refine (increasing_iff fun k hk => (h.counting k hk).typeNumber_lt).2 ?_
  intro a ha b hb hnamed hnameless
  obtain ⟨layout, hlayout⟩ := (h.counting b hb).exists_layout
  exact absurd (KeyType.isNamed_of_layout hlayout) hnameless

/-- **How the keys of a match are written.** The values and the masks of the keys that count are
written as attributes of the same types, or neither set is written. For types below the flag bits,
the numbers increase strictly, and so differ, exactly if no nameless type has a number that a named
one has or exceeds. They always do for a match that has been read. -/
theorem written_by_number (hd : d.length % 4 = 0) (m : Match) :
    ((WrittenAs m.keyTrees d m.wireTypes ∧ WrittenAs m.maskTrees d m.wireTypes) ∨
        (∃ e, Put.writeOn (AttributeTree.puts m.keyTrees) d = .error e) ∧
          ∃ e, Put.writeOn (AttributeTree.puts m.maskTrees) d = .error e) ∧
      ((∀ k ∈ m.counting, k.typeNumber < 0x4000) →
        (m.wireTypes.Pairwise (· < ·) ↔ m.NamelessLast)) ∧
      ∀ keys masks?, parse keys masks? = .ok m → m.wireTypes.Pairwise (· < ·) := by
  refine ⟨writtenAs_or_error hd m, increasing_iff, ?_⟩
  intro keys masks? h
  exact (wellFormed_of_parse h).increasing

/-- A key of a nameless type. -/
def strangePort (number : UInt16) : FlowKey := .plain (.exact (.other number) [2, 0, 0, 0])

theorem written_by_number_strange :
    (ofList [strangePort 21, .ofPort ⟨1⟩]).wireTypes.Pairwise (· < ·) ∧
      ¬ (ofList [strangePort 2, .ofPort ⟨1⟩]).wireTypes.Pairwise (· < ·) := by
  have hd : (Draft.start 0 0).length % 4 = 0 := rfl
  constructor
  · exact ((written_by_number hd _).2.1 (by decide)).2 (by decide)
  · intro h
    have hlast := ((written_by_number hd _).2.1 (by decide)).1 h
    exact absurd hlast (by decide)

/-- **A number may be written twice**, as the number of a named type and as that of a nameless
one. -/
theorem written_twice :
    Attribute.parse (AttributeTree.wires (ofList [.ofPort ⟨1⟩, strangePort 3]).keyTrees) =
      .ok [(3, [1, 0, 0, 0]), (3, [2, 0, 0, 0])] :=
  (AttributeTree.parse_wires_masked (by decide)).trans (by cbv)

end Match

end VSwitch
