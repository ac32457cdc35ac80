import VSwitch.Proofs.Flow.Agreement

/-!
# Canonical matches

What a match means is a finite map: each type of key that counts is mapped to its mask and to the
value under this mask. The canonical form has nothing else in it, neither keys that count for
nothing nor bits that no mask selects. If the keys of two matches have the shape of their types, the
matches agree exactly if they have the same canonical form.

* `VSwitch.FlowKey.Shaped` says that a key is of the form and of the length that its type asks for;
* `VSwitch.Match.canonical` is the canonical form, and `VSwitch.Match.get?_canonical` looks into it;
* `VSwitch.Match.agrees_iff_canonical_eq` is the result.
-/

namespace VSwitch

/-! ### The shape of a key -/

/-- Number of octets of keys of this shape, but for the tunnel. -/
def KeyLayout.length? : KeyLayout → Option Nat
  | .plain size => some size
  | .inPort => some 4
  | .ethernet => some EthernetPair.size
  | .tunnel => none

namespace FlowKey

variable {k l : FlowKey}

/-- The shape that a key has by its form. -/
def layout : FlowKey → KeyLayout
  | .plain b => .plain b.key.length
  | .inPort _ => .inPort
  | .ethernet _ => .ethernet
  | .tunnel _ => .tunnel

/-- A key has the shape of its type: the type has a layout, the form of the key is that of the
layout, and value and mask have the number of octets that the layout asks for. The fields of a
tunnel may be any. -/
structure Shaped (k : FlowKey) : Prop where
  layout : k.type.layout? = some k.layout
  length : k.length? = k.layout.length?

instance (k : FlowKey) : Decidable k.Shaped :=
  decidable_of_iff (k.type.layout? = some k.layout ∧ k.length? = k.layout.length?)
    ⟨fun h => ⟨h.1, h.2⟩, fun h => ⟨h.layout, h.length⟩⟩

/-- Keys of one type that have its shape have the same one. -/
theorem Shaped.layout_eq (hk : k.Shaped) (hl : l.Shaped) (htype : k.type = l.type) :
    k.layout = l.layout := by
  have hlayout := hk.layout
  rw [htype, hl.layout] at hlayout
  exact (Option.some.inj hlayout).symm

theorem Shaped.length_eq (hk : k.Shaped) (hl : l.Shaped) (htype : k.type = l.type) :
    k.length? = l.length? := by
  rw [hk.length, hl.length, hk.layout_eq hl htype]

theorem isEthernet_eq (k : FlowKey) : k.isEthernet = (k.layout == .ethernet) := by
  cases k <;> rfl

/-- What a key adds to the canonical form of a match. -/
def contribution (k : FlowKey) : Option Selection :=
  if k.isIgnored then none else some k.selection

/-- **Keys of one shape agree** exactly if they add the same to a canonical form. -/
theorem Shaped.agrees_iff (hk : k.Shaped) (hl : l.Shaped) (htype : k.type = l.type) :
    k.agrees l = true ↔ k.contribution = l.contribution := by
  have hethernet : k.isEthernet = l.isEthernet := by
    rw [isEthernet_eq, isEthernet_eq, hk.layout_eq hl htype]
  rw [FlowKey.agrees_iff, and_iff_right htype]
  constructor
  · intro hsame
    have hignored : k.isIgnored = l.isIgnored := by
      rw [isIgnored_eq, isIgnored_eq, hethernet, hsame]
    rw [contribution, contribution, hignored, hsame]
  · intro hsame
    by_cases hkIgnored : k.isIgnored = true
    · by_cases hlIgnored : l.isIgnored = true
      · exact (selection_eq_iff_of_isIgnored hkIgnored hlIgnored).2 (hk.length_eq hl htype)
      · rw [contribution, contribution, if_pos hkIgnored, if_neg hlIgnored] at hsame
        cases hsame
    · by_cases hlIgnored : l.isIgnored = true
      · rw [contribution, contribution, if_neg hkIgnored, if_pos hlIgnored] at hsame
        cases hsame
      · rw [contribution, contribution, if_neg hkIgnored, if_neg hlIgnored] at hsame
        exact Option.some.inj hsame

/-- A key is as good as none exactly if it adds nothing. -/
theorem isIgnored_iff (k : FlowKey) : k.isIgnored = true ↔ k.contribution = none := by
  by_cases hk : k.isIgnored = true
  · exact iff_of_true hk (if_pos hk)
  · refine iff_of_false hk ?_
    rw [contribution, if_neg hk]
    exact Option.some_ne_none _

end FlowKey

/-! ### The canonical form of a match -/

namespace Match

variable {a b m : Match}

/-- Every key of the match has the shape of its type. -/
def Shaped (m : Match) : Prop := ∀ k ∈ m.toList, k.Shaped

instance (m : Match) : Decidable m.Shaped := inferInstanceAs (Decidable (∀ k ∈ m.toList, k.Shaped))

/-- The canonical form of a match: what each key that counts selects, by its type. -/
def canonical (m : Match) : Table KeyType Selection :=
  .ofList (m.counting.map fun k => (k.type, k.selection))

/-- **The canonical form has**, at each type, what the key of this type adds to it. -/
theorem get?_canonical (m : Match) (type : KeyType) :
    m.canonical.get? type = (m.get? type).bind FlowKey.contribution := by
  have hentries : m.canonical.entries = m.counting.map fun k => (k.type, k.selection) :=
    Table.entries_ofList (List.pairwise_map.2 m.pairwise_counting)
  have hiff : ∀ s, m.canonical.get? type = some s ↔
      (m.get? type).bind FlowKey.contribution = some s := by
    intro s
    rw [Table.get?_eq_some_iff, hentries, List.mem_map, Option.bind_eq_some_iff]
    constructor
    · rintro ⟨k, hk, hentry⟩
      obtain ⟨hmem, hcounts⟩ := mem_counting.1 hk
      obtain ⟨htype, hselection⟩ := Prod.mk.inj hentry
      refine ⟨k, get?_eq_some_iff.2 ⟨hmem, htype⟩, ?_⟩
      rw [FlowKey.contribution, hcounts, if_neg Bool.false_ne_true, hselection]
    · rintro ⟨k, hk, hadds⟩
      obtain ⟨hmem, rfl⟩ := get?_eq_some_iff.1 hk
      by_cases hignored : k.isIgnored = true
      · rw [FlowKey.contribution, if_pos hignored] at hadds
        cases hadds
      · rw [FlowKey.contribution, if_neg hignored] at hadds
        have hcounts : k.isIgnored = false := Bool.eq_false_iff.2 hignored
        exact ⟨k, mem_counting.2 ⟨hmem, hcounts⟩, Prod.ext rfl (Option.some.inj hadds)⟩
  exact Option.ext hiff

/-- What two matches have of a type agrees exactly if it adds the same to their canonical forms. -/
theorem agreeAt_iff (ha : a.Shaped) (hb : b.Shaped) (type : KeyType) :
    agreeAt (a.get? type) (b.get? type) = true ↔
      (a.get? type).bind FlowKey.contribution = (b.get? type).bind FlowKey.contribution := by
  cases hk : a.get? type with
  | none =>
    cases hl : b.get? type with
    | none => exact iff_of_true rfl rfl
    | some l => exact (FlowKey.isIgnored_iff l).trans eq_comm
  | some k =>
    cases hl : b.get? type with
    | none => exact FlowKey.isIgnored_iff k
    | some l =>
      obtain ⟨hkMem, hkType⟩ := get?_eq_some_iff.1 hk
      obtain ⟨hlMem, hlType⟩ := get?_eq_some_iff.1 hl
      exact (ha k hkMem).agrees_iff (hb l hlMem) (hkType.trans hlType.symm)

/-- **Matches agree exactly if they have the same canonical form**, provided that their keys have
the shapes of their types. -/
theorem agrees_iff_canonical_eq (ha : a.Shaped) (hb : b.Shaped) :
    a.agrees b = true ↔ a.canonical = b.canonical := by
  rw [agrees_iff]
  constructor
  · intro h
    refine Table.eq_of_get?_eq fun type => ?_
    rw [get?_canonical, get?_canonical]
    exact (agreeAt_iff ha hb type).1 (h type)
  · intro h type
    rw [agreeAt_iff ha hb type, ← get?_canonical, ← get?_canonical, h]

/-- A match of packets out of a tunnel by the high half of their time to live, which names addresses
that do not count. -/
def byTimeToLive (ttl : UInt8) (addresses : EthernetPair) : Match :=
  .ofList [.tunnel ⟨{ TunnelFields.ones with ttl }, { TunnelFields.zero with ttl := 0xF0 }⟩,
    .ofEthernet addresses .zero]

theorem agrees_iff_canonical_eq_byTimeToLive :
    ((byTimeToLive 0x41 .ones).add (idleMark [1, 2, 3, 4])).agrees (byTimeToLive 0x4F .zero) =
        true ∧
      (byTimeToLive 0x41 .ones).agrees (byTimeToLive 0x31 .ones) = false := by
  constructor
  · exact (agrees_iff_canonical_eq (by decide) (by decide)).2 (by decide)
  · refine Bool.eq_false_iff.2 fun hagrees => ?_
    have hsame := (agrees_iff_canonical_eq (by decide) (by decide)).1 hagrees
    exact absurd hsame (by decide)

end Match

end VSwitch
