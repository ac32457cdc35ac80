import VSwitch.Proofs.Encoding
import VSwitch.Proofs.Flow.Fields

/-!
# Tunnel metadata on the wire and back

The fields of a tunnel are written one by one, each of them only if it is said to be there, and read
back as a set.
-/

namespace VSwitch

namespace TunnelFields

/-- The fields that are written: of the flags only those that are set. -/
def written (f : TunnelFields) (p : TunnelPresence) : TunnelPresence :=
  { p with
    dontFragment := p.dontFragment && f.dontFragment
    checksum := p.checksum && f.checksum }

/-- The types and values of the fields that are written. -/
def entries (f : TunnelFields) (p : TunnelPresence) : List (UInt16 × Bytes) :=
  (if p.id then [(field .id, f.id.val)] else []) ++
  (if p.source then [(field .source, f.source.val)] else []) ++
  (if p.destination then [(field .destination, f.destination.val)] else []) ++
  (if p.tos then [(field .tos, [f.tos])] else []) ++
  (if p.ttl then [(field .ttl, [f.ttl])] else []) ++
  (if p.dontFragment && f.dontFragment then [(field .dontFragment, [])] else []) ++
  (if p.checksum && f.checksum then [(field .checksum, [])] else [])

variable (f : TunnelFields) (p : TunnelPresence)

theorem map_trees : (f.trees p).map (fun t => (t.type, t.payload)) = f.entries p := by
  simp only [trees, entries, List.map_append, apply_ite (List.map _), List.map_cons, List.map_nil,
    AttributeTree.u8, AttributeTree.flag, AttributeTree.type, AttributeTree.payload]

/-- Every field is written as a leaf of a few octets. -/
theorem exists_leaf_of_mem_trees {t : AttributeTree} (ht : t ∈ f.trees p) :
    ∃ type value, t = .leaf type value ∧ type < 0x4000 ∧ value.length ≤ 8 := by
  have hid := f.id.2
  have hsource := f.source.2
  have hdestination := f.destination.2
  simp only [trees, List.mem_append, List.mem_ite_nil_right, List.mem_singleton, or_assoc] at ht
  rcases ht with ⟨-, rfl⟩ | ⟨-, rfl⟩ | ⟨-, rfl⟩ | ⟨-, rfl⟩ | ⟨-, rfl⟩ | ⟨-, rfl⟩ | ⟨-, rfl⟩ <;>
    exact ⟨_, _, rfl, by simp [field, Vocabulary.number], by simp [*]⟩

theorem fitAll_trees : AttributeTree.FitAll (f.trees p) := by
  rw [AttributeTree.fitAll_iff]
  rintro t ht
  obtain ⟨type, value, rfl, -, hvalue⟩ := f.exists_leaf_of_mem_trees p ht
  simp only [AttributeTree.Fits, AttributeHeader.size, Draft.maxAttributeLength]
  omega

theorem type_lt_of_mem_trees {t : AttributeTree} (ht : t ∈ f.trees p) : t.type < 0x4000 := by
  obtain ⟨type, value, rfl, htype, -⟩ := f.exists_leaf_of_mem_trees p ht
  exact htype

/-- The set of the fields that are written. -/
theorem attributes_wires_trees : AttributeSet.parse (AttributeTree.wires (f.trees p)) =
    .ok (Table.ofList (f.entries p)) := by
  rw [AttributeTree.attributes_wires (f.fitAll_trees p) fun _ => f.type_lt_of_mem_trees p,
    map_trees]

/-! ### Reading the fields -/

theorem getD_ite_some {α : Type} (c : Bool) (a b : α) :
    (if c = true then some a else none).getD b = if c = true then a else b := by
  cases c <;> rfl

theorem isSome_ite_some {α : Type} (c : Bool) (a : α) :
    (if c = true then some a else none).isSome = c := by
  cases c <;> rfl

/-- What is found in the set of the fields that are written. -/
theorem get?_entries (k : UInt16) : (Table.ofList (f.entries p)).get? k =
    if (p.checksum && f.checksum) = true ∧ field .checksum = k then some []
    else if (p.dontFragment && f.dontFragment) = true ∧ field .dontFragment = k then some []
    else if p.ttl = true ∧ field .ttl = k then some [f.ttl]
    else if p.tos = true ∧ field .tos = k then some [f.tos]
    else if p.destination = true ∧ field .destination = k then some f.destination.val
    else if p.source = true ∧ field .source = k then some f.source.val
    else if p.id = true ∧ field .id = k then some f.id.val
    else none := by
  simp only [entries, Table.ofList, Table.foldl_insert_append, Table.get?_foldl_insert_ite,
    Table.get?_empty]

/-- **What is read of a tunnel is what was written**: the fields that were said to be there, and
zeros in place of the others. -/
theorem ofAttributes_entries :
    ofAttributes (Table.ofList (f.entries p)) = .ok (f.restrict p, f.written p) := by
  have hget := f.get?_entries p
  have hid : (Table.ofList (f.entries p)).get? (field .id) =
      if p.id = true then some f.id.val else none := by
    rw [hget]
    simp [field, Vocabulary.number]
  have hsource : (Table.ofList (f.entries p)).get? (field .source) =
      if p.source = true then some f.source.val else none := by
    rw [hget]
    simp [field, Vocabulary.number]
  have hdestination : (Table.ofList (f.entries p)).get? (field .destination) =
      if p.destination = true then some f.destination.val else none := by
    rw [hget]
    simp [field, Vocabulary.number]
  have htos : (Table.ofList (f.entries p)).get? (field .tos) =
      if p.tos = true then some [f.tos] else none := by
    rw [hget]
    simp [field, Vocabulary.number]
  have httl : (Table.ofList (f.entries p)).get? (field .ttl) =
      if p.ttl = true then some [f.ttl] else none := by
    rw [hget]
    simp [field, Vocabulary.number]
  have hfragment : (Table.ofList (f.entries p)).get? (field .dontFragment) =
      if (p.dontFragment && f.dontFragment) = true then some [] else none := by
    rw [hget]
    simp [field, Vocabulary.number]
  have hchecksum : (Table.ofList (f.entries p)).get? (field .checksum) =
      if (p.checksum && f.checksum) = true then some [] else none := by
    rw [hget]
    simp [field, Vocabulary.number]
  refine ofAttributes_eq_ok_iff.2 ⟨⟨?_, ?_, ?_, ?_, ?_, ?_, ?_⟩, ?_⟩
  · rw [hid, getD_ite_some, restrict, apply_ite Subtype.val]
    rfl
  · rw [hsource, getD_ite_some, restrict, apply_ite Subtype.val]
    rfl
  · rw [hdestination, getD_ite_some, restrict, apply_ite Subtype.val]
    rfl
  · rw [htos, getD_ite_some, restrict]
    split <;> rfl
  · rw [httl, getD_ite_some, restrict]
    split <;> rfl
  · rw [Table.contains, hfragment, isSome_ite_some, restrict]
  · rw [Table.contains, hchecksum, isSome_ite_some, restrict]
  · simp only [found, Table.contains, hid, hsource, hdestination, htos, httl, hfragment,
      hchecksum, isSome_ite_some]
    rfl

/-- The octets of the fields of a tunnel are read as these fields. -/
theorem parse_wires_trees : parse (AttributeTree.wires (f.trees p)) =
    .ok (f.restrict p, f.written p) := by
  rw [parse, attributes_wires_trees]
  exact f.ofAttributes_entries p

end TunnelFields

end VSwitch
