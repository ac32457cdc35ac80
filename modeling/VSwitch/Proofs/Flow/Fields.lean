import VSwitch.Flow.Tunnel
import VSwitch.Proofs.Entries
import VSwitch.Proofs.Outcome

/-!
# The fields of a tunnel in a set of attributes

A tunnel is read field by field. What a set of attributes says about a tunnel can be said of all
fields at once: octets are as many as their field has, and where there are none they are zeros,
while a flag is set by being there.

* `VSwitch.TunnelFields.Sized` says that the octets in a set are as many as they should be, and
  `VSwitch.TunnelFields.Says` what fields a set tells of;
* `VSwitch.TunnelFields.ofAttributes_eq_ok_iff`: just these are read, and
  `VSwitch.TunnelFields.exists_ofAttributes_eq_ok_iff`: only the sizes matter to whether they are;
* `VSwitch.TunnelFields.Flawed` is what may be wrong with the octets of a tunnel, and
  `VSwitch.TunnelFields.flawed_of_parse` that nothing else is reported.
-/

namespace VSwitch

/-- Number of octets of a field. A flag has none of its own: it is set by being there, whatever it
holds. -/
def TunnelField.size? : TunnelField → Option Nat
  | .id => some 8
  | .source | .destination => some 4
  | .tos | .ttl => some 1
  | .dontFragment | .checksum | .other _ => none

namespace TunnelFields

/-- The octets of every field in a set are as many as the field has. -/
def Sized (s : AttributeSet) : Prop :=
  ∀ (t : TunnelField) (n : Nat) (value : Bytes), t.size? = some n →
    s.get? (field t) = some value → value.length = n

/-- A set of attributes tells of the fields of a tunnel. What is missing is zero. -/
structure Says (s : AttributeSet) (f : TunnelFields) : Prop where
  id : (s.get? (field .id)).getD (List.replicate 8 0) = f.id.val
  source : (s.get? (field .source)).getD (List.replicate 4 0) = f.source.val
  destination : (s.get? (field .destination)).getD (List.replicate 4 0) = f.destination.val
  tos : (s.get? (field .tos)).getD [0] = [f.tos]
  ttl : (s.get? (field .ttl)).getD [0] = [f.ttl]
  dontFragment : s.contains (field .dontFragment) = f.dontFragment
  checksum : s.contains (field .checksum) = f.checksum

/-- What may be wrong with the octets of a tunnel: they are no list of attributes, or the octets of
some field are not as many as it has. -/
inductive Flawed (octets : Bytes) : DecodeError → Prop
  /-- The list of attributes ends before its time, or within an attribute. -/
  | framing {e : DecodeError} (error : AttributeSet.parse octets = .error e) : Flawed octets e
  /-- A field is of another size. -/
  | size {s : AttributeSet} {t : TunnelField} {n : Nat} {value : Bytes}
    (attributes : AttributeSet.parse octets = .ok s) (size : t.size? = some n)
    (found : s.get? (field t) = some value) (length : value.length ≠ n) :
    Flawed octets (.badAttributeLength (field t) n value.length)

variable {s : AttributeSet} {f f' : TunnelFields}

/-- A set does not tell of two tunnels. -/
theorem Says.unique (h : Says s f) (h' : Says s f') : f = f' := by
  obtain ⟨id, source, destination, tos, ttl, dontFragment, checksum⟩ := f
  obtain ⟨id', source', destination', tos', ttl', dontFragment', checksum'⟩ := f'
  obtain rfl : id = id' := Subtype.ext (h.id.symm.trans h'.id)
  obtain rfl : source = source' := Subtype.ext (h.source.symm.trans h'.source)
  obtain rfl : destination = destination' :=
    Subtype.ext (h.destination.symm.trans h'.destination)
  obtain rfl : tos = tos' := List.head_eq_of_cons_eq (h.tos.symm.trans h'.tos)
  obtain rfl : ttl = ttl' := List.head_eq_of_cons_eq (h.ttl.symm.trans h'.ttl)
  obtain rfl : dontFragment = dontFragment' := h.dontFragment.symm.trans h'.dontFragment
  obtain rfl : checksum = checksum' := h.checksum.symm.trans h'.checksum
  rfl

/-! ### One field -/

section Field

variable {n : Nat} {t : TunnelField} {e : DecodeError}

/-- A field is read by the number of its octets. -/
theorem octets?_eq : octets? s n t =
    match s.get? (field t) with
    | none => .ok none
    | some value =>
      if h : value.length = n then .ok (some ⟨value, h⟩)
      else .error (.badAttributeLength (field t) n value.length) := by
  rw [octets?, AttributeSet.optional, Table.contains]
  cases hget : s.get? (field t) with
  | none => rfl
  | some value =>
    simp only [Option.isSome_some, if_true, AttributeSet.octets, AttributeSet.bytes, hget, bind,
      Except.bind, Octets.ofBytes?]
    by_cases hlength : value.length = n
    · simp only [dif_pos hlength]
      rfl
    · simp only [dif_neg hlength]
      rfl

theorem octets?_eq_ok_iff {o : Option (Octets n)} :
    octets? s n t = .ok o ↔ s.get? (field t) = o.map Subtype.val := by
  rw [octets?_eq]
  cases s.get? (field t) with
  | none => cases o <;> simp
  | some value =>
    dsimp only
    split
    next hlength => cases o <;> simp [Subtype.ext_iff]
    next hlength =>
      constructor
      · intro h
        cases h
      · intro h
        obtain ⟨o, rfl, rfl⟩ := Option.map_eq_some_iff.1 h.symm
        exact absurd o.2 hlength

theorem octets?_eq_error_iff : octets? s n t = .error e ↔
    ∃ value, s.get? (field t) = some value ∧ value.length ≠ n ∧
      .badAttributeLength (field t) n value.length = e := by
  rw [octets?_eq]
  cases s.get? (field t) with
  | none => simp
  | some value => by_cases hlength : value.length = n <;> simp [hlength]

/-- A field of one octet is read as its number. -/
theorem u8?_eq_map : s.u8? (field t) = (octets? s 1 t).map (Option.map fun o => o.val.headD 0) := by
  rw [AttributeSet.u8?, octets?, AttributeSet.optional, AttributeSet.optional]
  cases s.contains (field t) with
  | false => rfl
  | true =>
    simp only [if_true, AttributeSet.u8]
    cases s.octets (field t) 1 <;> rfl

theorem u8?_eq_ok_iff {v? : Option UInt8} :
    s.u8? (field t) = .ok v? ↔ s.get? (field t) = v?.map fun v => [v] := by
  simp only [u8?_eq_map, map_eq_ok_iff, octets?_eq_ok_iff]
  constructor
  · rintro ⟨_ | ⟨o, hlength⟩, hget, rfl⟩
    · exact hget
    · obtain ⟨v, rfl⟩ := List.length_eq_one_iff.1 hlength
      exact hget
  · intro hget
    cases v? with
    | none => exact ⟨none, hget, rfl⟩
    | some v => exact ⟨some ⟨[v], rfl⟩, hget, rfl⟩

theorem u8?_eq_error_iff : s.u8? (field t) = .error e ↔
    ∃ value, s.get? (field t) = some value ∧ value.length ≠ 1 ∧
      .badAttributeLength (field t) 1 value.length = e := by
  rw [u8?_eq_map, map_eq_error_iff, octets?_eq_error_iff]

end Field

/-! ### All fields -/

/-- Which fields a set has. -/
def found (s : AttributeSet) : TunnelPresence where
  id := s.contains (field .id)
  source := s.contains (field .source)
  destination := s.contains (field .destination)
  tos := s.contains (field .tos)
  ttl := s.contains (field .ttl)
  dontFragment := s.contains (field .dontFragment)
  checksum := s.contains (field .checksum)

/-- What is read of a set are the fields that it tells of. -/
theorem says_of_ofAttributes {p : TunnelPresence} (h : ofAttributes s = .ok (f, p)) :
    Says s f ∧ found s = p := by
  simp only [ofAttributes, bind_eq_ok_iff, octets?_eq_ok_iff, u8?_eq_ok_iff] at h
  obtain ⟨id, hid, source, hsource, destination, hdestination, tos, htos, ttl, httl, h⟩ := h
  have hoctets : ∀ {n : Nat} (o : Option (Octets n)),
      (o.map Subtype.val).getD (List.replicate n 0) = (o.getD (.fill n 0)).val := by
    rintro n (_ | o) <;> rfl
  have hoctet : ∀ v? : Option UInt8, (v?.map fun v => [v]).getD [0] = [v?.getD 0] := by
    rintro (_ | v) <;> rfl
  cases h
  constructor
  · exact ⟨by rw [hid, hoctets], by rw [hsource, hoctets], by rw [hdestination, hoctets],
      by rw [htos, hoctet], by rw [httl, hoctet], rfl, rfl⟩
  · simp only [found, Table.contains, hid, hsource, hdestination, htos, httl, Option.isSome_map]

/-- **The fields of a set are reported as wrong** only where one of them is of another size. -/
theorem exists_size_of_ofAttributes {e : DecodeError} (h : ofAttributes s = .error e) :
    ∃ (t : TunnelField) (n : Nat) (value : Bytes), t.size? = some n ∧
      s.get? (field t) = some value ∧ value.length ≠ n ∧
      .badAttributeLength (field t) n value.length = e := by
  rw [ofAttributes] at h
  rcases bind_eq_error_iff.1 h with h | ⟨_, -, h⟩
  · exact ⟨.id, 8, (octets?_eq_error_iff.1 h).imp fun _ h => ⟨rfl, h⟩⟩
  rcases bind_eq_error_iff.1 h with h | ⟨_, -, h⟩
  · exact ⟨.source, 4, (octets?_eq_error_iff.1 h).imp fun _ h => ⟨rfl, h⟩⟩
  rcases bind_eq_error_iff.1 h with h | ⟨_, -, h⟩
  · exact ⟨.destination, 4, (octets?_eq_error_iff.1 h).imp fun _ h => ⟨rfl, h⟩⟩
  rcases bind_eq_error_iff.1 h with h | ⟨_, -, h⟩
  · exact ⟨.tos, 1, (u8?_eq_error_iff.1 h).imp fun _ h => ⟨rfl, h⟩⟩
  rcases bind_eq_error_iff.1 h with h | ⟨_, -, h⟩
  · exact ⟨.ttl, 1, (u8?_eq_error_iff.1 h).imp fun _ h => ⟨rfl, h⟩⟩
  · cases h

/-- A set that tells of a tunnel has fields of the right sizes. -/
theorem Says.sized (h : Says s f) : Sized s := by
  intro t n value hsize hget
  have hid := h.id
  have hsource := h.source
  have hdestination := h.destination
  have htos := h.tos
  have httl := h.ttl
  cases t with
  | id =>
    cases hsize
    rw [hget, Option.getD_some] at hid
    exact hid ▸ f.id.2
  | source =>
    cases hsize
    rw [hget, Option.getD_some] at hsource
    exact hsource ▸ f.source.2
  | destination =>
    cases hsize
    rw [hget, Option.getD_some] at hdestination
    exact hdestination ▸ f.destination.2
  | tos =>
    cases hsize
    rw [hget, Option.getD_some] at htos
    exact htos ▸ rfl
  | ttl =>
    cases hsize
    rw [hget, Option.getD_some] at httl
    exact httl ▸ rfl
  | dontFragment | checksum | other => cases hsize

/-- Fields of the right sizes are read. -/
theorem Sized.exists_ofAttributes (h : Sized s) : ∃ r, ofAttributes s = .ok r := by
  cases hr : ofAttributes s with
  | ok r => exact ⟨r, rfl⟩
  | error e =>
    obtain ⟨t, n, value, hsize, hget, hne, -⟩ := exists_size_of_ofAttributes hr
    exact absurd (h t n value hsize hget) hne

/-- **Just the fields that a set tells of are read.** -/
theorem ofAttributes_eq_ok_iff {p : TunnelPresence} :
    ofAttributes s = .ok (f, p) ↔ Says s f ∧ found s = p := by
  refine ⟨says_of_ofAttributes, ?_⟩
  rintro ⟨hf, rfl⟩
  obtain ⟨⟨f', p⟩, hread⟩ := hf.sized.exists_ofAttributes
  obtain ⟨hf', rfl⟩ := says_of_ofAttributes hread
  rw [hread, hf.unique hf']

/-- A set tells of a tunnel exactly if its fields have the right sizes. -/
theorem exists_says_iff : (∃ f, Says s f) ↔ Sized s := by
  constructor
  · rintro ⟨f, h⟩
    exact h.sized
  · intro h
    obtain ⟨⟨f, p⟩, hread⟩ := h.exists_ofAttributes
    exact ⟨f, (says_of_ofAttributes hread).1⟩

/-! ### The octets of a tunnel -/

/-- **A tunnel is read of octets** exactly if they are a list of attributes that tells of it. -/
theorem parse_eq_ok_iff {octets : Bytes} {p : TunnelPresence} : parse octets = .ok (f, p) ↔
    ∃ s, AttributeSet.parse octets = .ok s ∧ Says s f ∧ found s = p := by
  simp only [parse, bind_eq_ok_iff, ofAttributes_eq_ok_iff]

/-- **Nothing else is reported** of the octets of a tunnel than what is wrong with them. -/
theorem flawed_of_parse {octets : Bytes} {e : DecodeError} (h : parse octets = .error e) :
    Flawed octets e := by
  rcases bind_eq_error_iff.1 h with h | ⟨s, hs, h⟩
  · exact .framing h
  · obtain ⟨t, n, value, hsize, hget, hne, rfl⟩ := exists_size_of_ofAttributes h
    exact .size hs hsize hget hne

end TunnelFields

end VSwitch
