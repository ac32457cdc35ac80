import Mathlib
import VSwitch.Proofs.Flow.Canonical
import VSwitch.Proofs.Flow.Fields
import VSwitch.Proofs.Flow.Stability

/-!
# The mask that counts

A key is read with a mask, which may not have been sent: without masks every bit counts, and where
there are masks and none for a type, no bit does. A mask that selects a part of a port counts for
nothing either. Whatever counts as the mask must have the shape of the type, just as the value must.

* `VSwitch.KeyLayout.Reads` says what octets are as a value of a layout, and
  `VSwitch.KeyLayout.fits_iff` that only their size decides whether they are one;
* `VSwitch.KeyLayout.Resolves` is the mask that counts for a type;
* `VSwitch.KeyLayout.resolves_octets_iff` and `VSwitch.KeyLayout.resolves_tunnel_iff`: this is the
  mask that is taken;
* `VSwitch.MaskedBytes.parse_eq_ok_iff` and `VSwitch.TunnelKey.parse_eq_ok_iff` are about reading
  under a mask, `VSwitch.MaskedBytes.cause_of_parse` and `VSwitch.TunnelKey.cause_of_parse` about
  what is reported instead.
-/

namespace VSwitch

/-! ### Values -/

/-- A value of a key, or its mask. -/
inductive KeyValue
  /-- Octets without a further meaning. -/
  | octets (b : Bytes)
  /-- The fields of a tunnel. -/
  | fields (f : TunnelFields)

namespace KeyLayout

/-- Nothing but zeros. -/
def zeros (layout : KeyLayout) : KeyValue :=
  match layout.length? with
  | some size => .octets (List.replicate size 0)
  | none => .fields .zero

/-- Nothing but ones. -/
def ones (layout : KeyLayout) : KeyValue :=
  match layout.length? with
  | some size => .octets (List.replicate size 0xFF)
  | none => .fields .ones

/-- Octets are a value of a layout: they are themselves one if there are as many as there should be,
and for a tunnel they are a list of attributes that tells of its fields. -/
inductive Reads (layout : KeyLayout) (b : Bytes) : KeyValue → Prop
  /-- As many octets as the layout has. -/
  | octets (size : layout.length? = some b.length) : Reads layout b (.octets b)
  /-- A list of attributes. -/
  | fields {s : AttributeSet} {f : TunnelFields} (tunnel : layout = .tunnel)
    (attributes : AttributeSet.parse b = .ok s) (told : TunnelFields.Says s f) :
    Reads layout b (.fields f)

/-- Octets have the size of a layout: for a tunnel, each of its fields has its own. -/
inductive Fits (layout : KeyLayout) (b : Bytes) : Prop
  /-- As many octets as the layout has. -/
  | octets (size : layout.length? = some b.length)
  /-- A list of attributes. -/
  | fields {s : AttributeSet} (tunnel : layout = .tunnel)
    (attributes : AttributeSet.parse b = .ok s) (sized : TunnelFields.Sized s)

/-- Octets can be read exactly if they have the right size. -/
theorem fits_iff {layout : KeyLayout} {b : Bytes} : layout.Fits b ↔ ∃ v, layout.Reads b v := by
  constructor
  · rintro (hsize | ⟨htunnel, hs, hsized⟩)
    · exact ⟨_, .octets hsize⟩
    · obtain ⟨f, hf⟩ := TunnelFields.exists_says_iff.2 hsized
      exact ⟨_, .fields htunnel hs hf⟩
  · rintro ⟨_, hsize | ⟨htunnel, hs, hf⟩⟩
    · exact .octets hsize
    · exact .fields htunnel hs hf.sized

end KeyLayout

/-! ### Which mask counts -/

/-- The mask of a type in the set of masks, if there is such a set and the type in it. -/
def Match.mask? (masks? : Option AttributeSet) (number : UInt16) : Option Bytes :=
  masks?.bind fun masks => masks.get? number

/-- **The mask that counts for a type** of a layout: all ones without masks, all zeros where there
are masks and none for the type, and the one that there is otherwise. A port is matched as a whole
or not at all, so a mask that selects a part of it counts as zeros. -/
inductive KeyLayout.Resolves (layout : KeyLayout) (masks? : Option AttributeSet) (number : UInt16) :
    KeyValue → Prop
  /-- There are no masks. -/
  | exact (none : masks? = none) : Resolves layout masks? number layout.ones
  /-- There are masks, and none for the type. -/
  | ignored (some : masks? ≠ none) (missing : Match.mask? masks? number = none) :
    Resolves layout masks? number layout.zeros
  /-- The mask selects a part of the port. -/
  | partly {mask : Bytes} {octet : UInt8} (given : Match.mask? masks? number = some mask)
    (port : layout = .inPort) (mem : octet ∈ mask) (ne : octet ≠ 0xFF) :
    Resolves layout masks? number layout.zeros
  /-- The mask is the one that there is. -/
  | given {mask : Bytes} {v : KeyValue} (given : Match.mask? masks? number = some mask)
    (whole : layout = .inPort → ∀ octet ∈ mask, octet = 0xFF) (reads : layout.Reads mask v) :
    Resolves layout masks? number v

theorem KeyLayout.resolves_none_iff {layout : KeyLayout} {number : UInt16} {v : KeyValue} :
    layout.Resolves none number v ↔ v = layout.ones := by
  constructor
  · rintro (- | ⟨hsome, -⟩ | ⟨hgiven, -, -, -⟩ | ⟨hgiven, -, -⟩)
    · rfl
    · exact absurd rfl hsome
    · cases hgiven
    · cases hgiven
  · rintro rfl
    exact .exact rfl

/-! ### Octets that are read -/

namespace MaskedBytes

variable {type : KeyType} {size : Nat} {source : MaskSource} {b : MaskedBytes}

/-- Octets are read if there are as many as asked for, and as many of the mask. -/
theorem parse_some_eq_ok_iff {key : Bytes} : parse type size (some key) source = .ok b ↔
    b.type = type ∧ b.key.length = size ∧ b.mask = source.octets size ∧ b.key = key := by
  constructor
  · intro h
    obtain ⟨htype, hlength, hmask⟩ := of_parse h
    refine ⟨htype, hlength, hmask, ?_⟩
    unfold parse at h
    dsimp only at h
    split at h
    · split at h
      · cases h
        rfl
      · cases h
    · cases h
  · rintro ⟨rfl, rfl, hmask, rfl⟩
    have hsize : (source.octets b.key.length).length = b.key.length := by
      rw [← hmask, b.length_mask]
    obtain ⟨type, key, mask, length⟩ := b
    obtain rfl : mask = source.octets key.length := hmask
    rw [parse, dif_pos hsize]
    exact dif_pos rfl

/-- Where there are no octets, zeros are read, under a mask of as many zeros. -/
theorem parse_none_eq_ok_iff : parse type size none source = .ok b ↔
    b.type = type ∧ b.mask = source.octets size ∧ b.mask = List.replicate size 0 ∧
      b.key = List.replicate size 0 := by
  constructor
  · intro h
    obtain ⟨htype, hlength, hmask⟩ := of_parse h
    unfold parse at h
    dsimp only at h
    split at h
    next hsize =>
      split at h
      next hzero =>
        have hall := Bytes.eq_replicate_of_areAll hzero
        rw [hsize, ← hmask] at hall
        refine ⟨htype, hmask, hall, ?_⟩
        cases h
        rfl
      next => cases h
    next => cases h
  · rintro ⟨rfl, hmask, hzero, hkey⟩
    have hall := hmask.symm.trans hzero
    have hsize : (source.octets size).length = size := by rw [hall, List.length_replicate]
    have hareAll : (source.octets size).areAll 0 = true := by
      rw [hall]
      exact Bytes.areAll_replicate size 0
    obtain ⟨type, key, mask, length⟩ := b
    obtain rfl : mask = source.octets size := hmask
    obtain rfl : key = List.replicate size 0 := hkey
    rw [parse, dif_pos hsize]
    exact if_pos hareAll

/-- **Octets are read** if they are what is asked for. -/
theorem parse_eq_ok_iff {key? : Option Bytes} : parse type size key? source = .ok b ↔
    b.type = type ∧ b.key.length = size ∧ b.mask = source.octets size ∧
      (∀ key, key? = some key → b.key = key) ∧
      (key? = none → b.mask = List.replicate size 0 ∧ b.key = List.replicate size 0) := by
  cases key? with
  | some key => simp [parse_some_eq_ok_iff]
  | none =>
    rw [parse_none_eq_ok_iff]
    constructor
    · rintro ⟨htype, hmask, hzero, hkey⟩
      refine ⟨htype, by rw [hkey, List.length_replicate], hmask, fun _ h => ?_, fun _ => ?_⟩
      · cases h
      · exact ⟨hzero, hkey⟩
    · rintro ⟨htype, -, hmask, -, hmissing⟩
      exact ⟨htype, hmask, hmissing rfl⟩

/-- **Octets are reported as wrong** for the number of the mask's or for their own, or as there are
none for what the mask selects. -/
theorem cause_of_parse {key? : Option Bytes} {e : DecodeError}
    (h : parse type size key? source = .error e) :
    (source.octets size).length ≠ size ∧
        e = .badAttributeLength (Vocabulary.number type) size (source.octets size).length ∨
      (∃ key, key? = some key ∧ key.length ≠ size ∧
        e = .badAttributeLength (Vocabulary.number type) size key.length) ∨
      (source.octets size).length = size ∧ key? = none ∧
        source.octets size ≠ List.replicate size 0 ∧
        e = .maskWithoutKey (Vocabulary.number type) := by
  unfold parse at h
  dsimp only at h
  split at h
  next hsize =>
    split at h
    next key =>
      split at h
      next => cases h
      next hkey =>
        cases h
        exact .inr (.inl ⟨key, rfl, hkey, rfl⟩)
    next =>
      split at h
      next => cases h
      next hzero =>
        cases h
        refine .inr (.inr ⟨hsize, rfl, fun hall => hzero ?_, rfl⟩)
        rw [hall]
        exact Bytes.areAll_replicate size 0
  next hsize =>
    cases h
    exact .inl ⟨hsize, rfl⟩

end MaskedBytes

/-! ### Fields that are read -/

namespace TunnelKey

variable {source : MaskSource} {t : TunnelKey}

theorem parse_some_eq_ok_iff {key : Bytes} : parse (some key) source = .ok t ↔
    maskOf source = .ok t.mask ∧ ∃ p, TunnelFields.parse key = .ok (t.key, p) := by
  rw [parse, bind_eq_ok_iff]
  simp only [bind_eq_ok_iff]
  constructor
  · rintro ⟨mask, hmask, ⟨fields, p⟩, hfields, ht⟩
    cases ht
    exact ⟨hmask, p, hfields⟩
  · rintro ⟨hmask, p, hfields⟩
    exact ⟨_, hmask, _, hfields, rfl⟩

theorem parse_none_eq_ok_iff : parse none source = .ok t ↔
    maskOf source = .ok t.mask ∧ t.mask = .zero ∧ t.key = .zero := by
  rw [parse, bind_eq_ok_iff]
  constructor
  · rintro ⟨mask, hmask, ht⟩
    by_cases hzero : mask.isZero = true
    · rw [if_pos hzero] at ht
      cases ht
      exact ⟨hmask, beq_iff_eq.1 hzero, rfl⟩
    · rw [if_neg hzero] at ht
      cases ht
  · rintro ⟨hmask, hzero, hkey⟩
    obtain ⟨key, mask⟩ := t
    obtain rfl : key = .zero := hkey
    obtain rfl : mask = .zero := hzero
    exact ⟨_, hmask, rfl⟩

/-- **A tunnel is read** if it is what is asked for. -/
theorem parse_eq_ok_iff {key? : Option Bytes} : parse key? source = .ok t ↔
    maskOf source = .ok t.mask ∧
      (∀ key, key? = some key → ∃ p, TunnelFields.parse key = .ok (t.key, p)) ∧
      (key? = none → t.mask = .zero ∧ t.key = .zero) := by
  cases key? with
  | some key => simp [parse_some_eq_ok_iff]
  | none => simp [parse_none_eq_ok_iff]

/-- **The octets of a tunnel are reported as wrong** for what is wrong in its mask or in its value,
or as there is no value for what the mask selects. -/
theorem cause_of_parse {key? : Option Bytes} {e : DecodeError}
    (h : parse key? source = .error e) :
    (∃ mask, source = .given mask ∧ TunnelFields.Flawed mask e) ∨
      (∃ key, key? = some key ∧ TunnelFields.Flawed key e) ∨
      ∃ mask, maskOf source = .ok mask ∧ key? = none ∧ mask ≠ .zero ∧
        e = .maskWithoutKey (Vocabulary.number KeyType.tunnel) := by
  rcases bind_eq_error_iff.1 h with h | ⟨mask, hmask, h⟩
  · cases source with
    | exact | ignored => cases h
    | given octets =>
      exact .inl ⟨octets, rfl, TunnelFields.flawed_of_parse (map_eq_error_iff.1 h)⟩
  · cases key? with
    | some key =>
      rcases bind_eq_error_iff.1 h with h | ⟨_, -, h⟩
      · exact .inr (.inl ⟨key, rfl, TunnelFields.flawed_of_parse h⟩)
      · cases h
    | none =>
      refine .inr (.inr ⟨mask, hmask, rfl, ?_⟩)
      by_cases hzero : mask.isZero = true
      · simp only [if_pos hzero] at h
        cases h
      · simp only [if_neg hzero] at h
        cases h
        exact ⟨fun hmask => hzero (beq_iff_eq.2 hmask), rfl⟩

end TunnelKey

/-! ### The mask that is taken -/

namespace Match

variable {masks? : Option AttributeSet} {number : UInt16} {mask : Bytes}

theorem maskSource_none (number : UInt16) : maskSource none number = .exact := rfl

theorem maskSource_of_mask? (h : mask? masks? number = some mask) :
    maskSource masks? number = .given mask := by
  obtain ⟨masks, rfl, hget⟩ := Option.bind_eq_some_iff.1 h
  rw [maskSource, hget]

/-- The three ways in which masks come. -/
theorem maskSource_cases (masks? : Option AttributeSet) (number : UInt16) :
    masks? = none ∧ maskSource masks? number = .exact ∨
      (masks? ≠ none ∧ mask? masks? number = none ∧ maskSource masks? number = .ignored) ∨
      ∃ mask, mask? masks? number = some mask ∧ maskSource masks? number = .given mask := by
  cases hmask : mask? masks? number with
  | some mask => exact .inr (.inr ⟨mask, rfl, maskSource_of_mask? hmask⟩)
  | none =>
    cases masks? with
    | none => exact .inl ⟨rfl, rfl⟩
    | some masks =>
      have hget : masks.get? number = none := hmask
      exact .inr (.inl ⟨Option.some_ne_none masks, rfl, by rw [maskSource, hget]⟩)

theorem mask?_of_maskSource (h : maskSource masks? number = .given mask) :
    mask? masks? number = some mask := by
  rcases maskSource_cases masks? number with ⟨-, hsource⟩ | ⟨-, -, hsource⟩ | ⟨_, hmask, hsource⟩
  · rw [hsource] at h
    cases h
  · rw [hsource] at h
    cases h
  · rw [hsource] at h
    cases h
    exact hmask

end Match

namespace KeyLayout

variable {layout : KeyLayout} {masks? : Option AttributeSet} {number : UInt16} {n : Nat}
  {mask b : Bytes} {v : KeyValue}

/-- The mask of a layout: that of a port is taken as a whole or not at all. -/
def source : KeyLayout → MaskSource → MaskSource
  | .inPort, source => source.ofPort
  | _, source => source

theorem source_exact (layout : KeyLayout) : layout.source .exact = .exact := by
  cases layout <;> rfl

theorem source_ignored (layout : KeyLayout) : layout.source .ignored = .ignored := by
  cases layout <;> rfl

theorem source_of_whole (whole : layout = .inPort → ∀ octet ∈ mask, octet = 0xFF) :
    layout.source (.given mask) = .given mask := by
  cases layout with
  | inPort =>
    have hones : mask.areAll 0xFF = true := by
      rw [Bytes.areAll, List.all_eq_true]
      exact fun octet hmem => beq_iff_eq.2 (whole rfl octet hmem)
    exact if_pos hones
  | plain | ethernet | tunnel => rfl

theorem source_of_partly {octet : UInt8} (hmem : octet ∈ mask) (hne : octet ≠ 0xFF) :
    KeyLayout.inPort.source (.given mask) = .ignored := by
  have hones : ¬ mask.areAll 0xFF = true := by
    rw [Bytes.areAll, List.all_eq_true]
    exact fun h => hne (beq_iff_eq.1 (h octet hmem))
  exact if_neg hones

theorem eq_tunnel_of_size (h : layout.length? = none) : layout = .tunnel := by
  cases layout with
  | tunnel => rfl
  | plain | inPort | ethernet => cases h

theorem reads_octets_iff (hsize : layout.length? = some n) :
    layout.Reads b v ↔ b.length = n ∧ v = .octets b := by
  constructor
  · rintro (hlength | ⟨rfl, -, -⟩)
    · exact ⟨Option.some.inj (hlength.symm.trans hsize), rfl⟩
    · cases hsize
  · rintro ⟨rfl, rfl⟩
    exact .octets hsize

theorem reads_tunnel_iff : KeyLayout.tunnel.Reads b v ↔
    ∃ f p, v = .fields f ∧ TunnelFields.parse b = .ok (f, p) := by
  simp only [TunnelFields.parse_eq_ok_iff]
  constructor
  · rintro (hlength | @⟨s, f, -, hs, hf⟩)
    · cases hlength
    · exact ⟨f, _, rfl, s, hs, hf, rfl⟩
  · rintro ⟨f, _, rfl, s, hs, hf, -⟩
    exact .fields rfl hs hf

theorem zeros_of_size (hsize : layout.length? = some n) :
    layout.zeros = .octets (List.replicate n 0) := by
  rw [zeros, hsize]

theorem ones_of_size (hsize : layout.length? = some n) :
    layout.ones = .octets (List.replicate n 0xFF) := by
  rw [ones, hsize]

/-- The octets that count as the mask are those that are taken, if they are as many as there should
be. -/
theorem resolves_octets_iff (hsize : layout.length? = some n) : layout.Resolves masks? number v ↔
    ((layout.source (Match.maskSource masks? number)).octets n).length = n ∧
      v = .octets ((layout.source (Match.maskSource masks? number)).octets n) := by
  constructor
  · rintro (rfl | ⟨hsome, hmissing⟩ | ⟨hgiven, rfl, hmem, hne⟩ | ⟨hgiven, hwhole, hreads⟩)
    · rw [Match.maskSource_none, source_exact, ones_of_size hsize]
      exact ⟨List.length_replicate, rfl⟩
    · rcases Match.maskSource_cases masks? number with ⟨hnone, -⟩ | ⟨-, -, hsource⟩ | ⟨_, hmask, -⟩
      · exact absurd hnone hsome
      · rw [hsource, source_ignored, zeros_of_size hsize]
        exact ⟨List.length_replicate, rfl⟩
      · rw [hmissing] at hmask
        cases hmask
    · rw [Match.maskSource_of_mask? hgiven, source_of_partly hmem hne, zeros_of_size hsize]
      exact ⟨List.length_replicate, rfl⟩
    · rw [Match.maskSource_of_mask? hgiven, source_of_whole hwhole]
      exact (reads_octets_iff hsize).1 hreads
  · rintro ⟨hlength, rfl⟩
    rcases Match.maskSource_cases masks? number with
      ⟨rfl, -⟩ | ⟨hsome, hmissing, hsource⟩ | ⟨mask, hmask, hsource⟩
    · rw [Match.maskSource_none, source_exact, MaskSource.octets, ← ones_of_size hsize]
      exact .exact rfl
    · rw [hsource, source_ignored, MaskSource.octets, ← zeros_of_size hsize]
      exact .ignored hsome hmissing
    · by_cases hwhole : layout = .inPort → ∀ octet ∈ mask, octet = 0xFF
      · rw [hsource, source_of_whole hwhole] at hlength ⊢
        exact .given hmask hwhole ((reads_octets_iff hsize).2 ⟨hlength, rfl⟩)
      · -- A part of a port: as many zeros are taken, however long the mask was.
        push Not at hwhole
        obtain ⟨rfl, octet, hmem, hne⟩ := hwhole
        rw [hsource, source_of_partly hmem hne, MaskSource.octets, ← zeros_of_size hsize]
        exact .partly hmask rfl hmem hne

/-- Only octets that were sent are too many or too few. -/
theorem exists_of_length_ne
    (h : ((layout.source (Match.maskSource masks? number)).octets n).length ≠ n) :
    ∃ mask, Match.mask? masks? number = some mask ∧
      (layout = .inPort → ∀ octet ∈ mask, octet = 0xFF) ∧
      (layout.source (Match.maskSource masks? number)).octets n = mask := by
  have hfilled : ∀ octet : UInt8, (List.replicate n octet).length = n :=
    fun _ => List.length_replicate
  rcases Match.maskSource_cases masks? number with
    ⟨-, hsource⟩ | ⟨-, -, hsource⟩ | ⟨mask, hmask, hsource⟩
  · rw [hsource, source_exact] at h
    exact absurd (hfilled 0xFF) h
  · rw [hsource, source_ignored] at h
    exact absurd (hfilled 0) h
  · -- Zeros in place of a part of a port are as many as there should be.
    rw [hsource] at h ⊢
    by_cases hwhole : layout = .inPort → ∀ octet ∈ mask, octet = 0xFF
    · exact ⟨mask, hmask, hwhole, by rw [source_of_whole hwhole]; rfl⟩
    · push Not at hwhole
      obtain ⟨rfl, octet, hmem, hne⟩ := hwhole
      rw [source_of_partly hmem hne] at h
      exact absurd (hfilled 0) h

/-- The fields that count as the mask are those that are read. -/
theorem resolves_tunnel_iff : KeyLayout.tunnel.Resolves masks? number v ↔
    ∃ f, v = .fields f ∧ TunnelKey.maskOf (Match.maskSource masks? number) = .ok f := by
  constructor
  · rintro (rfl | ⟨hsome, hmissing⟩ | ⟨-, hport, -, -⟩ | ⟨hgiven, -, hreads⟩)
    · exact ⟨.ones, rfl, rfl⟩
    · rcases Match.maskSource_cases masks? number with ⟨hnone, -⟩ | ⟨-, -, hsource⟩ | ⟨_, hmask, -⟩
      · exact absurd hnone hsome
      · rw [hsource]
        exact ⟨.zero, rfl, rfl⟩
      · rw [hmissing] at hmask
        cases hmask
    · cases hport
    · obtain ⟨f, p, rfl, hparse⟩ := reads_tunnel_iff.1 hreads
      rw [Match.maskSource_of_mask? hgiven, TunnelKey.maskOf, hparse]
      exact ⟨f, rfl, rfl⟩
  · rintro ⟨f, rfl, hf⟩
    rcases Match.maskSource_cases masks? number with
      ⟨rfl, -⟩ | ⟨hsome, hmissing, hsource⟩ | ⟨mask, hmask, hsource⟩
    · cases hf
      exact .exact rfl
    · rw [hsource] at hf
      cases hf
      exact .ignored hsome hmissing
    · rw [hsource] at hf
      obtain ⟨⟨f, p⟩, hparse, rfl⟩ := map_eq_ok_iff.1 hf
      refine .given hmask (fun hport => ?_) (reads_tunnel_iff.2 ⟨f, p, rfl, hparse⟩)
      cases hport

end KeyLayout

end VSwitch
