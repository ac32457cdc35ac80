import VSwitch.Proofs.Flow.Masking

/-!
# What a match is asked for

A match is read of two sets of attributes, the values and the masks, and it is about every type that
occurs in one of them. What it is to be can be said type by type: a type can be read if its layout
is known, the mask that counts for it and its value have the size of this layout, and the mask
selects nothing where there is no value. The order in which the types are gone through has no part
in it.

* `VSwitch.KeyLayout.Admits` says that a type can be read, and `VSwitch.Match.Offends` what may be
  reported of one;
* `VSwitch.FlowKey.IsAsked` says that a key is the one that is asked for, and
  `VSwitch.Match.IsAsked` says so of all keys of a match;
* `VSwitch.FlowKey.parse_eq_ok_iff` and `VSwitch.FlowKey.offends_of_parse` tell what becomes of one
  type, and `VSwitch.Match.addEach_eq_ok_iff_isAsked` of types one after the other, in any order;
* `VSwitch.Match.parse_asked` is the result.
-/

namespace VSwitch

/-! ### What is asked for -/

namespace Match

/-- A match is about a type: there is a value for it, or a mask. -/
def Asks (keys : AttributeSet) (masks? : Option AttributeSet) (number : UInt16) : Prop :=
  (keys.get? number).isSome = true ∨ (mask? masks? number).isSome = true

end Match

/-- A type can be read: its layout is known, the mask that counts for it and its value have the size
of the layout, and without a value the mask does not select any bit. -/
structure KeyLayout.Admits (layout : KeyLayout) (keys : AttributeSet) (masks? : Option AttributeSet)
    (number : UInt16) : Prop where
  known : KeyType.layout? (Vocabulary.ofNumber number) = some layout
  mask : ∃ mask, layout.Resolves masks? number mask
  key : ∀ key, keys.get? number = some key → layout.Fits key
  missing : keys.get? number = none → layout.Resolves masks? number layout.zeros

namespace FlowKey

/-- The value of a key. -/
def value : FlowKey → KeyValue
  | .plain b | .inPort b | .ethernet b => .octets b.key
  | .tunnel t => .fields t.key

/-- The mask of a key. -/
def mask : FlowKey → KeyValue
  | .plain b | .inPort b | .ethernet b => .octets b.mask
  | .tunnel t => .fields t.mask

/-- A key is the one that is asked for: it is of the type with the given number and has the layout
of this type, the mask that counts for it, and the value that there is, or zeros without one. -/
structure IsAsked (k : FlowKey) (keys : AttributeSet) (masks? : Option AttributeSet)
    (number : UInt16) : Prop where
  type_eq : k.type = Vocabulary.ofNumber number
  known : k.type.layout? = some k.layout
  mask : k.layout.Resolves masks? number k.mask
  key : ∀ key, keys.get? number = some key → k.layout.Reads key k.value
  missing : keys.get? number = none → k.mask = k.layout.zeros ∧ k.value = k.layout.zeros

end FlowKey

namespace Match

/-- The keys of a match are those that are asked for: one for each type, and no others. -/
structure IsAsked (m : Match) (keys : AttributeSet) (masks? : Option AttributeSet) : Prop where
  only : ∀ k ∈ m.toList, ∃ number, Asks keys masks? number ∧ k.IsAsked keys masks? number
  each : ∀ number, Asks keys masks? number → ∃ k ∈ m.toList, k.IsAsked keys masks? number

/-- What may be wrong with a type, and how it is reported. -/
inductive Offends (keys : AttributeSet) (masks? : Option AttributeSet) (number : UInt16) :
    DecodeError → Prop
  /-- The layout of the type is not known. -/
  | unknown (unknown : KeyType.layout? (Vocabulary.ofNumber number) = none) :
    Offends keys masks? number (.unknownKey number)
  /-- The mask that counts has another number of octets. -/
  | mask {layout : KeyLayout} {n : Nat} {mask : Bytes}
    (known : KeyType.layout? (Vocabulary.ofNumber number) = some layout)
    (size : layout.length? = some n) (given : mask? masks? number = some mask)
    (whole : layout = .inPort → ∀ octet ∈ mask, octet = 0xFF) (length : mask.length ≠ n) :
    Offends keys masks? number (.badAttributeLength number n mask.length)
  /-- The value has another number of octets. -/
  | key {layout : KeyLayout} {n : Nat} {key : Bytes}
    (known : KeyType.layout? (Vocabulary.ofNumber number) = some layout)
    (size : layout.length? = some n) (given : keys.get? number = some key)
    (length : key.length ≠ n) :
    Offends keys masks? number (.badAttributeLength number n key.length)
  /-- The mask selects bits of a value that there is not. -/
  | missing {layout : KeyLayout} {mask : KeyValue}
    (known : KeyType.layout? (Vocabulary.ofNumber number) = some layout)
    (missing : keys.get? number = none) (resolves : layout.Resolves masks? number mask)
    (selects : mask ≠ layout.zeros) :
    Offends keys masks? number (.maskWithoutKey number)
  /-- There is something wrong within the mask of a tunnel. -/
  | tunnelMask {mask : Bytes} {e : DecodeError}
    (known : KeyType.layout? (Vocabulary.ofNumber number) = some .tunnel)
    (given : mask? masks? number = some mask) (flawed : TunnelFields.Flawed mask e) :
    Offends keys masks? number e
  /-- There is something wrong within the value of a tunnel. -/
  | tunnelKey {key : Bytes} {e : DecodeError}
    (known : KeyType.layout? (Vocabulary.ofNumber number) = some .tunnel)
    (given : keys.get? number = some key) (flawed : TunnelFields.Flawed key e) :
    Offends keys masks? number e

end Match

/-! ### One key -/

theorem KeyType.eq_tunnel_of_layout {type : KeyType} (h : type.layout? = some .tunnel) :
    type = .tunnel := by
  cases type <;> first | rfl | simp [layout?] at h

namespace FlowKey

variable {number : UInt16} {keys : AttributeSet} {masks? : Option AttributeSet} {k : FlowKey}
  {layout : KeyLayout} {n : Nat}

/-- The key of a layout with given octets. -/
def ofOctets : KeyLayout → MaskedBytes → FlowKey
  | .inPort, b => .inPort b
  | .ethernet, b => .ethernet b
  | _, b => .plain b

@[simp]
theorem type_ofOctets (layout : KeyLayout) (b : MaskedBytes) :
    (ofOctets layout b).type = b.type := by
  cases layout <;> rfl

@[simp]
theorem value_ofOctets (layout : KeyLayout) (b : MaskedBytes) :
    (ofOctets layout b).value = .octets b.key := by
  cases layout <;> rfl

@[simp]
theorem mask_ofOctets (layout : KeyLayout) (b : MaskedBytes) :
    (ofOctets layout b).mask = .octets b.mask := by
  cases layout <;> rfl

theorem layout_ofOctets {b : MaskedBytes} (hsize : layout.length? = some b.key.length) :
    (ofOctets layout b).layout = layout := by
  cases layout with
  | plain size =>
    obtain rfl : size = b.key.length := Option.some.inj hsize
    rfl
  | inPort | ethernet => rfl
  | tunnel => cases hsize

/-- A key of a layout other than the tunnel's is made of octets. -/
theorem exists_ofOctets (hsize : k.layout.length? = some n) : ∃ b, k = ofOctets k.layout b := by
  cases k with
  | plain b | inPort b | ethernet b => exact ⟨b, rfl⟩
  | tunnel t => cases hsize

/-- A key that is not the tunnel is read as octets. -/
theorem parse_of_size {key? : Option Bytes} {source : MaskSource}
    (hlayout : KeyType.layout? (Vocabulary.ofNumber number) = some layout)
    (hsize : layout.length? = some n) : FlowKey.parse number key? source =
      (MaskedBytes.parse (Vocabulary.ofNumber number) n key? (layout.source source)).map
        (ofOctets layout) := by
  rw [FlowKey.parse, hlayout]
  cases layout with
  | plain | inPort | ethernet =>
    cases hsize
    rfl
  | tunnel => cases hsize

theorem parse_of_tunnel {key? : Option Bytes} {source : MaskSource}
    (hlayout : KeyType.layout? (Vocabulary.ofNumber number) = some .tunnel) :
    FlowKey.parse number key? source = (TunnelKey.parse key? source).map .tunnel := by
  rw [FlowKey.parse, hlayout]

/-- What is asked for where a type has a number of octets. -/
theorem isAsked_ofOctets_iff {b : MaskedBytes}
    (hlayout : KeyType.layout? (Vocabulary.ofNumber number) = some layout)
    (hsize : layout.length? = some n) : (ofOctets layout b).IsAsked keys masks? number ↔
      b.type = Vocabulary.ofNumber number ∧ b.key.length = n ∧
        b.mask = (layout.source (Match.maskSource masks? number)).octets n ∧
        (∀ key, keys.get? number = some key → b.key = key) ∧
        (keys.get? number = none → b.mask = List.replicate n 0 ∧ b.key = List.replicate n 0) := by
  constructor
  · intro h
    have htype := h.type_eq
    have hknown := h.known
    rw [htype, hlayout] at hknown
    have hsame : (ofOctets layout b).layout = layout := (Option.some.inj hknown).symm
    have hmask := h.mask
    have hkey := h.key
    have hmissing := h.missing
    rw [type_ofOctets] at htype
    rw [hsame, mask_ofOctets, KeyLayout.resolves_octets_iff hsize] at hmask
    simp only [hsame, value_ofOctets, KeyLayout.reads_octets_iff hsize] at hkey
    simp only [hsame, value_ofOctets, mask_ofOctets, KeyLayout.zeros_of_size hsize] at hmissing
    obtain ⟨hlength, hoctets⟩ := hmask
    injection hoctets with hoctets
    -- The mask tells the number of octets, also where there is no value.
    refine ⟨htype, ?_, hoctets, fun key hget => ?_, fun hget => ?_⟩
    · rw [← b.length_mask, hoctets, hlength]
    · obtain ⟨-, hvalue⟩ := hkey key hget
      injection hvalue
    · obtain ⟨hzero, hvalue⟩ := hmissing hget
      injection hzero with hzero
      injection hvalue with hvalue
      exact ⟨hzero, hvalue⟩
  · rintro ⟨htype, rfl, hoctets, hkey, hmissing⟩
    have hsame := layout_ofOctets hsize
    have hlength := congrArg List.length hoctets
    rw [b.length_mask] at hlength
    refine ⟨(type_ofOctets layout b).trans htype, ?_, ?_, ?_, ?_⟩
    · rw [type_ofOctets, htype, hlayout, hsame]
    · rw [hsame, mask_ofOctets, KeyLayout.resolves_octets_iff hsize, hoctets]
      exact ⟨hlength.symm, rfl⟩
    · intro key hget
      rw [hsame, value_ofOctets, KeyLayout.reads_octets_iff hsize, hkey key hget]
      exact ⟨rfl, rfl⟩
    · intro hget
      obtain ⟨hzero, hvalue⟩ := hmissing hget
      rw [hsame, mask_ofOctets, value_ofOctets, KeyLayout.zeros_of_size hsize, hzero, ← hvalue]
      exact ⟨rfl, rfl⟩

/-- What is asked for of a tunnel. -/
theorem isAsked_tunnel_iff {t : TunnelKey}
    (hlayout : KeyType.layout? (Vocabulary.ofNumber number) = some .tunnel) :
    (FlowKey.tunnel t).IsAsked keys masks? number ↔
      TunnelKey.maskOf (Match.maskSource masks? number) = .ok t.mask ∧
        (∀ key, keys.get? number = some key → ∃ p, TunnelFields.parse key = .ok (t.key, p)) ∧
        (keys.get? number = none → t.mask = .zero ∧ t.key = .zero) := by
  constructor
  · rintro ⟨-, -, hmask, hkey, hmissing⟩
    refine ⟨?_, fun key hget => ?_, fun hget => ?_⟩
    · obtain ⟨f, hf, hsource⟩ := KeyLayout.resolves_tunnel_iff.1 hmask
      cases hf
      exact hsource
    · obtain ⟨f, p, hf, hparse⟩ := KeyLayout.reads_tunnel_iff.1 (hkey key hget)
      cases hf
      exact ⟨p, hparse⟩
    · obtain ⟨hzero, hvalue⟩ := hmissing hget
      exact ⟨KeyValue.fields.inj hzero, KeyValue.fields.inj hvalue⟩
  · rintro ⟨hmask, hkey, hmissing⟩
    refine ⟨(KeyType.eq_tunnel_of_layout hlayout).symm, rfl, ?_, fun key hget => ?_, fun hget => ?_⟩
    · exact KeyLayout.resolves_tunnel_iff.2 ⟨_, rfl, hmask⟩
    · obtain ⟨p, hparse⟩ := hkey key hget
      exact KeyLayout.reads_tunnel_iff.2 ⟨_, p, rfl, hparse⟩
    · obtain ⟨hzero, hvalue⟩ := hmissing hget
      obtain ⟨key, mask⟩ := t
      obtain rfl : mask = .zero := hzero
      obtain rfl : key = .zero := hvalue
      exact ⟨rfl, rfl⟩

/-- **A key is read of a type** exactly if it is the one that is asked for. -/
theorem parse_eq_ok_iff :
    FlowKey.parse number (keys.get? number) (Match.maskSource masks? number) = .ok k ↔
      k.IsAsked keys masks? number := by
  cases hlayout : KeyType.layout? (Vocabulary.ofNumber number) with
  | none =>
    constructor
    · intro h
      rw [FlowKey.parse, hlayout] at h
      cases h
    · intro h
      have hknown := h.known
      rw [h.type_eq, hlayout] at hknown
      cases hknown
  | some layout =>
    -- The layout of the type is known, and decides whether octets or fields are read.
    have hsame : ∀ k : FlowKey, k.IsAsked keys masks? number → k.layout = layout := by
      intro k h
      have hknown := h.known
      rw [h.type_eq, hlayout] at hknown
      exact (Option.some.inj hknown).symm
    cases hsize : layout.length? with
    | some n =>
      rw [parse_of_size hlayout hsize, map_eq_ok_iff]
      constructor
      · rintro ⟨b, hb, rfl⟩
        exact (isAsked_ofOctets_iff hlayout hsize).2 (MaskedBytes.parse_eq_ok_iff.1 hb)
      · intro h
        obtain rfl := hsame k h
        obtain ⟨b, hb⟩ := exists_ofOctets hsize
        rw [hb] at h
        have hasked := (isAsked_ofOctets_iff hlayout hsize).1 h
        exact ⟨b, MaskedBytes.parse_eq_ok_iff.2 hasked, hb.symm⟩
    | none =>
      obtain rfl := KeyLayout.eq_tunnel_of_size hsize
      rw [parse_of_tunnel hlayout, map_eq_ok_iff]
      constructor
      · rintro ⟨t, ht, rfl⟩
        exact (isAsked_tunnel_iff hlayout).2 (TunnelKey.parse_eq_ok_iff.1 ht)
      · intro h
        cases k with
        | tunnel t =>
          exact ⟨t, TunnelKey.parse_eq_ok_iff.2 ((isAsked_tunnel_iff hlayout).1 h), rfl⟩
        | plain | inPort | ethernet => cases hsame _ h

/-- **What is reported of a type** is wrong with it. -/
theorem offends_of_parse {e : DecodeError}
    (h : FlowKey.parse number (keys.get? number) (Match.maskSource masks? number) = .error e) :
    Match.Offends keys masks? number e := by
  cases hlayout : KeyType.layout? (Vocabulary.ofNumber number) with
  | none =>
    rw [FlowKey.parse, hlayout] at h
    cases h
    exact .unknown hlayout
  | some layout =>
    cases hsize : layout.length? with
    | some n =>
      rw [parse_of_size hlayout hsize, map_eq_error_iff] at h
      rcases MaskedBytes.cause_of_parse h with
        ⟨hlength, rfl⟩ | ⟨key, hget, hlength, rfl⟩ | ⟨hlength, hget, hselects, rfl⟩
      · obtain ⟨mask, hgiven, hwhole, hoctets⟩ := KeyLayout.exists_of_length_ne hlength
        rw [hoctets] at hlength ⊢
        rw [Vocabulary.number_ofNumber]
        exact .mask hlayout hsize hgiven hwhole hlength
      · rw [Vocabulary.number_ofNumber]
        exact .key hlayout hsize hget hlength
      · rw [Vocabulary.number_ofNumber]
        refine .missing hlayout hget ((KeyLayout.resolves_octets_iff hsize).2 ⟨hlength, rfl⟩) ?_
        rw [KeyLayout.zeros_of_size hsize]
        exact fun heq => hselects (KeyValue.octets.inj heq)
    | none =>
      obtain rfl := KeyLayout.eq_tunnel_of_size hsize
      rw [parse_of_tunnel hlayout, map_eq_error_iff] at h
      rcases TunnelKey.cause_of_parse h with
        ⟨mask, hsource, hflawed⟩ | ⟨key, hget, hflawed⟩ | ⟨mask, hmask, hget, hselects, rfl⟩
      · exact .tunnelMask hlayout (Match.mask?_of_maskSource hsource) hflawed
      · exact .tunnelKey hlayout hget hflawed
      · rw [← KeyType.eq_tunnel_of_layout hlayout, Vocabulary.number_ofNumber]
        refine .missing hlayout hget (KeyLayout.resolves_tunnel_iff.2 ⟨mask, rfl, hmask⟩) ?_
        exact fun heq => hselects (KeyValue.fields.inj heq)

end FlowKey

/-! ### A match -/

namespace Match

variable {m m' : Match} {keys : AttributeSet} {masks? : Option AttributeSet} {l : List Entry}

/-- Matches with the same keys are the same. -/
theorem eq_of_mem_toList_iff (h : ∀ k, k ∈ m.toList ↔ k ∈ m'.toList) : m = m' := by
  have hget : ∀ type, m.keys.get? type = m'.keys.get? type := by
    intro type
    refine Option.ext fun k => ?_
    change m.get? type = some k ↔ m'.get? type = some k
    rw [get?_eq_some_iff, get?_eq_some_iff, h k]
  obtain ⟨keys, typed⟩ := m
  obtain ⟨keys', typed'⟩ := m'
  obtain rfl : keys = keys' := Table.eq_of_get?_eq hget
  rfl

/-- A match that is made of keys has just these, if no two of them are of one type. -/
theorem mem_toList_ofList {l : List FlowKey}
    (h : ∀ k ∈ l, ∀ k' ∈ l, k.type = k'.type → k = k') {k : FlowKey} :
    k ∈ (ofList l).toList ↔ k ∈ l := by
  have hget : (ofList l).get? k.type = ((l.filter fun k' => k'.type == k.type).getLast?) := by
    have hkeys : (ofList l).keys = Table.ofList (l.map fun k => (k.type, k)) :=
      keys_foldl_add empty l
    rw [get?, hkeys, Table.get?_ofList, List.filter_map, List.getLast?_map, Option.map_map]
    exact congrFun Option.map_id _
  have hsome : k ∈ (ofList l).toList ↔
      (l.filter fun k' => k'.type == k.type).getLast? = some k := by
    rw [← hget, get?_eq_some_iff]
    exact (and_iff_left rfl).symm
  rw [hsome]
  constructor
  · intro hlast
    exact (List.mem_filter.1 (List.mem_of_getLast? hlast)).1
  · intro hk
    cases hlast : (l.filter fun k' => k'.type == k.type).getLast? with
    | none =>
      have hempty := List.getLast?_eq_none_iff.1 hlast
      have hmem : k ∈ l.filter fun k' => k'.type == k.type :=
        List.mem_filter.2 ⟨hk, beq_self_eq_true _⟩
      rw [hempty] at hmem
      cases hmem
    | some k' =>
      -- The last key of the type is the only one.
      obtain ⟨hk', htype⟩ := List.mem_filter.1 (List.mem_of_getLast? hlast)
      rw [h k hk k' hk' (beq_iff_eq.1 htype).symm]

/-- **There is something to read for each type that is asked for**, and for no other. -/
theorem mem_entries_iff {e : Entry} : e ∈ entries keys masks? ↔ ∃ number,
    Asks keys masks? number ∧ e = ⟨number, keys.get? number, maskSource masks? number⟩ := by
  simp only [entries, List.mem_append]
  constructor
  · rintro (hmem | hmem)
    · obtain ⟨⟨number, key⟩, hentry, rfl⟩ := List.mem_map.1 hmem
      have hget := Table.get?_eq_some_iff.2 hentry
      exact ⟨number, .inl (by rw [hget]; rfl), by rw [hget]⟩
    · cases masks? with
      | none => cases hmem
      | some masks =>
        obtain ⟨⟨number, mask⟩, hfilter, rfl⟩ := List.mem_map.1 hmem
        obtain ⟨hentry, hmissing⟩ := List.mem_filter.1 hfilter
        have hmask : mask? (some masks) number = some mask := Table.get?_eq_some_iff.2 hentry
        have hget : keys.get? number = none := by
          rwa [Table.contains, Bool.not_eq_true', Option.isSome_eq_false_iff,
            Option.isNone_iff_eq_none] at hmissing
        exact ⟨number, .inr (by rw [hmask]; rfl), by rw [hget, maskSource_of_mask? hmask]⟩
  · rintro ⟨number, hasks, rfl⟩
    cases hget : keys.get? number with
    | some key => exact .inl (List.mem_map.2 ⟨_, Table.get?_eq_some_iff.1 hget, rfl⟩)
    | none =>
      have hmask := hasks.resolve_left (by rw [hget]; exact Bool.false_ne_true)
      obtain ⟨mask, hmask⟩ := Option.isSome_iff_exists.1 hmask
      obtain ⟨masks, rfl, hentry⟩ := Option.bind_eq_some_iff.1 hmask
      have hmissing : (!keys.contains number) = true := by rw [Table.contains, hget]; rfl
      refine .inr (List.mem_map.2 ⟨_, List.mem_filter.2
        ⟨Table.get?_eq_some_iff.1 hentry, hmissing⟩, ?_⟩)
      rw [maskSource_of_mask? hmask]

theorem exists_of_addEach_eq_error {e : DecodeError} (h : m.addEach l = .error e) :
    ∃ entry ∈ l, FlowKey.parse entry.number entry.key? entry.source = .error e := by
  induction l generalizing m with
  | nil => cases h
  | cons entry rest ih =>
    rcases bind_eq_error_iff.1 h with h | ⟨k, -, h⟩
    · exact ⟨entry, List.mem_cons_self, h⟩
    · obtain ⟨later, hmem, herror⟩ := ih h
      exact ⟨later, List.mem_cons_of_mem entry hmem, herror⟩

/-- Each key is read of something, and something of each is a key. -/
theorem exists_keys_of_addEach (h : m.addEach l = .ok m') :
    ∃ read : List FlowKey, read.foldl add m = m' ∧
    (∀ k ∈ read, ∃ e ∈ l, FlowKey.parse e.number e.key? e.source = .ok k) ∧
    ∀ e ∈ l, ∃ k ∈ read, FlowKey.parse e.number e.key? e.source = .ok k := by
  induction l generalizing m with
  | nil =>
    cases h
    exact ⟨[], rfl, fun _ hk => absurd hk List.not_mem_nil, fun _ he => absurd he List.not_mem_nil⟩
  | cons e rest ih =>
    obtain ⟨k, hk, h⟩ := bind_eq_ok_iff.1 h
    obtain ⟨read, hm', hread, hrest⟩ := ih h
    refine ⟨k :: read, hm', List.forall_mem_cons.2 ⟨⟨e, List.mem_cons_self, hk⟩, ?_⟩,
      List.forall_mem_cons.2 ⟨⟨k, List.mem_cons_self, hk⟩, ?_⟩⟩
    · intro k' hk'
      obtain ⟨e', he', hparse⟩ := hread k' hk'
      exact ⟨e', List.mem_cons_of_mem e he', hparse⟩
    · intro e' he'
      obtain ⟨k', hk', hparse⟩ := hrest e' he'
      exact ⟨k', List.mem_cons_of_mem k hk', hparse⟩

end Match

/-! ### All types -/

/-- Of each type one key is asked for. -/
theorem FlowKey.IsAsked.unique {k k' : FlowKey} {keys : AttributeSet}
    {masks? : Option AttributeSet} {number number' : UInt16} (h : k.IsAsked keys masks? number)
    (h' : k'.IsAsked keys masks? number') (htype : k.type = k'.type) : k = k' := by
  rw [h.type_eq, h'.type_eq] at htype
  have hnumber := congrArg Vocabulary.number htype
  rw [Vocabulary.number_ofNumber, Vocabulary.number_ofNumber] at hnumber
  subst hnumber
  exact Except.ok.inj ((FlowKey.parse_eq_ok_iff.2 h).symm.trans (FlowKey.parse_eq_ok_iff.2 h'))

namespace KeyLayout

variable {layout : KeyLayout} {keys : AttributeSet} {masks? : Option AttributeSet}
  {number : UInt16} {n : Nat}

theorem Admits.exists_ofOctets (h : layout.Admits keys masks? number)
    (hsize : layout.length? = some n) : ∃ k : FlowKey, k.IsAsked keys masks? number := by
  obtain ⟨hknown, ⟨_, hmask⟩, hkey, hmissing⟩ := h
  obtain ⟨hlength, -⟩ := (resolves_octets_iff hsize).1 hmask
  cases hget : keys.get? number with
  | some key =>
    obtain ⟨_, hreads⟩ := fits_iff.1 (hkey key hget)
    obtain ⟨hcount, -⟩ := (reads_octets_iff hsize).1 hreads
    refine ⟨.ofOctets layout ⟨_, key, _, hlength.trans hcount.symm⟩,
      (FlowKey.isAsked_ofOctets_iff hknown hsize).2
        ⟨rfl, hcount, rfl, fun key' h => ?_, fun h => ?_⟩⟩
    · exact Option.some.inj (hget.symm.trans h)
    · rw [hget] at h
      cases h
  | none =>
    obtain ⟨-, hzeros⟩ := (resolves_octets_iff hsize).1 (hmissing hget)
    rw [zeros_of_size hsize] at hzeros
    refine ⟨.ofOctets layout ⟨_, List.replicate n 0, _, hlength.trans List.length_replicate.symm⟩,
      (FlowKey.isAsked_ofOctets_iff hknown hsize).2
        ⟨rfl, List.length_replicate, rfl, fun key' h => ?_, fun _ => ?_⟩⟩
    · rw [hget] at h
      cases h
    · exact ⟨(KeyValue.octets.inj hzeros).symm, rfl⟩

theorem Admits.exists_tunnel (h : KeyLayout.tunnel.Admits keys masks? number) :
    ∃ k : FlowKey, k.IsAsked keys masks? number := by
  obtain ⟨hknown, ⟨_, hmask⟩, hkey, hmissing⟩ := h
  obtain ⟨mask, -, hmask⟩ := resolves_tunnel_iff.1 hmask
  cases hget : keys.get? number with
  | some key =>
    obtain ⟨_, hreads⟩ := fits_iff.1 (hkey key hget)
    obtain ⟨f, p, -, hparse⟩ := reads_tunnel_iff.1 hreads
    refine ⟨.tunnel ⟨f, mask⟩, (FlowKey.isAsked_tunnel_iff hknown).2
      ⟨hmask, fun key' h => ⟨p, ?_⟩, fun h => ?_⟩⟩
    · rwa [← Option.some.inj (hget.symm.trans h)]
    · rw [hget] at h
      cases h
  | none =>
    obtain ⟨zeros, hzeros, hmask⟩ := resolves_tunnel_iff.1 (hmissing hget)
    refine ⟨.tunnel ⟨.zero, zeros⟩, (FlowKey.isAsked_tunnel_iff hknown).2
      ⟨hmask, fun key' h => ?_, fun _ => ?_⟩⟩
    · rw [hget] at h
      cases h
    · exact ⟨(KeyValue.fields.inj hzeros).symm, rfl⟩

/-- **A type can be read** exactly if there is a key to ask for. -/
theorem exists_admits_iff : (∃ layout : KeyLayout, layout.Admits keys masks? number) ↔
    ∃ k : FlowKey, k.IsAsked keys masks? number := by
  constructor
  · rintro ⟨layout, h⟩
    cases hsize : layout.length? with
    | some n => exact h.exists_ofOctets hsize
    | none =>
      obtain rfl := eq_tunnel_of_size hsize
      exact h.exists_tunnel
  · rintro ⟨k, h⟩
    refine ⟨k.layout, ?_, ⟨_, h.mask⟩, fun key hget => fits_iff.2 ⟨_, h.key key hget⟩,
      fun hget => ?_⟩
    · rw [← h.type_eq, h.known]
    · rw [← (h.missing hget).1]
      exact h.mask

end KeyLayout

namespace Match

variable {m m' : Match} {keys : AttributeSet} {masks? : Option AttributeSet} {l : List Entry}

/-- One match is asked for. -/
theorem IsAsked.unique (h : m.IsAsked keys masks?) (h' : m'.IsAsked keys masks?) : m = m' := by
  have hsubset : ∀ {m m' : Match}, m.IsAsked keys masks? → m'.IsAsked keys masks? →
      ∀ k ∈ m.toList, k ∈ m'.toList := by
    intro m m' h h' k hk
    obtain ⟨number, hasks, hasked⟩ := h.only k hk
    obtain ⟨k', hk', hasked'⟩ := h'.each number hasks
    rwa [hasked.unique hasked' (hasked.type_eq.trans hasked'.type_eq.symm)]
  exact eq_of_mem_toList_iff fun k => ⟨hsubset h h' k, hsubset h' h k⟩

/-- Whatever the order of the types, the match that is read is the one that is asked for. -/
theorem isAsked_of_addEach (hl : ∀ e, e ∈ l ↔ e ∈ entries keys masks?)
    (h : empty.addEach l = .ok m) : m.IsAsked keys masks? := by
  obtain ⟨read, rfl, hread, heach⟩ := exists_keys_of_addEach h
  have hasked : ∀ k ∈ read, ∃ number, Asks keys masks? number ∧ k.IsAsked keys masks? number := by
    intro k hk
    obtain ⟨e, he, hparse⟩ := hread k hk
    obtain ⟨number, hasks, rfl⟩ := mem_entries_iff.1 ((hl e).1 he)
    exact ⟨number, hasks, FlowKey.parse_eq_ok_iff.1 hparse⟩
  -- No key takes the place of another one: keys of one type are of one number, thus the same.
  have hmem : ∀ {k}, k ∈ (ofList read).toList ↔ k ∈ read := by
    refine mem_toList_ofList fun k hk k' hk' htype => ?_
    obtain ⟨_, -, hk⟩ := hasked k hk
    obtain ⟨_, -, hk'⟩ := hasked k' hk'
    exact hk.unique hk' htype
  constructor
  · intro k hk
    exact hasked k (hmem.1 hk)
  · intro number hasks
    obtain ⟨k, hk, hparse⟩ := heach _ ((hl _).2 (mem_entries_iff.2 ⟨number, hasks, rfl⟩))
    exact ⟨k, hmem.2 hk, FlowKey.parse_eq_ok_iff.1 hparse⟩

/-- Whatever the order of the types, what is reported is wrong with one of them. -/
theorem exists_offends_of_addEach (hl : ∀ e, e ∈ l ↔ e ∈ entries keys masks?) {e : DecodeError}
    (h : m.addEach l = .error e) :
    ∃ number, Asks keys masks? number ∧ (∀ k : FlowKey, ¬ k.IsAsked keys masks? number) ∧
      Offends keys masks? number e := by
  obtain ⟨entry, hentry, herror⟩ := exists_of_addEach_eq_error h
  obtain ⟨number, hasks, rfl⟩ := mem_entries_iff.1 ((hl entry).1 hentry)
  refine ⟨number, hasks, fun k hk => ?_, FlowKey.offends_of_parse herror⟩
  have hok := FlowKey.parse_eq_ok_iff.2 hk
  rw [herror] at hok
  cases hok

/-- **Whatever the order of the types**, a match is read exactly if each type has a key to ask
for. -/
theorem exists_addEach_eq_ok_iff (hl : ∀ e, e ∈ l ↔ e ∈ entries keys masks?) :
    (∃ m, empty.addEach l = .ok m) ↔
      ∀ number, Asks keys masks? number → ∃ k : FlowKey, k.IsAsked keys masks? number := by
  constructor
  · rintro ⟨m, h⟩ number hasks
    obtain ⟨k, -, hk⟩ := (isAsked_of_addEach hl h).each number hasks
    exact ⟨k, hk⟩
  · intro heach
    cases h : empty.addEach l with
    | ok m => exact ⟨m, rfl⟩
    | error e =>
      obtain ⟨number, hasks, hnone, -⟩ := exists_offends_of_addEach hl h
      obtain ⟨k, hk⟩ := heach number hasks
      exact absurd hk (hnone k)

/-- **Whatever the order of the types**, just the match that is asked for is read. -/
theorem addEach_eq_ok_iff_isAsked (hl : ∀ e, e ∈ l ↔ e ∈ entries keys masks?) :
    empty.addEach l = .ok m ↔ m.IsAsked keys masks? := by
  refine ⟨isAsked_of_addEach hl, fun hm => ?_⟩
  obtain ⟨m', hm'⟩ := (exists_addEach_eq_ok_iff hl).2 fun number hasks => by
    obtain ⟨k, -, hk⟩ := hm.each number hasks
    exact ⟨k, hk⟩
  rw [hm', hm.unique (isAsked_of_addEach hl hm')]

/-- **A match is read just as it is asked for.** It can be read exactly if each type that occurs
among the values or the masks is of a known layout, has a value and a mask of the right size, and
selects no bit where it has no value. The match then has a key for each of these types and no
others, with the value, or zeros in its place, and the mask that counts. Otherwise, one of these
types is reported for what is wrong with it. The order in which the types are gone through may
decide which one it is, and nothing else. -/
theorem parse_asked (keys : AttributeSet) (masks? : Option AttributeSet) :
    ((∃ m, parse keys masks? = .ok m) ↔ ∀ number, Asks keys masks? number →
      ∃ layout : KeyLayout, layout.Admits keys masks? number) ∧
    (∀ m, parse keys masks? = .ok m ↔ m.IsAsked keys masks?) ∧
    (∀ e, parse keys masks? = .error e →
      ∃ number, Asks keys masks? number ∧ Offends keys masks? number e) ∧
    ∀ l, l.Perm (entries keys masks?) →
      (∀ m, empty.addEach l = .ok m ↔ parse keys masks? = .ok m) ∧
      ∀ e, empty.addEach l = .error e →
        ∃ number, Asks keys masks? number ∧ Offends keys masks? number e := by
  have hself : ∀ e, e ∈ entries keys masks? ↔ e ∈ entries keys masks? := fun _ => Iff.rfl
  have hok : ∀ m, parse keys masks? = .ok m ↔ m.IsAsked keys masks? :=
    fun _ => addEach_eq_ok_iff_isAsked hself
  refine ⟨?_, hok, fun e he => ?_, fun l hl => ⟨fun m => ?_, fun e he => ?_⟩⟩
  · simp only [KeyLayout.exists_admits_iff]
    exact exists_addEach_eq_ok_iff hself
  · obtain ⟨number, hasks, -, hoffends⟩ := exists_offends_of_addEach hself he
    exact ⟨number, hasks, hoffends⟩
  · rw [hok, addEach_eq_ok_iff_isAsked fun _ => hl.mem_iff]
  · obtain ⟨number, hasks, -, hoffends⟩ := exists_offends_of_addEach (fun _ => hl.mem_iff) he
    exact ⟨number, hasks, hoffends⟩

/-- A mask that selects a part of a port counts for nothing, so that no value is missed. An empty
one selects nothing either, but it is taken as it is, and is too short. -/
example :
    parse .empty (some (.ofList [(3, [0xFF, 0, 0, 0])])) =
        .ok (ofList [.inPort ⟨.inPort, [0, 0, 0, 0], [0, 0, 0, 0], rfl⟩]) ∧
      parse .empty (some (.ofList [(3, [])])) = .error (.badAttributeLength 3 4 0) :=
  ⟨rfl, rfl⟩

end Match

end VSwitch
