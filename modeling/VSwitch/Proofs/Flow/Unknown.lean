import Mathlib
import VSwitch.Flow
import VSwitch.Proofs.Flow.Asking

/-!
# What is not known

A flow with a key or an action of an unknown type is not read at all, as nobody could tell what it
matches or does. Within the tunnel it is otherwise: a field of an unknown type is passed over, be it
in a value, in a mask or in what an action sets. So two flows that differ in nothing else are read
as one and the same. The known fields of a tunnel are all that is kept of it, and they are kept.

* `VSwitch.TunnelFields.Alike`, `VSwitch.Match.Alike`, `VSwitch.Action.Alike` and
  `VSwitch.Flow.Alike` say of what is read as a tunnel, as a match, as an action and as a flow that
  it differs in no more than this;
* `VSwitch.TunnelFields.parse_eq_iff_alike`: what is read of a tunnel are its known fields;
* `VSwitch.Flow.ofAttributes_alike`: flows that differ in no more are the same when they are read;
* `VSwitch.Flow.HasKey`, `VSwitch.Flow.HasAction` and `VSwitch.Flow.HasTunnel` say what the octets
  of a flow hold;
* `VSwitch.Flow.all_but_tunnel_fields_known` is the result, and `VSwitch.Flow.unknown_field_dropped`
  is about two flows that differ in an unknown field.
-/

namespace VSwitch

/-! ### Tunnels -/

namespace TunnelFields

/-- Two sets have the same fields of a tunnel, whatever else they have. Of a flag it counts whether
it is there, and not what it holds. -/
structure SameFields (s s' : AttributeSet) : Prop where
  octets : ∀ (t : TunnelField) (n : Nat), t.size? = some n → s.get? (field t) = s'.get? (field t)
  dontFragment : s.contains (field .dontFragment) = s'.contains (field .dontFragment)
  checksum : s.contains (field .checksum) = s'.contains (field .checksum)

/-- Octets of two tunnels differ in no more than fields of unknown types. -/
def Alike (b b' : Bytes) : Prop :=
  ∃ s s', AttributeSet.parse b = .ok s ∧ AttributeSet.parse b' = .ok s' ∧ SameFields s s'

variable {s s' : AttributeSet} {b b' : Bytes} {r : TunnelFields × TunnelPresence}

theorem SameFields.symm (h : SameFields s s') : SameFields s' s :=
  ⟨fun t n hsize => (h.octets t n hsize).symm, h.dontFragment.symm, h.checksum.symm⟩

theorem Alike.symm (h : Alike b b') : Alike b' b := by
  obtain ⟨s, s', hs, hs', hsame⟩ := h
  exact ⟨s', s, hs', hs, hsame.symm⟩

theorem octets?_congr {n : Nat} {t : TunnelField} (h : s.get? (field t) = s'.get? (field t)) :
    octets? s n t = octets? s' n t := by
  rw [octets?_eq, octets?_eq, h]

theorem SameFields.ofAttributes_eq (h : SameFields s s') : ofAttributes s = ofAttributes s' := by
  have hid := octets?_congr (n := 8) (h.octets .id 8 rfl)
  have hsource := octets?_congr (n := 4) (h.octets .source 4 rfl)
  have hdestination := octets?_congr (n := 4) (h.octets .destination 4 rfl)
  have htos : s.u8? (field .tos) = s'.u8? (field .tos) := by
    rw [u8?_eq_map, u8?_eq_map, octets?_congr (h.octets .tos 1 rfl)]
  have httl : s.u8? (field .ttl) = s'.u8? (field .ttl) := by
    rw [u8?_eq_map, u8?_eq_map, octets?_congr (h.octets .ttl 1 rfl)]
  simp only [ofAttributes, hid, hsource, hdestination, htos, httl, h.dontFragment, h.checksum]

/-- Sets that are read as one tunnel have its fields in common. -/
theorem sameFields_of_ofAttributes (h : ofAttributes s = .ok r) (h' : ofAttributes s' = .ok r) :
    SameFields s s' := by
  obtain ⟨f, p⟩ := r
  obtain ⟨hf, rfl⟩ := says_of_ofAttributes h
  obtain ⟨hf', hp⟩ := says_of_ofAttributes h'
  -- A field that is missing is read as zeros, so it counts, too, whether it is there.
  have hget : ∀ {o o' : Option Bytes} {zeros value : Bytes}, o'.isSome = o.isSome →
      o.getD zeros = value → o'.getD zeros = value → o = o' := by
    rintro (_ | v) (_ | v') zeros value hsome hvalue hvalue'
    · rfl
    · cases hsome
    · cases hsome
    · exact congrArg some (hvalue.trans hvalue'.symm)
  simp only [found, TunnelPresence.mk.injEq] at hp
  obtain ⟨hid, hsource, hdestination, htos, httl, hfragment, hchecksum⟩ := hp
  refine ⟨fun t n hsize => ?_, hfragment.symm, hchecksum.symm⟩
  cases t with
  | id => exact hget hid hf.id hf'.id
  | source => exact hget hsource hf.source hf'.source
  | destination => exact hget hdestination hf.destination hf'.destination
  | tos => exact hget htos hf.tos hf'.tos
  | ttl => exact hget httl hf.ttl hf'.ttl
  | dontFragment | checksum | other => cases hsize

theorem Alike.parse_eq (h : Alike b b') : parse b = parse b' := by
  obtain ⟨s, s', hs, hs', hsame⟩ := h
  rw [parse, parse, hs, hs']
  exact hsame.ofAttributes_eq

/-- **The known fields of a tunnel are what is read of it**: octets are read as the same tunnel
exactly if they differ in no more than fields of unknown types. -/
theorem parse_eq_iff_alike (h : parse b = .ok r) : parse b' = .ok r ↔ Alike b b' := by
  constructor
  · intro h'
    obtain ⟨s, hs, hr⟩ := bind_eq_ok_iff.1 h
    obtain ⟨s', hs', hr'⟩ := bind_eq_ok_iff.1 h'
    exact ⟨s, s', hs, hs', sameFields_of_ofAttributes hr hr'⟩
  · intro halike
    rw [← halike.parse_eq, h]

end TunnelFields

/-! ### Matches -/

/-- Sets of values, or of masks, differ in no more than fields of a tunnel that are of unknown
types. -/
def Match.Alike (s s' : AttributeSet) : Prop :=
  ∀ number, s.get? number = s'.get? number ∨ number = Vocabulary.number KeyType.tunnel ∧
    ∃ b b', s.get? number = some b ∧ s'.get? number = some b' ∧ TunnelFields.Alike b b'

namespace Match

variable {keys keys' : AttributeSet} {masks? masks'? : Option AttributeSet} {number : UInt16}
  {m : Match}

theorem Alike.symm (h : Alike keys keys') : Alike keys' keys := by
  intro number
  refine (h number).imp Eq.symm ?_
  rintro ⟨htunnel, b, b', hb, hb', halike⟩
  exact ⟨htunnel, b', b, hb', hb, halike.symm⟩

theorem Alike.isSome_eq (h : Alike keys keys') :
    (keys.get? number).isSome = (keys'.get? number).isSome := by
  rcases h number with heq | ⟨-, b, b', hb, hb', -⟩
  · rw [heq]
  · rw [hb, hb']
    rfl

theorem asks_iff_of_alike (hkeys : Alike keys keys') (hmasks : Option.Rel Alike masks? masks'?) :
    Asks keys masks? number ↔ Asks keys' masks'? number := by
  have hmask : (mask? masks? number).isSome = (mask? masks'? number).isSome := by
    cases hmasks with
    | none => rfl
    | some h => exact h.isSome_eq
  rw [Asks, Asks, hkeys.isSome_eq, hmask]

/-- Of a type that is not the tunnel nothing differs. -/
theorem Alike.get?_eq (h : Alike keys keys') (hne : number ≠ Vocabulary.number KeyType.tunnel) :
    keys.get? number = keys'.get? number :=
  (h number).resolve_right fun h => hne h.1

/-- Whatever differs of the masks is read alike as the mask of a tunnel. -/
theorem maskOf_eq_of_alike (h : Option.Rel Alike masks? masks'?) (number : UInt16) :
    TunnelKey.maskOf (maskSource masks? number) = TunnelKey.maskOf (maskSource masks'? number) := by
  cases h with
  | none => rfl
  | some h =>
    rcases h number with heq | ⟨-, b, b', hb, hb', halike⟩
    · rw [maskSource, maskSource, heq]
    · rw [maskSource, maskSource, hb, hb', TunnelKey.maskOf, TunnelKey.maskOf, halike.parse_eq]

/-- **Each key is read alike** where nothing but fields of a tunnel differ that are of unknown
types. -/
theorem parse_key_eq_of_alike (hkeys : Alike keys keys')
    (hmasks : Option.Rel Alike masks? masks'?) :
    FlowKey.parse number (keys.get? number) (maskSource masks? number) =
      FlowKey.parse number (keys'.get? number) (maskSource masks'? number) := by
  by_cases htunnel : number = Vocabulary.number KeyType.tunnel
  · have hlayout : KeyType.layout? (Vocabulary.ofNumber number) = some .tunnel := by
      rw [htunnel]
      rfl
    have hmask := maskOf_eq_of_alike hmasks number
    rw [FlowKey.parse_of_tunnel hlayout, FlowKey.parse_of_tunnel hlayout, TunnelKey.parse,
      TunnelKey.parse, hmask]
    rcases hkeys number with heq | ⟨-, b, b', hb, hb', halike⟩
    · rw [heq]
    · rw [hb, hb']
      simp only [halike.parse_eq]
  · have hmask : maskSource masks? number = maskSource masks'? number := by
      cases hmasks with
      | none => rfl
      | some h => rw [maskSource, maskSource, h.get?_eq htunnel]
    rw [hkeys.get?_eq htunnel, hmask]

/-- **Matches are read alike** where nothing but fields of a tunnel differ that are of unknown
types. -/
theorem parse_eq_ok_iff_of_alike (hkeys : Alike keys keys')
    (hmasks : Option.Rel Alike masks? masks'?) :
    parse keys masks? = .ok m ↔ parse keys' masks'? = .ok m := by
  have hkey : ∀ {k : FlowKey} {number : UInt16},
      k.IsAsked keys masks? number ↔ k.IsAsked keys' masks'? number := by
    intro k number
    rw [← FlowKey.parse_eq_ok_iff, ← FlowKey.parse_eq_ok_iff, parse_key_eq_of_alike hkeys hmasks]
  have hasks : ∀ {number}, Asks keys masks? number ↔ Asks keys' masks'? number :=
    asks_iff_of_alike hkeys hmasks
  have hself : ∀ {keys : AttributeSet} {masks? : Option AttributeSet},
      parse keys masks? = .ok m ↔ m.IsAsked keys masks? :=
    addEach_eq_ok_iff_isAsked fun _ => Iff.rfl
  rw [hself, hself]
  constructor
  · rintro ⟨honly, heach⟩
    simp only [hkey, hasks] at honly heach
    exact ⟨honly, heach⟩
  · rintro ⟨honly, heach⟩
    simp only [← hkey, ← hasks] at honly heach
    exact ⟨honly, heach⟩

/-- The octets of a tunnel are read, be they a value or a mask. -/
theorem exists_fields_of_parse {b : Bytes} (h : parse keys masks? = .ok m)
    (hb : keys.get? (Vocabulary.number KeyType.tunnel) = some b ∨
      mask? masks? (Vocabulary.number KeyType.tunnel) = some b) :
    ∃ r, TunnelFields.parse b = .ok r := by
  have hasks : Asks keys masks? (Vocabulary.number KeyType.tunnel) := by
    rcases hb with hb | hb
    · exact .inl (by rw [hb]; rfl)
    · exact .inr (by rw [hb]; rfl)
  obtain ⟨k, -, hk⟩ := ((addEach_eq_ok_iff_isAsked fun _ => Iff.rfl).1 h).each _ hasks
  have hlayout : k.layout = .tunnel := by
    have hknown := hk.known
    rw [hk.type_eq] at hknown
    exact (Option.some.inj hknown).symm
  have hmask := hk.mask
  have hkey := hk.key
  rw [hlayout] at hmask hkey
  rcases hb with hb | hb
  · obtain ⟨f, p, -, hr⟩ := KeyLayout.reads_tunnel_iff.1 (hkey b hb)
    exact ⟨_, hr⟩
  · obtain ⟨f, -, hf⟩ := KeyLayout.resolves_tunnel_iff.1 hmask
    rw [maskSource_of_mask? hb] at hf
    obtain ⟨r, hr, -⟩ := map_eq_ok_iff.1 hf
    exact ⟨r, hr⟩

end Match

/-! ### Actions -/

namespace Action

/-- Actions differ in no more than fields of a tunnel that are of unknown types. -/
inductive Alike : UInt16 × Bytes → UInt16 × Bytes → Prop
  /-- They do not differ. -/
  | same (e : UInt16 × Bytes) : Alike e e
  /-- Both set a tunnel. -/
  | set {v v' b b' : Bytes}
    (parse : Attribute.parse v = .ok [(Vocabulary.number KeyType.tunnel, b)])
    (parse' : Attribute.parse v' = .ok [(Vocabulary.number KeyType.tunnel, b')])
    (alike : TunnelFields.Alike b b') :
    Alike (Vocabulary.number ActionType.set, v) (Vocabulary.number ActionType.set, v')

theorem Alike.symm {e e' : UInt16 × Bytes} (h : Alike e e') : Alike e' e := by
  cases h with
  | same => exact .same e
  | set hv hv' halike => exact .set hv' hv halike.symm

theorem Alike.parse_eq {e e' : UInt16 × Bytes} (h : Alike e e') :
    Action.parse e.1 e.2 = Action.parse e'.1 e'.2 := by
  cases h with
  | same => rfl
  | set hv hv' halike =>
    change parseSet _ = parseSet _
    rw [parseSet, parseSet, hv, hv']
    simp only [bind, Except.bind, if_true, halike.parse_eq]

theorem parseEach_eq_of_alike {l l' : List (UInt16 × Bytes)} (h : List.Forall₂ Alike l l') :
    parseEach l = parseEach l' := by
  induction h with
  | nil => rfl
  | @cons e e' rest rest' he _ ih => rw [parseEach, parseEach, he.parse_eq, ih]

/-- An action that is read is of a known type, and if it sets a key, this is the tunnel alone. -/
def IsKnown (e : UInt16 × Bytes) : Prop :=
  e.1 = Vocabulary.number ActionType.output ∨ e.1 = Vocabulary.number ActionType.set ∧
    ∃ b, Attribute.parse e.2 = .ok [(Vocabulary.number KeyType.tunnel, b)]

theorem isKnown_of_parse {e : UInt16 × Bytes} {a : Action} (h : Action.parse e.1 e.2 = .ok a) :
    IsKnown e := by
  have hnumber := Vocabulary.number_ofNumber (α := ActionType) e.1
  rw [parse] at h
  split at h
  next htype =>
    rw [htype] at hnumber
    exact .inl hnumber.symm
  next htype =>
    rw [htype] at hnumber
    refine .inr ⟨hnumber.symm, ?_⟩
    obtain ⟨l, hl, h⟩ := bind_eq_ok_iff.1 h
    dsimp only at h
    split at h
    next number b =>
      split at h
      next heq =>
        subst heq
        exact ⟨b, hl⟩
      next => cases h
    next => cases h
  next => cases h
  next => cases h
  next => cases h

/-- What an action sets is read as a tunnel. -/
theorem exists_fields_of_parse {v b : Bytes} {a : Action}
    (h : Action.parse (Vocabulary.number ActionType.set) v = .ok a)
    (hv : Attribute.parse v = .ok [(Vocabulary.number KeyType.tunnel, b)]) :
    ∃ r, TunnelFields.parse b = .ok r := by
  change parseSet v = .ok a at h
  obtain ⟨_, hl, h⟩ := bind_eq_ok_iff.1 h
  obtain rfl := Except.ok.inj (hv.symm.trans hl)
  obtain ⟨r, hr, -⟩ := bind_eq_ok_iff.1 h
  exact ⟨r, hr⟩

theorem exists_parse_of_parseEach {l : List (UInt16 × Bytes)} {actions : List Action}
    (h : parseEach l = .ok actions) : ∀ e ∈ l, ∃ a, Action.parse e.1 e.2 = .ok a := by
  induction l generalizing actions with
  | nil => exact fun e he => absurd he List.not_mem_nil
  | cons e rest ih =>
    obtain ⟨a, ha, h⟩ := bind_eq_ok_iff.1 h
    obtain ⟨later, hlater, -⟩ := bind_eq_ok_iff.1 h
    exact List.forall_mem_cons.2 ⟨⟨a, ha⟩, ih hlater⟩

end Action

/-! ### Flows -/

namespace Flow

/-- Values of an attribute of a flow differ in no more than fields of a tunnel that are of unknown
types. -/
inductive ValueAlike (number : UInt16) (v v' : Bytes) : Prop
  /-- The values of keys, or their masks. -/
  | sets {s s' : AttributeSet} (type : number = Vocabulary.number FlowAttribute.key ∨
      number = Vocabulary.number FlowAttribute.mask) (parse : AttributeSet.parse v = .ok s)
    (parse' : AttributeSet.parse v' = .ok s') (alike : Match.Alike s s')
  /-- The actions. -/
  | actions {l l' : List (UInt16 × Bytes)} (type : number = Vocabulary.number FlowAttribute.actions)
    (parse : Attribute.parse v = .ok l) (parse' : Attribute.parse v' = .ok l')
    (alike : List.Forall₂ Action.Alike l l')

/-- Flows differ in no more than fields of a tunnel that are of unknown types. -/
def Alike (s s' : AttributeSet) : Prop :=
  ∀ number, s.get? number = s'.get? number ∨
    ∃ v v', s.get? number = some v ∧ s'.get? number = some v' ∧ ValueAlike number v v'

/-- A flow has a key of a type, with a value or a mask. -/
def HasKey (s : AttributeSet) (number : UInt16) (value : Bytes) : Prop :=
  ∃ octets set, (s.get? (Vocabulary.number FlowAttribute.key) = some octets ∨
      s.get? (Vocabulary.number FlowAttribute.mask) = some octets) ∧
    AttributeSet.parse octets = .ok set ∧ set.get? number = some value

/-- A flow has an action. -/
def HasAction (s : AttributeSet) (e : UInt16 × Bytes) : Prop :=
  ∃ octets l, s.get? (Vocabulary.number FlowAttribute.actions) = some octets ∧
    Attribute.parse octets = .ok l ∧ e ∈ l

/-- A flow has the octets of a tunnel: as a value, as a mask, or as what an action sets. -/
def HasTunnel (s : AttributeSet) (b : Bytes) : Prop :=
  HasKey s (Vocabulary.number KeyType.tunnel) b ∨
    ∃ v, HasAction s (Vocabulary.number ActionType.set, v) ∧
      Attribute.parse v = .ok [(Vocabulary.number KeyType.tunnel, b)]

variable {s s' : AttributeSet} {f : Flow}

theorem Alike.symm (h : Alike s s') : Alike s' s := by
  intro number
  refine (h number).imp Eq.symm ?_
  rintro ⟨v, v', hv, hv', ⟨htype, hs, hs', halike⟩ | ⟨htype, hl, hl', halike⟩⟩
  · exact ⟨v', v, hv', hv, .sets htype hs' hs halike.symm⟩
  · exact ⟨v', v, hv', hv, .actions htype hl' hl (halike.flip.imp fun _ _ => Action.Alike.symm)⟩

/-- A flow is read of a set of attributes part by part. -/
theorem ofAttributes_eq_ok_iff : ofAttributes s = .ok f ↔ ∃ keys masks? octets,
    s.nested (Vocabulary.number FlowAttribute.key) = .ok keys ∧
      s.nested? (Vocabulary.number FlowAttribute.mask) = .ok masks? ∧
      Match.parse keys masks? = .ok f.keys ∧
      s.get? (Vocabulary.number FlowAttribute.actions) = some octets ∧
      Action.parseAll octets = .ok f.actions ∧ FlowStats.ofAttributes s = .ok f.stats? := by
  simp only [ofAttributes, bind_eq_ok_iff, AttributeSet.bytes_eq_ok_iff]
  constructor
  · rintro ⟨keys, hkeys, masks?, hmasks, m, hm, octets, hget, actions, hactions, stats?, hstats, h⟩
    cases h
    exact ⟨keys, masks?, octets, hkeys, hmasks, hm, hget, hactions, hstats⟩
  · rintro ⟨keys, masks?, octets, hkeys, hmasks, hm, hget, hactions, hstats⟩
    exact ⟨keys, hkeys, masks?, hmasks, _, hm, octets, hget, _, hactions, _, hstats, rfl⟩

/-- Neither the counters nor anything else differs that is not named. -/
theorem Alike.get?_eq (h : Alike s s') (number : UInt16)
    (hkey : number ≠ Vocabulary.number FlowAttribute.key)
    (hmask : number ≠ Vocabulary.number FlowAttribute.mask)
    (hactions : number ≠ Vocabulary.number FlowAttribute.actions) :
    s.get? number = s'.get? number := by
  rcases h number with heq | ⟨v, v', -, -, ⟨rfl | rfl, -, -, -⟩ | ⟨rfl, -, -, -⟩⟩
  · exact heq
  · exact absurd rfl hkey
  · exact absurd rfl hmask
  · exact absurd rfl hactions

theorem Alike.isSome_eq (h : Alike s s') (number : UInt16) :
    (s.get? number).isSome = (s'.get? number).isSome := by
  rcases h number with heq | ⟨v, v', hv, hv', -⟩
  · rw [heq]
  · rw [hv, hv']
    rfl

/-- The values of the keys are sets that differ in no more, and so are their masks. -/
theorem Alike.exists_set (h : Alike s s') {number : UInt16}
    (hne : number ≠ Vocabulary.number FlowAttribute.actions) {octets : Bytes} {inner : AttributeSet}
    (hget : s.get? number = some octets) (hinner : AttributeSet.parse octets = .ok inner) :
    ∃ octets' inner', s'.get? number = some octets' ∧ AttributeSet.parse octets' = .ok inner' ∧
      Match.Alike inner inner' := by
  rcases h number with heq | ⟨v, v', hv, hv', ⟨-, hs, hs', halike⟩ | ⟨heq, -, -, -⟩⟩
  · exact ⟨octets, inner, heq ▸ hget, hinner, fun _ => .inl rfl⟩
  · obtain rfl := Option.some.inj (hget.symm.trans hv)
    obtain rfl := Except.ok.inj (hinner.symm.trans hs)
    exact ⟨v', _, hv', hs', halike⟩
  · exact absurd heq hne

/-- The actions are read alike. -/
theorem Alike.exists_actions (h : Alike s s') {octets : Bytes}
    (hget : s.get? (Vocabulary.number FlowAttribute.actions) = some octets) :
    ∃ octets', s'.get? (Vocabulary.number FlowAttribute.actions) = some octets' ∧
      Action.parseAll octets = Action.parseAll octets' := by
  rcases h (Vocabulary.number FlowAttribute.actions) with
    heq | ⟨v, v', hv, hv', ⟨htype, -, -, -⟩ | ⟨-, hl, hl', halike⟩⟩
  · exact ⟨octets, heq ▸ hget, rfl⟩
  · exact absurd htype (by decide)
  · obtain rfl := Option.some.inj (hget.symm.trans hv)
    refine ⟨v', hv', ?_⟩
    rw [Action.parseAll, Action.parseAll, hl, hl']
    exact Action.parseEach_eq_of_alike halike


theorem Alike.stats_eq (h : Alike s s') : FlowStats.ofAttributes s = FlowStats.ofAttributes s' := by
  have hstats : s.get? (Vocabulary.number FlowAttribute.stats) =
      s'.get? (Vocabulary.number FlowAttribute.stats) :=
    h.get?_eq _ (by decide) (by decide) (by decide)
  have hused : s.u64? (Vocabulary.number FlowAttribute.used) =
      s'.u64? (Vocabulary.number FlowAttribute.used) := by
    have hget := h.get?_eq (Vocabulary.number FlowAttribute.used) (by decide) (by decide)
      (by decide)
    rw [AttributeSet.u64?, AttributeSet.optional, AttributeSet.u64, AttributeSet.octets,
      AttributeSet.bytes, Table.contains, hget]
    rfl
  have hflags : s.u8? (Vocabulary.number FlowAttribute.tcpFlags) =
      s'.u8? (Vocabulary.number FlowAttribute.tcpFlags) := by
    have hget := h.get?_eq (Vocabulary.number FlowAttribute.tcpFlags) (by decide) (by decide)
      (by decide)
    rw [AttributeSet.u8?, AttributeSet.optional, AttributeSet.u8, AttributeSet.octets,
      AttributeSet.bytes, Table.contains, hget]
    rfl
  rw [FlowStats.ofAttributes, FlowStats.ofAttributes, hstats, hused, hflags]

/-- **A flow is read as before** where nothing but fields of a tunnel changes that are of unknown
types. -/
theorem ofAttributes_alike (h : Alike s s') (hf : ofAttributes s = .ok f) :
    ofAttributes s' = .ok f := by
  obtain ⟨keys, masks?, octets, hkeys, hmasks, hm, hactions, hread, hstats⟩ :=
    ofAttributes_eq_ok_iff.1 hf
  obtain ⟨keyOctets, hkeyGet, hkeyParse⟩ := AttributeSet.nested_eq_ok_iff.1 hkeys
  obtain ⟨keyOctets', keys', hkeyGet', hkeyParse', hkeyAlike⟩ :=
    h.exists_set (by decide) hkeyGet hkeyParse
  obtain ⟨octets', hactions', hsame⟩ := h.exists_actions hactions
  have hmasks' : ∃ masks'?, s'.nested? (Vocabulary.number FlowAttribute.mask) = .ok masks'? ∧
      Option.Rel Match.Alike masks? masks'? := by
    rcases AttributeSet.nested?_eq_ok_iff.1 hmasks with
      ⟨hnone, rfl⟩ | ⟨maskOctets, masks, hmaskGet, hmaskParse, rfl⟩
    · have hsome := h.isSome_eq (Vocabulary.number FlowAttribute.mask)
      rw [hnone] at hsome
      have hnone' := Option.isNone_iff_eq_none.1 (Option.isSome_eq_false_iff.1 hsome.symm)
      exact ⟨none, AttributeSet.nested?_eq_ok_iff.2 (.inl ⟨hnone', rfl⟩), .none⟩
    · obtain ⟨maskOctets', masks', hmaskGet', hmaskParse', hmaskAlike⟩ :=
        h.exists_set (by decide) hmaskGet hmaskParse
      exact ⟨some masks', AttributeSet.nested?_eq_ok_iff.2
        (.inr ⟨maskOctets', masks', hmaskGet', hmaskParse', rfl⟩), .some hmaskAlike⟩
  obtain ⟨masks'?, hmasks', hmaskAlike⟩ := hmasks'
  refine ofAttributes_eq_ok_iff.2 ⟨keys', masks'?, octets',
    AttributeSet.nested_eq_ok_iff.2 ⟨keyOctets', hkeyGet', hkeyParse'⟩, hmasks', ?_, hactions',
    hsame ▸ hread, h.stats_eq ▸ hstats⟩
  exact (Match.parse_eq_ok_iff_of_alike hkeyAlike hmaskAlike).1 hm

/-- What a flow has that is read is read. -/
theorem exists_parse_of_hasKey (hf : ofAttributes s = .ok f) {number : UInt16} {value : Bytes}
    (hkey : HasKey s number value) : ∃ keys masks?, Match.parse keys masks? = .ok f.keys ∧
      (keys.get? number = some value ∨ Match.mask? masks? number = some value) := by
  obtain ⟨keys, masks?, -, hkeys, hmasks, hm, -⟩ := ofAttributes_eq_ok_iff.1 hf
  refine ⟨keys, masks?, hm, ?_⟩
  obtain ⟨octets, set, hget | hget, hset, hvalue⟩ := hkey
  · obtain ⟨_, hkeyGet, hkeyParse⟩ := AttributeSet.nested_eq_ok_iff.1 hkeys
    obtain rfl := Option.some.inj (hget.symm.trans hkeyGet)
    obtain rfl := Except.ok.inj (hset.symm.trans hkeyParse)
    exact .inl hvalue
  · rcases AttributeSet.nested?_eq_ok_iff.1 hmasks with
      ⟨hnone, -⟩ | ⟨_, masks, hmaskGet, hmaskParse, rfl⟩
    · rw [hget] at hnone
      cases hnone
    · obtain rfl := Option.some.inj (hget.symm.trans hmaskGet)
      obtain rfl := Except.ok.inj (hset.symm.trans hmaskParse)
      exact .inr hvalue

theorem exists_parse_of_hasAction (hf : ofAttributes s = .ok f) {e : UInt16 × Bytes}
    (haction : HasAction s e) : ∃ a, Action.parse e.1 e.2 = .ok a := by
  obtain ⟨-, -, _, -, -, -, hactions, hread, -⟩ := ofAttributes_eq_ok_iff.1 hf
  obtain ⟨octets, l, hget, hl, he⟩ := haction
  obtain rfl := Option.some.inj (hget.symm.trans hactions)
  obtain ⟨_, hl', heach⟩ := bind_eq_ok_iff.1 hread
  obtain rfl := Except.ok.inj (hl.symm.trans hl')
  exact Action.exists_parse_of_parseEach heach e he

/-- **Only fields of a tunnel may be of unknown types.** Where a flow is read, every key of it is of
a type whose layout is known, and every action is known, too. Of a tunnel the known fields are kept,
as other octets are read as the same tunnel only if they have these in common. Whatever else is in
a tunnel is dropped, be it in a value, in a mask or in what an action sets: a flow that differs in
no more is read as the same one. -/
theorem all_but_tunnel_fields_known (hf : ofAttributes s = .ok f) :
    (∀ number value, HasKey s number value →
      (KeyType.layout? (Vocabulary.ofNumber number)).isSome = true) ∧
    (∀ e, HasAction s e → Action.IsKnown e) ∧
    (∀ b, HasTunnel s b → ∃ r, TunnelFields.parse b = .ok r ∧
      ∀ b', TunnelFields.parse b' = .ok r ↔ TunnelFields.Alike b b') ∧
    ∀ s', Alike s s' → ofAttributes s' = .ok f := by
  refine ⟨fun number value hkey => ?_, fun e haction => ?_, fun b htunnel => ?_,
    fun s' halike => ofAttributes_alike halike hf⟩
  · obtain ⟨keys, masks?, hm, hvalue⟩ := exists_parse_of_hasKey hf hkey
    have hasks : Match.Asks keys masks? number :=
      hvalue.imp (fun h => by rw [h]; rfl) fun h => by rw [h]; rfl
    obtain ⟨k, -, hk⟩ := ((Match.addEach_eq_ok_iff_isAsked fun _ => Iff.rfl).1 hm).each _ hasks
    rw [← hk.type_eq, hk.known]
    rfl
  · obtain ⟨a, ha⟩ := exists_parse_of_hasAction hf haction
    exact Action.isKnown_of_parse ha
  · have hread : ∃ r, TunnelFields.parse b = .ok r := by
      rcases htunnel with hkey | ⟨v, haction, hv⟩
      · obtain ⟨keys, masks?, hm, hb⟩ := exists_parse_of_hasKey hf hkey
        exact Match.exists_fields_of_parse hm hb
      · obtain ⟨a, ha⟩ := exists_parse_of_hasAction hf haction
        exact Action.exists_fields_of_parse ha hv
    obtain ⟨r, hr⟩ := hread
    exact ⟨r, hr, fun b' => TunnelFields.parse_eq_iff_alike hr⟩

/-- The octets of a tunnel with its number and a field of the type 7, which no field has. -/
def strange : Bytes := [12, 0, 0, 0, 0, 0, 0, 0, 0, 0, 0, 5, 8, 0, 7, 0, 1, 2, 3, 4]

/-- The octets of a tunnel with its number alone. -/
def ordinary : Bytes := [12, 0, 0, 0, 0, 0, 0, 0, 0, 0, 0, 5]

/-- The attributes of a flow. The octets of a tunnel are in them three times: as the value of a key,
as its mask, and as what an action sets. -/
def tunnelThrice (tunnel : Bytes) : List AttributeTree :=
  let leaf : AttributeTree := .leaf (Vocabulary.number KeyType.tunnel) tunnel
  [.node (Vocabulary.number FlowAttribute.key) [leaf],
    .node (Vocabulary.number FlowAttribute.mask) [leaf],
    .node (Vocabulary.number FlowAttribute.actions)
      [.node (Vocabulary.number ActionType.set) [leaf]]]

/-- A message about a flow with these attributes in the datapath 2. -/
def telling (tunnel : Bytes) : Bytes :=
  let attributes := AttributeTree.wires (tunnelThrice tunnel)
  MessageHeader.toBytes ⟨24 + UInt32.ofNat attributes.length, 26, 0, 0, 0⟩ ++
    GenericHeader.toBytes ⟨1, 1⟩ ++ DatapathHeader.toBytes ⟨2⟩ ++ attributes

/-- The flow that the tunnel's number alone tells of. -/
def numbersOnly : Flow where
  keys := .ofList [.tunnel ⟨{ TunnelFields.zero with id := ⟨[0, 0, 0, 0, 0, 0, 0, 5], rfl⟩ },
    { TunnelFields.zero with id := ⟨[0, 0, 0, 0, 0, 0, 0, 5], rfl⟩ }⟩]
  actions := [.setTunnel ⟨{ TunnelFields.zero with id := ⟨[0, 0, 0, 0, 0, 0, 0, 5], rfl⟩ },
    { id := true }⟩]
  stats? := none

/-- The tunnel with the field of an unknown type is read as the one without it is. -/
theorem all_but_tunnel_fields_known_strange : ∃ s, ofAttributes s = .ok numbersOnly ∧
    HasTunnel s strange ∧ TunnelFields.Alike strange ordinary := by
  have hf : ofAttributes (Table.ofList ((tunnelThrice strange).map fun t => (t.type, t.payload))) =
      .ok numbersOnly := by cbv
  have htunnel : HasTunnel (Table.ofList ((tunnelThrice strange).map fun t => (t.type, t.payload)))
      strange :=
    .inl ⟨AttributeTree.wires [.leaf (Vocabulary.number KeyType.tunnel) strange],
      Table.ofList [(Vocabulary.number KeyType.tunnel, strange)], .inl (by cbv), by cbv, by cbv⟩
  obtain ⟨-, -, htunnels, -⟩ := all_but_tunnel_fields_known hf
  obtain ⟨r, hr, hiff⟩ := htunnels strange htunnel
  have hsame : TunnelFields.parse ordinary = TunnelFields.parse strange := by cbv
  exact ⟨_, hf, htunnel, (hiff ordinary).1 (hsame.trans hr)⟩

/-- A field of an unknown type does not keep a flow from being read, and what it says is lost. -/
theorem unknown_field_dropped :
    AttributeSet.parse strange =
      .ok (Table.ofList [(0, [0, 0, 0, 0, 0, 0, 0, 5]), (7, [1, 2, 3, 4])]) ∧
    (∀ t : TunnelField, TunnelFields.field t = 7 → t = .other 7) ∧
    telling strange ≠ telling ordinary ∧ parse 26 ⟨2⟩ (telling strange) = .ok numbersOnly ∧
    parse 26 ⟨2⟩ (telling ordinary) = .ok numbersOnly := by
  refine ⟨by cbv, fun t ht => ?_, fun h => ?_, by cbv, by cbv⟩
  · cases t with
    | other number => exact congrArg TunnelField.other ht
    | id | source | destination | tos | ttl | dontFragment | checksum => cases ht
  · have hlong : (telling strange).length = 112 := by cbv
    have hshort : (telling ordinary).length = 88 := by cbv
    rw [h, hshort] at hlong
    cases hlong

end Flow

end VSwitch
