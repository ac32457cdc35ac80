import VSwitch.Flow.Key
import VSwitch.Proofs.Flow.Tunnel

/-!
# Flow keys on the wire and back

A key that counts is written as two attributes, its value and its mask. Read together they give the
key again, but for the tunnel: of its value only the fields are written that the mask selects, and
the others come back as zero. They count for nothing, so the two keys still agree.

* `VSwitch.FlowKey.WellFormed` says that a key has the shape of its type;
* `VSwitch.FlowKey.reread` is what comes back of a key, and `VSwitch.FlowKey.parse_trees` that it
  does;
* `VSwitch.FlowKey.agrees_reread` and `VSwitch.FlowKey.reread_agrees` compare the two.
-/

namespace VSwitch

/-! ### Agreeing under a mask -/

namespace Bytes

theorem agreeUnder_self (mask a : Bytes) : agreeUnder mask a a = true := by
  simp only [agreeUnder, List.all_eq_true, beq_iff_eq]
  rintro ⟨⟨x, y⟩, m⟩ hmem
  have hzip := (List.of_mem_zip hmem).1
  obtain rfl : x = y := by
    obtain ⟨i, hi, heq⟩ := List.mem_iff_getElem.1 hzip
    rw [List.getElem_zip] at heq
    exact ((Prod.mk.inj heq).1).symm.trans (Prod.mk.inj heq).2
  simp

theorem agreeUnder_comm (mask a b : Bytes) : agreeUnder mask a b = agreeUnder mask b a := by
  induction mask generalizing a b with
  | nil => simp [agreeUnder]
  | cons m mask ih =>
    cases a with
    | nil => cases b <;> simp [agreeUnder]
    | cons x a =>
      cases b with
      | nil => simp [agreeUnder]
      | cons y b =>
        have := ih a b
        simp only [agreeUnder, List.zip_cons_cons, List.all_cons] at this ⊢
        rw [this, UInt8.xor_comm]

theorem agreeUnder_of_areAll_zero {mask : Bytes} (h : mask.areAll 0 = true) (a b : Bytes) :
    agreeUnder mask a b = true := by
  simp only [agreeUnder, List.all_eq_true, beq_iff_eq]
  rintro ⟨⟨x, y⟩, m⟩ hmem
  have hm : m = 0 := by
    simp only [areAll, List.all_eq_true, beq_iff_eq] at h
    exact h m (List.of_mem_zip hmem).2
  simp [hm]

theorem agreeUnder_append {mask a b : Bytes} (ha : a.length = mask.length)
    (hb : b.length = mask.length) (mask' a' b' : Bytes) :
    agreeUnder (mask ++ mask') (a ++ a') (b ++ b') =
      (agreeUnder mask a b && agreeUnder mask' a' b') := by
  rw [agreeUnder, List.zip_append (ha.trans hb.symm), List.zip_append, List.all_append]
  · rfl
  · rw [List.length_zip, ha, hb, Nat.min_self]

/-- What stands in place of a value that no bit selects does not matter. -/
theorem agreeUnder_ite {mask : Bytes} {c : Bool} (h : c = !mask.areAll 0) (a b : Bytes) :
    agreeUnder mask a (if c = true then a else b) = true := by
  cases hzero : mask.areAll 0 with
  | true => exact agreeUnder_of_areAll_zero hzero a _
  | false =>
    rw [h, hzero]
    exact agreeUnder_self mask a

end Bytes

/-! ### The tunnel under its mask -/

namespace TunnelFields

/-- Octets that are left out only where they are zero are not changed. -/
theorem ite_fill_zero {n : Nat} (o : Octets n) {c : Bool} (h : c = !o.isZero) :
    (if c = true then o else Octets.fill n 0) = o := by
  cases hzero : o.isZero with
  | false => rw [h, hzero, Bool.not_false, if_pos rfl]
  | true =>
    rw [h, hzero, Bool.not_true, if_neg Bool.false_ne_true]
    simp only [Octets.isZero, Bytes.areAll, List.all_eq_true, beq_iff_eq] at hzero
    have hall := List.eq_replicate_of_mem hzero
    rw [o.2] at hall
    exact Subtype.ext hall.symm

theorem ite_zero (v : UInt8) {c : Bool} (h : c = (v != 0)) : (if c = true then v else 0) = v := by
  by_cases hv : v = 0 <;> simp [h, hv]

/-- A mask is its own restriction to the fields that it selects. -/
theorem restrict_nonzero (f : TunnelFields) : f.restrict f.nonzero = f := by
  have hfragment : f.nonzero.dontFragment = f.dontFragment := rfl
  have hchecksum : f.nonzero.checksum = f.checksum := rfl
  have htos := ite_zero f.tos (c := f.nonzero.tos) rfl
  have httl := ite_zero f.ttl (c := f.nonzero.ttl) rfl
  rw [restrict, ite_fill_zero f.id (c := f.nonzero.id) rfl,
    ite_fill_zero f.source (c := f.nonzero.source) rfl,
    ite_fill_zero f.destination (c := f.nonzero.destination) rfl, htos, httl, hfragment, hchecksum,
    Bool.and_self, Bool.and_self]

theorem agreeUnder_octets_append {n : Nat} (mask a b : Octets n) (mask' a' b' : Bytes) :
    Bytes.agreeUnder (mask.val ++ mask') (a.val ++ a') (b.val ++ b') =
      (Bytes.agreeUnder mask.val a.val b.val && Bytes.agreeUnder mask' a' b') :=
  Bytes.agreeUnder_append (a.2.trans mask.2.symm) (b.2.trans mask.2.symm) mask' a' b'

theorem octets_agree {n : Nat} (mask key : Octets n) {c : Bool} (h : c = !mask.isZero) :
    Bytes.agreeUnder mask.val key.val (if c = true then key else Octets.fill n 0).val = true := by
  rw [apply_ite Subtype.val]
  exact Bytes.agreeUnder_ite h _ _

theorem octet_agree (mask key : UInt8) {c : Bool} (h : c = (mask != 0)) :
    (key ^^^ if c = true then key else 0) &&& mask = 0 := by
  by_cases hm : mask = 0 <;> simp [h, hm]

theorem flagOctet_agree (mask key : Bool) :
    (flagOctet key ^^^ flagOctet (mask && key)) &&& flagOctet mask = 0 := by
  revert mask key
  decide

/-- **What a mask does not select may be left out.** -/
theorem agreeUnder_restrict (mask key : TunnelFields) :
    Bytes.agreeUnder mask.toBytes key.toBytes (key.restrict mask.nonzero).toBytes = true := by
  have hlast : Bytes.agreeUnder
      [mask.tos, mask.ttl, flagOctet mask.dontFragment, flagOctet mask.checksum]
      [key.tos, key.ttl, flagOctet key.dontFragment, flagOctet key.checksum]
      [if mask.nonzero.tos = true then key.tos else 0,
        if mask.nonzero.ttl = true then key.ttl else 0,
        flagOctet (mask.nonzero.dontFragment && key.dontFragment),
        flagOctet (mask.nonzero.checksum && key.checksum)] = true := by
    have htos := octet_agree mask.tos key.tos (c := mask.nonzero.tos) rfl
    have httl := octet_agree mask.ttl key.ttl (c := mask.nonzero.ttl) rfl
    have hfragment : mask.nonzero.dontFragment = mask.dontFragment := rfl
    have hchecksum : mask.nonzero.checksum = mask.checksum := rfl
    simp only [Bytes.agreeUnder, List.zip_cons_cons, List.zip_nil_right, List.all_cons,
      List.all_nil, htos, httl, hfragment, hchecksum, flagOctet_agree, beq_self_eq_true,
      Bool.and_true]
  have hid := octets_agree mask.id key.id (c := mask.nonzero.id) rfl
  have hsource := octets_agree mask.source key.source (c := mask.nonzero.source) rfl
  have hdestination := octets_agree mask.destination key.destination
    (c := mask.nonzero.destination) rfl
  simp only [toBytes, restrict, List.append_assoc]
  rw [agreeUnder_octets_append, agreeUnder_octets_append, agreeUnder_octets_append, hid, hsource,
    hdestination, hlast]
  rfl

end TunnelFields

/-! ### Types with a layout -/

namespace KeyType

variable {type : KeyType}

/-- A type whose shape is known is read back from its number. -/
theorem ofNumber_number {layout : KeyLayout} (h : type.layout? = some layout) :
    (Vocabulary.ofNumber (Vocabulary.number type) : KeyType) = type := by
  cases type <;> first | rfl | simp [layout?] at h

theorem number_lt {layout : KeyLayout} (h : type.layout? = some layout) :
    Vocabulary.number type < 0x4000 := by
  cases type <;> first | decide | simp [layout?] at h

end KeyType

/-! ### Keys -/

namespace FlowKey

/-- A key has the shape of its type: the type has a layout, the form of the key is that of the
layout, and the value, and with it the mask, has the number of octets that the layout asks for. The
port is matched as a whole or not at all. -/
inductive WellFormed : FlowKey → Prop
  /-- Octets without a further meaning. -/
  | plain {b : MaskedBytes} {size : Nat} (layout : b.type.layout? = some (.plain size))
    (length : b.key.length = size) : WellFormed (.plain b)
  /-- The number of a vport. -/
  | inPort {b : MaskedBytes} (layout : b.type.layout? = some .inPort) (length : b.key.length = 4)
    (mask : b.mask.areAll 0 = true ∨ b.mask.areAll 0xFF = true) : WellFormed (.inPort b)
  /-- Two addresses. -/
  | ethernet {b : MaskedBytes} (layout : b.type.layout? = some .ethernet)
    (length : b.key.length = EthernetPair.size) : WellFormed (.ethernet b)
  /-- The fields of a tunnel, whatever they are. -/
  | tunnel (t : TunnelKey) : WellFormed (.tunnel t)

/-- What comes back of a key that is written and read: of the tunnel only what the mask selects. -/
def reread : FlowKey → FlowKey
  | .tunnel t => .tunnel ⟨t.key.restrict t.mask.nonzero, t.mask⟩
  | k => k

variable {k : FlowKey}

@[simp]
theorem type_reread (k : FlowKey) : k.reread.type = k.type := by
  cases k <;> rfl

theorem WellFormed.exists_layout (h : k.WellFormed) : ∃ layout, k.type.layout? = some layout := by
  cases h with
  | plain layout | inPort layout | ethernet layout => exact ⟨_, layout⟩
  | tunnel t => exact ⟨.tunnel, rfl⟩

/-- Octets as long as their layout asks for are read together with their mask. -/
theorem parse_given (b : MaskedBytes) {size : Nat} (h : b.key.length = size) :
    MaskedBytes.parse b.type size (some b.key) (.given b.mask) = .ok b := by
  have hmask : b.mask.length = size := b.length_mask.trans h
  simp only [MaskedBytes.parse, MaskSource.octets, dif_pos hmask, dif_pos h]

/-- **A key that counts comes back** from its two attributes. -/
theorem parse_trees (hwf : k.WellFormed) (hcounts : k.isIgnored = false) :
    FlowKey.parse k.typeNumber (some k.keyTree.payload) (.given k.maskTree.payload) =
      .ok k.reread := by
  obtain ⟨_, hlayout⟩ := hwf.exists_layout
  have hnumber : (Vocabulary.ofNumber k.typeNumber : KeyType) = k.type :=
    KeyType.ofNumber_number hlayout
  simp only [FlowKey.parse, hnumber]
  cases hwf with
  | @plain b size layout length =>
    simp only [FlowKey.type, layout, keyTree, maskTree, AttributeTree.payload, parse_given b length]
    rfl
  | @inPort b layout length mask =>
    have hones : b.mask.areAll 0xFF = true := by
      refine mask.resolve_left fun hzero => ?_
      rw [isIgnored, MaskedBytes.isIgnored, hzero] at hcounts
      cases hcounts
    simp only [FlowKey.type, layout, keyTree, maskTree, AttributeTree.payload, MaskSource.ofPort,
      if_pos hones, parse_given b length]
    rfl
  | @ethernet b layout length =>
    simp only [FlowKey.type, layout, keyTree, maskTree, AttributeTree.payload, parse_given b length]
    rfl
  | tunnel t =>
    have layout : KeyType.tunnel.layout? = some .tunnel := rfl
    simp only [FlowKey.type, layout, keyTree, maskTree, AttributeTree.payload, TunnelKey.parse,
      TunnelKey.maskOf, TunnelFields.parse_wires_trees, TunnelFields.restrict_nonzero]
    rfl

/-! ### What comes back agrees -/

theorem agrees_self (b : MaskedBytes) : b.agrees b = true := by
  simp [MaskedBytes.agrees, Bytes.agreeUnder_self]

/-- **A key agrees with what comes back of it.** -/
theorem agrees_reread (k : FlowKey) : k.agrees k.reread = true := by
  cases k with
  | plain b | inPort b | ethernet b => exact agrees_self b
  | tunnel t => simp [agrees, reread, TunnelKey.agrees, TunnelFields.agreeUnder_restrict]

theorem reread_agrees (k : FlowKey) : k.reread.agrees k = true := by
  cases k with
  | plain b | inPort b | ethernet b => exact agrees_self b
  | tunnel t =>
    simp [agrees, reread, TunnelKey.agrees, Bytes.agreeUnder_comm _ _ t.key.toBytes,
      TunnelFields.agreeUnder_restrict]

end FlowKey

end VSwitch
