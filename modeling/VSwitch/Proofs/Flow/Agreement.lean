import VSwitch.Proofs.Flow.Match

/-!
# What agreeing is

Two keys agree if their masks are the same and take the same out of their values, so agreeing is
being equal in a certain respect: what a key **selects**. Two matches agree if they do at each type,
where a key that counts for nothing is as good as none.

This last rule is where matches differ from keys. A match without a key of some type agrees with
every match whose key of this type counts for nothing, but two such keys need not agree with each
other, as they may be of different lengths; and the Ethernet key always counts, but may agree with
octets of the same type that do not. So agreeing is reflexive and symmetric, and it is transitive
but for these two cases.

* `VSwitch.FlowKey.selection` is what a key selects, and `VSwitch.FlowKey.agrees_iff` says that keys
  agree if they select the same;
* `VSwitch.Match.agrees_iff` takes the agreement of matches apart, type by type;
* `VSwitch.Match.Comparable` rules out the two cases, and `VSwitch.Match.agrees_laws` is the result;
* `VSwitch.Match.agrees_not_transitive` shows three matches of the first case.
-/

namespace VSwitch

/-! ### What a mask selects -/

namespace Bytes

/-- The bits that a mask selects, with zeros in place of the others. -/
def under (mask b : Bytes) : Bytes := List.zipWith (· &&& ·) b mask

theorem length_under {mask b : Bytes} (h : b.length = mask.length) :
    (under mask b).length = b.length := by
  rw [under, List.length_zipWith, h, Nat.min_self]

theorem under_append {mask b : Bytes} (h : b.length = mask.length) (mask' b' : Bytes) :
    under (mask ++ mask') (b ++ b') = under mask b ++ under mask' b' :=
  List.zipWith_append h

/-- Two octets agree on the bits that are set in a third one if these bits are the same. -/
theorem xor_and_eq_zero_iff (x y m : UInt8) : (x ^^^ y) &&& m = 0 ↔ x &&& m = y &&& m := by
  have hdistrib : (x ^^^ y) &&& m = (x &&& m) ^^^ (y &&& m) := by
    apply UInt8.toBitVec_inj.1
    ext i hi
    simp [Bool.and_xor_distrib_right]
  rw [hdistrib, UInt8.xor_eq_zero_iff]

/-- **Values agree under a mask exactly if it selects the same of both.** -/
theorem agreeUnder_iff {mask a b : Bytes} (ha : a.length = mask.length)
    (hb : b.length = mask.length) : agreeUnder mask a b = true ↔ under mask a = under mask b := by
  induction mask generalizing a b with
  | nil =>
    obtain rfl := List.eq_nil_of_length_eq_zero ha
    obtain rfl := List.eq_nil_of_length_eq_zero hb
    exact iff_of_true rfl rfl
  | cons m mask ih =>
    obtain ⟨x, a, rfl⟩ := List.exists_cons_of_length_eq_add_one ha
    obtain ⟨y, b, rfl⟩ := List.exists_cons_of_length_eq_add_one hb
    have hrest := ih (Nat.succ.inj ha) (Nat.succ.inj hb)
    simp only [agreeUnder, under] at hrest
    simp only [agreeUnder, under, List.zip_cons_cons, List.all_cons, List.zipWith_cons_cons,
      Bool.and_eq_true, beq_iff_eq, List.cons.injEq, xor_and_eq_zero_iff, hrest]

theorem eq_replicate_of_areAll {b : Bytes} {v : UInt8} (h : b.areAll v = true) :
    b = List.replicate b.length v := by
  simp only [areAll, List.all_eq_true, beq_iff_eq] at h
  exact List.eq_replicate_of_mem h

/-- A mask of zeros selects nothing. -/
theorem under_zeros (b : Bytes) :
    under (List.replicate b.length 0) b = List.replicate b.length 0 := by
  induction b with
  | nil => rfl
  | cons x b ih =>
    simp only [under] at ih
    simp only [under, List.length_cons, List.replicate_succ, List.zipWith_cons_cons, ih,
      UInt8.and_zero]

end Bytes

/-- The bits that a mask selects, with zeros in place of the others. -/
def Octets.under {n : Nat} (mask o : Octets n) : Octets n :=
  ⟨Bytes.under mask.val o.val, by rw [Bytes.length_under (o.2.trans mask.2.symm), o.2]⟩

namespace TunnelFields

/-- The bits that a mask selects, with zeros in place of the others. A flag is one bit. -/
def under (mask f : TunnelFields) : TunnelFields where
  id := mask.id.under f.id
  source := mask.source.under f.source
  destination := mask.destination.under f.destination
  tos := f.tos &&& mask.tos
  ttl := f.ttl &&& mask.ttl
  dontFragment := f.dontFragment && mask.dontFragment
  checksum := f.checksum && mask.checksum

theorem length_toBytes (f : TunnelFields) : f.toBytes.length = 20 := by
  simp only [toBytes, List.length_append, f.id.2, f.source.2, f.destination.2, List.length_cons,
    List.length_nil]

theorem flagOctet_and (a b : Bool) : flagOctet (a && b) = flagOctet a &&& flagOctet b := by
  revert a b
  decide

theorem flagOctet_inj {a b : Bool} : flagOctet a = flagOctet b ↔ a = b := by
  revert a b
  decide

/-- What is selected of the fields is what is selected of their octets. -/
theorem toBytes_under (mask f : TunnelFields) :
    (mask.under f).toBytes = Bytes.under mask.toBytes f.toBytes := by
  have hid : f.id.val.length = mask.id.val.length := f.id.2.trans mask.id.2.symm
  have hsource : f.source.val.length = mask.source.val.length :=
    f.source.2.trans mask.source.2.symm
  have hdestination : f.destination.val.length = mask.destination.val.length :=
    f.destination.2.trans mask.destination.2.symm
  simp only [toBytes, List.append_assoc]
  rw [Bytes.under_append hid, Bytes.under_append hsource, Bytes.under_append hdestination]
  simp only [under, Octets.under, flagOctet_and]
  rfl

/-- Different fields have different octets. -/
theorem toBytes_inj {f g : TunnelFields} : f.toBytes = g.toBytes ↔ f = g := by
  constructor
  · intro h
    simp only [toBytes, List.append_assoc] at h
    obtain ⟨hid, h⟩ := List.append_inj h (f.id.2.trans g.id.2.symm)
    obtain ⟨hsource, h⟩ := List.append_inj h (f.source.2.trans g.source.2.symm)
    obtain ⟨hdestination, h⟩ := List.append_inj h (f.destination.2.trans g.destination.2.symm)
    simp only [List.cons.injEq, flagOctet_inj, and_true] at h
    obtain ⟨htos, httl, hfragment, hchecksum⟩ := h
    cases f
    cases g
    simp only [mk.injEq]
    exact ⟨Subtype.ext hid, Subtype.ext hsource, Subtype.ext hdestination, htos, httl, hfragment,
      hchecksum⟩
  · rintro rfl
    rfl

/-- **Fields agree under a mask exactly if it selects the same of both.** -/
theorem agreeUnder_toBytes_iff (mask f g : TunnelFields) :
    Bytes.agreeUnder mask.toBytes f.toBytes g.toBytes = true ↔ mask.under f = mask.under g := by
  rw [Bytes.agreeUnder_iff (f.length_toBytes.trans mask.length_toBytes.symm)
    (g.length_toBytes.trans mask.length_toBytes.symm), ← toBytes_under, ← toBytes_under,
    toBytes_inj]

/-- A mask of zeros selects nothing. -/
theorem under_zero (f : TunnelFields) : zero.under f = zero := by
  have hoctets : ∀ {n : Nat} (o : Octets n), (Octets.fill n 0).under o = .fill n 0 := by
    rintro n ⟨b, rfl⟩
    exact Subtype.ext (Bytes.under_zeros b)
  simp [under, zero, hoctets]

end TunnelFields

/-! ### What a key selects -/

/-- What a key selects: its mask, and its value as far as the mask goes. -/
inductive Selection
  /-- Of octets. -/
  | octets (mask selected : Bytes)
  /-- Of the fields of a tunnel. -/
  | tunnel (mask selected : TunnelFields)
  deriving DecidableEq, Repr

namespace Selection

/-- Whether the mask is zero. -/
def isVoid : Selection → Bool
  | octets mask _ => mask.areAll 0
  | tunnel mask _ => mask.isZero

/-- What a mask of zeros selects, of octets of some length or of a tunnel. -/
def void : (length? : Option Nat) → Selection
  | some n => octets (List.replicate n 0) (List.replicate n 0)
  | none => tunnel .zero .zero

theorem void_inj {m? n? : Option Nat} : void m? = void n? ↔ m? = n? := by
  constructor
  · intro h
    cases m? with
    | none =>
      cases n? with
      | none => rfl
      | some n => cases h
    | some m =>
      cases n? with
      | none => cases h
      | some n =>
        simp only [void, octets.injEq, and_self] at h
        have hlength := congrArg List.length h
        simpa only [List.length_replicate, Option.some.injEq] using hlength
  · rintro rfl
    rfl

end Selection

namespace FlowKey

variable {k l : FlowKey}

/-- What a key selects. -/
def selection : FlowKey → Selection
  | .plain b | .inPort b | .ethernet b => .octets b.mask (Bytes.under b.mask b.key)
  | .tunnel t => .tunnel t.mask (t.mask.under t.key)

/-- Number of octets of a key that is not the tunnel. -/
def length? (k : FlowKey) : Option Nat := k.maskedBytes?.map fun b => b.key.length

/-- Whether a key is the one that counts even if it selects nothing. -/
def isEthernet : FlowKey → Bool
  | .ethernet _ => true
  | _ => false

/-- A key counts for nothing if its mask is zero and it is not the Ethernet key. -/
theorem isIgnored_eq (k : FlowKey) : k.isIgnored = (!k.isEthernet && k.selection.isVoid) := by
  cases k <;> rfl

theorem agrees_octets_iff (a b : MaskedBytes) : a.agrees b = true ↔ a.type = b.type ∧
    Selection.octets a.mask (Bytes.under a.mask a.key) =
      Selection.octets b.mask (Bytes.under b.mask b.key) := by
  rw [MaskedBytes.agrees, Bool.and_eq_true, Bool.and_eq_true, beq_iff_eq, beq_iff_eq, and_assoc,
    Selection.octets.injEq]
  constructor
  · rintro ⟨htype, hmask, hvalue⟩
    have hlength : b.key.length = a.mask.length := by rw [hmask, b.length_mask]
    rw [Bytes.agreeUnder_iff a.length_mask.symm hlength] at hvalue
    exact ⟨htype, hmask, hmask ▸ hvalue⟩
  · rintro ⟨htype, hmask, hvalue⟩
    have hlength : b.key.length = a.mask.length := by rw [hmask, b.length_mask]
    rw [Bytes.agreeUnder_iff a.length_mask.symm hlength]
    exact ⟨htype, hmask, hmask ▸ hvalue⟩

theorem agrees_tunnel_iff (s t : TunnelKey) : s.agrees t = true ↔
    Selection.tunnel s.mask (s.mask.under s.key) =
      Selection.tunnel t.mask (t.mask.under t.key) := by
  rw [TunnelKey.agrees, Bool.and_eq_true, beq_iff_eq, TunnelFields.agreeUnder_toBytes_iff,
    Selection.tunnel.injEq]
  constructor
  · rintro ⟨hmask, hvalue⟩
    exact ⟨hmask, hmask ▸ hvalue⟩
  · rintro ⟨hmask, hvalue⟩
    exact ⟨hmask, hmask ▸ hvalue⟩

/-- **Two keys agree exactly if they select the same**, and are of one type. -/
theorem agrees_iff (k l : FlowKey) :
    k.agrees l = true ↔ k.type = l.type ∧ k.selection = l.selection := by
  cases k with
  | tunnel s =>
    cases l with
    | tunnel t => exact (agrees_tunnel_iff s t).trans (and_iff_right rfl).symm
    | plain b | inPort b | ethernet b => simp [agrees, maskedBytes?, selection]
  | plain a | inPort a | ethernet a =>
    cases l with
    | tunnel t => simp [agrees, maskedBytes?, selection]
    | plain b | inPort b | ethernet b => exact agrees_octets_iff a b

theorem agrees_comm (k l : FlowKey) : k.agrees l = l.agrees k := by
  rw [Bool.eq_iff_iff, agrees_iff, agrees_iff, eq_comm, eq_comm (a := k.selection)]

/-- A key that counts for nothing selects what a mask of zeros does. -/
theorem selection_of_isIgnored (h : k.isIgnored = true) : k.selection = .void k.length? := by
  cases k with
  | ethernet b => cases h
  | plain b | inPort b =>
    have hmask : b.mask = List.replicate b.key.length 0 := by
      rw [← b.length_mask]
      exact Bytes.eq_replicate_of_areAll h
    simp only [selection, hmask, Bytes.under_zeros]
    rfl
  | tunnel t =>
    have hmask : t.mask = .zero := by
      simpa [isIgnored, TunnelKey.isIgnored, TunnelFields.isZero] using h
    simp only [selection, hmask, TunnelFields.under_zero]
    rfl

/-- **Of keys that count for nothing**, only the lengths make a difference. -/
theorem selection_eq_iff_of_isIgnored (hk : k.isIgnored = true) (hl : l.isIgnored = true) :
    k.selection = l.selection ↔ k.length? = l.length? := by
  rw [selection_of_isIgnored hk, selection_of_isIgnored hl, Selection.void_inj]

/-- A key that selects what counts for nothing counts for nothing itself, unless it is the Ethernet
key. -/
theorem isIgnored_eq_of_selection_eq (h : k.selection = l.selection) (hl : l.isIgnored = true) :
    k.isIgnored = !k.isEthernet := by
  rw [isIgnored_eq, Bool.and_eq_true] at hl
  rw [isIgnored_eq, h, hl.2, Bool.and_true]

end FlowKey

/-! ### Agreeing type by type -/

namespace Match

variable {a b c : Match}

/-- Whether two matches agree in what they have of one type. -/
def agreeAt : Option FlowKey → Option FlowKey → Bool
  | some k, some l => k.agrees l
  | some k, none => k.isIgnored
  | none, some l => l.isIgnored
  | none, none => true

theorem agreeAt_comm (x y : Option FlowKey) : agreeAt x y = agreeAt y x := by
  cases x <;> cases y <;> simp only [agreeAt, FlowKey.agrees_comm]

theorem type_of_get? {type : KeyType} {k : FlowKey} (h : a.get? type = some k) :
    k.type = type := (get?_eq_some_iff.1 h).2

theorem covers_eq (a b : Match) :
    covers a b = a.toList.all fun k => agreeAt (some k) (b.get? k.type) := by
  unfold covers
  congr 1
  funext k
  cases b.get? k.type <;> rfl

theorem covers_iff :
    covers a b = true ↔ ∀ type k, a.get? type = some k → agreeAt (some k) (b.get? type) = true := by
  rw [covers_eq, List.all_eq_true]
  constructor
  · intro h type k hk
    obtain ⟨hmem, rfl⟩ := get?_eq_some_iff.1 hk
    exact h k hmem
  · intro h k hk
    exact h k.type k (get?_eq_some_iff.2 ⟨hk, rfl⟩)

/-- **Matches agree exactly if they do at each type.** -/
theorem agrees_iff : a.agrees b = true ↔ ∀ type, agreeAt (a.get? type) (b.get? type) = true := by
  rw [agrees, Bool.and_eq_true, covers_iff, covers_iff]
  constructor
  · rintro ⟨hab, hba⟩ type
    cases hk : a.get? type with
    | some k => exact hab type k hk
    | none =>
      cases hl : b.get? type with
      | some l =>
        have h := hba type l hl
        rwa [hk] at h
      | none => rfl
  · intro h
    constructor
    · intro type k hk
      rw [← hk]
      exact h type
    · intro type l hl
      rw [← hl, agreeAt_comm]
      exact h type

/-! ### The laws -/

/-- What three matches have of one type can be compared: if the one in the middle has nothing, the
others are of one length, and if it has something that one of the others agrees with while the other
one has nothing, the former is not the Ethernet key. -/
def Comparable : Option FlowKey → Option FlowKey → Option FlowKey → Prop
  | some k, none, some l => k.length? = l.length?
  | some k, some _, none => k.isEthernet = false
  | none, some _, some l => l.isEthernet = false
  | _, _, _ => True

theorem agreeAt_trans_iff {type : KeyType}
    (hab : agreeAt (a.get? type) (b.get? type) = true)
    (hbc : agreeAt (b.get? type) (c.get? type) = true) :
    agreeAt (a.get? type) (c.get? type) = true ↔
      Comparable (a.get? type) (b.get? type) (c.get? type) := by
  cases ha : a.get? type with
  | none =>
    cases hb : b.get? type with
    | none =>
      -- What agrees with nothing goes on agreeing with nothing.
      rw [hb] at hbc
      cases hc : c.get? type with
      | none => exact iff_of_true rfl trivial
      | some l =>
        rw [hc] at hbc
        exact iff_of_true hbc trivial
    | some k =>
      rw [ha, hb] at hab
      rw [hb] at hbc
      cases hc : c.get? type with
      | none => exact iff_of_true rfl trivial
      | some l =>
        rw [hc] at hbc
        have hsame := ((FlowKey.agrees_iff k l).1 hbc).2
        have hl := FlowKey.isIgnored_eq_of_selection_eq hsame.symm hab
        simp only [agreeAt, Comparable, hl, Bool.not_eq_true']
  | some k =>
    rw [ha] at hab
    cases hb : b.get? type with
    | none =>
      rw [hb] at hab hbc
      cases hc : c.get? type with
      | none => exact iff_of_true hab trivial
      | some l =>
        rw [hc] at hbc
        have htype : k.type = l.type := (type_of_get? ha).trans (type_of_get? hc).symm
        rw [agreeAt, FlowKey.agrees_iff, and_iff_right htype,
          FlowKey.selection_eq_iff_of_isIgnored hab hbc]
        rfl
    | some m =>
      rw [hb] at hab hbc
      obtain ⟨htype, hsame⟩ := (FlowKey.agrees_iff k m).1 hab
      cases hc : c.get? type with
      | none =>
        rw [hc] at hbc
        have hk := FlowKey.isIgnored_eq_of_selection_eq hsame hbc
        simp only [agreeAt, Comparable, hk, Bool.not_eq_true']
      | some l =>
        rw [hc] at hbc
        obtain ⟨htype', hsame'⟩ := (FlowKey.agrees_iff m l).1 hbc
        exact iff_of_true ((FlowKey.agrees_iff k l).2 ⟨htype.trans htype', hsame.trans hsame'⟩)
          trivial

/-- **Agreeing of matches** is reflexive and symmetric. It is transitive exactly as far as what the
matches have of each type can be compared. -/
theorem agrees_laws (a b c : Match) :
    a.agrees a = true ∧ (a.agrees b = true → b.agrees a = true) ∧
      (a.agrees b = true → b.agrees c = true →
        (a.agrees c = true ↔ ∀ type, Comparable (a.get? type) (b.get? type) (c.get? type))) := by
  refine ⟨?_, ?_, ?_⟩
  · rw [agrees_iff]
    intro type
    cases a.get? type with
    | none => rfl
    | some k => exact (FlowKey.agrees_iff k k).2 ⟨rfl, rfl⟩
  · intro hab
    rw [agrees_iff] at hab ⊢
    intro type
    rw [agreeAt_comm]
    exact hab type
  · intro hab hbc
    rw [agrees_iff] at hab hbc ⊢
    exact forall_congr' fun type => agreeAt_trans_iff (hab type) (hbc type)

/-- The high half of the first octet of a priority. -/
def highHalf (first : UInt8) : FlowKey :=
  .plain ⟨.priority, [first, 0, 0, 0], [0xF0, 0, 0, 0], rfl⟩

/-- A packet mark of as many octets as there are, which counts for nothing. -/
def idleMark (octets : Bytes) : FlowKey :=
  .plain ⟨.skbMark, octets, List.replicate octets.length 0, List.length_replicate⟩

theorem agrees_laws_highHalf :
    (ofList [highHalf 0x12, idleMark [1, 2, 3, 4]]).agrees (ofList [highHalf 0x1F]) = true ∧
      (ofList [highHalf 0x1F]).agrees (ofList [highHalf 0x10, idleMark [5, 6, 7, 8]]) = true ∧
      (ofList [highHalf 0x12, idleMark [1, 2, 3, 4]]).agrees
        (ofList [highHalf 0x10, idleMark [5, 6, 7, 8]]) = true := by
  have hab : (ofList [highHalf 0x12, idleMark [1, 2, 3, 4]]).agrees (ofList [highHalf 0x1F]) =
    true := by decide
  have hbc : (ofList [highHalf 0x1F]).agrees (ofList [highHalf 0x10, idleMark [5, 6, 7, 8]]) =
    true := by decide
  refine ⟨hab, hbc, ((agrees_laws _ _ _).2.2 hab hbc).2 fun type => ?_⟩
  cases type with
  | skbMark => exact (rfl : (idleMark [1, 2, 3, 4]).length? = (idleMark [5, 6, 7, 8]).length?)
  | _ => trivial

/-- **Agreeing is not transitive**: marks of different lengths that count for nothing do not agree
with each other, although a match with any of them agrees with the match of every packet. -/
theorem agrees_not_transitive :
    (ofList [idleMark [1, 2, 3, 4]]).agrees empty = true ∧
      empty.agrees (ofList [idleMark [1, 2]]) = true ∧
      (ofList [idleMark [1, 2, 3, 4]]).agrees (ofList [idleMark [1, 2]]) = false := by
  decide

end Match

end VSwitch
