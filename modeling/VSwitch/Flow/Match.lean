import VSwitch.Flow.Key

/-!
# Matches

A match holds at most one key of each type. On the wire it is two sets of attributes, the values
and the masks.

* `VSwitch.Match.add` puts a key in place of the one of its type;
* `VSwitch.Match.keyTrees` and `VSwitch.Match.maskTrees` are the two sets;
* `VSwitch.Match.parse` reads them, and `VSwitch.Match.addEach` is the part of it that takes one
  type after the other;
* `VSwitch.Match.agrees` compares two matches in what counts.
-/

namespace VSwitch

namespace KeyType

/-- The place of a type in the order of keys: by number, and those without a name last. -/
def rank : KeyType → Nat
  | .other n => 21 + n.toNat
  | named => (Vocabulary.number named).toNat

/-- Two types of one place are the same. -/
theorem eq_of_rank_eq {a b : KeyType} (h : a.rank = b.rank) : a = b := by
  cases a with
  | other n =>
    cases b with
    | other m => exact congrArg KeyType.other (UInt16.toNat_inj.1 (by simpa [rank] using h))
    | _ => simp [rank, Vocabulary.number] at h <;> omega
  | _ =>
    cases b with
    | other m =>
      simp [rank, Vocabulary.number] at h
      omega
    | _ => simp_all [rank, Vocabulary.number]

end KeyType

instance : KeyOrder KeyType where
  lt a b := a.rank < b.rank
  decidable_lt a b := inferInstanceAs (Decidable (a.rank < b.rank))
  irrefl a := Nat.lt_irrefl a.rank
  trans _ _ _ := Nat.lt_trans
  connected a b h hne := by
    have h : ¬ a.rank < b.rank := h
    have hrank : a.rank ≠ b.rank := fun he => hne (KeyType.eq_of_rank_eq he)
    show b.rank < a.rank
    omega

/-- What a flow matches: at most one key of each type, in the order of the types. -/
structure Match where
  /-- The keys by type. -/
  keys : Table KeyType FlowKey
  /-- Each key is of the type it is found by. -/
  typed : ∀ e ∈ keys.entries, e.2.type = e.1
  deriving DecidableEq

namespace Match

/-- The match of every packet. -/
def empty : Match := ⟨.empty, by simp [Table.empty]⟩

instance : Inhabited Match := ⟨empty⟩

/-- The match with a key in place of the one of its type. -/
def add (m : Match) (k : FlowKey) : Match where
  keys := m.keys.insert k.type k
  typed e he := by
    rcases Table.mem_insertEntry he with rfl | he
    · rfl
    · exact m.typed e he

/-- The match of keys, of which the last one of each type counts. -/
def ofList (keys : List FlowKey) : Match := keys.foldl add empty

/-- The key of a type. -/
def get? (m : Match) (type : KeyType) : Option FlowKey := m.keys.get? type

/-- The keys in the order of their types. -/
def toList (m : Match) : List FlowKey := m.keys.values

/-- Number of keys, those that count for nothing included. -/
def size (m : Match) : Nat := m.keys.size

/-- Whether there are no keys. -/
def isEmpty (m : Match) : Bool := m.keys.isEmpty

/-- The keys that count. -/
def counting (m : Match) : List FlowKey := m.toList.filter fun k => !k.isIgnored

/-- The attributes with the values of the keys that count. -/
def keyTrees (m : Match) : List AttributeTree := m.counting.map FlowKey.keyTree

/-- The attributes with the masks of the keys that count. -/
def maskTrees (m : Match) : List AttributeTree := m.counting.map FlowKey.maskTree

/-- Whether every key of `a` agrees with the one of `b`, or counts for nothing where `b` has none
of its type. -/
def covers (a b : Match) : Bool :=
  a.toList.all fun k =>
    match b.get? k.type with
    | some l => k.agrees l
    -- A key that counts for nothing is as good as none.
    | none => k.isIgnored

/-- Whether two matches agree in what counts. -/
def agrees (a b : Match) : Bool := covers a b && covers b a

/-! ### Reading -/

/-- The mask of a type where `masks` are the masks, if there are any. -/
def maskSource (masks? : Option AttributeSet) (number : UInt16) : MaskSource :=
  match masks? with
  | none => .exact
  | some masks =>
    match masks.get? number with
    | some mask => .given mask
    | none => .ignored

/-- What there is to read of one type of key: its value, if there is one, and its mask. -/
structure Entry where
  /-- Number of the type. -/
  number : UInt16
  /-- The value. -/
  key? : Option Bytes
  /-- The mask. -/
  source : MaskSource
  deriving DecidableEq, Repr

/-- Reads keys one after the other and adds them to a match. -/
def addEach (m : Match) : List Entry → Except DecodeError Match
  | [] => .ok m
  | e :: rest => do (m.add (← FlowKey.parse e.number e.key? e.source)).addEach rest

/-- What there is to read: the types with a value first, then those with nothing but a mask. -/
def entries (keys : AttributeSet) (masks? : Option AttributeSet) : List Entry :=
  keys.entries.map (fun (n, key) => ⟨n, some key, maskSource masks? n⟩) ++
    match masks? with
    | none => []
    | some masks =>
      (masks.entries.filter fun (n, _) => !keys.contains n).map fun (n, mask) =>
        ⟨n, none, .given mask⟩

/-- Reads a match. Without masks every bit of the values counts; with masks, a type that has none
counts for nothing, and a type that has nothing else must not select any bit. -/
def parse (keys : AttributeSet) (masks? : Option AttributeSet) : Except DecodeError Match :=
  empty.addEach (entries keys masks?)

/-- Reads a match from the octets of the two sets. -/
def read (keys : Bytes) (masks? : Option Bytes) : Except DecodeError Match := do
  let keys ← AttributeSet.parse keys
  match masks? with
  | none => parse keys none
  | some masks => parse keys (some (← AttributeSet.parse masks))

end Match

end VSwitch
