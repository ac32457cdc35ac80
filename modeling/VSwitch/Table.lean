/-!
# Sorted tables

A finite map is a list of entries whose keys increase strictly. So a key occurs once, the entries
come in the order of their keys, and two tables with the same entries are equal.

* `VSwitch.Table.insert` adds an entry or replaces the value of a key;
* `VSwitch.Table.get?` is the value of a key;
* `VSwitch.Table.ofList` inserts entries one after the other, so the last one of a key stays.
-/

namespace VSwitch

/-- Keys in a strict total order. -/
class KeyOrder (κ : Type) extends LT κ where
  /-- The order can be decided. -/
  decidable_lt : DecidableLT κ
  /-- No key is below itself. -/
  irrefl : ∀ a : κ, ¬ a < a
  /-- The order is transitive. -/
  trans : ∀ a b c : κ, a < b → b < c → a < c
  /-- Of two different keys, one is below the other. -/
  connected : ∀ a b : κ, ¬ a < b → a ≠ b → b < a

instance KeyOrder.decidableLT {κ : Type} [KeyOrder κ] : DecidableLT κ := KeyOrder.decidable_lt

instance : KeyOrder UInt16 where
  decidable_lt := inferInstance
  irrefl _ := UInt16.lt_irrefl _
  trans _ _ _ := UInt16.lt_trans
  connected a b h hne := by
    rcases UInt16.lt_or_lt_of_ne hne with hlt | hlt
    · exact absurd hlt h
    · exact hlt

instance : KeyOrder String where
  decidable_lt := inferInstance
  irrefl := String.lt_irrefl
  trans _ _ _ := String.lt_trans
  connected a b h hne := by
    rcases Std.lt_trichotomy a b with hlt | heq | hlt
    · exact absurd hlt h
    · exact absurd heq hne
    · exact hlt

/-- A finite map, as entries whose keys increase strictly. -/
structure Table (κ ν : Type) [KeyOrder κ] where
  /-- The entries. -/
  entries : List (κ × ν)
  /-- Their keys increase. -/
  increasing : entries.Pairwise fun a b => a.1 < b.1

namespace Table

variable {κ ν : Type} [KeyOrder κ]

instance [DecidableEq κ] [DecidableEq ν] : DecidableEq (Table κ ν) := fun s t =>
  decidable_of_iff (s.entries = t.entries) (by cases s; cases t; simp)

/-- The table without entries. -/
def empty : Table κ ν := ⟨[], .nil⟩

instance : Inhabited (Table κ ν) := ⟨empty⟩

/-- The entries with one added, or its value replaced. -/
def insertEntry [DecidableEq κ] (k : κ) (v : ν) : List (κ × ν) → List (κ × ν)
  | [] => [(k, v)]
  | e :: rest =>
    if k < e.1 then (k, v) :: e :: rest
    else if k = e.1 then (k, v) :: rest
    else e :: insertEntry k v rest

variable [DecidableEq κ]

/-- The keys after an insertion are those before and the new one. -/
theorem mem_insertEntry {k : κ} {v : ν} {l : List (κ × ν)} {e : κ × ν}
    (h : e ∈ insertEntry k v l) : e = (k, v) ∨ e ∈ l := by
  induction l with
  | nil => simpa [insertEntry] using h
  | cons d rest ih =>
    unfold insertEntry at h
    split at h
    · simpa using h
    · split at h
      · rcases List.mem_cons.1 h with h | h
        · exact .inl h
        · exact .inr (List.mem_cons_of_mem _ h)
      · rcases List.mem_cons.1 h with h | h
        · exact .inr (h ▸ List.mem_cons_self)
        · rcases ih h with h | h
          · exact .inl h
          · exact .inr (List.mem_cons_of_mem _ h)

theorem increasing_insertEntry (k : κ) (v : ν) {l : List (κ × ν)}
    (h : l.Pairwise fun a b => a.1 < b.1) :
    (insertEntry k v l).Pairwise fun a b => a.1 < b.1 := by
  induction l with
  | nil => simp [insertEntry]
  | cons d rest ih =>
    obtain ⟨hd, hrest⟩ := List.pairwise_cons.1 h
    unfold insertEntry
    split
    · rename_i hlt
      refine List.pairwise_cons.2 ⟨fun e he => ?_, h⟩
      rcases List.mem_cons.1 he with rfl | he
      · exact hlt
      · exact KeyOrder.trans _ _ _ hlt (hd e he)
    · rename_i hlt
      split
      · rename_i heq
        exact List.pairwise_cons.2 ⟨fun e he => heq ▸ hd e he, hrest⟩
      · rename_i hne
        refine List.pairwise_cons.2 ⟨fun e he => ?_, ih hrest⟩
        rcases mem_insertEntry he with rfl | he
        · exact KeyOrder.connected _ _ hlt hne
        · exact hd e he

/-- The table with an entry added, or its value replaced. -/
def insert (t : Table κ ν) (k : κ) (v : ν) : Table κ ν :=
  ⟨insertEntry k v t.entries, increasing_insertEntry k v t.increasing⟩

/-- The value of a key. -/
def get? (t : Table κ ν) (k : κ) : Option ν := (t.entries.find? fun e => e.1 == k).map (·.2)

/-- Whether a key has a value. -/
def contains (t : Table κ ν) (k : κ) : Bool := (t.get? k).isSome

/-- Number of keys. -/
def size (t : Table κ ν) : Nat := t.entries.length

/-- Whether there are no entries. -/
def isEmpty (t : Table κ ν) : Bool := t.entries.isEmpty

/-- The table of entries, of which the last one of each key counts. -/
def ofList (l : List (κ × ν)) : Table κ ν := l.foldl (fun t e => t.insert e.1 e.2) empty

/-- The values in the order of their keys. -/
def values (t : Table κ ν) : List ν := t.entries.map (·.2)

/-- **An inserted entry is found**, and the other keys keep their values. -/
theorem get?_insert (t : Table κ ν) (k j : κ) (v : ν) :
    (t.insert k v).get? j = if k = j then some v else t.get? j := by
  have key : ∀ l : List (κ × ν), ((insertEntry k v l).find? fun e => e.1 == j).map (·.2) =
      if k = j then some v else (l.find? fun e => e.1 == j).map (·.2) := by
    intro l
    induction l with
    | nil =>
      by_cases h : k = j <;> simp [insertEntry, h]
    | cons d rest ih =>
      unfold insertEntry
      split
      · by_cases h : k = j <;> simp [h]
      · split
        · rename_i heq
          by_cases h : k = j
          · simp [h]
          · have : ¬ d.1 = j := fun hd => h (heq.trans hd)
            simp [h, this]
        · rename_i hne
          by_cases hd : d.1 = j
          · have : ¬ k = j := fun h => hne (h.trans hd.symm)
            simp [hd, this]
          · simpa [List.find?_cons, hd] using ih
  exact key t.entries

end Table

end VSwitch
