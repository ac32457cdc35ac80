import VSwitch.Attribute.Set
import VSwitch.Proofs.Outcome

/-!
# What a table holds

A table is a list of entries whose keys increase, so looking a key up and finding an entry are the
same, and entries that come in order are kept as they come.

* `VSwitch.Table.get?_eq_some_iff` ties looking up to the entries, and `VSwitch.Table.eq_of_get?_eq`
  says that nothing else makes a difference between tables;
* `VSwitch.Table.entries_ofList`: a table made of entries in order has just these entries;
* `VSwitch.Table.get?_ofList`: of the entries that a table is made of, the last one of a key is
  found;
* `VSwitch.Table.get?_foldl_insert_ite` looks into a table that may have taken one more entry;
* `VSwitch.AttributeSet.bytes_eq_ok_iff`, `VSwitch.AttributeSet.nested_eq_ok_iff` and
  `VSwitch.AttributeSet.nested?_eq_ok_iff` are about sets of attributes and the getters of values.
-/

namespace VSwitch

namespace Table

variable {κ ν : Type} [KeyOrder κ] [DecidableEq κ]

/-! ### Looking up -/

@[simp]
theorem get?_empty (k : κ) : (empty : Table κ ν).get? k = none := rfl

/-- **What is found is an entry**, and every entry is found. -/
theorem get?_eq_some_iff {t : Table κ ν} {k : κ} {v : ν} :
    t.get? k = some v ↔ (k, v) ∈ t.entries := by
  rcases t with ⟨l, hl⟩
  change (l.find? fun e => e.1 == k).map (·.2) = some v ↔ (k, v) ∈ l
  induction l with
  | nil => simp
  | cons d rest ih =>
    obtain ⟨hd, hrest⟩ := List.pairwise_cons.1 hl
    by_cases hk : d.1 = k
    · -- No later entry has this key, as all later keys are above it.
      have hlater : (k, v) ∉ rest := fun hmem => KeyOrder.irrefl k (by
        have := hd _ hmem
        rwa [hk] at this)
      have hfound : ((d :: rest).find? fun e => e.1 == k) = some d := by
        rw [List.find?_cons_of_pos (by simpa using hk)]
      rw [hfound, Option.map_some, List.mem_cons, or_iff_left hlater, Option.some.injEq]
      constructor
      · rintro rfl
        exact Prod.ext hk.symm rfl
      · rintro rfl
        rfl
    · have hne : (k, v) ≠ d := fun he => hk (congrArg Prod.fst he).symm
      rw [List.find?_cons_of_neg (by simpa using hk), ih hrest, List.mem_cons, or_iff_right hne]

/-- **Tables in which the same is found are the same.** -/
theorem eq_of_get?_eq {s t : Table κ ν} (h : ∀ k, s.get? k = t.get? k) : s = t := by
  have hmem : ∀ e, e ∈ s.entries ↔ e ∈ t.entries := by
    rintro ⟨k, v⟩
    rw [← get?_eq_some_iff, ← get?_eq_some_iff, h k]
  have hnodup : ∀ t : Table κ ν, t.entries.Nodup := by
    intro t
    refine t.increasing.imp ?_
    rintro d e hlt rfl
    exact KeyOrder.irrefl _ hlt
  have hperm : s.entries.Perm t.entries :=
    (List.perm_ext_iff_of_nodup (hnodup s) (hnodup t)).2 hmem
  have hentries : s.entries = t.entries :=
    hperm.eq_of_pairwise
      (fun _ _ _ _ hab hba => absurd (KeyOrder.trans _ _ _ hab hba) (KeyOrder.irrefl _))
      s.increasing t.increasing
  cases s
  cases t
  cases hentries
  rfl

/-! ### Adding entries -/

theorem foldl_insert_append (t : Table κ ν) (l l' : List (κ × ν)) :
    (l ++ l').foldl (fun t e => t.insert e.1 e.2) t =
      l'.foldl (fun t e => t.insert e.1 e.2) (l.foldl (fun t e => t.insert e.1 e.2) t) :=
  List.foldl_append

/-- An entry that may be there is found in front of those that were there before. -/
theorem get?_foldl_insert_ite (t : Table κ ν) (c : Bool) (j k : κ) (v : ν) :
    ((if c then [(j, v)] else []).foldl (fun t e => t.insert e.1 e.2) t).get? k =
      if c = true ∧ j = k then some v else t.get? k := by
  cases c with
  | false => simp
  | true => simp [get?_insert]

theorem get?_foldl_insert (t : Table κ ν) (l : List (κ × ν)) (k : κ) :
    (l.foldl (fun t e => t.insert e.1 e.2) t).get? k =
      ((l.filter fun e => e.1 == k).getLast?.map Prod.snd).or (t.get? k) := by
  induction l generalizing t with
  | nil => rfl
  | cons e rest ih =>
    rw [List.foldl_cons, ih, get?_insert]
    by_cases hk : e.1 = k
    · rw [if_pos hk, List.filter_cons_of_pos (by simpa using hk), List.getLast?_cons]
      cases (rest.filter fun e => e.1 == k).getLast? <;> rfl
    · rw [if_neg hk, List.filter_cons_of_neg (by simpa using hk)]

/-- **The last entry of a key is found.** -/
theorem get?_ofList (l : List (κ × ν)) (k : κ) :
    (ofList l).get? k = (l.filter fun e => e.1 == k).getLast?.map Prod.snd := by
  rw [ofList, get?_foldl_insert, get?_empty, Option.or_none]

/-- Where all entries of a key have the same value, this is what is found. -/
theorem get?_ofList_of_mem {l : List (κ × ν)} {e : κ × ν} (he : e ∈ l)
    (hsame : ∀ d ∈ l, d.1 = e.1 → d.2 = e.2) : (ofList l).get? e.1 = some e.2 := by
  have hfilter : e ∈ l.filter fun d => d.1 == e.1 := List.mem_filter.2 ⟨he, beq_self_eq_true _⟩
  have hlast := List.getLast?_eq_some_getLast (List.ne_nil_of_mem hfilter)
  obtain ⟨hmem, hkey⟩ := List.mem_filter.1 (List.getLast_mem (List.ne_nil_of_mem hfilter))
  rw [get?_ofList, hlast, Option.map_some, hsame _ hmem (eq_of_beq hkey)]

/-- A key above all others is added at the end. -/
theorem insertEntry_of_above {l : List (κ × ν)} {k : κ} (h : ∀ e ∈ l, e.1 < k) (v : ν) :
    insertEntry k v l = l ++ [(k, v)] := by
  induction l with
  | nil => rfl
  | cons d rest ih =>
    have hd : d.1 < k := h d List.mem_cons_self
    have hlt : ¬ k < d.1 := fun hlt => KeyOrder.irrefl k (KeyOrder.trans _ _ _ hlt hd)
    have hne : k ≠ d.1 := fun he => KeyOrder.irrefl k (by
      rwa [← he] at hd)
    rw [insertEntry, if_neg hlt, if_neg hne, ih fun e he => h e (List.mem_cons_of_mem d he)]
    rfl

theorem entries_foldl_insert (t : Table κ ν) {l : List (κ × ν)}
    (hl : l.Pairwise fun a b => a.1 < b.1) (h : ∀ d ∈ t.entries, ∀ e ∈ l, d.1 < e.1) :
    (l.foldl (fun t e => t.insert e.1 e.2) t).entries = t.entries ++ l := by
  induction l generalizing t with
  | nil => simp
  | cons e rest ih =>
    obtain ⟨he, hrest⟩ := List.pairwise_cons.1 hl
    have hinsert : (t.insert e.1 e.2).entries = t.entries ++ [e] :=
      insertEntry_of_above (fun d hd => h d hd e List.mem_cons_self) e.2
    rw [List.foldl_cons, ih _ hrest, hinsert, List.append_assoc, List.singleton_append]
    intro d hd f hf
    rw [hinsert, List.mem_append, List.mem_singleton] at hd
    rcases hd with hd | rfl
    · exact h d hd f (List.mem_cons_of_mem e hf)
    · exact he f hf

/-- **Entries that come in order are kept as they come.** -/
theorem entries_ofList {l : List (κ × ν)} (hl : l.Pairwise fun a b => a.1 < b.1) :
    (ofList l : Table κ ν).entries = l := by
  rw [ofList, entries_foldl_insert empty hl (by simp [empty])]
  rfl

end Table

/-! ### Sets of attributes -/

namespace AttributeSet

variable {s : AttributeSet} {type : UInt16}

theorem bytes_eq_ok_iff {value : Bytes} : s.bytes type = .ok value ↔ s.get? type = some value := by
  rw [bytes]
  cases s.get? type <;> simp

theorem nested_eq_ok_iff {inner : AttributeSet} : s.nested type = .ok inner ↔
    ∃ octets, s.get? type = some octets ∧ parse octets = .ok inner := by
  simp only [nested, bind_eq_ok_iff, bytes_eq_ok_iff]

/-- A value of a fixed size is read if it has this size. -/
theorem octets_eq_ok_iff {n : Nat} {o : Octets n} :
    s.octets type n = .ok o ↔ s.get? type = some o.val := by
  simp only [octets, bind_eq_ok_iff, bytes_eq_ok_iff]
  constructor
  · rintro ⟨value, hget, h⟩
    rw [Octets.ofBytes?] at h
    split at h
    · next o' heq =>
      cases h
      split at heq
      · cases heq
        exact hget
      · cases heq
    · cases h
  · intro h
    refine ⟨o.val, h, ?_⟩
    rw [Octets.ofBytes?, dif_pos o.property]
    rfl

theorem u16_eq_ok_iff {n : UInt16} :
    s.u16 type = .ok n ↔ ∃ o : Octets 2, s.get? type = some o.val ∧ Bytes.toU16 o.val = n := by
  simp only [u16, map_eq_ok_iff, octets_eq_ok_iff]

theorem u32_eq_ok_iff {n : UInt32} :
    s.u32 type = .ok n ↔ ∃ o : Octets 4, s.get? type = some o.val ∧ Bytes.toU32 o.val = n := by
  simp only [u32, map_eq_ok_iff, octets_eq_ok_iff]

/-- A set that may be missing is read if it is missing, or if it can be read. -/
theorem nested?_eq_ok_iff {inner? : Option AttributeSet} : s.nested? type = .ok inner? ↔
    s.get? type = none ∧ none = inner? ∨
      ∃ octets inner, s.get? type = some octets ∧ parse octets = .ok inner ∧
        some inner = inner? := by
  rw [nested?, optional, Table.contains]
  cases hget : s.get? type with
  | none => simp
  | some octets => simp [map_eq_ok_iff, nested_eq_ok_iff, hget]

end AttributeSet

end VSwitch
