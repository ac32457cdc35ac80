import VSwitch.Proofs.Encoding
import VSwitch.Proofs.Outcome
import VSwitch.Request

/-!
# What a message is wrapped in

A message to or about the switch starts with three headers, and only then come its attributes. The
headers are written before the first attribute and completed when the message is finished; a reader
takes them off in the same order and compares each with what it expects.

* `VSwitch.Draft.finish_start_append`: finishing stamps a length and a sequence number into the
  first header and leaves everything behind it alone;
* `VSwitch.Request.draft_eq_ok_iff`: a request can be drafted exactly if its attributes fit;
* `VSwitch.Cursor.Reads` says what steps over a message read and what they leave, and
  `VSwitch.Cursor.reads_checkHeaders` that the headers that were written are those that are read.
-/

namespace VSwitch

/-! ### Finishing -/

namespace Draft

theorem start_append_eq (flags type : UInt16) (body : Bytes) :
    ((start flags type).append body).bytes = Bytes.ofU32 0 ++ (Bytes.ofU16 type ++
      Bytes.ofU16 flags ++ (Bytes.ofU32 0 ++ (Bytes.ofU32 0 ++ body))) := by
  simp [start, append, MessageHeader.toBytes]

theorem length_start (flags type : UInt16) : (start flags type).length = MessageHeader.size := by
  simp [start, length]

/-- **A finished message** carries its length and its sequence number, and otherwise what was
written. -/
theorem finish_start_append (flags type : UInt16) {body : Bytes} (sequence : UInt32)
    (haligned : body.length % 4 = 0) (hlength : MessageHeader.size + body.length ≤ maxLength) :
    ((start flags type).append body).finish sequence = .ok (MessageHeader.toBytes
      ⟨UInt32.ofNat (MessageHeader.size + body.length), type, flags, sequence, 0⟩ ++ body) := by
  have hbytes := start_append_eq flags type body
  have hsize : ((start flags type).append body).bytes.length =
      MessageHeader.size + body.length := by
    have := length_append (start flags type) body
    rwa [length_start] at this
  have hmod : ((start flags type).append body).length % 4 = 0 := by
    rw [length, hsize, MessageHeader.size]
    omega
  have hstamp : Bytes.ofNat 4 (MessageHeader.size + body.length) =
      Bytes.ofU32 (UInt32.ofNat (MessageHeader.size + body.length)) := by
    rw [Bytes.ofU32, UInt32.toNat_ofNat', Nat.mod_eq_of_lt]
    simp only [maxLength] at hlength
    omega
  unfold finish
  simp only [align_of_aligned hmod, hsize]
  rw [if_pos hlength, hstamp, hbytes]
  -- The length stands in front, and the sequence number behind the type and the flags.
  have hfirst := Bytes.patch_append [] (Bytes.ofU32 0) (Bytes.ofU16 type ++ Bytes.ofU16 flags ++
    (Bytes.ofU32 0 ++ (Bytes.ofU32 0 ++ body)))
    (Bytes.ofU32 (UInt32.ofNat (MessageHeader.size + body.length))) (by simp)
  have hsecond := Bytes.patch_append (Bytes.ofU32
    (UInt32.ofNat (MessageHeader.size + body.length)) ++ (Bytes.ofU16 type ++ Bytes.ofU16 flags))
    (Bytes.ofU32 0) (Bytes.ofU32 0 ++ body) (Bytes.ofU32 sequence) (by simp)
  simp only [List.nil_append, List.length_nil] at hfirst
  simp only [List.length_append, Bytes.length_ofU32, Bytes.length_ofU16, List.append_assoc,
    Nat.reduceAdd] at hfirst hsecond ⊢
  rw [hfirst, hsecond]
  simp [MessageHeader.toBytes]

/-- What has been finished is no longer than a message may be. -/
theorem length_le_of_finish {d : Draft} {sequence : UInt32} {message : Bytes}
    (h : d.finish sequence = .ok message) : d.length ≤ maxLength := by
  unfold finish at h
  dsimp only at h
  split at h
  · rename_i hle
    have halign : d.bytes.length ≤ d.align.bytes.length := by
      rw [align, Bytes.length_pad4]
      exact le_align4 _
    exact Nat.le_trans halign hle
  · cases h

/-- A draft that has its first header. -/
def Started (d : Draft) : Prop := MessageHeader.size ≤ d.length

theorem started_start (flags type : UInt16) : (start flags type).Started :=
  Nat.le_of_eq (length_start flags type).symm

theorem length_le_align (d : Draft) : d.length ≤ d.align.length := by
  rw [align, length, length, Bytes.length_pad4]
  exact le_align4 _

theorem length_le_append (d : Draft) (b : Bytes) : d.length ≤ (d.append b).length := by
  rw [length_append]
  exact Nat.le_add_right _ _

theorem length_le_reserve (d : Draft) (n : Nat) : d.length ≤ (d.reserve n).length :=
  Nat.le_trans d.length_le_align (d.align.length_le_append _)

theorem length_le_close (d : Draft) (pos : Nat) (type : UInt16) :
    d.length ≤ (d.close pos type).2.length := by
  rw [close]
  dsimp only
  split
  · exact Bytes.le_length_patch _ _ _
  · exact Nat.le_refl _

/-- **A finished message carries the sequence number** that it was finished with. -/
theorem sequence_of_finish {d : Draft} {sequence : UInt32} {message : Bytes} (hd : d.Started)
    (h : d.finish sequence = .ok message) :
    (MessageHeader.ofBytes message).sequence = sequence := by
  unfold finish at h
  dsimp only at h
  split at h
  · injection h with h
    have halign := d.length_le_align
    have hlength := Bytes.le_length_patch d.align.bytes 0 (Bytes.ofNat 4 d.align.bytes.length)
    rw [← h]
    refine Bytes.toU32_drop_patch ?_ sequence
    simp only [Started, MessageHeader.size, length] at hd halign hlength
    omega
  · cases h

end Draft

namespace Put

theorem length_le_runSlice (type : UInt16) (value : Bytes) (d : Draft) :
    d.length ≤ (runSlice type value d).2.length := by
  have hbody := Nat.le_trans (d.length_le_reserve AttributeHeader.size)
    ((d.reserve AttributeHeader.size).length_le_append value)
  have hclose := Nat.le_trans hbody (Draft.length_le_close _ d.align.length type)
  rw [runSlice]
  split
  · rename_i d' hd
    rw [hd] at hclose
    exact Nat.le_trans hclose d'.length_le_align
  · exact hclose

mutual

/-- No call makes a draft shorter, whether it fails or not. -/
theorem length_le_run (p : Put) (d : Draft) : d.length ≤ (p.run d).2.length := by
  cases p with
  | genericHeader command version =>
    rw [run]
    exact Nat.le_trans d.length_le_align (d.align.length_le_append _)
  | datapathHeader ifindex =>
    rw [run]
    exact Nat.le_trans d.length_le_align (d.align.length_le_append _)
  | slice type value =>
    rw [run]
    exact length_le_runSlice type value d
  | text type content =>
    rw [run]
    split
    · exact Nat.le_refl _
    · exact length_le_runSlice type _ d
  | raw bytes =>
    rw [run]
    exact d.length_le_append bytes
  | align =>
    rw [run]
    exact d.length_le_align
  | reserve count =>
    rw [run]
    exact d.length_le_reserve count
  | «attribute» type inner =>
    have hinner := Nat.le_trans (d.length_le_reserve AttributeHeader.size)
      (length_le_runAll inner (d.reserve AttributeHeader.size))
    rw [run]
    split
    · rename_i d' hd
      rw [hd] at hinner
      have hclose := Nat.le_trans hinner (d'.length_le_close d.align.length type)
      split
      · rename_i d'' hd'
        rw [hd'] at hclose
        exact Nat.le_trans hclose d''.length_le_align
      · exact hclose
    · exact hinner
  | nested type inner =>
    have hinner := Nat.le_trans (d.length_le_reserve AttributeHeader.size)
      (length_le_runAll inner (d.reserve AttributeHeader.size))
    rw [run]
    split
    · rename_i d' hd
      rw [hd] at hinner
      exact Nat.le_trans (Nat.le_trans hinner d'.length_le_align)
        (d'.align.length_le_close d.align.length type)
    · exact hinner

theorem length_le_runAll (puts : List Put) (d : Draft) : d.length ≤ (runAll puts d).2.length := by
  cases puts with
  | nil => simp [runAll]
  | cons p rest =>
    have hp := length_le_run p d
    rw [runAll]
    split
    · rename_i d' hd
      rw [hd] at hp
      exact Nat.le_trans hp (length_le_runAll rest d')
    · exact hp

end

/-- **Every message that is made by calls has its first header**, also if some of the calls fail. -/
theorem started_runEach (puts : List Put) {d : Draft} (h : d.Started) :
    (runEach puts d).2.Started := by
  induction puts generalizing d with
  | nil => exact h
  | cons p rest ih => exact ih (Nat.le_trans h (length_le_run p d))

end Put

/-! ### Drafting a request -/

namespace Request

/-- The headers of a request behind the first one. -/
def head (r : Request) : Bytes :=
  GenericHeader.toBytes ⟨r.command, r.version⟩ ++
    (r.datapath?.map fun ifindex => DatapathHeader.toBytes ⟨ifindex⟩).getD []

theorem length_head_mod_four (r : Request) : r.head.length % 4 = 0 := by
  unfold head
  cases r.datapath? <;> simp [GenericHeader.size, DatapathHeader.size]

theorem draft_eq_writeOn (r : Request) :
    r.draft = Put.writeOn r.attributes ((Draft.start r.flags r.family).append r.head) := by
  have hstart : (Draft.start r.flags r.family).length % 4 = 0 := by rw [Draft.length_start]; rfl
  have hgeneric : ((Draft.start r.flags r.family).append
      (GenericHeader.toBytes ⟨r.command, r.version⟩)).length % 4 = 0 := by
    simp [Draft.length_start, MessageHeader.size, GenericHeader.size]
  cases hd : r.datapath? with
  | none =>
    simp only [draft, puts, head, hd, Put.writeOn, Put.runAll, Put.run, Draft.appendRecord,
      Draft.align_of_aligned hstart, Option.map_none, Option.toList_none, List.nil_append,
      Option.getD_none, List.append_nil]
  | some ifindex =>
    simp only [draft, puts, head, hd, Put.writeOn, Put.runAll, Put.run, Draft.appendRecord,
      Draft.align_of_aligned hstart, Draft.align_of_aligned hgeneric, Draft.append_append,
      Option.map_some, Option.toList_some, List.cons_append, List.nil_append, Option.getD_some]

theorem length_append_head_mod_four (r : Request) :
    ((Draft.start r.flags r.family).append r.head).length % 4 = 0 := by
  have := r.length_head_mod_four
  rw [Draft.length_append, Draft.length_start, MessageHeader.size]
  omega

/-- **A request can be drafted exactly if its attributes fit.** -/
theorem draft_eq_ok_iff {r : Request} {trees : List AttributeTree} {d : Draft}
    (h : r.attributes = AttributeTree.puts trees) :
    r.draft = .ok d ↔ AttributeTree.FitAll trees ∧
      d = (Draft.start r.flags r.family).append (r.head ++ AttributeTree.wires trees) := by
  rw [draft_eq_writeOn, h, AttributeTree.writeOn_eq_ok_iff r.length_append_head_mod_four,
    Draft.append_append]

/-- A request that cannot be drafted has an attribute that is too long. -/
theorem exists_attributeTooLong {r : Request} {trees : List AttributeTree} {e : EncodeError}
    (h : r.attributes = AttributeTree.puts trees) (herror : r.draft = .error e) :
    ∃ n, e = .attributeTooLong n := by
  rw [draft_eq_writeOn, h] at herror
  exact AttributeTree.exists_attributeTooLong r.length_append_head_mod_four herror

end Request

/-! ### Reading the headers -/

namespace Cursor

/-- The cursor `n` octets further. -/
def skip (c : Cursor) (n : Nat) : Cursor := { c with pos := c.pos + n }

variable {c : Cursor} {record rest : Bytes}

theorem remaining_skip (h : c.remaining = record ++ rest) :
    (c.skip record.length).remaining = rest := by
  rw [remaining, skip, ← List.drop_drop]
  rw [remaining] at h
  rw [h, List.drop_left' rfl]

/-- A record of an aligned length is taken off the front. -/
theorem run_advance_record (context : String) (h : c.remaining = record ++ rest)
    (haligned : record.length % 4 = 0) :
    (advance context record.length).run c = (.ok record, c.skip record.length) := by
  rw [run_advance (by rw [h]; simp), h, List.take_left' rfl, align4_of_aligned haligned,
    List.take_left' rfl]
  rfl

/-- With `octets` still to be read, steps give `a` and leave `rest` to be read. -/
def Reads {ε α : Type} (steps : Scan ε α) (octets : Bytes) (a : α) (rest : Bytes) : Prop :=
  ∀ c : Cursor, c.remaining = octets → ∃ c', steps.run c = (.ok a, c') ∧ c'.remaining = rest

namespace Reads

variable {ε α β : Type} {octets rest : Bytes} {a : α} {b : β}

/-- **Steps in sequence** read what is in sequence. -/
theorem bind {middle : Bytes} {steps : Scan ε α} {k : α → Scan ε β}
    (hsteps : Reads steps octets a middle) (hk : Reads (k a) middle b rest) :
    Reads (steps >>= k) octets b rest := by
  intro c hc
  obtain ⟨c', hrun, hc'⟩ := hsteps c hc
  obtain ⟨c'', hrun', hc''⟩ := hk c' hc'
  refine ⟨c'', ?_, hc''⟩
  rw [run_bind, hrun]
  exact hrun'

/-- What is read first leaves the rest to the steps that follow, whatever comes of them. -/
theorem exists_run_bind {steps : Scan ε α} (h : Reads steps octets a rest) (k : α → Scan ε β)
    {c : Cursor} (hc : c.remaining = octets) :
    ∃ c', c'.remaining = rest ∧ (steps >>= k).run c = (k a).run c' := by
  obtain ⟨c', hrun, hc'⟩ := h c hc
  exact ⟨c', hc', by rw [run_bind, hrun]⟩

theorem pure (a : α) : Reads (pure a : Scan ε α) octets a octets := fun c hc => ⟨c, rfl, hc⟩

theorem ofExcept {r : Except ε α} (h : r = .ok a) :
    Reads (MonadExcept.ofExcept r : Scan ε α) octets a octets :=
  fun c hc => ⟨c, by rw [run_ofExcept, h], hc⟩

theorem lift {r : Except ε α} (h : r = .ok a) : Reads (liftM r : Scan ε α) octets a octets :=
  fun c hc => ⟨c, by rw [run_liftM, h], hc⟩

theorem reading {steps : Scan DecodeError α} (h : Reads steps octets a rest) :
    Reads (Cursor.reading steps) octets a rest := by
  intro c hc
  obtain ⟨c', hrun, hc'⟩ := h c hc
  exact ⟨c', by rw [run_reading, hrun]; rfl, hc'⟩

/-- What is read from the start of a message is the outcome. -/
theorem scan {steps : Scan ε α} (h : Reads steps octets a rest) :
    Cursor.scan steps octets = .ok a := by
  obtain ⟨c, hrun, -⟩ := h (start octets) (remaining_start octets)
  rw [Cursor.scan, hrun]

end Reads

/-- A record of an aligned length is taken off the front. -/
theorem reads_advance (context : String) (rest : Bytes) (haligned : record.length % 4 = 0) :
    Reads (advance context record.length) (record ++ rest) record rest :=
  fun c hc => ⟨c.skip record.length, run_advance_record context hc haligned, remaining_skip hc⟩

theorem reads_messageHeader (h : MessageHeader) : Reads messageHeader (h.toBytes ++ rest) h rest := by
  have hread := MessageHeader.read_toBytes_append h []
  rw [List.append_nil] at hread
  have htake := reads_advance "netlink header" rest
    (by simp [MessageHeader.size] : h.toBytes.length % 4 = 0)
  rw [MessageHeader.length_toBytes] at htake
  exact htake.bind (.lift hread)

theorem reads_expectType (h : MessageHeader) :
    Reads (expectType h.type) (h.toBytes ++ rest) h rest := by
  refine (reads_messageHeader h).bind ?_
  simp only [ne_eq, not_true_eq_false, if_false]
  exact .bind (.pure _) (.pure h)

theorem reads_expectCommandOf (h : GenericHeader) {commands : List UInt8}
    (hmem : h.command ∈ commands) :
    Reads (expectCommandOf commands) (h.toBytes ++ rest) h rest := by
  have hread := GenericHeader.read_toBytes_append h []
  rw [List.append_nil] at hread
  have htake := reads_advance "generic netlink header" rest
    (by simp [GenericHeader.size] : h.toBytes.length % 4 = 0)
  rw [GenericHeader.length_toBytes] at htake
  refine htake.bind (.bind (.lift hread) ?_)
  rw [if_pos (by simpa using hmem)]
  exact .bind (.pure _) (.pure h)

theorem reads_datapathHeader (h : DatapathHeader) :
    Reads datapathHeader (h.toBytes ++ rest) h rest := by
  have hread := DatapathHeader.read_toBytes_append h []
  rw [List.append_nil] at hread
  have htake := reads_advance "datapath header" rest
    (by simp [DatapathHeader.size] : h.toBytes.length % 4 = 0)
  rw [DatapathHeader.length_toBytes] at htake
  exact htake.bind (.lift hread)

/-- **The headers of a message** are read as they were written, and the attributes remain. -/
theorem reads_checkHeaders (h : MessageHeader) {generic : GenericHeader} (datapath : DatapathHeader)
    {commands : List UInt8} (hmem : generic.command ∈ commands) :
    Reads (checkHeaders h.type commands)
      (h.toBytes ++ (generic.toBytes ++ (datapath.toBytes ++ rest))) (generic, datapath) rest :=
  (reads_expectType h).bind
    (.bind (reads_expectCommandOf generic hmem) (.bind (reads_datapathHeader datapath) (.pure _)))

theorem reads_attributes {octets : Bytes} {s : AttributeSet} (h : AttributeSet.parse octets = .ok s) :
    Reads attributes octets s [] := by
  rintro c rfl
  refine ⟨{ c with pos := c.data.length }, ?_, List.drop_length⟩
  simp only [attributes, run_bind, run_get, run_liftM, h]
  rfl

theorem reads_attributeList {octets : Bytes} {attributes : List (UInt16 × Bytes)}
    (h : Attribute.parse octets = .ok attributes) : Reads attributeList octets attributes [] := by
  rintro c rfl
  refine ⟨{ c with pos := c.data.length }, ?_, List.drop_length⟩
  simp only [attributeList, run_bind, run_get, run_liftM, h]
  rfl

end Cursor

end VSwitch
