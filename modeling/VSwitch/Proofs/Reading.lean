import Mathlib
import VSwitch.Datapath
import VSwitch.Flow
import VSwitch.Miss
import VSwitch.Proofs.Correlation
import VSwitch.Vport

/-!
# What messages convey

A message about a datapath, a vport or a flow starts with three headers: its family, one of some
commands, and the datapath that it is about. The rest are attributes. What is conveyed by a message
is said here by its octets, with no regard to how they are taken one after the other.

* `VSwitch.Heads` says that a message has the headers, and `VSwitch.Conveys` what else it conveys;
* `VSwitch.Cursor.run_checkHeaders_eq_iff` and `VSwitch.Cursor.scan_eq_ok_iff`: just this is read;
* `VSwitch.Keeps` says that a reader keeps to one datapath: it reads what is conveyed of this one,
  and of any other it tells which one it is;
* `VSwitch.Vport.keeps_readIn`, `VSwitch.Datapath.keeps_read`, `VSwitch.Flow.keeps_parse` and
  `VSwitch.Miss.keeps_parse`: the readers of the operations and of misses do.
-/

namespace VSwitch

/-! ### Headers -/

/-- The header in the first octets. -/
def GenericHeader.ofBytes (b : Bytes) : GenericHeader := ⟨b.headD 0, (b.drop 1).headD 0⟩

/-- The header in the first octets. -/
def DatapathHeader.ofBytes (b : Bytes) : DatapathHeader := ⟨Bytes.toI32 b⟩

/-- A message has the headers that messages of a family start with. After the first one, which is
of 16 octets, there are two of four octets each: one with the command, and one with the datapath
that the message is about. -/
structure Heads (family : UInt16) (commands : List UInt8) (dp : Datapath) (message : Bytes) :
    Prop where
  size_le : 24 ≤ message.length
  type_eq : (MessageHeader.ofBytes message).type = family
  command_mem : (message.drop 16).headD 0 ∈ commands
  ifindex_eq : Bytes.toI32 (message.drop 20) = dp.ifindex

/-- A message of a family conveys something about a datapath: it has the headers for it, and the
attributes behind them are read as `a`. -/
structure Conveys {α : Type} (family : UInt16) (commands : List UInt8)
    (read : AttributeSet → Except DecodeError α) (dp : Datapath) (message : Bytes) (a : α) :
    Prop where
  heads : Heads family commands dp message
  reads : ∃ s, AttributeSet.parse (message.drop 24) = .ok s ∧ read s = .ok a

namespace Cursor

variable {message : Bytes} {family : UInt16} {commands : List UInt8} {dp : Datapath}

theorem run_advance_eq_iff {context : String} {length : Nat} (haligned : length % 4 = 0)
    {c c' : Cursor} {octets : Bytes} : (advance context length).run c = (.ok octets, c') ↔
      length ≤ c.remaining.length ∧ c.remaining.take length = octets ∧
        ⟨c.data, c.pos + length⟩ = c' := by
  rcases Nat.lt_or_ge c.remaining.length length with hlt | hle
  · have hrun : ((advance context length).run c).1 ≠ .ok octets := by
      simp [advance, run_bind, run_get, run_liftM, ensureLength_of_lt hlt]
    constructor
    · intro h
      exact absurd (congrArg Prod.fst h) hrun
    · rintro ⟨hle, -⟩
      omega
  · rw [run_advance hle, align4_of_aligned haligned, List.length_take, Nat.min_eq_left hle]
    constructor
    · intro h
      cases h
      exact ⟨hle, rfl, rfl⟩
    · rintro ⟨-, rfl, rfl⟩
      rfl

/-- A record is read off the octets that come next, if there are enough of them. -/
theorem run_record_eq_iff {α : Type} {context : String} {length : Nat}
    {read : Bytes → Except DecodeError α} {ofBytes : Bytes → α} (haligned : length % 4 = 0)
    (hread : ∀ b, length ≤ b.length → read (b.take length) = .ok (ofBytes b)) {c c' : Cursor}
    {a : α} : (do read (← advance context length) : Scan DecodeError α).run c = (.ok a, c') ↔
      length ≤ c.remaining.length ∧ ofBytes c.remaining = a ∧
        ⟨c.data, c.pos + length⟩ = c' := by
  rw [run_bind_eq_iff]
  simp only [run_advance_eq_iff haligned, run_liftM]
  constructor
  · rintro ⟨_, _, ⟨hle, rfl, rfl⟩, h⟩
    rw [hread _ hle] at h
    cases h
    exact ⟨hle, rfl, rfl⟩
  · rintro ⟨hle, rfl, rfl⟩
    exact ⟨_, _, ⟨hle, rfl, rfl⟩, by rw [hread _ hle]⟩

theorem run_messageHeader_eq_iff {h : MessageHeader} {c c' : Cursor} :
    messageHeader.run c = (.ok h, c') ↔ MessageHeader.size ≤ c.remaining.length ∧
      MessageHeader.ofBytes c.remaining = h ∧ ⟨c.data, c.pos + MessageHeader.size⟩ = c' := by
  refine run_record_eq_iff rfl fun b hle => ?_
  have hlength : MessageHeader.size ≤ (b.take MessageHeader.size).length := by
    rw [List.length_take, Nat.min_eq_left hle]
  rw [MessageHeader.read_of_le hlength]
  simp [MessageHeader.ofBytes, MessageHeader.size, Bytes.toU32, Bytes.toU16, List.drop_take,
    List.take_take]

theorem run_expectType_eq_iff {h : MessageHeader} {c c' : Cursor} :
    (expectType family).run c = (.ok h, c') ↔ MessageHeader.size ≤ c.remaining.length ∧
      MessageHeader.ofBytes c.remaining = h ∧ h.type = family ∧
        ⟨c.data, c.pos + MessageHeader.size⟩ = c' := by
  rw [expectType, run_bind_eq_iff]
  simp only [run_messageHeader_eq_iff]
  constructor
  · rintro ⟨h', t, ⟨hle, rfl, rfl⟩, hrun⟩
    by_cases htype : (MessageHeader.ofBytes c.remaining).type = family
    · rw [if_neg (not_not_intro htype)] at hrun
      cases hrun
      exact ⟨hle, rfl, htype, rfl⟩
    · rw [if_pos htype] at hrun
      cases hrun
  · rintro ⟨hle, rfl, htype, rfl⟩
    refine ⟨_, _, ⟨hle, rfl, rfl⟩, ?_⟩
    rw [if_neg (not_not_intro htype)]
    rfl

theorem read_generic_take {b : Bytes} (hle : GenericHeader.size ≤ b.length) :
    GenericHeader.read (b.take GenericHeader.size) = .ok (GenericHeader.ofBytes b) := by
  have hlength : GenericHeader.size ≤ (b.take GenericHeader.size).length := by
    rw [List.length_take, Nat.min_eq_left hle]
  rw [GenericHeader.read, ensureLength_of_le hlength]
  simp [GenericHeader.ofBytes, GenericHeader.size, List.drop_take, List.headD_eq_head?_getD,
    List.head?_take, bind, Except.bind, pure, Except.pure]

theorem run_expectCommandOf_eq_iff {h : GenericHeader} {c c' : Cursor} :
    (expectCommandOf commands).run c = (.ok h, c') ↔ GenericHeader.size ≤ c.remaining.length ∧
      GenericHeader.ofBytes c.remaining = h ∧ h.command ∈ commands ∧
        ⟨c.data, c.pos + GenericHeader.size⟩ = c' := by
  have hassoc : expectCommandOf commands = (do
      let h ← (do GenericHeader.read (← advance "generic netlink header" GenericHeader.size))
      unless commands.contains h.command do throw (.unexpectedCommand commands h.command)
      return h) := by
    simp only [expectCommandOf, bind_assoc]
  rw [hassoc, run_bind_eq_iff]
  simp only [run_record_eq_iff rfl fun b hle => read_generic_take hle]
  constructor
  · rintro ⟨h', t, ⟨hle, rfl, rfl⟩, hrun⟩
    by_cases hcommand : commands.contains (GenericHeader.ofBytes c.remaining).command = true
    · rw [if_pos hcommand] at hrun
      cases hrun
      exact ⟨hle, rfl, List.contains_iff_mem.1 hcommand, rfl⟩
    · rw [if_neg hcommand] at hrun
      cases hrun
  · rintro ⟨hle, rfl, hcommand, rfl⟩
    refine ⟨_, _, ⟨hle, rfl, rfl⟩, ?_⟩
    rw [if_pos (List.contains_iff_mem.2 hcommand)]
    rfl

theorem run_datapathHeader_eq_iff {h : DatapathHeader} {c c' : Cursor} :
    datapathHeader.run c = (.ok h, c') ↔ DatapathHeader.size ≤ c.remaining.length ∧
      DatapathHeader.ofBytes c.remaining = h ∧ ⟨c.data, c.pos + DatapathHeader.size⟩ = c' := by
  refine run_record_eq_iff rfl fun b hle => ?_
  have hlength : DatapathHeader.size ≤ (b.take DatapathHeader.size).length := by
    rw [List.length_take, Nat.min_eq_left hle]
  rw [DatapathHeader.read, ensureLength_of_le hlength]
  simp [DatapathHeader.ofBytes, DatapathHeader.size, Bytes.toI32, Bytes.toU32, List.take_take]

/-- **Headers are taken** off a message exactly if it has them. -/
theorem run_checkHeaders_eq_iff {generic : GenericHeader} {header : DatapathHeader} {c : Cursor} :
    (checkHeaders family commands).run (start message) = (.ok (generic, header), c) ↔
      Heads family commands ⟨header.ifindex⟩ message ∧
        GenericHeader.ofBytes (message.drop 16) = generic ∧ ⟨message, 24⟩ = c := by
  rw [checkHeaders, run_bind_eq_iff]
  simp only [run_bind_eq_iff, run_expectType_eq_iff, run_expectCommandOf_eq_iff,
    run_datapathHeader_eq_iff, run_pure]
  constructor
  · rintro ⟨_, _, ⟨-, rfl, htype, rfl⟩, _, _, ⟨-, rfl, hcommand, rfl⟩, _, _, ⟨hle, rfl, rfl⟩, h⟩
    cases h
    refine ⟨⟨?_, htype, hcommand, rfl⟩, rfl, rfl⟩
    have hsize : 4 ≤ (message.drop 20).length := hle
    rw [List.length_drop] at hsize
    omega
  · rintro ⟨⟨hsize, htype, hcommand, hifindex⟩, rfl, rfl⟩
    have hle : ∀ n m, n + m ≤ 24 → n ≤ (message.drop m).length := by
      intro n m hnm
      rw [List.length_drop]
      omega
    refine ⟨_, _, ⟨hle 16 0 (by omega), rfl, htype, rfl⟩, _, _,
      ⟨hle 4 16 (by omega), rfl, hcommand, rfl⟩, _, _, ⟨hle 4 20 (by omega), rfl, rfl⟩, ?_⟩
    have hheader : DatapathHeader.ofBytes (message.drop 20) = header :=
      congrArg DatapathHeader.mk hifindex
    rw [← hheader]
    rfl

/-- Steps from behind the headers. -/
theorem run_attributes (c : Cursor) :
    attributes.run c = match AttributeSet.parse c.remaining with
      | .ok s => (.ok s, { c with pos := c.data.length })
      | .error e => (.error e, c) := by
  rw [attributes, run_bind, run_get]
  simp only [run_bind, run_liftM]
  cases AttributeSet.parse c.remaining <;> rfl

variable {α β : Type} {read : AttributeSet → Except DecodeError α}

/-- **Reading a message** gives what it conveys. -/
theorem scan_eq_ok_iff (build : GenericHeader → DatapathHeader → α → β) {b : β} :
    scan (do
      let (generic, header) ← checkHeaders family commands
      let s ← attributes
      let a ← MonadExcept.ofExcept (read s)
      return build generic header a) message = .ok b ↔
      ∃ dp a, Conveys family commands read dp message a ∧
        build (.ofBytes (message.drop 16)) ⟨dp.ifindex⟩ a = b := by
  rw [scan, run_bind_eq_ok_iff]
  simp only [Prod.exists, run_checkHeaders_eq_iff]
  constructor
  · rintro ⟨_, header, _, ⟨hheads, rfl, rfl⟩, h⟩
    rw [run_bind, run_attributes] at h
    have hremaining : (⟨message, 24⟩ : Cursor).remaining = message.drop 24 := rfl
    rw [hremaining] at h
    cases hparse : AttributeSet.parse (message.drop 24) with
    | error e =>
      rw [hparse] at h
      cases h
    | ok s =>
      rw [hparse] at h
      simp only [run_bind, run_ofExcept] at h
      cases hread : read s with
      | error e =>
        rw [hread] at h
        cases h
      | ok a =>
        rw [hread] at h
        exact ⟨⟨header.ifindex⟩, a, ⟨hheads, s, hparse, hread⟩, Except.ok.inj h⟩
  · rintro ⟨dp, a, ⟨hheads, s, hparse, hread⟩, hbuild⟩
    refine ⟨_, ⟨dp.ifindex⟩, _, ⟨hheads, rfl, rfl⟩, ?_⟩
    rw [run_bind, run_attributes]
    have hremaining : (⟨message, 24⟩ : Cursor).remaining = message.drop 24 := rfl
    rw [hremaining, hparse]
    simp only [run_bind, run_ofExcept, hread]
    exact congrArg _ hbuild

end Cursor

/-! ### Readers -/

/-- A reader of messages about the datapath `dp`: it reads what is said of this datapath, and it
fails on what is said of another one. -/
structure Keeps {α : Type} (dp : Datapath) (told : Datapath → Bytes → α → Prop)
    (read : Bytes → Except Failure α) : Prop where
  told_of_ok : ∀ message a, read message = .ok a → told dp message a
  ok_of_told : ∀ message a, told dp message a → read message = .ok a
  mismatch : ∀ message found a, told found message a → found ≠ dp →
    read message = .error (.wrongDatapath dp.ifindex found.ifindex)

theorem Datapath.ensure_self (dp : Datapath) : dp.ensure dp = .ok () := if_pos rfl

theorem Datapath.ensure_of_ne {dp found : Datapath} (h : found ≠ dp) :
    dp.ensure found = .error (.wrongDatapath dp.ifindex found.ifindex) := if_neg h

namespace Keeps

variable {α β : Type} {dp : Datapath} {told : Datapath → Bytes → α → Prop}

/-- What is read may be put into other words. -/
theorem map_conveys {family : UInt16} {commands : List UInt8}
    {ofAttributes : AttributeSet → Except DecodeError α} {read : Bytes → Except Failure α}
    (h : Keeps dp (Conveys family commands ofAttributes) read) (g : α → β) :
    Keeps dp (Conveys family commands fun s => (ofAttributes s).map g)
      fun message => (read message).map g := by
  refine ⟨fun message b hread => ?_, ?_, ?_⟩
  · obtain ⟨a, ha, rfl⟩ := map_eq_ok_iff.1 hread
    obtain ⟨hheads, s, hs, hof⟩ := h.told_of_ok message a ha
    exact ⟨hheads, s, hs, map_eq_ok_iff.2 ⟨a, hof, rfl⟩⟩
  · rintro message b ⟨hheads, s, hs, hof⟩
    obtain ⟨a, ha, rfl⟩ := map_eq_ok_iff.1 hof
    rw [h.ok_of_told message a ⟨hheads, s, hs, ha⟩]
    rfl
  · rintro message found b ⟨hheads, s, hs, hof⟩ hne
    obtain ⟨a, ha, rfl⟩ := map_eq_ok_iff.1 hof
    rw [h.mismatch message found a ⟨hheads, s, hs, ha⟩ hne]
    rfl

/-- A message is read and then compared with the datapath. -/
theorem of_ensure {ρ : Type} {read : Bytes → Except DecodeError ρ} (about : ρ → Datapath)
    (value : ρ → α)
    (h : ∀ found message a, told found message a ↔
      ∃ r, read message = .ok r ∧ about r = found ∧ value r = a) :
    Keeps dp told fun message => do
      let r ← (read message).mapError .decode
      dp.ensure (about r)
      return value r := by
  refine ⟨fun message a hread => ?_, fun message a htold => ?_, fun message found a htold hne => ?_⟩
  · obtain ⟨r, hr, hrest⟩ := bind_eq_ok_iff.1 hread
    obtain ⟨_, hensure, hvalue⟩ := bind_eq_ok_iff.1 hrest
    refine (h dp message a).2 ⟨r, mapError_eq_ok_iff.1 hr, ?_, Except.ok.inj hvalue⟩
    by_contra hne
    rw [Datapath.ensure_of_ne hne] at hensure
    cases hensure
  · obtain ⟨r, hr, rfl, rfl⟩ := (h dp message a).1 htold
    simp only [hr]
    change ((about r).ensure (about r) >>= fun _ => pure (value r)) = _
    rw [Datapath.ensure_self]
    rfl
  · obtain ⟨r, hr, rfl, rfl⟩ := (h found message a).1 htold
    simp only [hr]
    change (dp.ensure (about r) >>= fun _ => pure (value r)) = _
    rw [Datapath.ensure_of_ne hne]
    rfl

end Keeps

/-- **Messages about vports.** -/
theorem Vport.keeps_readIn (families : Families) (command : ObjectCommand) (dp : Datapath) :
    Keeps dp (Conveys families.vport.id (replyCommands command) Vport.ofAttributes)
      (readIn families command dp) := by
  refine .of_ensure VportNotice.datapath VportNotice.vport fun found message vport => ?_
  unfold VportNotice.parse
  simp only [Cursor.scan_eq_ok_iff fun generic header vport =>
    (⟨generic.command, ⟨header.ifindex⟩, vport⟩ : VportNotice)]
  constructor
  · exact fun h => ⟨_, ⟨found, vport, h, rfl⟩, rfl, rfl⟩
  · rintro ⟨_, ⟨_, _, h, rfl⟩, rfl, rfl⟩
    exact h


/-- **Messages about datapaths.** -/
theorem Datapath.keeps_read (families : Families) (dp : Datapath) :
    Keeps dp (Conveys families.datapath.id replyCommands fun s =>
        s.text (Vocabulary.number DatapathAttribute.name)) fun message => do
      let (found, name) ← read families message
      dp.ensure found
      return name := by
  refine .of_ensure Prod.fst Prod.snd fun found message name => ?_
  unfold parse
  simp only [Cursor.scan_eq_ok_iff fun _ header name =>
    ((⟨header.ifindex⟩, name) : Datapath × String)]
  constructor
  · exact fun h => ⟨_, ⟨found, name, h, rfl⟩, rfl, rfl⟩
  · rintro ⟨_, ⟨_, _, h, rfl⟩, rfl, rfl⟩
    exact h

/-! ### Comparing first -/

namespace Cursor

variable {α : Type} {message : Bytes} {family : UInt16} {commands : List UInt8}
  {read : AttributeSet → Except DecodeError α} {found dp : Datapath}

/-- Reading a message that has its headers is comparing the datapath and then reading what is behind
them. -/
theorem scan_compared_of_heads (h : Heads family commands found message) :
    scan (do
      let (_, header) ← reading (checkHeaders family commands)
      MonadExcept.ofExcept (dp.ensure ⟨header.ifindex⟩)
      let s ← reading attributes
      MonadExcept.ofExcept ((read s).mapError .decode)) message = (do
        dp.ensure found
        let s ← (AttributeSet.parse (message.drop 24)).mapError .decode
        (read s).mapError .decode) := by
  have hheaders : (checkHeaders family commands).run (.start message) =
      (.ok (.ofBytes (message.drop 16), ⟨found.ifindex⟩), ⟨message, 24⟩) :=
    run_checkHeaders_eq_iff.2 ⟨h, rfl, rfl⟩
  have hremaining : (⟨message, 24⟩ : Cursor).remaining = message.drop 24 := rfl
  rw [scan, run_bind, run_reading, hheaders]
  simp only [Except.mapError, run_bind, run_ofExcept, run_reading, run_attributes]
  cases dp.ensure found with
  | error f => rfl
  | ok _ =>
    simp only [hremaining]
    cases AttributeSet.parse (message.drop 24) <;> rfl

/-- Whatever is read after the headers, a message has them if it is read. -/
theorem exists_heads_of_scan {rest : GenericHeader × DatapathHeader → Scan Failure α} {a : α}
    (h : scan (do rest (← reading (checkHeaders family commands))) message = .ok a) :
    ∃ found, Heads family commands found message := by
  rw [scan, run_bind_eq_ok_iff] at h
  obtain ⟨⟨generic, header⟩, c, hheaders, -⟩ := h
  rw [run_reading] at hheaders
  obtain ⟨hresult, hcursor⟩ := Prod.mk.inj hheaders
  have hrun : (checkHeaders family commands).run (.start message) = (.ok (generic, header), c) :=
    Prod.ext (mapError_eq_ok_iff.1 hresult) hcursor
  exact ⟨_, (run_checkHeaders_eq_iff.1 hrun).1⟩

end Cursor

/-- A message is compared with the datapath before its attributes are read. -/
theorem Keeps.of_compared {α : Type} (family : UInt16) (commands : List UInt8)
    (ofAttributes : AttributeSet → Except DecodeError α) (dp : Datapath) :
    Keeps dp (Conveys family commands ofAttributes) (Cursor.scan do
      let (_, header) ← Cursor.reading (Cursor.checkHeaders family commands)
      MonadExcept.ofExcept (dp.ensure ⟨header.ifindex⟩)
      let s ← Cursor.reading Cursor.attributes
      MonadExcept.ofExcept ((ofAttributes s).mapError .decode)) := by
  refine ⟨fun message a hread => ?_, fun message a htold => ?_,
    fun message found a htold hne => ?_⟩
  · obtain ⟨found, hheads⟩ := Cursor.exists_heads_of_scan hread
    rw [Cursor.scan_compared_of_heads hheads] at hread
    obtain ⟨_, hensure, hrest⟩ := bind_eq_ok_iff.1 hread
    obtain ⟨s, hs, ha⟩ := bind_eq_ok_iff.1 hrest
    have hfound : found = dp := by
      by_contra hne
      rw [Datapath.ensure_of_ne hne] at hensure
      cases hensure
    exact ⟨hfound ▸ hheads, s, mapError_eq_ok_iff.1 hs, mapError_eq_ok_iff.1 ha⟩
  · obtain ⟨hheads, s, hs, ha⟩ := htold
    rw [Cursor.scan_compared_of_heads hheads, Datapath.ensure_self, hs]
    exact mapError_eq_ok_iff.2 ha
  · rw [Cursor.scan_compared_of_heads htold.heads, Datapath.ensure_of_ne hne]
    rfl

/-- **Messages about flows.** -/
theorem Flow.keeps_parse (family : UInt16) (dp : Datapath) :
    Keeps dp (Conveys family replyCommands ofAttributes) (parse family dp) :=
  .of_compared family replyCommands ofAttributes dp

/-- **Messages with misses.** -/
theorem Miss.keeps_parse (family : UInt16) (dp : Datapath) :
    Keeps dp (Conveys family [Vocabulary.number PacketCommand.miss] ofAttributes)
      (parse family dp) :=
  .of_compared family [Vocabulary.number PacketCommand.miss] ofAttributes dp

end VSwitch
