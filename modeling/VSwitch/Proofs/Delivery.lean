import Mathlib
import VSwitch.Proofs.Flow.Exact
import VSwitch.Proofs.Outline
import VSwitch.Proofs.Reading
import VSwitch.Proofs.Recording

/-!
# Delivery of misses

A message of the packet family that tells of a miss in the datapath leads to one call of the
consumer, any other message to none. What the consumer gets is what the message says: the packet
octet by octet, and one exact key for each attribute among the keys.

* `VSwitch.Miss.Tells` says by its octets that a message tells of a miss, and
  `VSwitch.Miss.parse_eq_ok_iff` that just such messages are read;
* `VSwitch.Miss.Delivers` says that handling a message is one call of the consumer;
* `VSwitch.Miss.Announces` says that a request is for a message with a miss, as the kernel sends it;
* `VSwitch.Miss.delivery` is the result, for whatever arrives and for whatever the kernel may
  announce.
-/

namespace VSwitch

/-! ### Headers in front of attributes -/

/-- A message that starts with the three headers has them, and the rest is behind them. -/
theorem heads_append (header : MessageHeader) (generic : GenericHeader) (dp : Datapath)
    {commands : List UInt8} (hmem : generic.command ∈ commands) (rest : Bytes) :
    let message := header.toBytes ++ (generic.toBytes ++
      (DatapathHeader.toBytes ⟨dp.ifindex⟩ ++ rest))
    Heads header.type commands dp message ∧ message.drop 24 = rest := by
  intro message
  obtain ⟨c, hrun, hrest⟩ := Cursor.reads_checkHeaders header ⟨dp.ifindex⟩ hmem
    (.start message) (Cursor.remaining_start message)
  obtain ⟨hheads, -, rfl⟩ := Cursor.run_checkHeaders_eq_iff.1 hrun
  exact ⟨hheads, hrest⟩

/-! ### One attribute of a set -/

/-- If a forest has one attribute of a type, its value is what is found of this type. -/
theorem AttributeTree.get?_of_filter_eq {trees : List AttributeTree} {t : AttributeTree}
    {type : UInt16} (h : (trees.filter fun u => u.type == type) = [t]) :
    (Table.ofList (trees.map fun u => (u.type, u.payload))).get? type = some t.payload := by
  have hfilter : ((trees.map fun u => (u.type, u.payload)).filter fun e => e.1 == type) =
      (trees.filter fun u => u.type == type).map fun u => (u.type, u.payload) :=
    List.filter_map
  rw [Table.get?_ofList, hfilter, h]
  rfl

namespace Miss

variable {family : UInt16} {dp : Datapath} {message : Bytes} {miss : Miss}

/-! ### What tells of a miss -/

/-- A message tells of a miss in a datapath: it has the headers for it, and among the attributes
behind them there are the packet and the keys. For each key there is one that is exactly this. -/
structure Tells (family : UInt16) (dp : Datapath) (message : Bytes) (miss : Miss) : Prop where
  heads : Heads family [Vocabulary.number PacketCommand.miss] dp message
  attributes : ∃ s octets keys, AttributeSet.parse (message.drop 24) = .ok s ∧
    s.get? (Vocabulary.number PacketAttribute.packet) = some miss.packet ∧
    s.get? (Vocabulary.number PacketAttribute.key) = some octets ∧
    AttributeSet.parse octets = .ok keys ∧
    List.Forall₂ (fun e k => k.IsExactly e.1 e.2) keys.entries miss.keys.toList

theorem ofAttributes_eq_ok_iff {s : AttributeSet} : ofAttributes s = .ok miss ↔
    ∃ octets keys, s.get? (Vocabulary.number PacketAttribute.packet) = some miss.packet ∧
      s.get? (Vocabulary.number PacketAttribute.key) = some octets ∧
      AttributeSet.parse octets = .ok keys ∧
      List.Forall₂ (fun e k => k.IsExactly e.1 e.2) keys.entries miss.keys.toList := by
  simp only [ofAttributes, bind_eq_ok_iff, AttributeSet.nested_eq_ok_iff,
    AttributeSet.bytes_eq_ok_iff, Match.parse_none_eq_ok_iff]
  constructor
  · rintro ⟨keys, ⟨octets, hkey, hoctets⟩, m, hm, packet, hpacket, h⟩
    cases h
    exact ⟨octets, keys, hpacket, hkey, hoctets, hm⟩
  · rintro ⟨octets, keys, hpacket, hkey, hoctets, hm⟩
    exact ⟨keys, ⟨octets, hkey, hoctets⟩, miss.keys, hm, miss.packet, hpacket, rfl⟩

/-- **Just the messages that tell of a miss are read**, as the miss that they tell of. -/
theorem parse_eq_ok_iff : parse family dp message = .ok miss ↔ Tells family dp message miss := by
  constructor
  · intro h
    obtain ⟨hheads, s, hs, hmiss⟩ := (keeps_parse family dp).told_of_ok message miss h
    obtain ⟨octets, keys, hrest⟩ := ofAttributes_eq_ok_iff.1 hmiss
    exact ⟨hheads, s, octets, keys, hs, hrest⟩
  · rintro ⟨hheads, s, octets, keys, hs, hrest⟩
    refine (keeps_parse family dp).ok_of_told message miss ⟨hheads, s, hs, ?_⟩
    exact ofAttributes_eq_ok_iff.2 ⟨octets, keys, hrest⟩

/-! ### What the kernel announces -/

/-- A request is for a message of the kernel with a miss. The packet and the keys are attributes of
it, in any order, and there may be others. -/
structure Announces (r : Request) (family : UInt16) (dp : Datapath) (miss : Miss)
    (trees : List AttributeTree) : Prop where
  family_eq : r.family = family
  command_eq : r.command = Vocabulary.number PacketCommand.miss
  datapath_eq : r.datapath? = some dp.ifindex
  attributes_eq : r.attributes = AttributeTree.puts trees
  plain : ∀ t ∈ trees, t.type < 0x4000
  packet : (trees.filter fun t => t.type == Vocabulary.number PacketAttribute.packet) =
    [.leaf (Vocabulary.number PacketAttribute.packet) miss.packet]
  keys : (trees.filter fun t => t.type == Vocabulary.number PacketAttribute.key) =
    [.node (Vocabulary.number PacketAttribute.key) miss.keys.keyTrees]

/-- **What is announced is told**, if every key is exact and has the shape of its type. -/
theorem Announces.tells {r : Request} {trees : List AttributeTree}
    (h : Announces r family dp miss trees) (hwf : miss.keys.WellFormed) (hexact : miss.keys.IsExact)
    (hm : r.Yields message) : Tells family dp message miss := by
  have hwrites : Put.Writes r.attributes trees := h.attributes_eq ▸ Put.writes_puts trees
  obtain ⟨hfits, header, hfamily, -, hmessage⟩ := Request.exists_of_yields hwrites hm
  have hhead : r.head = GenericHeader.toBytes ⟨r.command, r.version⟩ ++
      DatapathHeader.toBytes ⟨dp.ifindex⟩ := by
    rw [Request.head, h.datapath_eq]
    rfl
  rw [hhead, List.append_assoc] at hmessage
  have hcommand : r.command ∈ [Vocabulary.number PacketCommand.miss] :=
    List.mem_singleton.2 h.command_eq
  obtain ⟨hheads, hdrop⟩ := heads_append header ⟨r.command, r.version⟩ dp hcommand
    (AttributeTree.wires trees)
  rw [← hmessage] at hheads hdrop
  have hset : AttributeSet.parse (AttributeTree.wires trees) =
      .ok (Table.ofList (trees.map fun t => (t.type, t.payload))) :=
    AttributeTree.attributes_wires hfits h.plain
  obtain ⟨keys, hkeys, hmatch⟩ := Match.parse_none_keyTrees hwf hexact
  have hpacket := AttributeTree.get?_of_filter_eq h.packet
  have hkey := AttributeTree.get?_of_filter_eq h.keys
  simp only [AttributeTree.payload] at hpacket hkey
  exact ⟨h.family_eq ▸ hfamily ▸ hheads, _, _, keys, hdrop ▸ hset, hpacket, hkey, hkeys,
    Match.parse_none_eq_ok_iff.1 hmatch⟩

/-- The attributes of a message with nothing but a miss. -/
def trees (miss : Miss) : List AttributeTree :=
  [.leaf (Vocabulary.number PacketAttribute.packet) miss.packet,
    .node (Vocabulary.number PacketAttribute.key) miss.keys.keyTrees]

/-- The message with nothing but a miss. -/
def announcement (family flags : UInt16) (version : UInt8) (dp : Datapath) (miss : Miss) :
    Request where
  family := family
  flags := flags
  command := Vocabulary.number PacketCommand.miss
  version := version
  datapath? := some dp.ifindex
  attributes := AttributeTree.puts miss.trees

theorem announces_announcement (family flags : UInt16) (version : UInt8) (dp : Datapath)
    (miss : Miss) :
    Announces (announcement family flags version dp miss) family dp miss miss.trees :=
  ⟨rfl, rfl, rfl, rfl, by simp [trees, AttributeTree.type, Vocabulary.number], rfl, rfl⟩

/-- Every packet that is not too long for an attribute can be announced. -/
theorem exists_announcement (family flags : UInt16) (version : UInt8) (dp : Datapath)
    (miss : Miss) (sequence : UInt32) (hpacket : miss.packet.length ≤ 65531)
    (hwf : miss.keys.WellFormed) :
    ∃ d message, (announcement family flags version dp miss).draft = .ok d ∧
      d.finish sequence = .ok message := by
  obtain ⟨hkeys, hlength⟩ := Match.fits_keyTrees hwf (Vocabulary.number PacketAttribute.key)
  have hfits : AttributeTree.FitAll miss.trees := by
    refine ⟨?_, hkeys, trivial⟩
    rw [AttributeTree.Fits, AttributeHeader.size, Draft.maxAttributeLength]
    omega
  have haligned := AttributeTree.length_wires_mod_four miss.trees
  have hwires : (AttributeTree.wires miss.trees).length ≤ 70000 := by
    simp only [trees, AttributeTree.wires_cons, AttributeTree.wires_nil, List.append_nil,
      List.length_append, Attribute.length_block, AttributeTree.payload, align4,
      AttributeHeader.size]
    omega
  have hhead : (announcement family flags version dp miss).head.length = 8 := by
    simp [Request.head, announcement, GenericHeader.size, DatapathHeader.size]
  refine ⟨_, _, (Request.draft_eq_ok_iff rfl).2 ⟨hfits, rfl⟩, Draft.finish_start_append _ _ _ ?_ ?_⟩
  · rw [List.length_append, hhead]
    omega
  · rw [List.length_append, hhead, MessageHeader.size, Draft.maxLength]
    omega

/-! ### Handling -/

section

variable {σ : Type} (family dp) (consumer : MissConsumer σ) (calls : List MissConsumer.Call) (s : σ)

/-- What handling a message comes to for a consumer that has been called before. -/
def handling (message : Bytes) : Except Failure Unit × List MissConsumer.Call × σ :=
  Act.outcome ((handler family dp consumer.recording).handle message) (calls, s)

/-- Handling a message is handing a miss to the consumer, once, and nothing else. -/
def Delivers (message : Bytes) (miss : Miss) : Prop :=
  handling family dp consumer calls s message = ((Act.outcome (consumer.take miss) s).1,
    calls ++ [.take miss], (Act.outcome (consumer.take miss) s).2)

variable {family dp}

theorem handling_eq (message : Bytes) : handling family dp consumer calls s message =
    match parse family dp message with
    | .ok miss => ((Act.outcome (consumer.take miss) s).1, calls ++ [.take miss],
        (Act.outcome (consumer.take miss) s).2)
    | .error f => (.error f, calls, s) := by
  change Act.outcome (MonadExcept.ofExcept (parse family dp message) >>= consumer.recording.take)
    (calls, s) = _
  rw [Act.outcome_bind, Act.outcome_ofExcept]
  cases parse family dp message with
  | error f => rfl
  | ok miss => exact consumer.outcome_take_recording miss calls s

theorem delivers_of_tells (h : Tells family dp message miss) :
    Delivers family dp consumer calls s message miss := by
  rw [Delivers, handling_eq, parse_eq_ok_iff.2 h]

end

/-- **Delivery of misses.** A message that tells of a miss in the datapath leads to one call of the
consumer, with this miss; of any other message it hears nothing, and handling fails. Whatever
message the kernel announces exact keys with, that they come with the packet is what it tells; and
for every packet of up to 65531 octets and all exact keys there is such a message. The keys that the
consumer gets are those that were announced. -/
theorem delivery {σ : Type} (family : UInt16) (dp : Datapath) (consumer : MissConsumer σ)
    (calls : List MissConsumer.Call) (s : σ) :
    (∀ message, (∃ miss, Tells family dp message miss ∧
          Delivers family dp consumer calls s message miss) ∨
        (¬ ∃ miss, Tells family dp message miss) ∧
          ∃ f, handling family dp consumer calls s message = (.error f, calls, s)) ∧
      ∀ (packet : Bytes) (keys : Match), keys.WellFormed → keys.IsExact →
        keys.agrees keys = true ∧
        (∀ r trees message, Announces r family dp ⟨packet, keys⟩ trees → r.Yields message →
          Delivers family dp consumer calls s message ⟨packet, keys⟩) ∧
        (packet.length ≤ 65531 → ∀ flags version sequence, ∃ d message,
          (announcement family flags version dp ⟨packet, keys⟩).draft = .ok d ∧
          d.finish sequence = .ok message ∧
          Delivers family dp consumer calls s message ⟨packet, keys⟩) := by
  have hannounced : ∀ {packet keys r trees message}, keys.WellFormed → keys.IsExact →
      Announces r family dp ⟨packet, keys⟩ trees → r.Yields message →
      Delivers family dp consumer calls s message ⟨packet, keys⟩ := by
    intro packet keys r trees message hwf hexact hr hm
    exact delivers_of_tells consumer calls s (hr.tells hwf hexact hm)
  refine ⟨fun message => ?_, fun packet keys hwf hexact => ⟨?_, ?_, ?_⟩⟩
  · cases hparse : parse family dp message with
    | ok miss =>
      have htells := parse_eq_ok_iff.1 hparse
      exact .inl ⟨miss, htells, delivers_of_tells consumer calls s htells⟩
    | error f =>
      refine .inr ⟨?_, f, by rw [handling_eq, hparse]⟩
      rintro ⟨miss, htells⟩
      rw [parse_eq_ok_iff.2 htells] at hparse
      cases hparse
  · have hagrees := keys.agrees_reread
    rwa [hexact.reread_eq hwf] at hagrees
  · exact fun r trees message hr hm => hannounced hwf hexact hr hm
  · intro hlength flags version sequence
    obtain ⟨d, message, hdraft, hfinish⟩ :=
      exists_announcement family flags version dp ⟨packet, keys⟩ sequence hlength hwf
    have hr := announces_announcement family flags version dp ⟨packet, keys⟩
    exact ⟨d, message, hdraft, hfinish, hannounced hwf hexact hr ⟨d, hdraft, sequence, hfinish⟩⟩

/-- The keys of an IPv4 packet that came out of a tunnel, without a checksum, by the vport 2. -/
def tunnelled : Match := .ofList [
  .ofEthertype 0x0800,
  .ofPort ⟨2⟩,
  .tunnel ⟨⟨.fill 8 0x21, .fill 4 10, .fill 4 11, 1, 64, true, false⟩, .ones⟩]

theorem toList_tunnelled : tunnelled.toList = [
    .ofPort ⟨2⟩,
    .ofEthertype 0x0800,
    .tunnel ⟨⟨.fill 8 0x21, .fill 4 10, .fill 4 11, 1, 64, true, false⟩, .ones⟩] := by
  decide

theorem wellFormed_tunnelled : tunnelled.WellFormed := by
  intro k hk
  rw [toList_tunnelled] at hk
  simp only [List.mem_cons, List.not_mem_nil, or_false] at hk
  rcases hk with rfl | rfl | rfl
  · exact .inPort rfl rfl (.inr rfl)
  · exact .plain rfl rfl
  · exact .tunnel _

theorem isExact_tunnelled : tunnelled.IsExact := by
  intro k hk
  rw [toList_tunnelled] at hk
  simp only [List.mem_cons, List.not_mem_nil, or_false] at hk
  rcases hk with rfl | rfl | rfl <;> decide

theorem delivery_tunnelled :
    tunnelled.WellFormed ∧ tunnelled.IsExact ∧ ∃ d message,
      (announcement 27 0 1 ⟨9⟩ ⟨[0xAA, 0xBB, 0xCC], tunnelled⟩).draft = .ok d ∧
        d.finish 0 = .ok message ∧
        handling 27 ⟨9⟩ ⟨fun _ => pure (), fun _ _ => pure ()⟩ [] () message =
          (.ok (), [.take ⟨[0xAA, 0xBB, 0xCC], tunnelled⟩], ()) := by
  refine ⟨wellFormed_tunnelled, isExact_tunnelled, ?_⟩
  obtain ⟨-, -, hannounced⟩ := (delivery 27 ⟨9⟩ ⟨fun _ => pure (), fun _ _ => pure ()⟩ [] ()).2
    [0xAA, 0xBB, 0xCC] tunnelled wellFormed_tunnelled isExact_tunnelled
  exact hannounced (by decide) 0 1 0

end Miss

end VSwitch
