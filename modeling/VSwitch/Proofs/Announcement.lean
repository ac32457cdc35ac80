import Mathlib
import VSwitch.Proofs.Lookup
import VSwitch.Proofs.Texts

/-!
# What the kernel tells of a family

The answer to a lookup tells the number of the family and, in a list of its own, its multicast
groups. The list is read in order and whatever its elements are numbered with; each element is a
set, in which the order does not matter. The groups become a table, in which the last group of a
name counts. A list with one element that tells no group is no list of groups at all, so that nobody
takes a part of the groups for all of them.

* `VSwitch.Family.IsGroup` says by its octets that an element tells a group, and
  `VSwitch.Family.exists_parseEachGroup_iff` that just lists of such elements are read;
* `VSwitch.Family.Lists` says what an element looks like that tells a given group;
* `VSwitch.Family.Notice` is an answer of the kernel about a family, and
  `VSwitch.Family.Notice.parse_message` is what is read of it;
* `VSwitch.Endpoint.request_of_answer`: the answer to a request is what the request ends with;
* `VSwitch.Family.lookup_announced` is the result.
-/

namespace VSwitch

/-! ### An answer that comes at once -/

namespace Endpoint

variable {e : Endpoint} {draft : Draft} {message answer : Bytes} {rest : List Arrival}
  {header : MessageHeader}

/-- **A request is answered** by what arrives next, if this fits into the buffer, is one message and
answers the request. -/
theorem request_of_answer (hfinish : draft.finish e.link.nextSequence = .ok message)
    (hsent : e.link.outcomes.headD .delivered = .delivered)
    (hinbox : e.link.inbox = .datagram answer :: rest) (hfits : answer.length ≤ e.buffer.length)
    (halone : Datagram.messages answer = ([answer], none))
    (hanswers : Cursor.scan (Cursor.checkHeader e.port e.link.nextSequence) answer =
      .ok (.answer header)) : (Act.outcome (request draft) e).1 = .ok answer := by
  obtain ⟨_, _, e', -, -, hrun, -⟩ := exchange_run (e := e.sending message)
    (judges_answer e.port e.link.nextSequence) ()
  have hmessages : Arrival.messages (e.sending message).link.lastSequence
      (e.sending message).buffer.length (.datagram answer) = ([answer], none) := by
    have hcapacity : answer.length ≤ (e.sending message).buffer.length := hfits
    simp only [Arrival.messages, Arrival.octets, if_pos hcapacity, halone, Option.map_none]
  have hwalk : Act.outcome (walk (answering e.port e.link.nextSequence) [answer] none) () =
      (.ok (some answer), ()) := by
    rw [outcome_walk_cons, outcome_answering, hanswers]
  have hsettling : Act.outcome (settling (answering e.port e.link.nextSequence) (e.sending message)
      (e.sending message).link.inbox) () = (.ok answer, ()) := by
    have hnext : (e.sending message).link.inbox = .datagram answer :: rest := hinbox
    rw [hnext, outcome_settling_cons, hmessages, hwalk]
  rw [outcome_request, outcome_converse, hfinish, hsent]
  simp only [Link.SendOutcome.result, hrun, hsettling]

end Endpoint

namespace Family

/-! ### Groups -/

/-- Octets tell a group: they are attributes, among which there are a text for its name and four
octets for its number. -/
def IsGroup (octets : Bytes) : Prop :=
  ∃ s, AttributeSet.parse octets = .ok s ∧
    (∃ value, s.get? (Vocabulary.number GroupAttribute.name) = some value ∧
      AttributeSet.IsText value) ∧
    ∃ value, s.get? (Vocabulary.number GroupAttribute.id) = some value ∧ value.length = 4

theorem parseGroup_eq_ok_iff {octets : Bytes} {g : String × UInt32} :
    parseGroup octets = .ok g ↔ ∃ s, AttributeSet.parse octets = .ok s ∧
      s.text (Vocabulary.number GroupAttribute.name) = .ok g.1 ∧
      s.u32 (Vocabulary.number GroupAttribute.id) = .ok g.2 := by
  simp only [parseGroup, bind_eq_ok_iff]
  constructor
  · rintro ⟨s, hs, name, hname, id, hid, h⟩
    cases h
    exact ⟨s, hs, hname, hid⟩
  · rintro ⟨s, hs, hname, hid⟩
    exact ⟨s, hs, _, hname, _, hid, rfl⟩

/-- Just the groups are read. -/
theorem exists_parseGroup_iff {octets : Bytes} :
    (∃ g, parseGroup octets = .ok g) ↔ IsGroup octets := by
  simp only [parseGroup_eq_ok_iff, IsGroup]
  constructor
  · rintro ⟨⟨name, id⟩, s, hs, hname, hid⟩
    obtain ⟨value, hget, htext⟩ := bind_eq_ok_iff.1 hname
    obtain ⟨o, hget', -⟩ := AttributeSet.u32_eq_ok_iff.1 hid
    exact ⟨s, hs, ⟨value, AttributeSet.bytes_eq_ok_iff.1 hget,
      AttributeSet.exists_textOf_iff.1 ⟨name, htext⟩⟩, o.val, hget', o.property⟩
  · rintro ⟨s, hs, ⟨value, hget, htext⟩, value', hget', hlength⟩
    obtain ⟨name, hname⟩ := AttributeSet.exists_textOf_iff.2 htext
    rw [← AttributeSet.text_of_get? hget] at hname
    exact ⟨(name, Bytes.toU32 value'), s, hs, hname,
      AttributeSet.u32_eq_ok_iff.2 ⟨⟨value', hlength⟩, hget', rfl⟩⟩

/-- Groups are read one by one. -/
theorem parseEachGroup_eq_ok_iff {l : List (UInt16 × Bytes)} {gs : List (String × UInt32)} :
    parseEachGroup l = .ok gs ↔ List.Forall₂ (fun a g => parseGroup a.2 = .ok g) l gs := by
  induction l generalizing gs with
  | nil =>
    rw [parseEachGroup, List.forall₂_nil_left_iff]
    constructor
    · intro h
      exact (Except.ok.inj h).symm
    · rintro rfl
      rfl
  | cons a rest ih =>
    obtain ⟨type, octets⟩ := a
    simp only [parseEachGroup, bind_eq_ok_iff, List.forall₂_cons_left_iff, ih]
    constructor
    · rintro ⟨g, hg, gs', hgs, h⟩
      cases h
      exact ⟨g, gs', hg, hgs, rfl⟩
    · rintro ⟨g, gs', hg, hgs, rfl⟩
      exact ⟨g, hg, gs', hgs, rfl⟩

/-- **All or nothing**: a list is read exactly if each of its elements is a group. -/
theorem exists_parseEachGroup_iff {l : List (UInt16 × Bytes)} :
    (∃ gs, parseEachGroup l = .ok gs) ↔ ∀ a ∈ l, IsGroup a.2 := by
  simp only [parseEachGroup_eq_ok_iff]
  induction l with
  | nil => exact ⟨fun _ _ ha => absurd ha List.not_mem_nil, fun _ => ⟨[], .nil⟩⟩
  | cons a rest ih =>
    rw [List.forall_mem_cons, ← ih, ← exists_parseGroup_iff]
    constructor
    · rintro ⟨gs, h⟩
      obtain ⟨g, gs, hg, hgs, rfl⟩ := List.forall₂_cons_left_iff.1 h
      exact ⟨⟨g, hg⟩, gs, hgs⟩
    · rintro ⟨⟨g, hg⟩, gs, hgs⟩
      exact ⟨g :: gs, .cons hg hgs⟩

theorem groupsOf_eq {s : AttributeSet} {octets : Bytes} {l : List (UInt16 × Bytes)}
    (hget : s.get? (Vocabulary.number ControlAttribute.groups) = some octets)
    (hl : Attribute.parse octets = .ok l) :
    groupsOf s = (parseEachGroup l).map Table.ofList := by
  rw [groupsOf, hget]
  simp only [hl]
  change (parseEachGroup l >>= fun gs => pure (Table.ofList gs)) = _
  cases parseEachGroup l <;> rfl

/-! ### The attributes of a family -/

/-- What a set of attributes tells of a family. -/
def ofAttributes (name : String) (s : AttributeSet) : Except DecodeError Family := do
  let id ← s.u16 (Vocabulary.number ControlAttribute.familyId)
  let groups ← groupsOf s
  return ⟨name, id, groups⟩

/-- Of an answer, only the attributes count. -/
theorem parse_eq_ofAttributes {header : MessageHeader} {generic : GenericHeader} {octets : Bytes}
    {s : AttributeSet} (name : String)
    (htype : header.type = Vocabulary.number FixedFamily.control)
    (hcommand : generic.command = Vocabulary.number ControlCommand.newFamily)
    (hs : AttributeSet.parse octets = .ok s) :
    parse name (header.toBytes ++ (generic.toBytes ++ octets)) = ofAttributes name s := by
  obtain ⟨c₁, hc₁, hrun₁⟩ := (Cursor.reads_expectType header).exists_run_bind _
    (Cursor.remaining_start _)
  obtain ⟨c₂, hc₂, hrun₂⟩ := (Cursor.reads_expectCommandOf generic
    (List.mem_singleton_self _)).exists_run_bind _ hc₁
  obtain ⟨c₃, -, hrun₃⟩ := (Cursor.reads_attributes hs).exists_run_bind _ hc₂
  rw [parse, Cursor.scan, ← htype, hrun₁, Cursor.expectCommand, ← hcommand, hrun₂, hrun₃]
  simp only [ofAttributes, run_bind, run_ofExcept]
  cases s.u16 (Vocabulary.number ControlAttribute.familyId) with
  | error cause => rfl
  | ok id => cases groupsOf s <;> rfl

/-! ### What is told of groups -/

/-- An attribute tells the name and the number of a group: it has attributes in it, and these two
are among them, whatever its own type is. -/
def Lists (t : AttributeTree) (g : String × UInt32) : Prop :=
  ∃ index children, t = .node index children ∧
    (AttributeTree.text (Vocabulary.number GroupAttribute.name) g.1).IsOnly children ∧
    (AttributeTree.u32 (Vocabulary.number GroupAttribute.id) g.2).IsOnly children ∧
    '\x00' ∉ g.1.toList

theorem parseGroup_of_lists {t : AttributeTree} {g : String × UInt32} (h : Lists t g)
    (hfits : t.Fits) : parseGroup t.payload = .ok g := by
  obtain ⟨index, children, rfl, hname, hid, hnul⟩ := h
  have hname := hname.get?_type (Vocabulary.number GroupAttribute.name) rfl (by decide)
  have hid := hid.get?_type (Vocabulary.number GroupAttribute.id) rfl (by decide)
  refine parseGroup_eq_ok_iff.2 ⟨_, AttributeTree.attributes_wires_masked hfits.1, ?_, ?_⟩
  · rw [AttributeSet.text_of_get? hname]
    exact AttributeSet.textOf_eq_ok_iff.2 ⟨rfl, hnul⟩
  · exact AttributeSet.u32_eq_ok_iff.2 ⟨⟨_, Bytes.length_ofU32 g.2⟩, hid, Bytes.toU32_ofU32 g.2⟩

/-- A message of the control family that tells the number and the groups of a family, among other
attributes. -/
structure Notice where
  /-- The header. -/
  header : MessageHeader
  /-- The version of the control family. -/
  version : UInt8
  /-- The number of the family. -/
  id : UInt16
  /-- What tells the groups of the family. -/
  groups : List AttributeTree
  /-- All attributes. -/
  trees : List AttributeTree
  /-- The octets of the attributes. -/
  octets : Bytes
  type_eq : header.type = Vocabulary.number FixedFamily.control
  length_eq : header.length.toNat = MessageHeader.size + (GenericHeader.size + octets.length)
  tells_id : (AttributeTree.u16 (Vocabulary.number ControlAttribute.familyId) id).IsOnly trees
  tells_groups :
    (AttributeTree.node (Vocabulary.number ControlAttribute.groups) groups).IsOnly trees
  encode_eq : AttributeTree.encode trees = .ok octets

namespace Notice

variable (a : Notice)

/-- The headers and the attributes. -/
def message : Bytes :=
  a.header.toBytes ++
    (GenericHeader.toBytes ⟨Vocabulary.number ControlCommand.newFamily, a.version⟩ ++ a.octets)

theorem wires_eq : AttributeTree.FitAll a.trees ∧ a.octets = AttributeTree.wires a.trees := by
  obtain ⟨d, hd, hbytes⟩ := map_eq_ok_iff.1 a.encode_eq
  obtain ⟨hfits, rfl⟩ := (AttributeTree.writeOn_eq_ok_iff rfl).1 hd
  exact ⟨hfits, hbytes.symm⟩

theorem fits_groups : AttributeTree.FitAll a.groups :=
  (AttributeTree.fitAll_iff.1 a.wires_eq.1 _ a.tells_groups.1).1

theorem length_message : a.message.length = a.header.length.toNat := by
  rw [a.length_eq, message, List.length_append, List.length_append, MessageHeader.length_toBytes,
    GenericHeader.length_toBytes]

/-- As a datagram it is one message. -/
theorem messages_message : Datagram.messages a.message = ([a.message], none) := by
  have hread : MessageHeader.read a.message = .ok a.header := by
    rw [message, MessageHeader.read_toBytes_append]
  have hsize : MessageHeader.size ≤ a.message.length := by
    rw [message, List.length_append, MessageHeader.length_toBytes]
    omega
  have haligned : a.message.length % 4 = 0 := by
    have hwires := AttributeTree.length_wires_mod_four a.trees
    rw [← a.wires_eq.2] at hwires
    rw [length_message, a.length_eq, MessageHeader.size, GenericHeader.size]
    omega
  rw [Datagram.messages, Datagram.split_of_length_eq hread hsize a.length_message.symm haligned]
  rfl

theorem scan_checkHeader : Cursor.scan (Cursor.checkHeader a.header.port a.header.sequence)
    a.message = .ok (.answer a.header) := by
  have hsize : MessageHeader.size ≤ a.message.length := by
    rw [message, List.length_append, MessageHeader.length_toBytes]
    omega
  have hheader : MessageHeader.ofBytes a.message = a.header :=
    MessageHeader.ofBytes_toBytes_append a.header _
  have herror : ¬ a.header.isError = true := by
    rw [MessageHeader.isError, a.type_eq]
    decide
  rw [Cursor.scan_checkHeader _ _ hsize, hheader, if_neg (not_not_intro rfl),
    if_neg (not_not_intro rfl), if_neg herror]

/-- What is read of it is what its groups are read as. -/
theorem parse_message (name : String) : parse name a.message =
    (parseEachGroup (a.groups.map fun t => (t.key, t.payload))).map fun gs =>
      ⟨name, a.id, Table.ofList gs⟩ := by
  obtain ⟨hfits, hoctets⟩ := a.wires_eq
  have hset := AttributeTree.attributes_wires_masked hfits
  rw [← hoctets] at hset
  have hid := a.tells_id.get?_type (Vocabulary.number ControlAttribute.familyId) rfl (by decide)
  have hgroups := a.tells_groups.get?_type (Vocabulary.number ControlAttribute.groups) rfl
    (by decide)
  have hu16 := AttributeSet.u16_eq_ok_iff.2
    ⟨⟨_, Bytes.length_ofU16 a.id⟩, hid, Bytes.toU16_ofU16 a.id⟩
  have hlist : Attribute.parse (AttributeTree.wires a.groups) =
      .ok (a.groups.map fun t => (t.key, t.payload)) :=
    AttributeTree.parse_wires_masked a.fits_groups
  rw [message, parse_eq_ofAttributes name a.type_eq rfl hset, ofAttributes, hu16,
    groupsOf_eq hgroups hlist]
  cases parseEachGroup (a.groups.map fun t => (t.key, t.payload)) <;> rfl

/-- A lookup that gets it ends with what is read of it. -/
theorem outcome_lookup {name : String} {e : Endpoint} {rest : List Arrival} (hname : IsName name)
    (hsent : e.link.outcomes.headD .delivered = .delivered) (hport : a.header.port = e.port)
    (hsequence : a.header.sequence = e.link.nextSequence)
    (hinbox : e.link.inbox = .datagram a.message :: rest)
    (hfits : a.message.length ≤ e.buffer.length) :
    (Act.outcome (lookup name) e).1 = (parse name a.message).mapError .decode := by
  obtain ⟨draft, hdraft, hfinish⟩ := exists_finish hname
  obtain ⟨m, hm⟩ := hfinish e.link.nextSequence
  have hanswer := Endpoint.request_of_answer hm hsent hinbox hfits a.messages_message
    (hport ▸ hsequence ▸ a.scan_checkHeader)
  rw [lookup, Act.outcome_bind, Act.outcome_ofEncode, hdraft]
  simp only [Except.mapError]
  rw [Act.outcome_bind]
  rcases houtcome : Act.outcome (Endpoint.request draft) e with ⟨r, e'⟩
  rw [houtcome] at hanswer
  obtain rfl : r = .ok a.message := hanswer
  simp only [Act.outcome_bind, Act.outcome_ofDecode]
  cases parse name a.message <;> rfl

end Notice

/-- **A family is looked up as it is announced.** Let the next thing to arrive be a message of the
control family, for the port and of the sequence number of the lookup, that tells the number and the
groups of a family among any other attributes. If it fits into the buffer and each element tells a
group, in any order and among any other attributes as well, the lookup gives the name that was asked
for, the number, and of each name that is told the number that is told last, and no other names. If
there is an element that is no group, the lookup fails instead, and it does so in no other case. -/
theorem lookup_announced (a : Notice) {name : String} {e : Endpoint} {rest : List Arrival}
    (hname : IsName name) (hsent : e.link.outcomes.headD .delivered = .delivered)
    (hport : a.header.port = e.port) (hsequence : a.header.sequence = e.link.nextSequence)
    (hinbox : e.link.inbox = .datagram a.message :: rest)
    (hfits : a.message.length ≤ e.buffer.length) :
    (∀ listed, List.Forall₂ Lists a.groups listed →
      ∃ f, (Act.outcome (lookup name) e).1 = .ok f ∧ f.name = name ∧ f.id = a.id ∧
        ∀ n i, f.groups.get? n = some i ↔ Table.IsLast (n, i) listed) ∧
    ((∃ t ∈ a.groups, ¬ IsGroup t.payload) ↔
      ∃ cause, (Act.outcome (lookup name) e).1 = .error (.decode cause)) := by
  rw [a.outcome_lookup hname hsent hport hsequence hinbox hfits, a.parse_message]
  constructor
  · intro listed hlisted
    have hread : parseEachGroup (a.groups.map fun t => (t.key, t.payload)) = .ok listed := by
      rw [parseEachGroup_eq_ok_iff, List.forall₂_map_left_iff]
      have hboth := (List.forall₂_and_left a.groups listed).2
        ⟨AttributeTree.fitAll_iff.1 a.fits_groups, hlisted⟩
      exact hboth.imp fun t g h => parseGroup_of_lists h.2 h.1
    rw [hread]
    exact ⟨_, rfl, rfl, rfl, fun n i => Table.get?_ofList_eq_some_iff⟩
  · have hall : (∃ gs, parseEachGroup (a.groups.map fun t => (t.key, t.payload)) = .ok gs) ↔
        ∀ t ∈ a.groups, IsGroup t.payload :=
      exists_parseEachGroup_iff.trans List.forall_mem_map
    cases hread : parseEachGroup (a.groups.map fun t => (t.key, t.payload)) with
    | error cause =>
      refine ⟨fun _ => ⟨cause, rfl⟩, fun _ => ?_⟩
      by_contra hnone
      obtain ⟨gs, hgs⟩ := hall.2 fun t ht => not_not.1 fun hgroup => hnone ⟨t, ht, hgroup⟩
      rw [hread] at hgs
      cases hgs
    | ok gs =>
      constructor
      · rintro ⟨t, ht, hgroup⟩
        exact absurd (hall.1 ⟨gs, hread⟩ t ht) hgroup
      · rintro ⟨cause, h⟩
        cases h

/-- A group that is told twice, in two orders and the second time with something else. -/
def toldTwice : List AttributeTree :=
  [.node 1 [.text 1 "g", .u32 2 3], .node 1 [.u32 2 4, .leaf 9 [7], .text 1 "g"]]

/-- The attributes of an answer that tells the group twice. -/
def treesTwice : List AttributeTree := [.leaf 2 [103, 0], .node 7 toldTwice, .u16 1 30]

theorem nodup_treesTwice : (treesTwice.map AttributeTree.key).Nodup := by
  decide

/-- An answer that tells the group twice. -/
def announcedTwice : Notice where
  header := ⟨88, 16, 0, 5, 9⟩
  version := 2
  id := 30
  groups := toldTwice
  trees := treesTwice
  octets := AttributeTree.wires treesTwice
  type_eq := rfl
  length_eq := by decide
  tells_id :=
    AttributeTree.isOnly_of_nodup (by simp [treesTwice, Vocabulary.number]) nodup_treesTwice
  tells_groups :=
    AttributeTree.isOnly_of_nodup (by simp [treesTwice, Vocabulary.number]) nodup_treesTwice
  encode_eq := by
    have hwrite : Put.writeOn (AttributeTree.puts treesTwice) ⟨[]⟩ = .ok _ :=
      (AttributeTree.writeOn_eq_ok_iff rfl).2 ⟨by decide, rfl⟩
    rw [AttributeTree.encode, hwrite]
    rfl

theorem lists_toldTwice : List.Forall₂ Lists toldTwice [("g", 3), ("g", 4)] := by
  refine .cons ⟨1, _, rfl, ?_, ?_, by decide⟩ (.cons ⟨1, _, rfl, ?_, ?_, by decide⟩ .nil) <;>
    exact AttributeTree.isOnly_of_nodup (by simp [Vocabulary.number]) (by decide)

/-- An endpoint at which the answer is about to arrive. -/
def awaitingTwice : Endpoint :=
  .start ⟨[.datagram announcedTwice.message], .other "empty", [], [], 5, ⟨[]⟩⟩ 9 128

theorem lookup_announced_twice :
    IsName "ovs_flow" ∧ announcedTwice.message.length ≤ awaitingTwice.buffer.length ∧
    ∃ f, (Act.outcome (lookup "ovs_flow") awaitingTwice).1 = .ok f ∧ f.id = 30 ∧
      f.groups.get? "g" = some 4 := by
  have hname : IsName "ovs_flow" := by
    refine ⟨?_, by decide⟩
    rw [String.contains_char_eq]
    decide
  have hfits : announcedTwice.message.length ≤ awaitingTwice.buffer.length := by
    rw [Notice.length_message, awaitingTwice, Endpoint.start, Buffer.fresh,
      List.length_replicate]
    decide
  obtain ⟨f, hf, -, hid, hgroups⟩ :=
    (lookup_announced announcedTwice hname rfl rfl rfl rfl hfits).1 _ lists_toldTwice
  exact ⟨hname, hfits, f, hf, hid, (hgroups "g" 4).2 ⟨[("g", 3)], [], rfl, by simp⟩⟩

end Family

end VSwitch
