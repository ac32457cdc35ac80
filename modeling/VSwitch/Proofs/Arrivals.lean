import VSwitch.Link
import VSwitch.Datagram
import VSwitch.Proofs.Framing

/-!
# What arrives

Receiving gives datagrams and failures, one after the other. How the messages are spread over the
datagrams does not matter to whoever takes them: what counts is the messages up to the first
failure, and this failure. It is there in any case, since receiving fails once the inbox is empty.

* `VSwitch.Arrival.messages` are the messages that one arrival brings, and the failure in it;
* `VSwitch.incoming` are the messages that arrivals bring one after the other, and the failure that
  they end with;
* `VSwitch.Datagram.next?_cases` is one step through a datagram, at any place of it;
* `VSwitch.Datagram.isBlock_of_mem_messages`: every message of a datagram has a header, and is as
  long as this says.
-/

namespace VSwitch

/-! ### Messages of a datagram -/

namespace Datagram

theorem first_eq_measure (octets : Bytes) : first octets = Framing.messages.measure octets := by
  rcases Nat.lt_or_ge octets.length MessageHeader.size with hshort | hwhole
  · have hensure : ensureLength Framing.messages.headerName octets Framing.messages.size =
        .error (.truncated "netlink header" MessageHeader.size octets.length) :=
      ensureLength_of_lt hshort
    rw [first, MessageHeader.read_of_lt hshort, Framing.measure, hensure]
  · have hensure : ensureLength Framing.messages.headerName octets Framing.messages.size = .ok () :=
      ensureLength_of_le hwhole
    rw [first, MessageHeader.read_of_le hwhole, Framing.measure, hensure]
    rfl

/-- **One step at a place of a datagram**: there is nothing left, or a message, which is taken off
with its padding, or what is reported. -/
theorem next?_cases (pos : Nat) (octets : Bytes) :
    octets = [] ∧ next? pos octets = .ok none ∨
      (∃ piece, Framing.messages.IsBlock piece.message ∧ piece.message <+: octets ∧
        piece.stop = pos + min (align4 piece.message.length) octets.length ∧
        next? pos octets = .ok (some piece)) ∨
      ∃ e, Framing.messages.Fault octets e ∧ next? pos octets = .error e := by
  cases octets with
  | nil => exact .inl ⟨rfl, rfl⟩
  | cons b tail =>
    right
    rw [next?, first_eq_measure]
    rcases Framing.messages.measure_cases (List.cons_ne_nil b tail) with
      ⟨m, hblock, hstart, hmeasure⟩ | ⟨e, hfault, hmeasure⟩
    · refine .inl ⟨⟨m, pos + min (align4 m.length) (b :: tail).length⟩, hblock, hstart, rfl, ?_⟩
      rw [hmeasure, Except.map, ← List.prefix_iff_eq_take.1 hstart, reach, List.length_take]
    · refine .inr ⟨e, hfault, ?_⟩
      rw [hmeasure, Except.map]

/-- What is taken off a datagram is a message. -/
theorem isBlock_of_next? {pos : Nat} {octets : Bytes} {piece : Piece}
    (h : next? pos octets = .ok (some piece)) : Framing.messages.IsBlock piece.message := by
  rcases next?_cases pos octets with ⟨-, hnext⟩ | ⟨found, hblock, -, -, hnext⟩ | ⟨e, -, hnext⟩
  · rw [h] at hnext
    cases hnext
  · rw [h] at hnext
    cases hnext
    exact hblock
  · rw [h] at hnext
    cases hnext

/-- The first message is followed by those of the rest. -/
theorem splitFrom_of_some {pos : Nat} {octets : Bytes} {piece : Piece}
    (h : next? pos octets = .ok (some piece)) : splitFrom pos octets =
      (piece :: (splitFrom piece.stop (octets.drop (piece.stop - pos))).1,
        (splitFrom piece.stop (octets.drop (piece.stop - pos))).2) := by
  rw [splitFrom]
  split
  · simp_all
  · simp_all
  · rename_i found hfound
    obtain rfl : found = piece := by simpa [h] using hfound.symm
    rfl

theorem splitFrom_of_none {pos : Nat} {octets : Bytes} (h : next? pos octets = .ok none) :
    splitFrom pos octets = ([], none) := by
  rw [splitFrom]
  split <;> simp_all

theorem splitFrom_of_error {pos : Nat} {octets : Bytes} {e : DecodeError}
    (h : next? pos octets = .error e) : splitFrom pos octets = ([], some e) := by
  rw [splitFrom]
  split <;> simp_all

/-- **Every message of a datagram is one**: it has a header, and is as long as this says. -/
theorem isBlock_of_mem_messages {datagram message : Bytes}
    (hm : message ∈ (messages datagram).1) : Framing.messages.IsBlock message := by
  have hsplit : ∀ pos octets, ∀ piece ∈ (splitFrom pos octets).1,
      Framing.messages.IsBlock piece.message := by
    intro pos octets
    induction pos, octets using splitFrom.induct with
    | case1 pos octets e hnext => simp [splitFrom_of_error hnext]
    | case2 pos octets hnext => simp [splitFrom_of_none hnext]
    | case3 pos octets piece hnext _ _ _ ih =>
      intro p hp
      rw [splitFrom_of_some hnext] at hp
      rcases List.mem_cons.1 hp with rfl | hp
      · exact isBlock_of_next? hnext
      · exact ih p hp
  obtain ⟨piece, hpiece, rfl⟩ := List.mem_map.1 hm
  exact hsplit 0 _ piece hpiece

/-- **Every message of a datagram has a header.** -/
theorem size_le_of_mem_messages {datagram message : Bytes}
    (h : message ∈ (messages datagram).1) : MessageHeader.size ≤ message.length :=
  (isBlock_of_mem_messages h).size_le

/-- **Every message of a datagram is as long as its header says**, so it comes without padding. -/
theorem length_eq_of_mem_messages {datagram message : Bytes}
    (h : message ∈ (messages datagram).1) :
    (MessageHeader.ofBytes message).length.toNat = message.length :=
  (isBlock_of_mem_messages h).declared_eq

end Datagram

/-! ### Arrivals -/

namespace Arrival

/-- The datagram of an arrival that is no failure. Replies are to a message of the sequence number
`sequence`. -/
def octets (sequence : UInt32) : Arrival → Except SocketError Bytes
  | .datagram b => .ok b
  | .replies rs => .ok (rs.flatMap fun r => r.toBytes sequence)
  | .fault cause => .error cause

/-- How many sequence numbers the program gives away for an arrival. -/
def numbers : Arrival → Nat
  | .replies rs => rs.length
  | .datagram _ | .fault _ => 0

/-- The messages that an arrival brings into a buffer of `capacity` octets, and the failure behind
them, if there is one. Of a datagram that does not fit no message is looked at. -/
def messages (sequence : UInt32) (capacity : Nat) (a : Arrival) : List Bytes × Option Failure :=
  match a.octets sequence with
  | .error cause => ([], some (.socket cause))
  | .ok octets =>
    if octets.length ≤ capacity then
      ((Datagram.messages octets).1, (Datagram.messages octets).2.map .decode)
    else ([], some (.truncated octets.length capacity))

end Arrival

/-- The messages that arrivals bring one after the other, up to the first failure, and this failure.
After the last arrival receiving fails for the reason `drained`. -/
def incoming (sequence : UInt32) (capacity : Nat) (drained : SocketError) :
    List Arrival → List Bytes × Failure
  | [] => ([], .socket drained)
  | a :: rest =>
    match a.messages sequence capacity with
    | (messages, some failure) => (messages, failure)
    | (messages, none) =>
      (messages ++ (incoming sequence capacity drained rest).1,
        (incoming sequence capacity drained rest).2)

section

variable {sequence : UInt32} {capacity : Nat} {drained : SocketError}

theorem Arrival.size_le_of_mem_messages {a : Arrival} {message : Bytes}
    (h : message ∈ (a.messages sequence capacity).1) :
    MessageHeader.size ≤ message.length := by
  unfold Arrival.messages at h
  split at h
  · cases h
  · split at h
    · exact Datagram.size_le_of_mem_messages h
    · cases h

/-- Every message that arrives has a header. -/
theorem size_le_of_mem_incoming {arrivals : List Arrival} {message : Bytes}
    (h : message ∈ (incoming sequence capacity drained arrivals).1) :
    MessageHeader.size ≤ message.length := by
  induction arrivals with
  | nil => cases h
  | cons a rest ih =>
    rw [incoming] at h
    split at h
    · rename_i ms failure ha
      have hms : (a.messages sequence capacity).1 = ms := by rw [ha]
      exact Arrival.size_le_of_mem_messages (hms ▸ h)
    · rename_i ms ha
      have hms : (a.messages sequence capacity).1 = ms := by rw [ha]
      rcases List.mem_append.1 h with h | h
      · exact Arrival.size_le_of_mem_messages (hms ▸ h)
      · exact ih h

variable (sequence capacity drained) in
/-- Nothing comes but the messages of the arrivals, in their order. -/
theorem sublist_incoming (arrivals : List Arrival) :
    (incoming sequence capacity drained arrivals).1.Sublist
      (arrivals.flatMap fun a => (a.messages sequence capacity).1) := by
  induction arrivals with
  | nil => exact .slnil
  | cons a rest ih =>
    rw [incoming, List.flatMap_cons]
    rcases a.messages sequence capacity with ⟨messages, _ | failure⟩
    · exact ih.append_left messages
    · exact List.sublist_append_left messages _

variable (sequence drained) in
/-- Datagrams that fit and hold nothing but messages bring these, and then comes the rest. -/
theorem incoming_map_datagram_append {datagrams : List Bytes}
    (hfits : ∀ d ∈ datagrams, d.length ≤ capacity)
    (hsplits : ∀ d ∈ datagrams, (Datagram.messages d).2 = none) (rest : List Arrival) :
    incoming sequence capacity drained (datagrams.map .datagram ++ rest) =
      (datagrams.flatMap (fun d => (Datagram.messages d).1) ++
          (incoming sequence capacity drained rest).1,
        (incoming sequence capacity drained rest).2) := by
  induction datagrams with
  | nil => rfl
  | cons d datagrams ih =>
    have hd : (Arrival.datagram d).messages sequence capacity =
        ((Datagram.messages d).1, none) := by
      simp [Arrival.messages, Arrival.octets, hfits d List.mem_cons_self,
        hsplits d List.mem_cons_self]
    have hrest := ih (fun c hc => hfits c (List.mem_cons_of_mem d hc))
      fun c hc => hsplits c (List.mem_cons_of_mem d hc)
    rw [List.map_cons, List.cons_append, incoming, hd]
    simp only [hrest, List.flatMap_cons, List.append_assoc]

end

end VSwitch
