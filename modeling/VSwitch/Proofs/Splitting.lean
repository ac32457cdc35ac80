import VSwitch.Proofs.Arrivals

/-!
# Datagrams cut into messages

A datagram is gone through with a cursor, which moves from message to message and stops at the end,
or at what is no message. Nothing depends on what the octets are: there is always an end to it, each
message is cut out just as long as its header says, and a datagram that has lost its end has lost no
more than its last messages.

* `VSwitch.Datagram.Course` is what a cursor goes through, and
  `VSwitch.Datagram.exists_course_splitFrom` says that this is what happens, step by step with
  `VSwitch.Datagram.next?_cases`;
* `VSwitch.Datagram.splits_messages`: the messages are the blocks that the datagram is made of;
* `VSwitch.Datagram.split_into_blocks` is the result.
-/

namespace VSwitch

namespace Datagram

variable {d : Bytes}

/-! ### The cursor -/

/-- What a cursor at `pos` goes through: the messages that are taken off the datagram, what ends
this, and where the cursor is then. -/
inductive Course (d : Bytes) : Nat → List Piece → Option DecodeError → Nat → Prop
  /-- The cursor is at the end, where there is nothing to take. -/
  | ended (asked : next? d.length (d.drop d.length) = .ok none) : Course d d.length [] none d.length
  /-- There is no message at the cursor. It is left where it is. -/
  | refused {pos : Nat} {e : DecodeError} (asked : next? pos (d.drop pos) = .error e)
    (inside : pos < d.length) (fault : Framing.messages.Fault (d.drop pos) e) :
    Course d pos [] (some e) pos
  /-- There is a message at the cursor, which goes on to the end of its padding, or to the end. -/
  | taken {pos last : Nat} {piece : Piece} {rest : List Piece} {ending : Option DecodeError}
    (asked : next? pos (d.drop pos) = .ok (some piece))
    (isBlock : Framing.messages.IsBlock piece.message) (slice : piece.message <+: d.drop pos)
    (forward : pos < piece.stop)
    (stop_eq : piece.stop = min (pos + align4 piece.message.length) d.length)
    (later : Course d piece.stop rest ending last) : Course d pos (piece :: rest) ending last

/-- **From any place within a datagram there is a course**, so it comes to an end. -/
theorem exists_course_splitFrom {pos : Nat} (hpos : pos ≤ d.length) :
    ∃ last, Course d pos (splitFrom pos (d.drop pos)).1 (splitFrom pos (d.drop pos)).2 last := by
  -- The cursor only moves forward, so the induction is on how much is left.
  induction hleft : d.length - pos using Nat.strongRecOn generalizing pos with
  | ind left ih =>
    rcases next?_cases pos (d.drop pos) with
      ⟨hnil, hnext⟩ | ⟨piece, hblock, hslice, hstop, hnext⟩ | ⟨e, hfault, hnext⟩
    · obtain rfl : pos = d.length := Nat.le_antisymm hpos (List.drop_eq_nil_iff.1 hnil)
      rw [splitFrom_of_none hnext]
      exact ⟨d.length, .ended hnext⟩
    · obtain ⟨-, hforward⟩ := lt_stop_of_next? hnext
      rw [List.length_drop] at hstop
      have hstop : piece.stop = min (pos + align4 piece.message.length) d.length := by omega
      have hwithin : piece.stop ≤ d.length := by omega
      obtain ⟨last, hlater⟩ := ih (d.length - piece.stop) (by omega) hwithin rfl
      rw [splitFrom_of_some hnext, List.drop_drop, Nat.add_sub_cancel' (Nat.le_of_lt hforward)]
      exact ⟨last, .taken hnext hblock hslice hforward hstop hlater⟩
    · have hinside : pos < d.length := Nat.lt_of_not_le fun hle =>
        hfault.ne_nil (List.drop_eq_nil_iff.2 hle)
      rw [splitFrom_of_error hnext]
      exact ⟨pos, .refused hnext hinside hfault⟩

/-- What a cursor goes through are the blocks behind it. -/
theorem Course.splits {pos last : Nat} {pieces : List Piece} {ending : Option DecodeError}
    (h : Course d pos pieces ending last) :
    Framing.messages.Splits (d.drop pos) (pieces.map (·.message)) ending := by
  induction h with
  | ended asked =>
    rw [List.drop_length]
    exact .done
  | refused asked inside fault => exact .fault fault
  | @taken pos last piece rest ending asked isBlock slice forward stop_eq later ih =>
    refine Framing.splits_cons_iff.2 ⟨isBlock, slice, ?_⟩
    have hdrop : (d.drop pos).drop (align4 piece.message.length) = d.drop piece.stop := by
      rw [List.drop_drop, stop_eq]
      rcases Nat.le_total (pos + align4 piece.message.length) d.length with hle | hge
      · rw [Nat.min_eq_left hle]
      · rw [Nat.min_eq_right hge, List.drop_of_length_le hge, List.drop_length]
    rwa [hdrop]

/-! ### The messages -/

theorem splits_messages (d : Bytes) :
    Framing.messages.Splits d (messages d).1 (messages d).2 := by
  obtain ⟨last, hcourse⟩ := exists_course_splitFrom (Nat.zero_le d.length)
  exact hcourse.splits

theorem messages_eq_iff {ms : List Bytes} {ending : Option DecodeError} :
    messages d = (ms, ending) ↔ Framing.messages.Splits d ms ending := by
  constructor
  · intro h
    have hsplits := splits_messages d
    rwa [h] at hsplits
  · intro h
    obtain ⟨hms, hending⟩ := (splits_messages d).unique h
    exact Prod.ext hms hending

/-- A datagram is made of messages: each of them is padded with zeros, but the last one need not
be. -/
inductive Joins : List Bytes → Bytes → Prop
  /-- Every message is padded. -/
  | padded (ms : List Bytes) : Joins ms (ms.flatMap Bytes.pad4)
  /-- Every message but the last is padded. -/
  | unpadded (front : List Bytes) (last : Bytes) :
    Joins (front ++ [last]) (front.flatMap Bytes.pad4 ++ last)

theorem Joins.splits {ms : List Bytes} (h : Joins ms d)
    (hms : ∀ m ∈ ms, Framing.messages.IsBlock m) : Framing.messages.Splits d ms none := by
  cases h with
  | padded =>
    have hsplits := Framing.Splits.done.pad4_append hms
    rwa [List.append_nil, List.append_nil] at hsplits
  | unpadded front last =>
    obtain ⟨hfront, hlast⟩ := List.forall_mem_append.1 hms
    exact (hlast last List.mem_cons_self).splits_self.pad4_append hfront

/-- **How a datagram is cut into messages**, whatever it holds. A cursor goes from its start to its
end, or to what is no message and is reported. The messages are the blocks that the datagram is made
of, and there is no other way to make it of blocks; in particular, messages that are padded and put
one behind the other come back. A datagram that has lost its end gives the first ones of its
messages and no others. -/
theorem split_into_blocks (d : Bytes) :
    (∃ last, Course d 0 (split d 0).1 (split d 0).2 last) ∧
    (∀ ms ending, messages d = (ms, ending) ↔ Framing.messages.Splits d ms ending) ∧
    (∀ ms, (∀ m ∈ ms, Framing.messages.IsBlock m) → Joins ms d → messages d = (ms, none)) ∧
    ∀ shorter, shorter <+: d → (messages shorter).1 <+: (messages d).1 := by
  refine ⟨exists_course_splitFrom (Nat.zero_le d.length), fun _ _ => messages_eq_iff, ?_, ?_⟩
  · intro ms hms hjoins
    exact messages_eq_iff.2 (hjoins.splits hms)
  · intro shorter hshorter
    exact (splits_messages d).isPrefix (splits_messages shorter) hshorter

/-- A message of 17 octets, so that three octets of padding belong to it. -/
def odd : Bytes := MessageHeader.toBytes ⟨17, 20, 0, 1, 5⟩ ++ [7]

/-- Two messages with the padding of the second one missing, and what is left of them when some
octets of the second one are missing, too. -/
theorem split_into_blocks_odd :
    (∀ m ∈ [odd, odd], Framing.messages.IsBlock m) ∧
      Joins [odd, odd] ([odd].flatMap Bytes.pad4 ++ odd) ∧
      messages ([odd].flatMap Bytes.pad4 ++ odd) = ([odd, odd], none) ∧
      (messages (([odd].flatMap Bytes.pad4 ++ odd).take 30)).1 <+:
        (messages ([odd].flatMap Bytes.pad4 ++ odd)).1 := by
  have hodd : Framing.messages.IsBlock odd := ⟨by decide, by decide⟩
  have hblocks : ∀ m ∈ [odd, odd], Framing.messages.IsBlock m := by simp [hodd]
  have hjoins : Joins [odd, odd] ([odd].flatMap Bytes.pad4 ++ odd) := .unpadded [odd] odd
  obtain ⟨-, -, hmessages, hstart⟩ := split_into_blocks ([odd].flatMap Bytes.pad4 ++ odd)
  exact ⟨hblocks, hjoins, hmessages _ hblocks hjoins, hstart _ (List.take_prefix 30 _)⟩

end Datagram

end VSwitch
