import Mathlib
import VSwitch.Proofs.Listening
import VSwitch.Proofs.Splitting

/-!
# Handing over a datagram

A handler is given the messages of a datagram in their order. It may do with them what it likes, and
it may fail: then it is told of the failure, and the next message comes all the same. Whatever the
octets are, this comes to an end, with what is no message as the last thing that is told.

* `VSwitch.Handler.Attends` says what happens as a cursor goes through a datagram: which calls are
  made, and which states the handler is in;
* `VSwitch.Handler.exists_attends`: whatever the octets are, something happens, and
  `VSwitch.Handler.attends_iff`: it is what is recorded;
* `VSwitch.Handler.calls` are the calls that are made, and `VSwitch.Handler.called_in_turn` is the
  result.
-/

namespace VSwitch

namespace Handler

variable {σ : Type} [Journal σ] (h : Handler σ)

/-! ### What happens -/

/-- What happens to a handler in a state as a cursor at a place goes through the datagram `d`: the
calls of it one after the other, and the state that it is in afterwards. -/
inductive Attends (d : Bytes) : Nat → σ → List HandlerCall → σ → Prop
  /-- Nothing is left. -/
  | ended {pos : Nat} {s : σ} (asked : Datagram.next? pos (d.drop pos) = .ok none) :
    Attends d pos s [] s
  /-- What is left is no message. It is told why, and there are no more calls. -/
  | malformed {pos : Nat} {s : σ} {e : DecodeError}
    (asked : Datagram.next? pos (d.drop pos) = .error e) :
    Attends d pos s [.report (.decode e) false] (h.report (.decode e) false
      (Journal.write ⟨.warn, some s!"Dropping malformed datagram: {e.message}"⟩ s)).2
  /-- The next message is handled, and then come those behind it. -/
  | handled {pos : Nat} {piece : Datagram.Piece} {s s' s'' : σ} {calls : List HandlerCall}
    (asked : Datagram.next? pos (d.drop pos) = .ok (some piece))
    (handle : h.handle piece.message s = (.ok (), s'))
    (later : Attends d piece.stop s' calls s'') :
    Attends d pos s (.handle piece.message (.ok ()) :: calls) s''
  /-- The handler fails on the next message. It is told of this before it is given another one. -/
  | failed {pos : Nat} {piece : Datagram.Piece} {s s' s'' : σ} {e : Failure}
    {calls : List HandlerCall} (asked : Datagram.next? pos (d.drop pos) = .ok (some piece))
    (handle : h.handle piece.message s = (.error e, s'))
    (later : Attends d piece.stop (h.report e false
      (Journal.write ⟨.warn, e.wordedBehind "Failed to handle message: "⟩ s')).2 calls s'') :
    Attends d pos s (.handle piece.message (.error e) :: .report e false :: calls) s''

/-- **As a cursor goes through a datagram something happens**, whatever the handler does. -/
theorem exists_attends {d : Bytes} {pos last : Nat} {pieces : List Datagram.Piece}
    {ending : Option DecodeError} (hcourse : Datagram.Course d pos pieces ending last) (s : σ) :
    ∃ calls s', h.Attends d pos s calls s' := by
  -- Where the cursor comes to is decided by the octets alone, so the handler has no part in whether
  -- there is an end.
  induction hcourse generalizing s with
  | ended asked => exact ⟨[], s, .ended asked⟩
  | refused asked inside fault => exact ⟨_, _, .malformed asked⟩
  | @taken pos last piece rest ending asked isBlock slice forward stop_eq later ih =>
    rcases hrun : h.handle piece.message s with ⟨e | _, s'⟩
    · obtain ⟨calls, s'', hlater⟩ := ih _
      exact ⟨_, s'', .failed asked hrun hlater⟩
    · obtain ⟨calls, s'', hlater⟩ := ih s'
      exact ⟨_, s'', .handled asked hrun hlater⟩

/-! ### Messages and what follows them -/

/-- Hands over messages, and reports what follows them if it is no message. -/
def handOver (split : List Datagram.Piece × Option DecodeError) : StateM σ Unit := do
  h.handleEach (split.1.map (·.message))
  match split.2 with
  | none => return
  | some e =>
    warn s!"Dropping malformed datagram: {e.message}"
    h.report (.decode e) false

theorem dispatch_eq_handOver (d : Bytes) :
    h.dispatch d = h.handOver (Datagram.splitFrom 0 (d.drop 0)) := rfl

theorem handOver_of_some {d : Bytes} {pos : Nat} {piece : Datagram.Piece}
    (asked : Datagram.next? pos (d.drop pos) = .ok (some piece)) (s : σ) :
    h.handOver (Datagram.splitFrom pos (d.drop pos)) s =
      h.handOver (Datagram.splitFrom piece.stop (d.drop piece.stop))
        (h.handleOne piece.message s).2 := by
  obtain ⟨-, hforward⟩ := Datagram.lt_stop_of_next? asked
  have hdrop : (d.drop pos).drop (piece.stop - pos) = d.drop piece.stop := by
    rw [List.drop_drop, Nat.add_sub_cancel' (Nat.le_of_lt hforward)]
  rw [Datagram.splitFrom_of_some asked, hdrop]
  rfl

variable {h}

/-- **What happens is what is recorded**, behind whatever has been recorded before. -/
theorem Attends.handOver_recording {d : Bytes} {pos : Nat} {s s' : σ} {calls : List HandlerCall}
    (hattends : h.Attends d pos s calls s') (earlier : List HandlerCall) :
    h.recording.handOver (Datagram.splitFrom pos (d.drop pos)) (earlier, s) =
      ((), earlier ++ calls, s') := by
  induction hattends generalizing earlier with
  | @ended pos s asked =>
    rw [Datagram.splitFrom_of_none asked, List.append_nil]
    rfl
  | malformed asked =>
    rw [Datagram.splitFrom_of_error asked]
    rfl
  | @handled pos piece s s' s'' calls asked handle later ih =>
    have hkept := h.handle_recording piece.message earlier s
    rw [handle] at hkept
    rw [h.recording.handOver_of_some asked, handleOne_of_ok _ hkept, ih, List.append_assoc]
    rfl
  | @failed pos piece s s' s'' e calls asked handle later ih =>
    have hkept := h.handle_recording piece.message earlier s
    rw [handle] at hkept
    rw [h.recording.handOver_of_some asked, handleOne_of_error _ hkept]
    -- The report is kept behind the message, and both before anything of the next one.
    change h.recording.handOver _ (earlier ++ [.handle piece.message (.error e)] ++
      [.report e false], _) = _
    rw [ih, List.append_assoc, List.append_assoc]
    rfl

variable (h)

/-! ### The calls -/

/-- The calls of a handler that is given a datagram. -/
def calls (d : Bytes) (s : σ) : List HandlerCall := (h.recording.dispatch d ([], s)).2.1

theorem attends_iff {d : Bytes} {s s' : σ} {told : List HandlerCall} :
    h.Attends d 0 s told s' ↔ h.recording.dispatch d ([], s) = ((), told, s') := by
  have hrecorded : ∀ {told s'}, h.Attends d 0 s told s' →
      h.recording.dispatch d ([], s) = ((), told, s') := by
    intro told s' hattends
    rw [dispatch_eq_handOver, hattends.handOver_recording, List.nil_append]
  refine ⟨hrecorded, fun hrun => ?_⟩
  obtain ⟨last, hcourse⟩ := Datagram.exists_course_splitFrom (Nat.zero_le d.length)
  obtain ⟨told', s'', hattends⟩ := h.exists_attends hcourse s
  have heq := (hrecorded hattends).symm.trans hrun
  cases heq
  exact hattends

/-- **How a handler is called**, whatever a datagram holds and whatever the handler does. As a
cursor goes through the datagram, each message that it comes to is handled once; a failure of the
handler is told right behind the message that it fails on, and what is no message is told as the
last thing. Nothing else is told, and nothing of it is fatal. Keeping the calls changes nothing
else. -/
theorem called_in_turn (d : Bytes) (s : σ) :
    (∀ told s', h.Attends d 0 s told s' ↔ h.recording.dispatch d ([], s) = ((), told, s')) ∧
    (∀ earlier, h.recording.dispatch d (earlier, s) =
      ((), earlier ++ h.calls d s, (h.dispatch d s).2)) ∧
    (∃ told, Handed (Datagram.messages d).1 told ∧
      h.calls d s = told ++ rejection (Datagram.messages d).2) ∧
    (h.calls d s).filterMap HandlerCall.message? = (Datagram.messages d).1 ∧
    ∀ c ∈ h.calls d s, c.isFatal = false := by
  obtain ⟨told, htold, hrun⟩ := h.exists_dispatch_recording d [] s
  have hcalls : h.calls d s = told ++ rejection (Datagram.messages d).2 := by
    rw [calls, hrun, List.nil_append]
  refine ⟨fun _ _ => h.attends_iff, fun earlier => ?_, ⟨told, htold, hcalls⟩, ?_, fun c hc => ?_⟩
  · -- What has been recorded before has no part in what happens.
    have hattends : h.Attends d 0 s (h.calls d s) (h.dispatch d s).2 := by
      rw [h.attends_iff, hrun, hcalls, List.nil_append]
    exact hattends.handOver_recording earlier
  · rw [hcalls, List.filterMap_append, htold.filterMap_message?, filterMap_message?_rejection,
      List.append_nil]
  · rw [hcalls, List.mem_append] at hc
    rcases hc with hc | hc
    · exact htold.isFatal_eq_false c hc
    · exact isFatal_eq_false_of_mem_rejection c hc

end Handler

end VSwitch
