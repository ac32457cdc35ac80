import VSwitch.Failure

/-!
# The receive buffer

A datagram is received into a buffer of a fixed length, which is used again for the next one. What
does not fit is lost, but the length of the datagram is known, so that the loss is noticed.

* `VSwitch.Buffer.overlay` is the buffer after a datagram has been received into it;
* `VSwitch.Buffer.received` is the datagram that it holds, or the failure that tells of a loss;
* `VSwitch.Buffer.received_overlay` says that nothing of earlier datagrams is ever read.
-/

namespace VSwitch

namespace Buffer

/-- An unused buffer. -/
def fresh (length : Nat) : Bytes := List.replicate length 0

/-- The buffer after a datagram has been received into it. -/
def overlay (buffer datagram : Bytes) : Bytes :=
  datagram.take buffer.length ++ buffer.drop datagram.length

/-- The datagram of the given length that the buffer holds. -/
def received (buffer : Bytes) (length : Nat) : Except Failure Bytes :=
  if buffer.holds length then .ok (buffer.take length)
  else .error (.truncated length buffer.length)

@[simp]
theorem length_overlay (buffer datagram : Bytes) :
    (overlay buffer datagram).length = buffer.length := by
  simp only [overlay, List.length_append, List.length_take, List.length_drop]
  omega

/-- **What is received is the datagram alone**, whatever the buffer held before. -/
theorem received_overlay (buffer datagram : Bytes) :
    received (overlay buffer datagram) datagram.length =
      if datagram.length ≤ buffer.length then .ok datagram
      else .error (.truncated datagram.length buffer.length) := by
  unfold received
  by_cases h : datagram.length ≤ buffer.length
  · have fits : (overlay buffer datagram).holds datagram.length = true := by
      simpa [Bytes.holds_iff] using h
    rw [if_pos fits, if_pos h]
    simp [overlay, List.take_of_length_le h]
  · have lost : ¬ (overlay buffer datagram).holds datagram.length = true := by
      simpa [Bytes.holds_iff] using h
    rw [if_neg lost, if_neg h, length_overlay]

end Buffer

end VSwitch
