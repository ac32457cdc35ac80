import VSwitch.Proofs.Correlation
import VSwitch.Proofs.Recording

/-!
# Recovery

An exchange that was given up may leave replies behind, in the inbox and in the receive buffer. The
next exchange is not affected: its sequence number is another one, so what is left over is passed
over, be it data, the end of a dump, an acknowledgement or an error.

* `VSwitch.LeftOver` says what may be left over;
* `VSwitch.Endpoint.recovery` is the result, on requests and on dumps.
-/

namespace VSwitch

/-- A datagram that is left over from exchanges other than that of `sequence`: it fits into the
buffer, is split without an error, and its messages are strays, whatever else they are. -/
structure LeftOver (capacity : Nat) (port sequence : UInt32) (datagram : Bytes) : Prop where
  fits : datagram.length ≤ capacity
  splits : (Datagram.messages datagram).2 = none
  strays : ∀ m ∈ (Datagram.messages datagram).1, Endpoint.IsStray port sequence m

section

variable {τ α : Type}

/-- Messages that do not matter to the judge may as well not be there. -/
theorem outcome_settle_of_strays {verdict : Bytes → Act τ (Option α)} {strays : List Bytes}
    (h : ∀ m ∈ strays, ∀ t, Act.outcome (verdict m) t = (.ok none, t)) (messages : List Bytes)
    (failure : Failure) (t : τ) :
    Act.outcome (settle verdict (strays ++ messages) failure) t =
      Act.outcome (settle verdict messages failure) t := by
  induction strays with
  | nil => rfl
  | cons stray strays ih =>
    rw [List.cons_append, outcome_settle_cons, h stray List.mem_cons_self]
    exact ih fun m hm => h m (List.mem_cons_of_mem stray hm)

end

namespace Endpoint

variable {τ α : Type} {draft : Draft} {e : Endpoint} {leftover : List Bytes}

/-- The endpoint with another inbox. -/
def facing (arrivals : List Arrival) (e : Endpoint) : Endpoint :=
  { e with link := { e.link with inbox := arrivals } }

/-- The endpoint with an unused buffer. -/
def cleared (e : Endpoint) : Endpoint := { e with buffer := Buffer.fresh e.buffer.length }

@[simp]
theorem link_cleared (e : Endpoint) : e.cleared.link = e.link := rfl

@[simp]
theorem nextSequence_facing (arrivals : List Arrival) (e : Endpoint) :
    (e.facing arrivals).link.nextSequence = e.link.nextSequence := rfl

@[simp]
theorem outcomes_facing (arrivals : List Arrival) (e : Endpoint) :
    (e.facing arrivals).link.outcomes = e.link.outcomes := rfl

/-- What arrives does not depend on what was in the buffer. -/
theorem stream_cleared (e : Endpoint) : e.cleared.stream = e.stream := by
  funext arrivals
  simp only [stream, cleared, Buffer.fresh, List.length_replicate]

/-- What is left over is passed over by a judge of strays. -/
theorem outcome_settling_of_leftOver {port sequence : UInt32}
    {verdict : Bytes → Act τ (Option α)}
    (hstray : ∀ m, MessageHeader.size ≤ m.length → IsStray port sequence m →
      ∀ t, Act.outcome (verdict m) t = (.ok none, t))
    (h : ∀ d ∈ leftover, LeftOver e.buffer.length port sequence d) (rest : List Arrival) (t : τ) :
    Act.outcome (settling verdict e (leftover.map .datagram ++ rest)) t =
      Act.outcome (settling verdict e rest) t := by
  have hstream := incoming_map_datagram_append e.link.lastSequence e.link.drained
    (fun d hd => (h d hd).fits) (fun d hd => (h d hd).splits) rest
  rw [settling, settling, stream, hstream]
  refine outcome_settle_of_strays ?_ _ _ t
  rintro m hm
  obtain ⟨d, hd, hm⟩ := List.mem_flatMap.1 hm
  exact hstray m (Datagram.size_le_of_mem_messages hm) ((h d hd).strays m hm)

/-- Receiving with and without something left over in front. -/
theorem outcome_exchange_of_leftOver {judge : Bytes → Act (τ × Endpoint) (Option α)}
    {verdict : Bytes → Act τ (Option α)} {sequence : UInt32} (e' : Endpoint)
    (hjudge : Judges judge e.port verdict)
    (hstray : ∀ m, MessageHeader.size ≤ m.length → IsStray e.port sequence m →
      ∀ t, Act.outcome (verdict m) t = (.ok none, t))
    (h : ∀ d ∈ leftover, LeftOver e.buffer.length e.port sequence d)
    (hinbox : e.link.inbox = leftover.map .datagram ++ e'.link.inbox)
    (hport : e'.port = e.port) (hstream : e'.stream = e.stream) (t : τ) :
    (Act.outcome (exchange judge) (t, e)).1 = (Act.outcome (exchange judge) (t, e')).1 ∧
      (Act.outcome (exchange judge) (t, e)).2.1 = (Act.outcome (exchange judge) (t, e')).2.1 := by
  obtain ⟨_, _, _, -, -, hrun, -⟩ := exchange_run hjudge t
  rw [← hport] at hjudge
  obtain ⟨_, _, _, -, -, hfresh, -⟩ := exchange_run hjudge t
  have hsame : Act.outcome (settling verdict e e.link.inbox) t =
      Act.outcome (settling verdict e' e'.link.inbox) t := by
    rw [hinbox, outcome_settling_of_leftOver hstray h, settling, settling, hstream]
  rw [hrun, hfresh, hsame]
  exact ⟨rfl, rfl⟩

/-- **Two runs of an exchange**, one with something left over in the inbox and in the buffer and one
without, have the same result and do the same to the state of the judge. -/
theorem outcome_converse_of_leftOver {judge : UInt32 → Bytes → Act (τ × Endpoint) (Option α)}
    {verdict : Bytes → Act τ (Option α)}
    (hjudge : Judges (judge e.link.nextSequence) e.port verdict)
    (hstray : ∀ m, MessageHeader.size ≤ m.length → IsStray e.port e.link.nextSequence m →
      ∀ t, Act.outcome (verdict m) t = (.ok none, t))
    (h : ∀ d ∈ leftover, LeftOver e.buffer.length e.port e.link.nextSequence d)
    (rest : List Arrival) (t : τ) :
    let run := Act.outcome (converse draft judge) (t, e.facing (leftover.map .datagram ++ rest))
    let fresh := Act.outcome (converse draft judge) (t, (e.facing rest).cleared)
    run.1 = fresh.1 ∧ run.2.1 = fresh.2.1 := by
  simp only [outcome_converse, nextSequence_facing, outcomes_facing, link_cleared]
  cases draft.finish e.link.nextSequence with
  | error cause => exact ⟨rfl, rfl⟩
  | ok message =>
    simp only
    cases Link.SendOutcome.result message.length (e.link.outcomes.headD .delivered) with
    | error cause => exact ⟨rfl, rfl⟩
    | ok _ =>
      simp only
      refine outcome_exchange_of_leftOver
        (e := (e.facing (leftover.map .datagram ++ rest)).sending message)
        ((e.facing rest).cleared.sending message) hjudge hstray h rfl rfl ?_ t
      exact stream_cleared ((e.facing rest).sending message)

/-- **Recovery after an exchange that was given up.** Datagrams that are left over from other
exchanges, and whatever is left in the buffer, change nothing: a request has the same result as over
the rest of the inbox alone with an unused buffer, and so has a dump, which does the same to the
state of its consumer and calls it with the same messages in the same order. -/
theorem recovery (draft : Draft)
    (h : ∀ d ∈ leftover, LeftOver e.buffer.length e.port e.link.nextSequence d)
    (rest : List Arrival) :
    (Act.outcome (request draft) (e.facing (leftover.map .datagram ++ rest))).1 =
        (Act.outcome (request draft) (e.facing rest).cleared).1 ∧
      ∀ (consume : Bytes → Act τ Unit) (t : τ),
        let run := Act.outcome (dump draft (recording consume))
          ((t, []), e.facing (leftover.map .datagram ++ rest))
        let fresh := Act.outcome (dump draft (recording consume))
          ((t, []), (e.facing rest).cleared)
        run.1 = fresh.1 ∧ run.2.1 = fresh.2.1 := by
  constructor
  · rw [outcome_request, outcome_request]
    exact (outcome_converse_of_leftOver (judges_answer _ _)
      (fun _ => outcome_answering_of_isStray) h rest ()).1
  · intro consume t
    exact outcome_converse_of_leftOver (judges_part _ _ _)
      (fun _ => outcome_parting_of_isStray (recording consume)) h rest (t, [])

/-- An endpoint of the port 5 with a buffer that has been used. -/
def resuming : Endpoint :=
  ⟨5, List.replicate 128 0xAA, ⟨[], .system 11, [], [], 7, .empty⟩⟩

/-- Left over from another exchange: data, an acknowledgement and an error in one datagram, and the
end of a dump in another. -/
def remains : List Bytes :=
  [tell 26 6 [1, 1, 1, 1] ++ tell 2 6 (List.replicate 20 0) ++
      tell 2 6 ([255, 255, 255, 255] ++ List.replicate 16 0),
    tell 3 6 [0, 0, 0, 0]]

theorem recovery_remains :
    (∀ d ∈ remains, LeftOver 128 5 7 d) ∧
      (Act.outcome (request (Draft.start requestFlags 26)) (resuming.facing
        (remains.map .datagram ++ [.datagram (tell 26 7 [2, 2, 2, 2])]))).1 =
          .ok (tell 26 7 [2, 2, 2, 2]) := by
  have hremains : ∀ d ∈ remains, LeftOver 128 5 7 d := by
    intro d hd
    simp only [remains, List.mem_cons, List.not_mem_nil, or_false] at hd
    rcases hd with rfl | rfl <;> exact ⟨by decide, by decide +kernel, by decide +kernel⟩
  have hrecovery := recovery (τ := Unit) (e := resuming) (Draft.start requestFlags 26) hremains
    [.datagram (tell 26 7 [2, 2, 2, 2])]
  refine ⟨hremains, hrecovery.1.trans ?_⟩
  cbv

end Endpoint

end VSwitch
