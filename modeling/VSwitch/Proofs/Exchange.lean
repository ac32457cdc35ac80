import Mathlib
import VSwitch.Endpoint
import VSwitch.Proofs.Arrivals
import VSwitch.Proofs.Outcome

/-!
# Exchanges as folds

An exchange receives datagrams and judges the messages in each of them until one message decides.
It comes to the same as judging all messages in the order in which they come, with no regard to
datagrams: `VSwitch.settle` does that, over the state of the judge alone.

* `VSwitch.Judges` says what a judge does to the state of its own; to the endpoint it may do no more
  than write to the journal;
* `VSwitch.Received` says what receiving does to an endpoint;
* `VSwitch.Endpoint.exchange_run` puts both together.
-/

namespace VSwitch

/-! ### Judging one message after the other -/

section Settle

variable {τ α : Type}

/-- Judges messages one after the other until one of them decides; if none does, the failure behind
them is what comes of it. -/
def settle (verdict : Bytes → Act τ (Option α)) : List Bytes → Failure → Act τ α
  | [], failure => throw failure
  | message :: rest, failure => do
    match ← verdict message with
    | some a => return a
    | none => settle verdict rest failure

variable (verdict : Bytes → Act τ (Option α))

theorem outcome_settle_cons (message : Bytes) (rest : List Bytes) (failure : Failure) (t : τ) :
    Act.outcome (settle verdict (message :: rest) failure) t =
      match Act.outcome (verdict message) t with
      | (.ok (some a), t') => (.ok a, t')
      | (.ok none, t') => Act.outcome (settle verdict rest failure) t'
      | (.error e, t') => (.error e, t') := by
  rw [settle, Act.outcome_bind]
  rcases Act.outcome (verdict message) t with ⟨_ | _ | _, _⟩ <;> rfl

theorem outcome_walk_cons (message : Bytes) (rest : List Bytes) (ending : Option DecodeError)
    (t : τ) : Act.outcome (walk verdict (message :: rest) ending) t =
      match Act.outcome (verdict message) t with
      | (.ok (some a), t') => (.ok (some a), t')
      | (.ok none, t') => Act.outcome (walk verdict rest ending) t'
      | (.error e, t') => (.error e, t') := by
  rw [walk, Act.outcome_bind]
  rcases Act.outcome (verdict message) t with ⟨_ | _ | _, _⟩ <;> rfl

/-- **Messages in two portions**: the second one is judged if the first one does not decide. -/
theorem outcome_settle_append (messages rest : List Bytes) (failure : Failure) (t : τ) :
    Act.outcome (settle verdict (messages ++ rest) failure) t =
      match Act.outcome (walk verdict messages none) t with
      | (.ok (some a), t') => (.ok a, t')
      | (.ok none, t') => Act.outcome (settle verdict rest failure) t'
      | (.error e, t') => (.error e, t') := by
  induction messages generalizing t with
  | nil => rfl
  | cons message messages ih =>
    rw [List.cons_append, outcome_settle_cons, outcome_walk_cons]
    rcases Act.outcome (verdict message) t with ⟨_ | _ | _, t'⟩
    · rfl
    · exact ih t'
    · rfl

/-- What is no message at the end of a datagram fails, unless a message before it decides. -/
theorem outcome_walk_some (messages : List Bytes) (e : DecodeError) (t : τ) :
    Act.outcome (walk verdict messages (some e)) t =
      match Act.outcome (walk verdict messages none) t with
      | (.ok (some a), t') => (.ok (some a), t')
      | (.ok none, t') => (.error (.decode e), t')
      | (.error e, t') => (.error e, t') := by
  induction messages generalizing t with
  | nil => rfl
  | cons message messages ih =>
    rw [outcome_walk_cons, outcome_walk_cons]
    rcases Act.outcome (verdict message) t with ⟨_ | _ | _, t'⟩
    · rfl
    · exact ih t'
    · rfl

end Settle

/-! ### Judges -/

namespace Endpoint

/-- The endpoint with other lines in its journal. -/
def noting (book : Logbook) (e : Endpoint) : Endpoint :=
  { e with link := { e.link with logbook := book } }

end Endpoint

section Judges

variable {τ α : Type} {judge : Bytes → Act (τ × Endpoint) (Option α)} {port : UInt32}
  {verdict : Bytes → Act τ (Option α)}

/-- Over an endpoint of the port `port`, the judge does what `verdict` says, and to the endpoint
nothing but write to its journal. -/
def Judges (judge : Bytes → Act (τ × Endpoint) (Option α)) (port : UInt32)
    (verdict : Bytes → Act τ (Option α)) : Prop :=
  ∀ message t e, e.port = port → ∃ book, Act.outcome (judge message) (t, e) =
    ((Act.outcome (verdict message) t).1, (Act.outcome (verdict message) t).2, e.noting book)

/-- What holds of one message holds of the messages of a datagram. -/
theorem Judges.walk (h : Judges judge port verdict) (messages : List Bytes)
    (ending : Option DecodeError) (t : τ) {e : Endpoint} (he : e.port = port) :
    ∃ book, Act.outcome (VSwitch.walk judge messages ending) (t, e) =
      ((Act.outcome (VSwitch.walk verdict messages ending) t).1,
        (Act.outcome (VSwitch.walk verdict messages ending) t).2, e.noting book) := by
  induction messages generalizing t e with
  | nil => cases ending <;> exact ⟨e.link.logbook, rfl⟩
  | cons message rest ih =>
    obtain ⟨book, hmessage⟩ := h message t e he
    rw [outcome_walk_cons, outcome_walk_cons, hmessage]
    rcases Act.outcome (verdict message) t with ⟨_ | _ | _, t'⟩
    · exact ⟨book, rfl⟩
    · obtain ⟨book', hrest⟩ := ih t' (e := e.noting book) he
      exact ⟨book', hrest⟩
    · exact ⟨book, rfl⟩

end Judges

/-! ### Sending -/

/-- The message of a call that was to send one. -/
def Link.Call.message? : Call → Option Bytes
  | .send message _ => some message
  | .receive => none

namespace Endpoint

/-- The endpoint after a message has been handed to the link, whatever became of it. -/
def sending (message : Bytes) (e : Endpoint) : Endpoint :=
  { e with link := { e.link with
    outcomes := e.link.outcomes.tail
    calls := .send message (e.link.outcomes.headD .delivered) :: e.link.calls
    nextSequence := e.link.nextSequence + 1 } }

theorem outcome_linkSend (message : Bytes) (l : Link) :
    Act.outcome (Link.send message) l =
      ((Link.SendOutcome.result message.length (l.outcomes.headD .delivered)).mapError .socket,
        { l with
          outcomes := l.outcomes.tail
          calls := .send message (l.outcomes.headD .delivered) :: l.calls }) := rfl

/-- **A message is sent** with the next sequence number, unless it cannot be finished. -/
theorem outcome_send (draft : Draft) (e : Endpoint) :
    Act.outcome (send draft) e = match draft.finish e.link.nextSequence with
      | .error cause => (.error (.encode cause), e)
      | .ok message =>
        match Link.SendOutcome.result message.length (e.link.outcomes.headD .delivered) with
        | .error cause => (.error (.socket cause), e.sending message)
        | .ok () => (.ok e.link.nextSequence, e.sending message) := by
  simp only [send, onLink, Act.outcome_within, Link.transmit, Act.outcome_bind, Act.outcome_get,
    Act.outcome_ofEncode]
  cases draft.finish e.link.nextSequence with
  | error cause => rfl
  | ok message =>
    simp only [Except.mapError, Act.outcome_modify, Act.outcome_pure, outcome_linkSend]
    cases Link.SendOutcome.result message.length (e.link.outcomes.headD .delivered) <;> rfl

/-- **What is sent carries the sequence number that is told**, which is the next one. -/
theorem exists_of_send {draft : Draft} {e e₁ : Endpoint} {sequence : UInt32}
    (h : Act.outcome (send draft) e = (.ok sequence, e₁)) :
    sequence = e.link.nextSequence ∧
      ∃ message, draft.finish sequence = .ok message ∧ e₁ = e.sending message := by
  rw [outcome_send] at h
  cases hfinish : draft.finish e.link.nextSequence with
  | error cause =>
    rw [hfinish] at h
    cases (Prod.mk.inj h).1
  | ok message =>
    rw [hfinish] at h
    simp only at h
    split at h
    · cases (Prod.mk.inj h).1
    · obtain ⟨hsequence, rfl⟩ := Prod.mk.inj h
      obtain rfl := Except.ok.inj hsequence
      exact ⟨rfl, message, hfinish, rfl⟩

end Endpoint

/-! ### Receiving -/

/-- What receiving does to an endpoint: the arrivals `used` are taken, `rest` stays in the inbox,
and nothing is sent. The buffer keeps its length. -/
structure Received (used rest : List Arrival) (e e' : Endpoint) : Prop where
  port : e'.port = e.port
  capacity : e'.buffer.length = e.buffer.length
  drained : e'.link.drained = e.link.drained
  outcomes : e'.link.outcomes = e.link.outcomes
  inbox : e'.link.inbox = rest
  calls : ∃ n, e'.link.calls = List.replicate n .receive ++ e.link.calls
  nextSequence : e'.link.nextSequence =
    e.link.nextSequence + UInt32.ofNat (used.map Arrival.numbers).sum

namespace Received

variable {used rest : List Arrival} {e e' e'' : Endpoint}

theorem of_inbox (h : e.link.inbox = rest) : Received [] rest e e :=
  ⟨rfl, rfl, rfl, rfl, h, ⟨0, rfl⟩, by simp⟩

theorem noting (h : Received used rest e e') (book : Logbook) :
    Received used rest e (e'.noting book) :=
  ⟨h.port, h.capacity, h.drained, h.outcomes, h.inbox, h.calls, h.nextSequence⟩

/-- Receiving goes on where it stopped. -/
theorem trans {used' : List Arrival} (h : Received used (used' ++ rest) e e')
    (h' : Received used' rest e' e'') : Received (used ++ used') rest e e'' := by
  obtain ⟨n, hn⟩ := h.calls
  obtain ⟨n', hn'⟩ := h'.calls
  refine ⟨h'.port.trans h.port, h'.capacity.trans h.capacity, h'.drained.trans h.drained,
    h'.outcomes.trans h.outcomes, h'.inbox, ⟨n' + n, ?_⟩, ?_⟩
  · rw [hn', hn, ← List.append_assoc, List.replicate_append_replicate]
  · rw [h'.nextSequence, h.nextSequence, List.map_append, List.sum_append, UInt32.ofNat_add,
      UInt32.add_assoc]

/-- Receiving does not change what was sent last. -/
theorem lastSequence (h : Received used rest e e') :
    e'.link.lastSequence = e.link.lastSequence := by
  have hfind : ∀ n, (List.replicate n Call.receive ++ e.link.calls).findSome?
      Link.Call.delivered? = e.link.calls.findSome? Link.Call.delivered? := by
    intro n
    induction n with
    | zero => rfl
    | succ n ih => exact ih
  obtain ⟨n, hn⟩ := h.calls
  rw [Link.lastSequence, Link.lastSequence, hn, hfind]

end Received

namespace Endpoint

variable {τ α : Type}

/-- The endpoint after an arrival has been received into its buffer. -/
def taking (a : Arrival) (rest : List Arrival) (e : Endpoint) : Endpoint where
  port := e.port
  buffer := match a.octets e.link.lastSequence with
    | .ok octets => Buffer.overlay e.buffer octets
    | .error _ => e.buffer
  link := { e.link with
    inbox := rest
    calls := .receive :: e.link.calls
    nextSequence := e.link.nextSequence + UInt32.ofNat a.numbers }

theorem received_taking (a : Arrival) (rest : List Arrival) (e : Endpoint) :
    Received [a] rest e (e.taking a rest) where
  port := rfl
  capacity := by
    simp only [taking]
    cases a.octets e.link.lastSequence with
    | error _ => rfl
    | ok octets => exact Buffer.length_overlay e.buffer octets
  drained := rfl
  outcomes := rfl
  inbox := rfl
  calls := ⟨1, rfl⟩
  nextSequence := by simp [taking]

theorem outcome_keep (datagram : Bytes) (e : Endpoint) :
    Act.outcome (keep datagram) e =
      (if datagram.length ≤ e.buffer.length then .ok datagram
        else .error (.truncated datagram.length e.buffer.length),
        { e with buffer := Buffer.overlay e.buffer datagram }) := by
  simp only [keep, Act.outcome_bind, Act.outcome_modify, Act.outcome_get, Act.outcome_ofExcept,
    Buffer.received_overlay]

/-- **An arrival is received**: a datagram if it fits, whatever was in the buffer. -/
theorem outcome_accept (a : Arrival) (rest : List Arrival) (e : Endpoint) :
    Act.outcome (accept a rest) e =
      (match a.octets e.link.lastSequence with
        | .error cause => .error (.socket cause)
        | .ok octets =>
          if octets.length ≤ e.buffer.length then .ok octets
          else .error (.truncated octets.length e.buffer.length),
        e.taking a rest) := by
  have hzero : e.link.nextSequence + UInt32.ofNat 0 = e.link.nextSequence := by simp
  cases a with
  | datagram octets =>
    simp only [accept, onLink, Link.arrive, Act.outcome_bind, Act.outcome_within, Act.outcome_get,
      Act.outcome_modify, Act.outcome_pure, outcome_keep, Arrival.octets, taking, Arrival.numbers,
      hzero]
  | replies replies =>
    simp only [accept, onLink, Link.arrive, Act.outcome_bind, Act.outcome_within, Act.outcome_get,
      Act.outcome_modify, Act.outcome_pure, outcome_keep, Arrival.octets, taking, Arrival.numbers]
  | fault cause =>
    simp only [accept, onLink, Link.arrive, Act.outcome_bind, Act.outcome_within, Act.outcome_get,
      Act.outcome_modify, Act.outcome_throw, Arrival.octets, taking, Arrival.numbers, hzero]

/-! ### The exchange -/

variable {judge : Bytes → Act (τ × Endpoint) (Option α)} {verdict : Bytes → Act τ (Option α)}
  {e : Endpoint}

/-- The messages that arrivals bring to an endpoint, and the failure that they end with. -/
def stream (e : Endpoint) (arrivals : List Arrival) : List Bytes × Failure :=
  incoming e.link.lastSequence e.buffer.length e.link.drained arrivals

/-- Judges what arrivals bring to an endpoint. -/
def settling (verdict : Bytes → Act τ (Option α)) (e : Endpoint) (arrivals : List Arrival) :
    Act τ α :=
  settle verdict (e.stream arrivals).1 (e.stream arrivals).2

theorem stream_of_received {used rest : List Arrival} {e e' : Endpoint}
    (h : Received used rest e e') : e'.stream = e.stream := by
  funext arrivals
  rw [stream, stream, h.lastSequence, h.capacity, h.drained]

theorem outcome_settling_cons (verdict : Bytes → Act τ (Option α)) (e : Endpoint) (a : Arrival)
    (rest : List Arrival) (t : τ) :
    Act.outcome (settling verdict e (a :: rest)) t =
      match Act.outcome (walk verdict (a.messages e.link.lastSequence e.buffer.length).1 none) t,
        (a.messages e.link.lastSequence e.buffer.length).2 with
      | (.ok (some r), t'), _ => (.ok r, t')
      | (.error g, t'), _ => (.error g, t')
      | (.ok none, t'), some failure => (.error failure, t')
      | (.ok none, t'), none => Act.outcome (settling verdict e rest) t' := by
  rw [settling, stream, incoming]
  rcases a.messages e.link.lastSequence e.buffer.length with ⟨messages, _ | failure⟩
  · simp only [outcome_settle_append]
    rcases Act.outcome (walk verdict messages none) t with ⟨_ | _ | _, t'⟩ <;> rfl
  · have happend := outcome_settle_append verdict messages [] failure t
    rw [List.append_nil] at happend
    simp only [happend]
    rcases Act.outcome (walk verdict messages none) t with ⟨_ | _ | _, t'⟩ <;> rfl

/-- **The first arrival**: its messages are judged, and if none of them decides, the failure behind
them is what comes of it, or the exchange goes on. -/
theorem outcome_exchangeFrom_cons (hjudge : Judges judge e.port verdict) (a : Arrival)
    (rest : List Arrival) (t : τ) :
    ∃ book, Act.outcome (exchangeFrom judge (a :: rest)) (t, e) =
      match Act.outcome (walk verdict (a.messages e.link.lastSequence e.buffer.length).1 none) t,
        (a.messages e.link.lastSequence e.buffer.length).2 with
      | (.ok (some r), t'), _ => (.ok r, t', (e.taking a rest).noting book)
      | (.error g, t'), _ => (.error g, t', (e.taking a rest).noting book)
      | (.ok none, t'), some failure => (.error failure, t', (e.taking a rest).noting book)
      | (.ok none, t'), none =>
        Act.outcome (exchangeFrom judge rest) (t', (e.taking a rest).noting book) := by
  rw [exchangeFrom, Act.outcome_bind, Act.outcome_onSecond, outcome_accept, Arrival.messages]
  cases a.octets e.link.lastSequence with
  | error cause => exact ⟨(e.taking a rest).link.logbook, rfl⟩
  | ok octets =>
    by_cases hfits : octets.length ≤ e.buffer.length
    · simp only [if_pos hfits]
      obtain ⟨book, hwalk⟩ := hjudge.walk (Datagram.messages octets).1
        (Datagram.messages octets).2 t (e := e.taking a rest) rfl
      refine ⟨book, ?_⟩
      rw [Act.outcome_bind, hwalk]
      cases (Datagram.messages octets).2 with
      | none =>
        rcases Act.outcome (walk verdict (Datagram.messages octets).1 none) t with
          ⟨_ | _ | _, t'⟩ <;> rfl
      | some ending =>
        rw [outcome_walk_some]
        rcases Act.outcome (walk verdict (Datagram.messages octets).1 none) t with
          ⟨_ | _ | _, t'⟩ <;> rfl
    · simp only [if_neg hfits]
      exact ⟨(e.taking a rest).link.logbook, rfl⟩

/-- **An exchange judges what arrives.** It takes some arrivals from the front of the inbox, and
what comes of them is what comes of all of them. -/
theorem exchangeFrom_run (arrivals : List Arrival) (hjudge : Judges judge e.port verdict)
    (hinbox : e.link.inbox = arrivals) (t : τ) :
    ∃ used rest e', arrivals = used ++ rest ∧ Received used rest e e' ∧
      Act.outcome (exchangeFrom judge arrivals) (t, e) =
        ((Act.outcome (settling verdict e arrivals) t).1,
          (Act.outcome (settling verdict e arrivals) t).2, e') ∧
      Act.outcome (settling verdict e arrivals) t = Act.outcome (settling verdict e used) t := by
  induction arrivals generalizing e t with
  | nil =>
    refine ⟨[], [], { e with link := { e.link with calls := .receive :: e.link.calls } }, rfl,
      ⟨rfl, rfl, rfl, rfl, hinbox, ⟨1, rfl⟩, by simp⟩, rfl, rfl⟩
  | cons a rest ih =>
    obtain ⟨book, hstep⟩ := outcome_exchangeFrom_cons hjudge a rest t
    have hfirst := (received_taking a rest e).noting book
    have hsettling := fun arrivals => outcome_settling_cons verdict e a arrivals t
    rw [hstep, hsettling]
    rcases hwalk : Act.outcome
      (walk verdict (a.messages e.link.lastSequence e.buffer.length).1 none) t with ⟨g | _ | r, t'⟩
    · exact ⟨[a], rest, _, rfl, hfirst, rfl, by rw [hsettling, hwalk]⟩
    · rcases hend : (a.messages e.link.lastSequence e.buffer.length).2 with _ | failure
      · -- Nothing is decided yet, so the rest is judged from here on.
        obtain ⟨used, rest', e', rfl, hreceived, houtcome, hused⟩ :=
          ih (e := (e.taking a rest).noting book) hjudge rfl t'
        have hstream := stream_of_received hfirst
        rw [settling, hstream] at houtcome hused
        rw [settling, hstream] at hused
        exact ⟨a :: used, rest', e', rfl, hfirst.trans hreceived, houtcome,
          by rw [hsettling, hwalk, hend]; exact hused⟩
      · exact ⟨[a], rest, _, rfl, hfirst, rfl, by rw [hsettling, hwalk, hend]⟩
    · exact ⟨[a], rest, _, rfl, hfirst, rfl, by rw [hsettling, hwalk]⟩

/-- An exchange judges what is in the inbox. -/
theorem exchange_run (hjudge : Judges judge e.port verdict) (t : τ) :
    ∃ used rest e', e.link.inbox = used ++ rest ∧ Received used rest e e' ∧
      Act.outcome (exchange judge) (t, e) =
        ((Act.outcome (settling verdict e e.link.inbox) t).1,
          (Act.outcome (settling verdict e e.link.inbox) t).2, e') ∧
      Act.outcome (settling verdict e e.link.inbox) t =
        Act.outcome (settling verdict e used) t := by
  rw [exchange, Act.outcome_bind]
  exact exchangeFrom_run e.link.inbox hjudge rfl t

/-- Sends a message and then receives until a judge of the messages, which may go by the sequence
number of the message that was sent, has an outcome. -/
def converse (draft : Draft) (judge : UInt32 → Bytes → Act (τ × Endpoint) (Option α)) :
    Act (τ × Endpoint) α := do
  let sequence ← Act.onSecond (send draft)
  exchange (judge sequence)

theorem outcome_converse (draft : Draft)
    (judge : UInt32 → Bytes → Act (τ × Endpoint) (Option α)) (t : τ) (e : Endpoint) :
    Act.outcome (converse draft judge) (t, e) = match draft.finish e.link.nextSequence with
      | .error cause => (.error (.encode cause), t, e)
      | .ok message =>
        match Link.SendOutcome.result message.length (e.link.outcomes.headD .delivered) with
        | .error cause => (.error (.socket cause), t, e.sending message)
        | .ok () => Act.outcome (exchange (judge e.link.nextSequence)) (t, e.sending message) := by
  rw [converse, Act.outcome_bind, Act.outcome_onSecond, outcome_send]
  cases draft.finish e.link.nextSequence with
  | error cause => rfl
  | ok message =>
    simp only
    cases Link.SendOutcome.result message.length (e.link.outcomes.headD .delivered) <;> rfl

end Endpoint

end VSwitch
