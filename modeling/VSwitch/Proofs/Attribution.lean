import VSwitch.Proofs.Dump
import VSwitch.Proofs.Envelope
import VSwitch.Proofs.Recording

/-!
# Whose message it is

A program uses an endpoint for one operation after the other, while replies to earlier ones may
still arrive. Every message that an operation hands over is one that arrived for this operation: it
carries the port of the endpoint and the sequence number of the message that the operation sent,
which no other operation shares.

* `VSwitch.Operation` is a use of an endpoint and `VSwitch.Turn` such a use with what arrives
  meanwhile; `VSwitch.Turn.runAll` takes one turn after the other;
* `VSwitch.Account` is what one sees of a turn on the link and in the program;
* `VSwitch.Account.Attributed` is what holds of each turn, and `VSwitch.Turn.attributed_run` that it
  does;
* `VSwitch.Turn.attribution` is the result on whole runs.
-/

namespace VSwitch

variable {τ : Type}

/-! ### Operations -/

/-- A use of an endpoint. The consumers of dumps share a state of the type `τ`. -/
inductive Operation (τ : Type)
  /-- A message is sent that is not answered. -/
  | send (draft : Draft)
  /-- A request. -/
  | request (draft : Draft)
  /-- A dump. -/
  | dump (draft : Draft) (consume : Bytes → Act τ Unit)

namespace Operation

/-- The message that an operation sends. -/
def draft : Operation τ → Draft
  | send draft | request draft | dump draft _ => draft

/-- Carries out an operation. Besides the state that it leaves, these are the messages that it hands
over: the one that a request returns, or those that the consumer of a dump is called with. -/
def run : Operation τ → τ × Endpoint → List Bytes × τ × Endpoint
  | send draft, (t, e) => ([], t, (Act.outcome (Endpoint.send draft) e).2)
  | request draft, (t, e) =>
    match Act.outcome (Endpoint.request draft) e with
    | (.ok message, e') => ([message], t, e')
    | (.error _, e') => ([], t, e')
  | dump draft consume, (t, e) =>
    let (_, (t', calls), e') := Act.outcome (Endpoint.dump draft (recording consume)) ((t, []), e)
    (calls, t', e')

end Operation

/-! ### Turns -/

/-- An operation with all that is not up to the program: what arrives during the operation, which
may include what earlier operations left in the inbox, what becomes of the message that is sent, and
how many sequence numbers others have taken before. -/
structure Turn (τ : Type) where
  /-- What arrives. -/
  arrivals : List Arrival
  /-- What receiving fails with after that. -/
  drained : SocketError
  /-- What becomes of the messages that are sent. -/
  outcomes : List SendOutcome
  /-- Number of sequence numbers that others have taken. -/
  elsewhere : Nat
  /-- The operation. -/
  operation : Operation τ

/-- What one sees of a turn. -/
structure Account where
  /-- The messages that were handed to the link. -/
  sent : List Bytes
  /-- The messages in the datagrams that were taken from the link. -/
  received : List Bytes
  /-- The messages that were handed over. -/
  delivered : List Bytes
  /-- How many messages were finished, by the operation, by what answers it and by others. -/
  finished : Nat

namespace Account

/-- What one sees of an operation that takes the endpoint from `e` to `e'`. -/
def between (elsewhere : Nat) (e e' : Endpoint) (delivered : List Bytes) : Account :=
  let calls := e'.link.calls.take (e'.link.calls.length - e.link.calls.length)
  let taken := e.link.inbox.take (e.link.inbox.length - e'.link.inbox.length)
  let sent := calls.reverse.filterMap Link.Call.message?
  { sent
    received := taken.flatMap fun a => (a.messages e'.link.lastSequence e.buffer.length).1
    delivered
    finished := elsewhere + (sent.length + (taken.map Arrival.numbers).sum) }

end Account

namespace Turn

/-- The endpoint at the start of the operation. -/
def before (turn : Turn τ) (e : Endpoint) : Endpoint :=
  { e with link := { e.link with
    inbox := turn.arrivals
    drained := turn.drained
    outcomes := turn.outcomes
    nextSequence := e.link.nextSequence + UInt32.ofNat turn.elsewhere } }

/-- Takes a turn, and tells what one sees of it. -/
def run (turn : Turn τ) (s : τ × Endpoint) : Account × τ × Endpoint :=
  let e := turn.before s.2
  let (delivered, t', e') := turn.operation.run (s.1, e)
  (.between turn.elsewhere e e' delivered, t', e')

/-- Takes one turn after the other. -/
def runAll : List (Turn τ) → τ × Endpoint → List Account
  | [], _ => []
  | turn :: rest, s => (turn.run s).1 :: runAll rest (turn.run s).2

end Turn

/-! ### One operation -/

namespace Operation

/-- Messages that may be handed over: they come in the order of `messages`, and each of them is for
the port and of the sequence number that the operation goes by. -/
def Fit (port sequence : UInt32) (delivered messages : List Bytes) : Prop :=
  delivered.Sublist messages ∧ ∀ m ∈ delivered,
    (MessageHeader.ofBytes m).port = port ∧ (MessageHeader.ofBytes m).sequence = sequence

theorem fit_nil (port sequence : UInt32) (messages : List Bytes) :
    Fit port sequence [] messages :=
  ⟨List.nil_sublist _, fun _ hm => absurd hm List.not_mem_nil⟩

/-- What an operation that sends `draft` hands over, and the endpoint that it leaves. -/
inductive Conduct (draft : Draft) (e : Endpoint) : List Bytes → Endpoint → Prop
  /-- The message cannot be finished, and nothing is done. -/
  | idle : Conduct draft e [] e
  /-- The message is handed to the link, under the next sequence number, and then some arrivals are
  taken. -/
  | sent {q : Bytes} {used rest : List Arrival} {delivered : List Bytes} {e' : Endpoint}
    (finish : draft.finish e.link.nextSequence = .ok q) (inbox : e.link.inbox = used ++ rest)
    (received : Received used rest (e.sending q) e')
    (fit : Fit e.port e.link.nextSequence delivered ((e.sending q).stream used).1) :
    Conduct draft e delivered e'

/-- **Sending and receiving.** What is handed over, `handed`, may be told from the result and from
the state of the judge; a failure without any arrival may not hand over anything. -/
theorem conduct_converse {α ρ : Type} (draft : Draft)
    {judge : UInt32 → Bytes → Act (ρ × Endpoint) (Option α)} {verdict : Bytes → Act ρ (Option α)}
    {e : Endpoint} {t : ρ} (handed : Except Failure α → ρ → List Bytes)
    (hjudge : Judges (judge e.link.nextSequence) e.port verdict)
    (herror : ∀ f, handed (.error f) t = [])
    (hfit : ∀ messages failure, (∀ m ∈ messages, MessageHeader.size ≤ m.length) →
      Fit e.port e.link.nextSequence (handed (Act.outcome (settle verdict messages failure) t).1
        (Act.outcome (settle verdict messages failure) t).2) messages) :
    Conduct draft e (handed (Act.outcome (Endpoint.converse draft judge) (t, e)).1
        (Act.outcome (Endpoint.converse draft judge) (t, e)).2.1)
      (Act.outcome (Endpoint.converse draft judge) (t, e)).2.2 := by
  rw [Endpoint.outcome_converse]
  cases hfinish : draft.finish e.link.nextSequence with
  | error cause =>
    simp only [herror]
    exact .idle
  | ok q =>
    simp only
    cases Link.SendOutcome.result q.length (e.link.outcomes.headD .delivered) with
    | error cause =>
      simp only [herror]
      exact .sent hfinish (List.nil_append _).symm (.of_inbox rfl) (fit_nil _ _ _)
    | ok _ =>
      obtain ⟨used, rest, e', hinbox, hreceived, hrun, hused⟩ :=
        Endpoint.exchange_run (e := e.sending q) hjudge t
      simp only [hrun, hused]
      exact .sent hfinish hinbox hreceived (hfit _ _ fun m hm => size_le_of_mem_incoming hm)

/-- What a dump hands to a consumer fits. -/
theorem fit_settle_parting (port sequence : UInt32) (consume : Bytes → Act τ Unit)
    {messages : List Bytes} (hsize : ∀ m ∈ messages, MessageHeader.size ≤ m.length)
    (failure : Failure) (t : τ) :
    Fit port sequence (Act.outcome (settle (Endpoint.parting port sequence (recording consume))
      messages failure) (t, [])).2.2 messages := by
  obtain ⟨n, hn⟩ := exists_outcome_forM_recording consume (Dump.parts port sequence messages) t []
  have hcalls : (Act.outcome (settle (Endpoint.parting port sequence (recording consume))
      messages failure) (t, [])).2.2 = (Dump.parts port sequence messages).take n := by
    rw [Dump.outcome_settle_parting port sequence _ hsize, Dump.outcome_fold, Act.outcome_bind]
    rw [List.nil_append] at hn
    rw [← hn]
    rcases Act.outcome ((Dump.parts port sequence messages).forM (recording consume)) (t, [])
      with ⟨_ | _, _⟩
    · rfl
    · simp only [Act.outcome_ofExcept]
  rw [hcalls]
  refine ⟨(List.take_sublist _ _).trans (Dump.sublist_parts port sequence messages), ?_⟩
  exact fun m hm => Dump.answers_of_mem_parts (List.mem_of_mem_take hm)

/-- What answers a request fits. -/
theorem fit_settle_answering {port sequence : UInt32} {messages : List Bytes}
    (hsize : ∀ m ∈ messages, MessageHeader.size ≤ m.length) {failure : Failure} {message : Bytes}
    {t : τ} (h : (Act.outcome (settle (Endpoint.answering port sequence) messages failure) t).1 =
      .ok message) : Fit port sequence [message] messages := by
  obtain ⟨hmem, hanswers⟩ := Endpoint.answers_of_settle_answering hsize h
  refine ⟨List.singleton_sublist.2 hmem, ?_⟩
  rintro m hm
  rw [List.mem_singleton.1 hm]
  exact hanswers

/-- **One operation** sends nothing and hands nothing over, or it sends one message, takes some
arrivals and hands over messages of these that fit. -/
theorem conduct_run (operation : Operation τ) (t : τ) (e : Endpoint) :
    Conduct operation.draft e (operation.run (t, e)).1 (operation.run (t, e)).2.2 := by
  cases operation with
  | send draft =>
    have hrun : (Operation.send draft : Operation τ).run (t, e) =
      ([], t, (Act.outcome (Endpoint.send draft) e).2) := rfl
    rw [hrun, Endpoint.outcome_send, Operation.draft]
    cases hfinish : draft.finish e.link.nextSequence with
    | error cause => exact .idle
    | ok q =>
      simp only
      cases Link.SendOutcome.result q.length (e.link.outcomes.headD .delivered) <;>
        exact .sent hfinish (List.nil_append _).symm (.of_inbox rfl) (fit_nil _ _ _)
  | request draft =>
    let handed : Except Failure Bytes → Unit → List Bytes := fun r _ => r.toOption.toList
    have hrun : (Operation.request draft : Operation τ).run (t, e) =
        (handed (Act.outcome (Endpoint.converse draft Endpoint.answer) ((), e)).1 (), t,
          (Act.outcome (Endpoint.converse draft Endpoint.answer) ((), e)).2.2) := by
      simp only [run, Endpoint.outcome_request]
      rcases Act.outcome (Endpoint.converse draft Endpoint.answer) ((), e) with ⟨_ | _, _⟩ <;> rfl
    rw [hrun]
    refine conduct_converse draft handed (Endpoint.judges_answer e.port e.link.nextSequence)
      (fun _ => rfl) fun messages failure hsize => ?_
    cases hresult : (Act.outcome (settle (Endpoint.answering e.port e.link.nextSequence) messages
      failure) ()).1 with
    | error f => exact fit_nil _ _ _
    | ok message => exact fit_settle_answering hsize hresult
  | dump draft consume =>
    exact conduct_converse (t := (t, [])) draft (fun _ r => r.2)
      (Endpoint.judges_part e.port e.link.nextSequence (recording consume)) (fun _ => rfl)
      fun messages failure hsize => fit_settle_parting _ _ consume hsize failure t

end Operation

/-! ### One turn -/

namespace Account

theorem between_self (elsewhere : Nat) (e : Endpoint) (delivered : List Bytes) :
    between elsewhere e e delivered = ⟨[], [], delivered, elsewhere⟩ := by
  simp [between]

/-- What one sees of an operation that sends a message and then receives. -/
theorem between_of_received {e e' : Endpoint} {q : Bytes} {used rest : List Arrival}
    (hinbox : e.link.inbox = used ++ rest) (h : Received used rest (e.sending q) e')
    (elsewhere : Nat) (delivered : List Bytes) :
    between elsewhere e e' delivered = {
      sent := [q]
      received := used.flatMap fun a =>
        (a.messages (e.sending q).link.lastSequence e.buffer.length).1
      delivered
      finished := elsewhere + (1 + (used.map Arrival.numbers).sum) } := by
  obtain ⟨n, hn⟩ := h.calls
  have hcalls : e'.link.calls.take (e'.link.calls.length - e.link.calls.length) =
      List.replicate n .receive ++ [.send q (e.link.outcomes.headD .delivered)] := by
    have hsplit : e'.link.calls = (List.replicate n .receive ++
        [.send q (e.link.outcomes.headD .delivered)]) ++ e.link.calls := by
      rw [hn, List.append_assoc]
      rfl
    rw [hsplit, List.length_append, Nat.add_sub_cancel, List.take_left' rfl]
  have htaken : e.link.inbox.take (e.link.inbox.length - e'.link.inbox.length) = used := by
    rw [h.inbox, hinbox, List.length_append, Nat.add_sub_cancel, List.take_left' rfl]
  have hnone : (List.replicate n Call.receive).filterMap Link.Call.message? = [] := by
    rw [List.filterMap_eq_nil_iff]
    intro c hc
    rw [List.eq_of_mem_replicate hc]
    rfl
  simp [between, hcalls, htaken, h.lastSequence, Link.Call.message?, hnone]

/-- **Each turn keeps to its own number**: at most one message is sent, under the sequence number
`sequence`; what is handed over is for the port and of this sequence number, and there is nothing of
it if nothing is sent; and nothing is handed over more often than it was received. -/
structure Attributed (port sequence : UInt32) (a : Account) : Prop where
  sent : a.sent = [] ∨ ∃ q, a.sent = [q] ∧ (MessageHeader.ofBytes q).sequence = sequence
  delivered : ∀ m ∈ a.delivered, a.sent ≠ [] ∧ (MessageHeader.ofBytes m).port = port ∧
    (MessageHeader.ofBytes m).sequence = sequence
  once : a.delivered.Sublist a.received

theorem Attributed.sequence_eq {port sequence : UInt32} {a : Account}
    (h : a.Attributed port sequence) {q : Bytes} (hq : q ∈ a.sent) :
    (MessageHeader.ofBytes q).sequence = sequence := by
  rcases h.sent with hnil | ⟨q', hsent, hsequence⟩
  · rw [hnil] at hq
    cases hq
  · rw [hsent, List.mem_singleton] at hq
    rwa [hq]

end Account

namespace Turn

/-- What a turn does: it keeps to the first sequence number that others have left, and the next one
is behind all numbers that were taken meanwhile. -/
theorem attributed_run (turn : Turn τ) (h : turn.operation.draft.Started) (s : τ × Endpoint) :
    (turn.run s).1.Attributed s.2.port
        (s.2.link.nextSequence + UInt32.ofNat turn.elsewhere) ∧
      (turn.run s).2.2.port = s.2.port ∧
      (turn.run s).2.2.link.nextSequence =
        s.2.link.nextSequence + UInt32.ofNat (turn.run s).1.finished ∧
      ((turn.run s).1.sent ≠ [] → turn.elsewhere < (turn.run s).1.finished) := by
  have haccount : (turn.run s).1 = .between turn.elsewhere (turn.before s.2)
    (turn.operation.run (s.1, turn.before s.2)).2.2
    (turn.operation.run (s.1, turn.before s.2)).1 := rfl
  have hstate : (turn.run s).2.2 = (turn.operation.run (s.1, turn.before s.2)).2.2 := rfl
  rw [haccount, hstate]
  have hconduct := turn.operation.conduct_run s.1 (turn.before s.2)
  generalize (turn.operation.run (s.1, turn.before s.2)).1 = delivered at hconduct
  generalize (turn.operation.run (s.1, turn.before s.2)).2.2 = e' at hconduct
  cases hconduct with
  | idle =>
    rw [Account.between_self]
    refine ⟨⟨.inl rfl, ?_, .slnil⟩, rfl, rfl, fun hsent => absurd rfl hsent⟩
    exact fun m hm => absurd hm List.not_mem_nil
  | @sent q used rest _ _ hfinish hinbox hreceived hfit =>
    obtain ⟨hsublist, hfit⟩ := hfit
    rw [Account.between_of_received hinbox hreceived]
    refine ⟨⟨.inr ⟨q, rfl, Draft.sequence_of_finish h hfinish⟩, ?_, ?_⟩, hreceived.port, ?_, ?_⟩
    · exact fun m hm => ⟨List.cons_ne_nil _ _, hfit m hm⟩
    · exact hsublist.trans (sublist_incoming _ _ _ used)
    · rw [hreceived.nextSequence, UInt32.ofNat_add, UInt32.ofNat_add, ← UInt32.add_assoc,
        ← UInt32.add_assoc]
      rfl
    · intro _
      simp only
      omega

/-! ### One turn after the other -/

/-- How many messages were finished in turns that are taken one after the other. -/
def finishedAll (turns : List (Turn τ)) (s : τ × Endpoint) : Nat :=
  ((runAll turns s).map Account.finished).sum

theorem finishedAll_cons (turn : Turn τ) (rest : List (Turn τ)) (s : τ × Endpoint) :
    finishedAll (turn :: rest) s =
      (turn.run s).1.finished + finishedAll rest (turn.run s).2 := by
  simp [finishedAll, runAll]

/-- **Each turn has a number of its own**, counted from the sequence number that comes next. -/
theorem exists_attributed {turns : List (Turn τ)}
    (h : ∀ turn ∈ turns, turn.operation.draft.Started) (s : τ × Endpoint) :
    ∀ a ∈ runAll turns s, ∃ k,
      a.Attributed s.2.port (s.2.link.nextSequence + UInt32.ofNat k) ∧
        (a.sent ≠ [] → k < finishedAll turns s) := by
  induction turns generalizing s with
  | nil => exact fun a ha => absurd ha List.not_mem_nil
  | cons turn rest ih =>
    obtain ⟨hattributed, hport, hnext, hlt⟩ := turn.attributed_run (h turn List.mem_cons_self) s
    rintro a ha
    rw [finishedAll_cons]
    rcases List.mem_cons.1 ha with rfl | ha
    · exact ⟨turn.elsewhere, hattributed, fun hsent =>
        Nat.lt_of_lt_of_le (hlt hsent) (Nat.le_add_right _ _)⟩
    · obtain ⟨k, hk, hkLt⟩ := ih (fun turn hturn => h turn (List.mem_cons_of_mem _ hturn)) _ a ha
      refine ⟨(turn.run s).1.finished + k, ?_, fun hsent => Nat.add_lt_add_left (hkLt hsent) _⟩
      rwa [hport, hnext, UInt32.add_assoc, ← UInt32.ofNat_add] at hk

/-- Fewer than `2 ^ 32` numbers in a row are all different. -/
theorem add_ofNat_ne {x : UInt32} {a b : Nat} (h : a < b) (hb : b < 2 ^ 32) :
    x + UInt32.ofNat a ≠ x + UInt32.ofNat b := by
  intro heq
  rw [UInt32.add_right_inj, ← UInt32.toNat_inj, UInt32.toNat_ofNat_of_lt' (Nat.lt_trans h hb),
    UInt32.toNat_ofNat_of_lt' hb] at heq
  omega

/-- Two turns have nothing to do with each other: their messages carry different sequence numbers,
and what one of them hands over carries another number than the message of the other one. -/
structure Apart (a b : Account) : Prop where
  sent : ∀ q ∈ a.sent, ∀ q' ∈ b.sent,
    (MessageHeader.ofBytes q).sequence ≠ (MessageHeader.ofBytes q').sequence
  later : ∀ q ∈ a.sent, ∀ m ∈ b.delivered,
    (MessageHeader.ofBytes m).sequence ≠ (MessageHeader.ofBytes q).sequence
  earlier : ∀ q ∈ b.sent, ∀ m ∈ a.delivered,
    (MessageHeader.ofBytes m).sequence ≠ (MessageHeader.ofBytes q).sequence

theorem apart_of_ne {port x y : UInt32} {a b : Account} (ha : a.Attributed port x)
    (hb : b.Attributed port y) (hne : a.sent ≠ [] → b.sent ≠ [] → x ≠ y) : Apart a b where
  sent q hq q' hq' := by
    rw [ha.sequence_eq hq, hb.sequence_eq hq']
    exact hne (List.ne_nil_of_mem hq) (List.ne_nil_of_mem hq')
  later q hq m hm := by
    obtain ⟨hsent, -, hsequence⟩ := hb.delivered m hm
    rw [ha.sequence_eq hq, hsequence]
    exact (hne (List.ne_nil_of_mem hq) hsent).symm
  earlier q hq m hm := by
    obtain ⟨hsent, -, hsequence⟩ := ha.delivered m hm
    rw [hb.sequence_eq hq, hsequence]
    exact hne hsent (List.ne_nil_of_mem hq)

theorem pairwise_apart {turns : List (Turn τ)}
    (h : ∀ turn ∈ turns, turn.operation.draft.Started) (s : τ × Endpoint)
    (hfew : finishedAll turns s < 2 ^ 32) : (runAll turns s).Pairwise Apart := by
  induction turns generalizing s with
  | nil => exact .nil
  | cons turn rest ih =>
    obtain ⟨hattributed, hport, hnext, hlt⟩ := turn.attributed_run (h turn List.mem_cons_self) s
    have hrest := fun turn hturn => h turn (List.mem_cons_of_mem _ hturn)
    rw [finishedAll_cons] at hfew
    refine List.pairwise_cons.2 ⟨fun b hb => ?_, ih hrest _ (by omega)⟩
    obtain ⟨k, hk, hkLt⟩ := exists_attributed hrest _ b hb
    rw [hport, hnext, UInt32.add_assoc, ← UInt32.ofNat_add] at hk
    refine apart_of_ne hattributed hk fun ha hb => ?_
    have hfirst := hlt ha
    have hsecond := hkLt hb
    exact add_ofNat_ne (by omega) (by omega)

/-- **No message goes astray.** Let operations follow each other on an endpoint, whatever arrives
and fails meanwhile, and let fewer than `2 ^ 32` messages be finished in all. Then every message
that is handed over is for the port of the endpoint and carries the sequence number of the one
message that its operation has sent; any two operations are apart from each other; and the messages
handed over are received ones, none of them taken twice. What is sent has its first header, as all
messages have that are made by calls (`Put.started_runEach`). -/
theorem attribution {turns : List (Turn τ)}
    (h : ∀ turn ∈ turns, turn.operation.draft.Started) (s : τ × Endpoint)
    (hfew : finishedAll turns s < 2 ^ 32) :
    (∀ a ∈ runAll turns s, ∀ m ∈ a.delivered, (MessageHeader.ofBytes m).port = s.2.port ∧
        ∃ q, a.sent = [q] ∧
          (MessageHeader.ofBytes m).sequence = (MessageHeader.ofBytes q).sequence) ∧
      (runAll turns s).Pairwise Apart ∧
      ((runAll turns s).flatMap Account.delivered).Sublist
        ((runAll turns s).flatMap Account.received) := by
  refine ⟨?_, pairwise_apart h s hfew, ?_⟩
  · rintro a ha m hm
    obtain ⟨k, hattributed, -⟩ := exists_attributed h s a ha
    obtain ⟨hsent, hport, hsequence⟩ := hattributed.delivered m hm
    refine ⟨hport, ?_⟩
    rcases hattributed.sent with hnil | ⟨q, hq, hqSequence⟩
    · exact absurd hnil hsent
    · exact ⟨q, hq, hsequence.trans hqSequence.symm⟩
  · refine List.Sublist.flatMap_right _ ?_
    rintro a ha
    obtain ⟨k, hattributed, -⟩ := exists_attributed h s a ha
    exact hattributed.once

open Endpoint (tell) in
/-- Three turns whose sequence numbers run over the greatest one: a message whose answer nobody
waits for, a request that this answer reaches in front of its own, and, after others have taken a
number, a dump that is sent the answer to the request once more. -/
def crossing : List (Turn Unit) :=
  let quiet (arrivals : List Arrival) (elsewhere : Nat) (operation : Operation Unit) : Turn Unit :=
    ⟨arrivals, .system 11, [], elsewhere, operation⟩
  [quiet [] 0 (.send (Draft.start requestFlags 26)),
    quiet [.datagram (tell 26 0xFFFFFFFF []), .datagram (tell 26 0 [])] 0
      (.request (Draft.start requestFlags 26)),
    quiet [.datagram (tell 26 0 [] ++ tell 26 2 [] ++ tell 3 2 [])] 1
      (.dump (Draft.start dumpFlags 26) fun _ => pure ())]

/-- An endpoint of the port 5, close to the greatest sequence number. -/
def outset : Unit × Endpoint :=
  ((), ⟨5, Buffer.fresh 64, ⟨[], .system 11, [], [], 0xFFFFFFFF, .empty⟩⟩)

open Endpoint (tell) in
theorem attribution_crossing :
    (runAll crossing outset).map Account.delivered = [[], [tell 26 0 []], [tell 26 2 []]] ∧
      (runAll crossing outset).Pairwise Apart := by
  have hstarted : ∀ turn ∈ crossing, turn.operation.draft.Started := by
    simp [crossing, Operation.draft, Draft.started_start]
  have hfew : finishedAll crossing outset < 2 ^ 32 := by decide +kernel
  obtain ⟨-, hapart, -⟩ := attribution hstarted outset hfew
  exact ⟨by decide +kernel, hapart⟩

end Turn

end VSwitch
