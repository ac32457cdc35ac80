import VSwitch.Proofs.Correlation

/-!
# What a dump does

A dump takes the messages that arrive in their order: it passes over strays, hands the parts to the
consumer and ends with the first message that is neither, with a failure of the consumer, or with
what keeps further messages from arriving.

* `VSwitch.Dump.role` is what a message is to a dump;
* `VSwitch.Dump.fold` is the dump over the messages that arrive, however they are spread over
  datagrams;
* `VSwitch.Dump.parts` are the messages that the consumer is called with, and
  `VSwitch.Dump.result` is how the dump ends if it takes all of them;
* `VSwitch.Endpoint.dump_eq_fold` is the result.
-/

namespace VSwitch

namespace Dump

variable {τ : Type}

/-- What a message is to a dump. -/
inductive Role
  /-- It is handed to the consumer. -/
  | part
  /-- It is passed over. -/
  | stray
  /-- It ends the dump. -/
  | last (result : Except Failure Unit)

/-- What a message is to the dump of a port and a sequence number. A report has to hold an error
number and the header of the request; the number zero is an acknowledgement. -/
def role (port sequence : UInt32) (message : Bytes) : Role :=
  let header := MessageHeader.ofBytes message
  let report := message.drop MessageHeader.size
  if header.port ≠ port then .last (.error (.wrongPort port header.port))
  else if header.sequence ≠ sequence then .stray
  else if header.isError then
    if report.length < KernelError.size then
      .last (.error (.decode (.truncated "netlink error" KernelError.size report.length)))
    else if (KernelError.ofBytes report).code ≠ 0 then
      .last (.error (.kernel (KernelError.ofBytes report)))
    else .last (.ok ())
  else if header.isDone then .last (.ok ())
  else .part

/-- A dump over messages that arrive and the failure that comes after them. -/
def fold (port sequence : UInt32) (consume : Bytes → Act τ Unit) :
    List Bytes → Failure → Act τ Unit
  | [], failure => throw failure
  | message :: rest, failure =>
    match role port sequence message with
    | .part => do
      consume message
      fold port sequence consume rest failure
    | .stray => fold port sequence consume rest failure
    | .last result => MonadExcept.ofExcept result

/-- The parts of a dump: of the messages in front of the one that ends it those that are no
strays. -/
def parts (port sequence : UInt32) : List Bytes → List Bytes
  | [] => []
  | message :: rest =>
    match role port sequence message with
    | .part => message :: parts port sequence rest
    | .stray => parts port sequence rest
    | .last _ => []

/-- How a dump ends whose consumer takes every part. -/
def result (port sequence : UInt32) : List Bytes → Failure → Except Failure Unit
  | [], failure => .error failure
  | message :: rest, failure =>
    match role port sequence message with
    | .part | .stray => result port sequence rest failure
    | .last result => result

variable {port sequence : UInt32} {consume : Bytes → Act τ Unit}

/-- **The consumer is called once for each part**, in order, until it fails; if it does not, the
dump ends as its messages say. -/
theorem outcome_fold (messages : List Bytes) (failure : Failure) (t : τ) :
    Act.outcome (fold port sequence consume messages failure) t =
      Act.outcome (do
        (parts port sequence messages).forM consume
        MonadExcept.ofExcept (result port sequence messages failure)) t := by
  induction messages generalizing t with
  | nil => rfl
  | cons message rest ih =>
    simp only [fold, parts, result]
    cases role port sequence message with
    | part =>
      have hforM : (message :: parts port sequence rest).forM consume = (do
          consume message
          (parts port sequence rest).forM consume) := rfl
      simp only [hforM, bind_assoc]
      rw [Act.outcome_bind, Act.outcome_bind]
      rcases Act.outcome (consume message) t with ⟨_ | _, t'⟩
      · rfl
      · exact ih t'
    | stray => exact ih t
    | last result => rfl

/-! ### The parts -/

theorem sublist_parts (port sequence : UInt32) (messages : List Bytes) :
    (parts port sequence messages).Sublist messages := by
  induction messages with
  | nil => exact .slnil
  | cons message rest ih =>
    rw [parts]
    cases role port sequence message with
    | part => exact ih.cons_cons message
    | stray => exact ih.cons message
    | last _ => exact List.nil_sublist _

/-- Only messages of the port and of the sequence number are parts. -/
theorem answers_of_mem_parts {message : Bytes} {messages : List Bytes}
    (h : message ∈ parts port sequence messages) :
    (MessageHeader.ofBytes message).port = port ∧
      (MessageHeader.ofBytes message).sequence = sequence := by
  induction messages with
  | nil => cases h
  | cons head rest ih =>
    rw [parts] at h
    cases hrole : role port sequence head with
    | part =>
      rw [hrole] at h
      rcases List.mem_cons.1 h with rfl | h
      · rw [role] at hrole
        by_cases hport : (MessageHeader.ofBytes message).port = port
        · by_cases hsequence : (MessageHeader.ofBytes message).sequence = sequence
          · exact ⟨hport, hsequence⟩
          · simp [hport, hsequence] at hrole
        · simp [hport] at hrole
      · exact ih h
    | stray =>
      rw [hrole] at h
      exact ih h
    | last _ =>
      rw [hrole] at h
      cases h

/-! ### The dump -/

/-- The judge of a dump goes by the roles of the messages. -/
theorem outcome_parting {message : Bytes} (h : MessageHeader.size ≤ message.length) (t : τ) :
    Act.outcome (Endpoint.parting port sequence consume message) t =
      match role port sequence message with
      | .part => Act.outcome (do consume message; return none) t
      | .stray => (.ok none, t)
      | .last result => (result.map some, t) := by
  rw [Endpoint.parting, Act.outcome_bind, Act.outcome_ofExcept, Cursor.scan_checkHeader _ _ h]
  simp only [role]
  generalize message.drop MessageHeader.size = report
  by_cases hport : (MessageHeader.ofBytes message).port = port
  · by_cases hsequence : (MessageHeader.ofBytes message).sequence = sequence
    · by_cases herror : (MessageHeader.ofBytes message).isError = true
      · rcases Nat.lt_or_ge report.length KernelError.size with hshort | hlong
        · simp [hport, hsequence, herror, KernelError.read_of_lt hshort, hshort, Except.map]
        · have hread := KernelError.read_of_le hlong
          by_cases hcode : (KernelError.ofBytes report).code = 0 <;>
            simp [hport, hsequence, herror, hread, Nat.not_lt.2 hlong, hcode, Except.map]
      · by_cases hdone : (MessageHeader.ofBytes message).isDone = true <;>
          simp [hport, hsequence, herror, hdone, Except.map]
    · simp [hport, hsequence]
  · simp [hport, Except.map]

variable (port sequence consume) in
theorem outcome_settle_parting {messages : List Bytes}
    (h : ∀ m ∈ messages, MessageHeader.size ≤ m.length) (failure : Failure) (t : τ) :
    Act.outcome (settle (Endpoint.parting port sequence consume) messages failure) t =
      Act.outcome (fold port sequence consume messages failure) t := by
  induction messages generalizing t with
  | nil => rfl
  | cons message rest ih =>
    have hrest := ih fun m hm => h m (List.mem_cons_of_mem message hm)
    rw [outcome_settle_cons, outcome_parting (h message List.mem_cons_self), fold]
    cases role port sequence message with
    | part =>
      simp only [Act.outcome_bind]
      rcases Act.outcome (consume message) t with ⟨_ | _, t'⟩
      · rfl
      · exact hrest t'
    | stray => exact hrest t
    | last result => cases result <;> rfl

end Dump

namespace Endpoint

variable {τ : Type} {draft : Draft} {sequence : UInt32} {e e₁ : Endpoint}

/-- **A dump is a fold.** Once its message is sent, under the sequence number `sequence`, a dump
does to the state of the consumer what `Dump.fold` does over the messages that arrive, and comes to
the same result. So the consumer is called with the parts of the dump and nothing else, once with
each of them and in their order, until it fails. -/
theorem dump_eq_fold (hsend : Act.outcome (send draft) e = (.ok sequence, e₁))
    (consume : Bytes → Act τ Unit) (t : τ) :
    let arriving := e₁.stream e.link.inbox
    let folded := Act.outcome (Dump.fold e.port sequence consume arriving.1 arriving.2) t
    (∃ e₂, Act.outcome (dump draft consume) (t, e) = (folded.1, folded.2, e₂)) ∧
      folded = Act.outcome (do
        (Dump.parts e.port sequence arriving.1).forM consume
        MonadExcept.ofExcept (Dump.result e.port sequence arriving.1 arriving.2)) t := by
  intro arriving folded
  refine ⟨?_, Dump.outcome_fold arriving.1 arriving.2 t⟩
  obtain ⟨-, message, -, rfl⟩ := exists_of_send hsend
  obtain ⟨_, _, e₂, -, -, hrun, -⟩ := exchange_run (e := e.sending message)
    (judges_part e.port sequence consume) t
  have hheaders : ∀ m ∈ arriving.1, MessageHeader.size ≤ m.length :=
    fun m hm => size_le_of_mem_incoming hm
  have hsettle : Act.outcome (settling (parting e.port sequence consume) (e.sending message)
      (e.sending message).link.inbox) t = folded :=
    Dump.outcome_settle_parting e.port sequence consume hheaders arriving.2 t
  refine ⟨e₂, ?_⟩
  rw [dump, Act.outcome_bind, Act.outcome_onSecond, hsend]
  simp only [hrun, hsettle]

/-- An endpoint of the port 5 that a stray and a part wait for in one datagram, and a part and the
end in another. -/
def expectant : Endpoint :=
  ⟨5, Buffer.fresh 64, {
    inbox := [.datagram (tell 26 6 [1, 1, 1, 1] ++ tell 26 7 [2, 2, 2, 2]),
      .datagram (tell 26 7 [3, 3, 3, 3] ++ tell 3 7 [0, 0, 0, 0])]
    drained := .system 11
    outcomes := []
    calls := []
    nextSequence := 7
    logbook := .empty }⟩

theorem dump_eq_fold_expectant :
    ∃ e₂, Act.outcome (dump (Draft.start dumpFlags 26) fun m => modify (· ++ [m.drop 16]))
      (([] : List Bytes), expectant) = (.ok (), [[2, 2, 2, 2], [3, 3, 3, 3]], e₂) := by
  have hsend : Act.outcome (send (Draft.start dumpFlags 26)) expectant = (.ok 7, _) := rfl
  obtain ⟨⟨e₂, hdump⟩, -⟩ := dump_eq_fold hsend (fun m => modify (· ++ [m.drop 16])) []
  refine ⟨e₂, hdump.trans ?_⟩
  cbv

end Endpoint

end VSwitch
