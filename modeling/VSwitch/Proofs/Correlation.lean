import VSwitch.Proofs.Exchange

/-!
# Which message answers what

A message is compared with a request by its port and its sequence number, in this order, and only
then it matters whether it reports an error.

* `VSwitch.Cursor.scan_checkHeader` says what comes of comparing a message that has a header;
* `VSwitch.Endpoint.judges_answer` and `VSwitch.Endpoint.judges_part`: the judges of requests and of
  dumps look at nothing of the endpoint but its port.
-/

namespace VSwitch

namespace Cursor

/-- **What a message is to a request**: a message for another port is a failure, one with another
sequence number is a stray, a report that is too short or tells an error is a failure, and whatever
else there is answers the request. -/
theorem scan_checkHeader (port sequence : UInt32) {message : Bytes}
    (h : MessageHeader.size ≤ message.length) :
    scan (checkHeader port sequence) message =
      if (MessageHeader.ofBytes message).port ≠ port then
        .error (.wrongPort port (MessageHeader.ofBytes message).port)
      else if (MessageHeader.ofBytes message).sequence ≠ sequence then
        .ok (.stray (MessageHeader.ofBytes message))
      else if (MessageHeader.ofBytes message).isError then
        match KernelError.read (message.drop MessageHeader.size) with
        | .error e => .error (.decode e)
        | .ok report =>
          if report.code ≠ 0 then .error (.kernel report)
          else .ok (.answer (MessageHeader.ofBytes message))
      else .ok (.answer (MessageHeader.ofBytes message)) := by
  have htake : (message.take MessageHeader.size).length = MessageHeader.size := by
    rw [List.length_take, Nat.min_eq_left h]
  have hheader : MessageHeader.ofBytes (message.take MessageHeader.size) =
      MessageHeader.ofBytes message := by
    simp [MessageHeader.ofBytes, MessageHeader.size, Bytes.toU32, Bytes.toU16, List.drop_take,
      List.take_take]
  have hmessage : (reading messageHeader).run (start message) =
      (.ok (MessageHeader.ofBytes message), ⟨message, MessageHeader.size⟩) := by
    have halign : align4 MessageHeader.size = MessageHeader.size := rfl
    rw [run_reading, messageHeader, run_bind, run_advance h, remaining_start, halign]
    simp only [run_liftM, MessageHeader.read_of_le (Nat.le_of_eq htake.symm), hheader, htake]
    simp [start, Except.mapError]
  have hreport : (reading (do KernelError.read (← get).remaining)).run
      ⟨message, MessageHeader.size⟩ =
        ((KernelError.read (message.drop MessageHeader.size)).mapError .decode,
          ⟨message, MessageHeader.size⟩) := by
    rw [run_reading, run_bind, run_get]
    simp only [run_liftM, remaining]
  rw [scan, checkHeader, run_bind, hmessage]
  by_cases hport : (MessageHeader.ofBytes message).port = port
  · by_cases hsequence : (MessageHeader.ofBytes message).sequence = sequence
    · by_cases herror : (MessageHeader.ofBytes message).isError = true
      · cases hread : KernelError.read (message.drop MessageHeader.size) with
        | error e => simp [hport, hsequence, herror, hread, run_bind, hreport, Except.mapError]
        | ok report =>
          by_cases hcode : report.code = 0 <;>
            simp [hport, hsequence, herror, hread, run_bind, hreport, Except.mapError, hcode,
              run_throw, run_pure]
      · simp [hport, hsequence, herror, run_pure]
    · simp [hport, hsequence, run_pure]
  · simp [hport, run_throw]

/-- Only a message for the port and of the sequence number is an answer. -/
theorem answers_of_scan {port sequence : UInt32} {message : Bytes} {header : MessageHeader}
    (hsize : MessageHeader.size ≤ message.length)
    (h : scan (checkHeader port sequence) message = .ok (.answer header)) :
    (MessageHeader.ofBytes message).port = port ∧
      (MessageHeader.ofBytes message).sequence = sequence := by
  rw [scan_checkHeader port sequence hsize] at h
  by_cases hport : (MessageHeader.ofBytes message).port = port
  · by_cases hsequence : (MessageHeader.ofBytes message).sequence = sequence
    · exact ⟨hport, hsequence⟩
    · simp [hport, hsequence] at h
  · simp [hport] at h

end Cursor

namespace Endpoint

variable {τ : Type}

/-- What the judge of a request says of a message, wherever it comes from. -/
def answering (port sequence : UInt32) (message : Bytes) : Act τ (Option Bytes) := do
  match ← MonadExcept.ofExcept (Cursor.scan (Cursor.checkHeader port sequence) message) with
  | .answer _ => return some message
  | .stray _ => return none

theorem outcome_answering (port sequence : UInt32) (message : Bytes) (t : τ) :
    Act.outcome (answering port sequence message) t =
      (match Cursor.scan (Cursor.checkHeader port sequence) message with
        | .error f => .error f
        | .ok (.answer _) => .ok (some message)
        | .ok (.stray _) => .ok none, t) := by
  rw [answering, Act.outcome_bind, Act.outcome_ofExcept]
  rcases Cursor.scan (Cursor.checkHeader port sequence) message with _ | ⟨_ | _⟩ <;> rfl

/-- What the judge of a dump says of a message, wherever it comes from. -/
def parting (port sequence : UInt32) (consume : Bytes → Act τ Unit) (message : Bytes) :
    Act τ (Option Unit) := do
  match ← MonadExcept.ofExcept (Cursor.scan (Cursor.checkHeader port sequence) message) with
  | .answer h =>
    if h.isDone || h.isError then return some ()
    consume message
    return none
  | .stray _ => return none

theorem outcome_check (sequence : UInt32) (message : Bytes) (e : Endpoint) :
    Act.outcome (check sequence message) e =
      (Cursor.scan (Cursor.checkHeader e.port sequence) message, e) := by
  rw [check, Act.outcome_bind, Act.outcome_get]
  exact Act.outcome_ofExcept _ e

/-- The judge of a request is one. -/
theorem judges_answer (port sequence : UInt32) :
    Judges (answer sequence : Bytes → Act (τ × Endpoint) (Option Bytes)) port
      (answering port sequence) := by
  rintro message t e rfl
  simp only [answer, answering, Act.outcome_bind, Act.outcome_onSecond, outcome_check,
    Act.outcome_ofExcept]
  rcases Cursor.scan (Cursor.checkHeader e.port sequence) message with g | ⟨h | h⟩
  · exact ⟨e.link.logbook, rfl⟩
  · exact ⟨e.link.logbook, rfl⟩
  · exact ⟨_, rfl⟩

/-- The judge of a dump is one. -/
theorem judges_part (port sequence : UInt32) (consume : Bytes → Act τ Unit) :
    Judges (part consume sequence) port (parting port sequence consume) := by
  rintro message t e rfl
  simp only [part, parting, Act.outcome_bind, Act.outcome_onSecond, outcome_check,
    Act.outcome_ofExcept]
  rcases Cursor.scan (Cursor.checkHeader e.port sequence) message with g | ⟨h | h⟩
  · exact ⟨e.link.logbook, rfl⟩
  · by_cases hend : (h.isDone || h.isError) = true
    · simp only [if_pos hend]
      exact ⟨e.link.logbook, rfl⟩
    · simp only [if_neg hend, Act.outcome_bind, Act.outcome_onFirst]
      refine ⟨e.link.logbook, ?_⟩
      rcases Act.outcome (consume message) t with ⟨_ | _, t'⟩ <;> rfl
  · exact ⟨_, rfl⟩

/-! ### Requests and dumps -/

/-- What answers a request is one of the messages, for the port and of the sequence number. -/
theorem answers_of_settle_answering {port sequence : UInt32} {messages : List Bytes}
    {failure : Failure} {message : Bytes} {t : τ}
    (hsize : ∀ m ∈ messages, MessageHeader.size ≤ m.length)
    (h : (Act.outcome (settle (answering port sequence) messages failure) t).1 = .ok message) :
    message ∈ messages ∧ (MessageHeader.ofBytes message).port = port ∧
      (MessageHeader.ofBytes message).sequence = sequence := by
  induction messages generalizing t with
  | nil => cases h
  | cons head rest ih =>
    have hrest : ∀ m ∈ rest, MessageHeader.size ≤ m.length :=
      fun m hm => hsize m (List.mem_cons_of_mem head hm)
    rw [outcome_settle_cons, answering, Act.outcome_bind, Act.outcome_ofExcept] at h
    cases hscan : Cursor.scan (Cursor.checkHeader port sequence) head with
    | error g =>
      rw [hscan] at h
      cases h
    | ok relevance =>
      rw [hscan] at h
      cases relevance with
      | answer header =>
        obtain rfl : head = message := by simpa using h
        exact ⟨List.mem_cons_self, Cursor.answers_of_scan (hsize head List.mem_cons_self) hscan⟩
      | stray header =>
        obtain ⟨hmem, hanswers⟩ := ih hrest h
        exact ⟨List.mem_cons_of_mem head hmem, hanswers⟩

theorem outcome_request (draft : Draft) (e : Endpoint) :
    Act.outcome (request draft) e = ((Act.outcome (converse draft answer) ((), e)).1,
      (Act.outcome (converse draft answer) ((), e)).2.2) := by
  rw [request, converse, Act.outcome_bind, Act.outcome_bind, Act.outcome_onSecond]
  rcases Act.outcome (send draft) e with ⟨_ | sequence, e₁⟩ <;> rfl

/-! ### Strays -/

/-- A message is a stray to a port and a sequence number if it is for the port and carries another
sequence number, whatever else it says. -/
def IsStray (port sequence : UInt32) (message : Bytes) : Prop :=
  (MessageHeader.ofBytes message).port = port ∧
    (MessageHeader.ofBytes message).sequence ≠ sequence

instance (port sequence : UInt32) (message : Bytes) : Decidable (IsStray port sequence message) :=
  inferInstanceAs (Decidable (_ ∧ _))

theorem scan_of_isStray {port sequence : UInt32} {message : Bytes}
    (hsize : MessageHeader.size ≤ message.length) (h : IsStray port sequence message) :
    Cursor.scan (Cursor.checkHeader port sequence) message =
      .ok (.stray (MessageHeader.ofBytes message)) := by
  rw [Cursor.scan_checkHeader port sequence hsize, if_neg (not_not_intro h.1), if_pos h.2]

theorem outcome_answering_of_isStray {port sequence : UInt32} {message : Bytes}
    (hsize : MessageHeader.size ≤ message.length) (h : IsStray port sequence message) (t : τ) :
    Act.outcome (answering port sequence message) t = (.ok none, t) := by
  rw [answering, scan_of_isStray hsize h]
  rfl

theorem outcome_parting_of_isStray {port sequence : UInt32} {message : Bytes}
    (consume : Bytes → Act τ Unit) (hsize : MessageHeader.size ≤ message.length)
    (h : IsStray port sequence message) (t : τ) :
    Act.outcome (parting port sequence consume message) t = (.ok none, t) := by
  rw [parting, scan_of_isStray hsize h]
  rfl

/-- A message to the port 5, for runs on fixed inputs. -/
def tell (type : UInt16) (sequence : UInt32) (body : Bytes) : Bytes :=
  MessageHeader.toBytes ⟨16 + UInt32.ofNat body.length, type, 2, sequence, 5⟩ ++ body

end Endpoint

end VSwitch
