import Mathlib
import VSwitch.Proofs.Correlation
import VSwitch.Proofs.Errand
import VSwitch.Proofs.Extent
import VSwitch.Proofs.Failing

/-!
# Looking a family up

A lookup sends one request and fails as requests do. Only if the kernel answers the request with an
error does it fail with one, and this depends on nothing but the messages that arrive: an error of
the socket with the same number is none, and neither is an error that belongs to another request.

* `VSwitch.Endpoint.IsRefused` says what it means that the kernel answers a request with an error,
  and `VSwitch.Endpoint.request_eq_kernel_iff` that the request fails with it then and only then;
* `VSwitch.Family.IsName` are the names that can be asked for, and
  `VSwitch.Family.exists_calls_lookup` says that asking for one of them is one call that sends;
* `VSwitch.Family.IsUnknown` says that the kernel answers that there is no such family;
* `VSwitch.Family.outcome_resolve`: a family is looked up once or twice.
-/

namespace VSwitch

/-! ### Errors as answers -/

/-- Receiving fails in other ways than by an error of the kernel. -/
theorem incoming_ne_kernel (sequence : UInt32) (capacity : Nat) (drained : SocketError)
    (arrivals : List Arrival) (report : KernelError) :
    (incoming sequence capacity drained arrivals).2 ≠ .kernel report := by
  induction arrivals with
  | nil =>
    intro h
    cases h
  | cons a rest ih =>
    have hfailure : ∀ failure, (a.messages sequence capacity).2 = some failure →
        failure ≠ .kernel report := by
      rintro failure h rfl
      rw [Arrival.messages] at h
      split at h
      · cases h
      · split at h
        · obtain ⟨e, -, he⟩ := Option.map_eq_some_iff.1 h
          cases he
        · cases h
    rw [incoming]
    rcases hmessages : a.messages sequence capacity with ⟨messages, _ | failure⟩
    · exact ih
    · exact hfailure failure (by rw [hmessages])

namespace Endpoint

/-- A message by which the kernel refuses a request. -/
structure Refuses (port sequence : UInt32) (report : KernelError) (message : Bytes) : Prop where
  port_eq : (MessageHeader.ofBytes message).port = port
  sequence_eq : (MessageHeader.ofBytes message).sequence = sequence
  isError : (MessageHeader.ofBytes message).isError = true
  read_eq : KernelError.read (message.drop MessageHeader.size) = .ok report
  code_ne : report.code ≠ 0

variable {port sequence : UInt32} {report : KernelError} {message : Bytes}

theorem scan_eq_kernel_iff (hsize : MessageHeader.size ≤ message.length) :
    Cursor.scan (Cursor.checkHeader port sequence) message = .error (.kernel report) ↔
      Refuses port sequence report message := by
  rw [Cursor.scan_checkHeader port sequence hsize]
  constructor
  · intro h
    split at h
    · cases h
    split at h
    · cases h
    split at h
    · split at h
      · cases h
      · split at h
        · cases h
          rename_i hport hsequence herror _ hread hcode
          exact ⟨not_not.1 hport, not_not.1 hsequence, herror, hread, hcode⟩
        · cases h
    · cases h
  · rintro ⟨hport, hsequence, herror, hread, hcode⟩
    rw [if_neg (not_not_intro hport), if_neg (not_not_intro hsequence), if_pos herror, hread]
    exact if_pos hcode

theorem exists_scan_eq_stray_iff (hsize : MessageHeader.size ≤ message.length) :
    (∃ header, Cursor.scan (Cursor.checkHeader port sequence) message = .ok (.stray header)) ↔
      IsStray port sequence message := by
  refine ⟨?_, fun h => ⟨_, scan_of_isStray hsize h⟩⟩
  rintro ⟨header, h⟩
  rw [Cursor.scan_checkHeader port sequence hsize] at h
  split at h
  · cases h
  split at h
  · rename_i hport hsequence
    exact ⟨not_not.1 hport, hsequence⟩
  split at h
  · split at h
    · cases h
    · split at h <;> cases h
  · cases h

/-- Behind some strays there is a message that refuses the request. -/
def Declines (port sequence : UInt32) (report : KernelError) (messages : List Bytes) : Prop :=
  ∃ strays message rest, messages = strays ++ message :: rest ∧
    (∀ m ∈ strays, IsStray port sequence m) ∧ Refuses port sequence report message

theorem declines_cons_iff {rest : List Bytes} :
    Declines port sequence report (message :: rest) ↔ Refuses port sequence report message ∨
      IsStray port sequence message ∧ Declines port sequence report rest := by
  constructor
  · rintro ⟨strays, m, rest', heq, hstrays, hm⟩
    cases strays with
    | nil =>
      obtain ⟨rfl, -⟩ := List.cons.inj heq
      exact .inl hm
    | cons stray strays =>
      obtain ⟨rfl, rfl⟩ := List.cons.inj heq
      exact .inr ⟨hstrays _ List.mem_cons_self, strays, m, rest', rfl,
        fun m hm => hstrays m (List.mem_cons_of_mem _ hm), hm⟩
  · rintro (h | ⟨hstray, strays, m, rest', rfl, hstrays, hm⟩)
    · exact ⟨[], message, rest, rfl, by simp, h⟩
    · exact ⟨message :: strays, m, rest', rfl, List.forall_mem_cons.2 ⟨hstray, hstrays⟩, hm⟩

/-- **The kernel's error is the answer** exactly if nothing but strays comes before it. -/
theorem settle_answering_eq_kernel_iff {τ : Type} {messages : List Bytes} {failure : Failure}
    {t : τ} (hsize : ∀ m ∈ messages, MessageHeader.size ≤ m.length)
    (hfailure : failure ≠ .kernel report) :
    (Act.outcome (settle (answering port sequence) messages failure) t).1 =
        .error (.kernel report) ↔ Declines port sequence report messages := by
  induction messages generalizing t with
  | nil =>
    constructor
    · intro h
      exact absurd (Except.error.inj h) hfailure
    · rintro ⟨strays, m, rest, h, -⟩
      cases List.append_ne_nil_of_right_ne_nil strays (List.cons_ne_nil m rest) h.symm
  | cons message rest ih =>
    obtain ⟨hhead, htail⟩ := List.forall_mem_cons.1 hsize
    have hrest := ih htail (t := t)
    rw [outcome_settle_cons, declines_cons_iff, ← scan_eq_kernel_iff hhead,
      ← exists_scan_eq_stray_iff hhead, outcome_answering]
    -- Only a stray leaves the decision to the messages behind it.
    rcases Cursor.scan (Cursor.checkHeader port sequence) message with g | ⟨header | header⟩
    · simp
    · simp
    · simpa using hrest

/-- The kernel answers a request with an error: the message goes out, and the first message for the
port and of its sequence number, which follows nothing but strays, reports the error. -/
def IsRefused (draft : Draft) (e : Endpoint) (report : KernelError) : Prop :=
  ∃ message, draft.finish e.link.nextSequence = .ok message ∧
    Link.SendOutcome.result message.length (e.link.outcomes.headD .delivered) = .ok () ∧
    Declines e.port e.link.nextSequence report ((e.sending message).stream e.link.inbox).1

theorem request_eq_kernel_iff {draft : Draft} {e : Endpoint} :
    (Act.outcome (request draft) e).1 = .error (.kernel report) ↔ IsRefused draft e report := by
  rw [outcome_request, outcome_converse, IsRefused]
  cases draft.finish e.link.nextSequence with
  | error cause => simp
  | ok message =>
    obtain ⟨_, _, _, -, -, hrun, -⟩ := exchange_run (e := e.sending message)
      (judges_answer e.port e.link.nextSequence) ()
    have hdeclines : (Act.outcome (settling (answering e.port e.link.nextSequence)
        (e.sending message) e.link.inbox) ()).1 = .error (.kernel report) ↔ _ :=
      settle_answering_eq_kernel_iff (fun m hm => size_le_of_mem_incoming hm)
        (incoming_ne_kernel _ _ _ e.link.inbox report)
    simp only
    cases hsent : Link.SendOutcome.result message.length (e.link.outcomes.headD .delivered) with
    | error cause =>
      constructor
      · intro h
        cases h
      · rintro ⟨m, hm, hgone, -⟩
        obtain rfl := Except.ok.inj hm
        rw [hsent] at hgone
        cases hgone
    | ok _ =>
      simp only [hrun, Except.ok.injEq, exists_eq_left', hsent, true_and]
      exact hdeclines

/-- **A request makes one call that sends**, and then it receives. -/
theorem exists_calls_request {draft : Draft} {e : Endpoint} {message : Bytes}
    (h : draft.finish e.link.nextSequence = .ok message) :
    ∃ n, (Act.outcome (request draft) e).2.link.calls = List.replicate n .receive ++
      .send message (e.link.outcomes.headD .delivered) :: e.link.calls := by
  rw [outcome_request, outcome_converse, h]
  simp only
  cases Link.SendOutcome.result message.length (e.link.outcomes.headD .delivered) with
  | error cause => exact ⟨0, rfl⟩
  | ok _ =>
    obtain ⟨_, _, e', -, hreceived, hrun, -⟩ := exchange_run (e := e.sending message)
      (judges_answer e.port e.link.nextSequence) ()
    simp only [hrun]
    exact hreceived.calls

end Endpoint

/-! ### Asking for a family -/

namespace Family

/-- A name that can be asked for: it has no zero in it and fits into an attribute, with the zero
that ends it. -/
def IsName (name : String) : Prop :=
  ¬ name.contains '\x00' = true ∧
    AttributeHeader.size + ((Utf8.encode name).length + 1) ≤ Draft.maxAttributeLength

theorem areAttributes_request (name : String) : Put.AreAttributes (request name).attributes :=
  ⟨trivial, trivial⟩

theorem not_unwritable_request {name : String} (h : IsName name) : ¬ (request name).Unwritable := by
  rintro (⟨p, hp, hoffends⟩ | hlong)
  · obtain rfl := List.mem_singleton.1 hp
    rcases Put.offends_text_iff.1 hoffends with hnul | hname
    · exact h.1 hnul
    · exact absurd h.2 (Nat.not_le.2 hname)
  · -- What fits into an attribute is far below what a message may hold.
    have hname := h.2
    have hhead : (request name).head.length = GenericHeader.size := rfl
    have hextents : Put.extents (request name).attributes =
        align4 (AttributeHeader.size + ((Utf8.encode name).length + 1)) + 0 := by
      simp only [request, Put.extents, Put.extent]
    rw [hhead, hextents] at hlong
    simp only [align4, Draft.maxLength, Draft.maxAttributeLength, MessageHeader.size,
      GenericHeader.size] at hname hlong
    omega

/-- **A name can be asked for**, whatever the sequence number is. -/
theorem exists_finish {name : String} (h : IsName name) : ∃ draft,
    (request name).draft = .ok draft ∧
      ∀ sequence, ∃ message, draft.finish sequence = .ok message := by
  rcases Request.draft_cases (areAttributes_request name) with ⟨-, hfinish⟩ | ⟨hunwritable, -⟩
  · exact hfinish
  · exact absurd hunwritable (not_unwritable_request h)

/-- Asking for a family fails as exchanges do. -/
theorem failsIn_lookup (name : String) : Act.FailsIn Failure.IsOfExchange (lookup name) :=
  .bind (.ofEncode fun e _ => .encode e) fun _ =>
    .bind (Endpoint.failsIn_request (fun _ h => h.isOfExchange) fun _ e _ => .encode e) fun _ =>
      .bind (.ofDecode .decode) fun _ => .bind (.debug _) fun _ => .pure _

/-- The kernel answers a request for a family, made from an endpoint, with the error that there is
none. -/
def IsUnknown (name : String) (e : Endpoint) : Prop :=
  ∃ draft report, (request name).draft = .ok draft ∧ Endpoint.IsRefused draft e report ∧
    report.errno = .ok Errno.noEntry

/-- Whether it is an answer of the kernel that there is no such family. -/
def isMissing : Except Failure Family → Bool
  | .error f => f.bears Errno.noEntry
  | .ok _ => false

theorem isMissing_iff {r : Except Failure Family} : isMissing r = true ↔
    ∃ report, r = .error (.kernel report) ∧ report.errno = .ok Errno.noEntry := by
  cases r with
  | ok family => simp [isMissing]
  | error f => simp [isMissing, Failure.bears_iff]

/-- **The kernel's error is what a lookup fails with.** -/
theorem lookup_eq_kernel_iff {name : String} {e : Endpoint} {report : KernelError} :
    (Act.outcome (lookup name) e).1 = .error (.kernel report) ↔
      ∃ draft, (request name).draft = .ok draft ∧ Endpoint.IsRefused draft e report := by
  rw [lookup, Act.outcome_bind, Act.outcome_ofEncode]
  cases (request name).draft with
  | error cause => simp [Except.mapError]
  | ok draft =>
    simp only [Except.mapError, Except.ok.injEq, exists_eq_left']
    rw [Act.outcome_bind, ← Endpoint.request_eq_kernel_iff]
    rcases Act.outcome (Endpoint.request draft) e with ⟨f | answer, e'⟩
    · simp
    · simp only [Act.outcome_bind, Act.outcome_ofDecode]
      cases parse name answer with
      | error cause => simp [Except.mapError]
      | ok family => simp [Except.mapError]

theorem isMissing_lookup_iff {name : String} {e : Endpoint} :
    isMissing (Act.outcome (lookup name) e).1 = true ↔ IsUnknown name e := by
  rw [isMissing_iff, IsUnknown]
  constructor
  · rintro ⟨report, h, herrno⟩
    obtain ⟨draft, hdraft, hrefused⟩ := lookup_eq_kernel_iff.1 h
    exact ⟨draft, report, hdraft, hrefused, herrno⟩
  · rintro ⟨draft, report, hdraft, hrefused, herrno⟩
    exact ⟨report, lookup_eq_kernel_iff.2 ⟨draft, hdraft, hrefused⟩, herrno⟩

/-- A message that asks for a family: it goes to the control family, it is well formed, and whoever
reads it finds the name of the family and nothing else. -/
structure IsInquiry (name : String) (message : Bytes) : Prop where
  describes : Outline.control.Describes message
  reads : Cursor.scan Outline.control.read message = .ok (Outline.control.generic, none,
    [(Vocabulary.number ControlAttribute.familyName, Utf8.encode name ++ [0])])

theorem isInquiry_of_yields {name : String} {message : Bytes} (h : (request name).Yields message) :
    IsInquiry name message := by
  obtain ⟨hfits, header, htype, -, rfl⟩ := Request.exists_of_yields (follows_request name).writes h
  have hreads := Request.reads_read (follows_request name) hfits htype
  rw [List.map_singleton, AttributeTree.text, AttributeTree.payload] at hreads
  exact ⟨Request.describes (follows_request name) h, hreads.scan⟩

/-- **A lookup makes one call that sends**, and the message asks for the family. -/
theorem exists_calls_lookup {name : String} (h : IsName name) (e : Endpoint) :
    ∃ message n, IsInquiry name message ∧
      (Act.outcome (lookup name) e).2.link.calls = List.replicate n .receive ++
        .send message (e.link.outcomes.headD .delivered) :: e.link.calls := by
  obtain ⟨draft, hdraft, hfinish⟩ := exists_finish h
  obtain ⟨message, hmessage⟩ := hfinish e.link.nextSequence
  obtain ⟨n, hcalls⟩ := Endpoint.exists_calls_request hmessage
  refine ⟨message, n, isInquiry_of_yields ⟨draft, hdraft, _, hmessage⟩, ?_⟩
  rw [lookup, Act.outcome_bind, Act.outcome_ofEncode, hdraft]
  simp only [Except.mapError]
  rw [Act.outcome_bind, ← hcalls]
  rcases Act.outcome (Endpoint.request draft) e with ⟨f | answer, e'⟩
  · rfl
  · simp only [Act.outcome_bind, Act.outcome_ofDecode]
    cases parse name answer <;> rfl

/-! ### One call -/

/-- What comes of a call if `r` comes of its last lookup: a failure is looked at before it is passed
on. -/
def concluded (name : String) (r : Except Failure Family) : Except Failure Family :=
  if isMissing r then .error (.familyUnavailable name) else r.mapError Failure.passedOn

/-- Nothing is concluded from a lookup but that there is no such family, or that it panics. -/
theorem concluded_eq_self {name : String} {r : Except Failure Family}
    (hmissing : ¬ isMissing r = true)
    (hnumber : ∀ report, r = .error (.kernel report) → ∃ n, report.errno = .ok n) :
    concluded name r = r := by
  rw [concluded, if_neg hmissing]
  cases r with
  | ok family => rfl
  | error f =>
    refine congrArg Except.error (Failure.passedOn_eq_self fun report hf => ?_)
    exact hnumber report (congrArg Except.error hf)

theorem concluded_of_overflow {name : String} {report : KernelError} {cause : Overflow}
    (h : report.errno = .error cause) :
    concluded name (.error (.kernel report)) = .error (.overflow cause) := by
  have hmissing : ¬ isMissing (.error (.kernel report)) = true := Failure.not_bears_of_overflow h _
  rw [concluded, if_neg hmissing]
  exact congrArg Except.error (Failure.passedOn_of_overflow h)

/-- **A call** looks a family up, and once more behind the probe if it is to and the kernel does not
know the family. -/
theorem outcome_resolve {σ : Type} (lookup : String → Act σ Family) (probe : StateM σ Unit)
    (autoload : Bool) (name : String) (s : σ) :
    Act.outcome (resolve lookup probe autoload name) s =
      let (first, t) := Act.outcome (lookup name) s
      if autoload && isMissing first then
        let (second, u) := Act.outcome (lookup name) (probe t).2
        (concluded name second, u)
      else (concluded name first, t) := by
  rw [resolve, Act.outcome_bind, Act.outcome_attempt]
  -- A first failure that says nothing about the family is the last word, whatever `autoload` is.
  rcases Act.outcome (lookup name) s with ⟨f | family, t⟩
  · simp only
    rw [Act.outcome_isKernelErrno_bind rfl]
    by_cases hmissing : f.bears Errno.noEntry = true
    · have hfirst : isMissing (.error f) = true := hmissing
      simp only [if_pos hmissing]
      cases autoload with
      | false => simp [hfirst, concluded]
      | true =>
        simp only [if_pos, hfirst, Bool.and_self]
        rw [Act.outcome_bind, Act.outcome_lift]
        simp only
        rw [Act.outcome_bind, Act.outcome_attempt]
        rcases Act.outcome (lookup name) (probe t).2 with ⟨g | family, u⟩
        · simp only
          rw [Act.outcome_isKernelErrno_bind rfl]
          by_cases hagain : g.bears Errno.noEntry = true
          · simp [concluded, isMissing, hagain]
          · simp [concluded, isMissing, hagain, Except.mapError]
        · rfl
    · have hfirst : isMissing (.error f) = false := Bool.not_eq_true _ ▸ hmissing
      simp only [if_neg hmissing, hfirst, Bool.and_false]
      simp [concluded, hfirst, Except.mapError]
  · simp [isMissing, concluded, Except.mapError]

end Family

end VSwitch
