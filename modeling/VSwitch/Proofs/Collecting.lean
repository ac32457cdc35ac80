import Mathlib
import VSwitch.Proofs.Answering
import VSwitch.Proofs.Dump
import VSwitch.Session

/-!
# Which replies a session reads

What a session returns is read from replies of the kernel: from the message that answers a request,
or from the parts of a dump. Here it is told which replies these are, apart from what is read from
them, so that it can be said of every operation what its result is made of.

* `VSwitch.Session.answers` is the message that answers a request, and `VSwitch.Session.parts` are
  the messages that a dump is made of;
* `VSwitch.Session.ComesTo` says what a request comes to by what arrives, and
  `VSwitch.Session.mem_answers_iff_comesTo` that the answer is one that it comes to;
* `VSwitch.Session.forall₂_of_collect`: what a dump collects is what its parts say, one by one;
* `VSwitch.Session.collect_eq_error`: one part that cannot be read fails the dump;
* `VSwitch.Session.awaits_of_mem_answers` and `VSwitch.Session.awaits_of_mem_parts`: all of them are
  replies to the request, for its port and with its sequence number.
-/

namespace VSwitch

variable {α : Type}

/-! ### Reading one part after the other -/

namespace Endpoint

variable {decode : Bytes → Except Failure α}

theorem outcome_forM_gather_cons (message : Bytes) (rest : List Bytes) (found : List α) :
    Act.outcome ((message :: rest).forM (gather decode)) found = match decode message with
      | .ok a => Act.outcome (rest.forM (gather decode)) (a :: found)
      | .error f => (.error f, found) := by
  have hforM : (message :: rest).forM (gather decode) =
      (do gather decode message; rest.forM (gather decode)) := rfl
  rw [hforM, Act.outcome_bind, gather, Act.outcome_bind, Act.outcome_ofExcept]
  cases decode message <;> rfl

/-- **What is gathered** is what the messages say, the newest first. -/
theorem forall₂_of_forM_gather {messages : List Bytes} {found found' : List α}
    (h : Act.outcome (messages.forM (gather decode)) found = (.ok (), found')) :
    ∃ data, List.Forall₂ (fun m a => decode m = .ok a) messages data ∧
      found' = data.reverse ++ found := by
  induction messages generalizing found with
  | nil =>
    cases h
    exact ⟨[], .nil, rfl⟩
  | cons message rest ih =>
    rw [outcome_forM_gather_cons] at h
    cases hdecode : decode message with
    | error f =>
      rw [hdecode] at h
      cases h
    | ok a =>
      rw [hdecode] at h
      obtain ⟨data, hdata, rfl⟩ := ih h
      refine ⟨a :: data, .cons hdecode hdata, ?_⟩
      rw [List.reverse_cons, List.append_assoc, List.singleton_append]

/-- Gathering fails at the first message that cannot be read. -/
theorem forM_gather_eq_error {before : List Bytes} {message : Bytes} {f : Failure}
    (hbefore : ∀ b ∈ before, ∃ a, decode b = .ok a) (h : decode message = .error f)
    (after : List Bytes) (found : List α) :
    (Act.outcome ((before ++ message :: after).forM (gather decode)) found).1 = .error f := by
  induction before generalizing found with
  | nil =>
    rw [List.nil_append, outcome_forM_gather_cons, h]
  | cons b before ih =>
    obtain ⟨a, ha⟩ := hbefore b List.mem_cons_self
    rw [List.cons_append, outcome_forM_gather_cons, ha]
    exact ih (fun c hc => hbefore c (List.mem_cons_of_mem b hc)) (a :: found)

end Endpoint

/-! ### Dumps -/

/-- What a dump does to the state of its consumer, by the messages that arrive and the failure that
comes after them. -/
def Dump.feed {τ : Type} (port sequence : UInt32) (consume : Bytes → Act τ Unit)
    (arriving : List Bytes × Failure) : Act τ Unit := do
  (parts port sequence arriving.1).forM consume
  MonadExcept.ofExcept (result port sequence arriving.1 arriving.2)

namespace Endpoint

variable {τ : Type} {draft : Draft} {sequence : UInt32} {e e₁ : Endpoint}

/-- **A dump calls its consumer** with its parts, until it fails, and ends as its messages say. -/
theorem exists_outcome_dump (hsend : Act.outcome (send draft) e = (.ok sequence, e₁))
    (consume : Bytes → Act τ Unit) (t : τ) :
    ∃ e₂, Act.outcome (dump draft consume) (t, e) =
      ((Act.outcome (Dump.feed e.port sequence consume (e₁.stream e.link.inbox)) t).1,
        (Act.outcome (Dump.feed e.port sequence consume (e₁.stream e.link.inbox)) t).2, e₂) := by
  obtain ⟨-, message, -, rfl⟩ := exists_of_send hsend
  obtain ⟨_, _, e₂, -, -, hrun, -⟩ := exchange_run (e := e.sending message)
    (judges_part e.port sequence consume) t
  have hheaders : ∀ m ∈ ((e.sending message).stream e.link.inbox).1,
      MessageHeader.size ≤ m.length := fun m hm => size_le_of_mem_incoming hm
  have hsettle := Dump.outcome_settle_parting e.port sequence consume hheaders
    ((e.sending message).stream e.link.inbox).2 t
  rw [Dump.outcome_fold] at hsettle
  refine ⟨e₂, ?_⟩
  rw [dump, Act.outcome_bind, Act.outcome_onSecond, hsend, Dump.feed, ← hsettle]
  exact hrun

/-- What a dump collects is what its parts say. -/
theorem forall₂_of_collect {decode : Bytes → Except Failure α} {data : List α}
    (hsend : Act.outcome (send draft) e = (.ok sequence, e₁))
    (h : (Act.outcome (collect draft decode) e).1 = .ok data) :
    List.Forall₂ (fun m a => decode m = .ok a)
      (Dump.parts e.port sequence (e₁.stream e.link.inbox).1) data := by
  obtain ⟨e₂, hdump⟩ := exists_outcome_dump hsend (gather decode) []
  rw [collect, Act.outcome_starting, Act.outcome_bind, hdump, Dump.feed, Act.outcome_bind] at h
  rcases hgather : Act.outcome ((Dump.parts e.port sequence (e₁.stream e.link.inbox).1).forM
    (gather decode)) [] with ⟨f | _, found⟩
  · rw [hgather] at h
    cases h
  · obtain ⟨data', hdata, rfl⟩ := forall₂_of_forM_gather hgather
    rw [hgather] at h
    simp only [Act.outcome_ofExcept, List.append_nil] at h
    cases hresult : Dump.result e.port sequence (e₁.stream e.link.inbox).1
      (e₁.stream e.link.inbox).2 with
    | error f =>
      rw [hresult] at h
      cases h
    | ok _ =>
      rw [hresult] at h
      have hreverse : data'.reverse.reverse = data := Except.ok.inj h
      rw [List.reverse_reverse] at hreverse
      exact hreverse ▸ hdata

/-- A part that cannot be read fails the dump. -/
theorem collect_eq_error {decode : Bytes → Except Failure α} {before after : List Bytes}
    {message : Bytes} {f : Failure} (hsend : Act.outcome (send draft) e = (.ok sequence, e₁))
    (hparts : Dump.parts e.port sequence (e₁.stream e.link.inbox).1 = before ++ message :: after)
    (hbefore : ∀ b ∈ before, ∃ a, decode b = .ok a) (h : decode message = .error f) :
    (Act.outcome (collect draft decode) e).1 = .error f := by
  obtain ⟨e₂, hdump⟩ := exists_outcome_dump hsend (gather decode) []
  have hgather := forM_gather_eq_error hbefore h after []
  rw [← hparts] at hgather
  rw [collect, Act.outcome_starting, Act.outcome_bind, hdump, Dump.feed, Act.outcome_bind]
  rcases hrun : Act.outcome ((Dump.parts e.port sequence (e₁.stream e.link.inbox).1).forM
    (gather decode)) [] with ⟨f' | _, found⟩
  · rw [hrun] at hgather
    obtain rfl := Except.error.inj hgather
    rfl
  · rw [hrun] at hgather
    cases hgather

end Endpoint

/-! ### Replies -/

namespace Session

/-- The message that answers a request, if it is answered. -/
def answers (r : Request) (s : Session) : List Bytes :=
  match (Act.outcome (request r) s).1 with
  | .ok message => [message]
  | .error _ => []

/-- The messages that a dump is made of: there are none if its message is not sent. -/
def parts (r : Request) (s : Session) : List Bytes :=
  match (Act.outcome (do let draft ← Act.ofEncode r.draft; onEndpoint (Endpoint.send draft)) s) with
  | (.ok sequence, s') =>
    Dump.parts s.endpoint.port sequence (s'.endpoint.stream s.endpoint.link.inbox).1
  | (.error _, _) => []

variable {r : Request} {s : Session} {message : Bytes}

theorem mem_answers_iff :
    message ∈ answers r s ↔ (Act.outcome (request r) s).1 = .ok message := by
  rw [answers]
  cases (Act.outcome (request r) s).1 with
  | ok found => simp [eq_comm]
  | error f => simp

theorem outcome_onEndpoint (hopen : s.isOpen = true) (act : Act Endpoint α) :
    Act.outcome (onEndpoint act) s = ((Act.outcome act s.endpoint).1,
      { s with endpoint := (Act.outcome act s.endpoint).2 }) := by
  rw [onEndpoint, Act.outcome_bind, Act.outcome_get]
  simp only [if_pos hopen]
  rfl

theorem outcome_onEndpoint_of_not_isOpen (hopen : ¬ s.isOpen = true) (act : Act Endpoint α) :
    Act.outcome (onEndpoint act) s = (.error .closed, s) := by
  rw [onEndpoint, Act.outcome_bind, Act.outcome_get]
  simp only [if_neg hopen]
  rfl

/-- A request of a session comes to a result by what arrives: the session is open, the request can
be written, and the arrivals have it come to this. -/
def ComesTo (r : Request) (s : Session) (result : Except Failure Bytes) : Prop :=
  s.isOpen = true ∧ ∃ draft, r.draft = .ok draft ∧ Endpoint.ComesTo draft s.endpoint result

/-- **What a request returns is what it comes to**, unless this may be for want of sending. -/
theorem request_eq_iff_comesTo {result : Except Failure Bytes}
    (hsent : ∀ f, result = .error f → ¬ f.IsUnsent) :
    (Act.outcome (request r) s).1 = result ↔ ComesTo r s result := by
  rw [request, Act.outcome_bind, Act.outcome_ofEncode, ComesTo]
  cases r.draft with
  | error cause =>
    refine iff_of_false (fun h => hsent _ h.symm (.encode cause)) ?_
    rintro ⟨-, draft, h, -⟩
    cases h
  | ok draft =>
    simp only [Except.mapError, Except.ok.injEq, exists_eq_left']
    by_cases hopen : s.isOpen = true
    · rw [outcome_onEndpoint hopen]
      simp only [Endpoint.request_eq_iff_comesTo hsent, hopen, true_and]
    · rw [outcome_onEndpoint_of_not_isOpen hopen]
      exact iff_of_false (fun h => hsent _ h.symm .closed) fun h => hopen h.1

theorem request_eq_kernel_iff_comesTo {report : KernelError} :
    (Act.outcome (request r) s).1 = .error (.kernel report) ↔
      ComesTo r s (.error (.kernel report)) := by
  refine request_eq_iff_comesTo fun f hf hunsent => ?_
  cases hf
  cases hunsent

theorem mem_answers_iff_comesTo : message ∈ answers r s ↔ ComesTo r s (.ok message) := by
  rw [mem_answers_iff]
  refine request_eq_iff_comesTo fun f hf => ?_
  cases hf

/-- One error of the kernel is turned into an outcome, and other failures are passed on. -/
theorem outcome_unlessKernel (errno : Int32) (act : Act Session α) (s : Session) :
    Act.outcome (unlessKernel errno act) s = match Act.outcome act s with
      | (.ok a, t) => (.ok (some a), t)
      | (.error f, t) => if f.bears errno then (.ok none, t) else (.error f.passedOn, t) := by
  rw [unlessKernel, Act.outcome_bind, Act.outcome_attempt]
  rcases Act.outcome act s with ⟨f | a, t⟩
  · exact Act.outcome_isKernelErrno_bind rfl
  · rfl

/-- What comes of an operation that goes on with what there is, or says that there is nothing. -/
theorem result_unlessKernel {β : Type} {errno : Int32} (act : Act Session α)
    {k : Option α → Act Session β} {g : α → Except Failure β} {b : β}
    (hnone : ∀ t, (Act.outcome (k none) t).1 = .ok b)
    (hsome : ∀ a t, (Act.outcome (k (some a)) t).1 = g a) (s : Session) :
    (Act.outcome (unlessKernel errno act >>= k) s).1 = match (Act.outcome act s).1 with
      | .ok a => g a
      | .error f => if f.bears errno then .ok b else .error f.passedOn := by
  rw [Act.outcome_bind, outcome_unlessKernel]
  rcases Act.outcome act s with ⟨f | a, t⟩
  · simp only
    cases f.bears errno with
    | true => exact hnone t
    | false => rfl
  · exact hsome a t

variable (r s) in
/-- **A dump of a session** is one of its endpoint, or its message is not sent, and then it fails
without parts. -/
theorem exists_send_or_parts_eq_nil (decode : Bytes → Except Failure α) :
    (∃ draft sequence e₁, Act.outcome (Endpoint.send draft) s.endpoint = (.ok sequence, e₁) ∧
        parts r s = Dump.parts s.endpoint.port sequence (e₁.stream s.endpoint.link.inbox).1 ∧
        (Act.outcome (collect r decode) s).1 =
          (Act.outcome (Endpoint.collect draft decode) s.endpoint).1) ∨
      parts r s = [] ∧ ∃ f, (Act.outcome (collect r decode) s).1 = .error f := by
  rw [parts, collect, Act.outcome_bind, Act.outcome_bind, Act.outcome_ofEncode]
  cases r.draft with
  | error cause => exact .inr ⟨rfl, _, rfl⟩
  | ok draft =>
    simp only [Except.mapError]
    by_cases hopen : s.isOpen = true
    · rw [outcome_onEndpoint hopen, outcome_onEndpoint hopen]
      rcases hsend : Act.outcome (Endpoint.send draft) s.endpoint with ⟨f | sequence, e₁⟩
      · refine .inr ⟨rfl, f, ?_⟩
        rw [Endpoint.collect, Act.outcome_starting, Act.outcome_bind, Endpoint.dump,
          Act.outcome_bind, Act.outcome_onSecond, hsend]
      · exact .inl ⟨draft, sequence, e₁, hsend, rfl, rfl⟩
    · rw [outcome_onEndpoint_of_not_isOpen hopen, outcome_onEndpoint_of_not_isOpen hopen]
      exact .inr ⟨rfl, _, rfl⟩

/-- **What a dump collects** is what its parts say, one by one and in their order. -/
theorem forall₂_of_collect {decode : Bytes → Except Failure α} {data : List α}
    (h : (Act.outcome (collect r decode) s).1 = .ok data) :
    List.Forall₂ (fun m a => decode m = .ok a) (parts r s) data := by
  rcases exists_send_or_parts_eq_nil r s decode with
    ⟨draft, sequence, e₁, hsend, hparts, hcollect⟩ | ⟨-, f, hf⟩
  · rw [hparts]
    exact Endpoint.forall₂_of_collect hsend (hcollect.symm.trans h)
  · rw [h] at hf
    cases hf

/-- What is collected may be put into other words. -/
theorem forall₂_of_map_collect {β : Type} {decode : Bytes → Except Failure α} {g : α → β}
    {data : List β} (h : (Act.outcome (collect r decode) s).1.map (List.map g) = .ok data) :
    List.Forall₂ (fun m b => (decode m).map g = .ok b) (parts r s) data := by
  obtain ⟨found, hfound, rfl⟩ := map_eq_ok_iff.1 h
  rw [List.forall₂_map_right_iff]
  exact (forall₂_of_collect hfound).imp fun m a ha => map_eq_ok_iff.2 ⟨a, ha, rfl⟩

/-- **One part that cannot be read** fails the dump, whatever comes after it. -/
theorem collect_eq_error {decode : Bytes → Except Failure α} {before after : List Bytes}
    {f : Failure} (hparts : parts r s = before ++ message :: after)
    (hbefore : ∀ b ∈ before, ∃ a, decode b = .ok a) (h : decode message = .error f) :
    (Act.outcome (collect r decode) s).1 = .error f := by
  rcases exists_send_or_parts_eq_nil r s decode with
    ⟨draft, sequence, e₁, hsend, hparts', hcollect⟩ | ⟨hnil, -⟩
  · rw [hparts'] at hparts
    rw [hcollect]
    exact Endpoint.collect_eq_error hsend hparts hbefore h
  · rw [hnil] at hparts
    cases List.append_ne_nil_of_right_ne_nil before (List.cons_ne_nil message after) hparts.symm

theorem map_collect_eq_error {β : Type} {decode : Bytes → Except Failure α} {g : α → β}
    {before after : List Bytes} {f : Failure} (hparts : parts r s = before ++ message :: after)
    (hbefore : ∀ b ∈ before, ∃ d, (decode b).map g = .ok d)
    (h : (decode message).map g = .error f) :
    (Act.outcome (collect r decode) s).1.map (List.map g) = .error f := by
  have hread : ∀ b ∈ before, ∃ a, decode b = .ok a := by
    intro b hb
    obtain ⟨d, hd⟩ := hbefore b hb
    obtain ⟨a, ha, -⟩ := map_eq_ok_iff.1 hd
    exact ⟨a, ha⟩
  exact map_eq_error_iff.2 (collect_eq_error hparts hread (map_eq_error_iff.1 h))

/-! ### Correlation -/

/-- A message is a reply to the next request of a session: it is for its port and carries the
sequence number that comes next. -/
def Awaits (s : Session) (message : Bytes) : Prop :=
  (MessageHeader.ofBytes message).port = s.endpoint.port ∧
    (MessageHeader.ofBytes message).sequence = s.endpoint.link.nextSequence

/-- **Parts are replies.** -/
theorem awaits_of_mem_parts (h : message ∈ parts r s) : s.Awaits message := by
  rcases exists_send_or_parts_eq_nil r s (fun _ => .ok ()) with
    ⟨draft, sequence, e₁, hsend, hparts, -⟩ | ⟨hnil, -⟩
  · obtain ⟨rfl, -⟩ := Endpoint.exists_of_send hsend
    rw [hparts] at h
    exact Dump.answers_of_mem_parts h
  · rw [hnil] at h
    cases h

/-- **What answers a request is a reply.** -/
theorem awaits_of_mem_answers (h : message ∈ answers r s) : s.Awaits message := by
  obtain ⟨-, draft, -, sent, n, left, -, -, hawaits⟩ := mem_answers_iff_comesTo.1 h
  exact (Endpoint.exists_of_awaits hawaits).2

end Session

end VSwitch
