import VSwitch.Proofs.Correlation

/-!
# What decides a request

A request receives one datagram after the other until one of them decides it. A datagram may be
passed, as all its messages are strays, or it decides by the first message in it that is no stray,
or by what is wrong with it behind them.

* `VSwitch.Arrival.Decides` lists the ways in which a datagram decides a request, and
  `VSwitch.Arrival.Passes` says of one that it does not;
* `VSwitch.Arrival.passes_or_decides`: it does the one or the other, and
  `VSwitch.Arrival.Passes.outcome_walk` and `VSwitch.Arrival.Decides.outcome_walk` say what comes of
  walking over its messages then;
* `VSwitch.Endpoint.ComesTo` says what a request comes to by what arrives, and
  `VSwitch.Endpoint.request_eq_iff_comesTo` that this is what is returned;
* `VSwitch.Endpoint.request_decided` is the result: a request sends one message and receives up to
  the datagram that decides it.
-/

namespace VSwitch

/-! ### Datagrams that decide -/

/-- A message of a datagram is reached, as all messages in front of it are strays. -/
def Datagram.Reaches (port sequence : UInt32) (datagram message : Bytes) : Prop :=
  ∃ strays later, (messages datagram).1 = strays ++ message :: later ∧
    ∀ m ∈ strays, Endpoint.IsStray port sequence m

theorem Datagram.Reaches.mem {port sequence : UInt32} {datagram message : Bytes}
    (h : Reaches port sequence datagram message) : message ∈ (messages datagram).1 := by
  obtain ⟨strays, later, hsplit, -⟩ := h
  rw [hsplit]
  exact List.mem_append_right strays List.mem_cons_self

/-- A datagram says nothing to a request: it holds messages alone, and all of them are strays. -/
structure Datagram.IsPassed (port sequence : UInt32) (datagram : Bytes) : Prop where
  splits : (messages datagram).2 = none
  strays : ∀ m ∈ (messages datagram).1, Endpoint.IsStray port sequence m

namespace Arrival

variable (port sequence last : UInt32) (capacity : Nat) (a : Arrival)

/-- The arrival brings a datagram that fits into a buffer of `capacity` octets. Replies are to a
message of the sequence number `last`. -/
def Brings (datagram : Bytes) : Prop := a.octets last = .ok datagram ∧ datagram.length ≤ capacity

/-- The arrival leaves a request open. -/
def Passes : Prop :=
  ∃ datagram, a.Brings last capacity datagram ∧ Datagram.IsPassed port sequence datagram

/-- How an arrival decides a request, and what the request comes to then. -/
inductive Decides : Except Failure Bytes → Prop
  /-- A message for the port and of the sequence number, which is no report of an error or reports
  the error number zero, is the answer. -/
  | answer {datagram message : Bytes} (brings : a.Brings last capacity datagram)
      (reaches : Datagram.Reaches port sequence datagram message)
      (port_eq : (MessageHeader.ofBytes message).port = port)
      (sequence_eq : (MessageHeader.ofBytes message).sequence = sequence)
      (sound : (MessageHeader.ofBytes message).isError = true →
        KernelError.size ≤ (message.drop MessageHeader.size).length ∧
          (KernelError.ofBytes (message.drop MessageHeader.size)).code = 0) :
      Decides (.ok message)
  /-- A message for another port is a failure, whatever its sequence number is. -/
  | wrongPort {datagram message : Bytes} (brings : a.Brings last capacity datagram)
      (reaches : Datagram.Reaches port sequence datagram message)
      (port_ne : (MessageHeader.ofBytes message).port ≠ port) :
      Decides (.error (.wrongPort port (MessageHeader.ofBytes message).port))
  /-- An error that the kernel reports of the request is a failure. -/
  | kernel {datagram message : Bytes} (brings : a.Brings last capacity datagram)
      (reaches : Datagram.Reaches port sequence datagram message)
      (port_eq : (MessageHeader.ofBytes message).port = port)
      (sequence_eq : (MessageHeader.ofBytes message).sequence = sequence)
      (isError : (MessageHeader.ofBytes message).isError = true)
      (enough : KernelError.size ≤ (message.drop MessageHeader.size).length)
      (code_ne : (KernelError.ofBytes (message.drop MessageHeader.size)).code ≠ 0) :
      Decides (.error (.kernel (KernelError.ofBytes (message.drop MessageHeader.size))))
  /-- A report about the request that is too short is a failure. -/
  | short {datagram message : Bytes} (brings : a.Brings last capacity datagram)
      (reaches : Datagram.Reaches port sequence datagram message)
      (port_eq : (MessageHeader.ofBytes message).port = port)
      (sequence_eq : (MessageHeader.ofBytes message).sequence = sequence)
      (isError : (MessageHeader.ofBytes message).isError = true)
      (few : (message.drop MessageHeader.size).length < KernelError.size) :
      Decides (.error (.decode (.truncated "netlink error" KernelError.size
        (message.drop MessageHeader.size).length)))
  /-- What is no message behind strays is a failure. -/
  | malformed {datagram : Bytes} {e : DecodeError} (brings : a.Brings last capacity datagram)
      (strays : ∀ m ∈ (Datagram.messages datagram).1, Endpoint.IsStray port sequence m)
      (ends : (Datagram.messages datagram).2 = some e) : Decides (.error (.decode e))
  /-- A datagram that does not fit is a failure, whatever messages it holds. -/
  | truncated {datagram : Bytes} (octets_eq : a.octets last = .ok datagram)
      (long : capacity < datagram.length) :
      Decides (.error (.truncated datagram.length capacity))
  /-- Receiving may fail itself. -/
  | socket {cause : SocketError} (octets_eq : a.octets last = .error cause) :
      Decides (.error (.socket cause))

/-- **How a request goes on** once its message is sent: it comes to the given result after so many
datagrams have been received or found missing, and the given arrivals are left. -/
inductive Awaits (port sequence last : UInt32) (capacity : Nat) (drained : SocketError) :
    List Arrival → Except Failure Bytes → Nat → List Arrival → Prop
  /-- Nothing arrives any more. -/
  | starved : Awaits port sequence last capacity drained [] (.error (.socket drained)) 1 []
  /-- The first arrival decides, and nothing behind it is received. -/
  | decided {a : Arrival} {result : Except Failure Bytes}
      (decides : a.Decides port sequence last capacity result) (rest : List Arrival) :
      Awaits port sequence last capacity drained (a :: rest) result 1 rest
  /-- The first arrival passes, and the request goes on with the others. -/
  | passed {a : Arrival} {result : Except Failure Bytes} {rest left : List Arrival} {n : Nat}
      (passes : a.Passes port sequence last capacity)
      (awaits : Awaits port sequence last capacity drained rest result n left) :
      Awaits port sequence last capacity drained (a :: rest) result (n + 1) left

/-! ### What an arrival does to a request -/

section Judge

variable {τ : Type} {port sequence last : UInt32} {capacity : Nat} {a : Arrival}
  {datagram message : Bytes}

/-- **The first message that is no stray decides.** -/
theorem exists_decides_of_reaches (hbrings : a.Brings last capacity datagram)
    (hreaches : Datagram.Reaches port sequence datagram message)
    (hstray : ¬ Endpoint.IsStray port sequence message) :
    ∃ result, a.Decides port sequence last capacity result := by
  by_cases hport : (MessageHeader.ofBytes message).port = port
  · have hsequence : (MessageHeader.ofBytes message).sequence = sequence := by
      by_contra hne
      exact hstray ⟨hport, hne⟩
    by_cases herror : (MessageHeader.ofBytes message).isError = true
    · rcases Nat.lt_or_ge (message.drop MessageHeader.size).length KernelError.size with hfew | hle
      · exact ⟨_, .short hbrings hreaches hport hsequence herror hfew⟩
      · by_cases hcode : (KernelError.ofBytes (message.drop MessageHeader.size)).code = 0
        · exact ⟨_, .answer hbrings hreaches hport hsequence fun _ => ⟨hle, hcode⟩⟩
        · exact ⟨_, .kernel hbrings hreaches hport hsequence herror hle hcode⟩
    · exact ⟨_, .answer hbrings hreaches hport hsequence fun h => absurd h herror⟩
  · exact ⟨_, .wrongPort hbrings hreaches hport⟩

variable (port sequence) in
/-- All messages are strays, or there is a first one that is none. -/
theorem strays_or_reaches (datagram : Bytes) :
    (∀ m ∈ (Datagram.messages datagram).1, Endpoint.IsStray port sequence m) ∨
      ∃ message, Datagram.Reaches port sequence datagram message ∧
        ¬ Endpoint.IsStray port sequence message := by
  simp only [Datagram.Reaches]
  induction (Datagram.messages datagram).1 with
  | nil => exact .inl fun m hm => absurd hm List.not_mem_nil
  | cons message rest ih =>
    by_cases hstray : Endpoint.IsStray port sequence message
    · rcases ih with hall | ⟨next, ⟨strays, later, rfl, hstrays⟩, hnext⟩
      · exact .inl (List.forall_mem_cons.2 ⟨hstray, hall⟩)
      · exact .inr ⟨next, ⟨message :: strays, later, rfl,
          List.forall_mem_cons.2 ⟨hstray, hstrays⟩⟩, hnext⟩
    · exact .inr ⟨message, ⟨[], rest, rfl, fun m hm => absurd hm List.not_mem_nil⟩, hstray⟩

variable (port sequence last capacity a) in
/-- **An arrival passes or decides.** -/
theorem passes_or_decides : a.Passes port sequence last capacity ∨
    ∃ result, a.Decides port sequence last capacity result := by
  cases hoctets : a.octets last with
  | error cause => exact .inr ⟨_, .socket hoctets⟩
  | ok datagram =>
    by_cases hfits : datagram.length ≤ capacity
    · have hbrings : a.Brings last capacity datagram := ⟨hoctets, hfits⟩
      rcases strays_or_reaches port sequence datagram with hstrays | ⟨message, hreaches, hstray⟩
      · cases hends : (Datagram.messages datagram).2 with
        | none => exact .inl ⟨datagram, hbrings, hends, hstrays⟩
        | some cause => exact .inr ⟨_, .malformed hbrings hstrays hends⟩
      · exact .inr (exists_decides_of_reaches hbrings hreaches hstray)
    · exact .inr ⟨_, .truncated hoctets (Nat.lt_of_not_le hfits)⟩

theorem messages_of_brings (h : a.Brings last capacity datagram) : a.messages last capacity =
    ((Datagram.messages datagram).1, (Datagram.messages datagram).2.map .decode) := by
  obtain ⟨hoctets, hfits⟩ := h
  simp only [messages, hoctets, if_pos hfits]

/-- Strays are walked over. -/
theorem outcome_walk_strays {strays : List Bytes} (rest : List Bytes)
    (hsize : ∀ m ∈ strays, MessageHeader.size ≤ m.length)
    (hstrays : ∀ m ∈ strays, Endpoint.IsStray port sequence m) (t : τ) :
    Act.outcome (walk (Endpoint.answering port sequence) (strays ++ rest) none) t =
      Act.outcome (walk (Endpoint.answering port sequence) rest none) t := by
  induction strays with
  | nil => rfl
  | cons stray strays ih =>
    obtain ⟨hfirst, hlater⟩ := List.forall_mem_cons.1 hsize
    obtain ⟨hstray, hothers⟩ := List.forall_mem_cons.1 hstrays
    rw [List.cons_append, outcome_walk_cons,
      Endpoint.outcome_answering_of_isStray hfirst hstray t]
    exact ih hlater hothers

/-- A message that is reached and has an outcome gives it to the walk. -/
theorem outcome_walk_of_reaches {result : Except Failure Bytes}
    (hbrings : a.Brings last capacity datagram)
    (hreaches : Datagram.Reaches port sequence datagram message) {t : τ}
    (h : Act.outcome (Endpoint.answering port sequence message) t = (result.map some, t)) :
    Act.outcome (walk (Endpoint.answering port sequence) (a.messages last capacity).1 none) t =
      (result.map some, t) := by
  rw [messages_of_brings hbrings]
  obtain ⟨strays, later, hsplit, hstrays⟩ := hreaches
  have hsize : ∀ m ∈ strays, MessageHeader.size ≤ m.length := by
    intro m hm
    exact Datagram.size_le_of_mem_messages (hsplit ▸ List.mem_append_left _ hm)
  rw [hsplit, outcome_walk_strays _ hsize hstrays, outcome_walk_cons, h]
  cases result <;> rfl

/-- If all messages are strays, nothing comes of them. -/
theorem outcome_walk_of_strays (hbrings : a.Brings last capacity datagram)
    (hstrays : ∀ m ∈ (Datagram.messages datagram).1, Endpoint.IsStray port sequence m) (t : τ) :
    Act.outcome (walk (Endpoint.answering port sequence) (a.messages last capacity).1 none) t =
      (.ok none, t) := by
  have hmessages : (a.messages last capacity).1 = (Datagram.messages datagram).1 := by
    rw [messages_of_brings hbrings]
  have hwalk := outcome_walk_strays []
    (fun m hm => Datagram.size_le_of_mem_messages hm) hstrays t
  rwa [List.append_nil, ← hmessages] at hwalk

/-- Nothing is found out about an arrival that passes. -/
theorem Passes.outcome_walk (h : a.Passes port sequence last capacity) (t : τ) :
    Act.outcome (walk (Endpoint.answering port sequence) (a.messages last capacity).1 none) t =
        (.ok none, t) ∧ (a.messages last capacity).2 = none := by
  obtain ⟨datagram, hbrings, hsplits, hstrays⟩ := h
  refine ⟨outcome_walk_of_strays hbrings hstrays t, ?_⟩
  rw [messages_of_brings hbrings, hsplits]
  rfl

/-- **What decides is found out**: one of the messages has the outcome, or nothing comes of them and
it is the failure behind them. -/
theorem Decides.outcome_walk {result : Except Failure Bytes}
    (h : a.Decides port sequence last capacity result) (t : τ) :
    Act.outcome (walk (Endpoint.answering port sequence) (a.messages last capacity).1 none) t =
        (result.map some, t) ∨
      Act.outcome (walk (Endpoint.answering port sequence) (a.messages last capacity).1 none) t =
          (.ok none, t) ∧
        ∃ failure, (a.messages last capacity).2 = some failure ∧ result = .error failure := by
  cases h with
  | @answer datagram message brings reaches port_eq sequence_eq sound =>
    refine .inl (outcome_walk_of_reaches brings reaches ?_)
    rw [Endpoint.outcome_answering,
      Cursor.scan_checkHeader _ _ (Datagram.size_le_of_mem_messages reaches.mem),
      if_neg (not_not_intro port_eq), if_neg (not_not_intro sequence_eq)]
    by_cases herror : (MessageHeader.ofBytes message).isError = true
    · obtain ⟨henough, hcode⟩ := sound herror
      rw [if_pos herror, KernelError.read_of_le henough]
      simp only [hcode, ne_eq, not_true_eq_false, if_false]
      rfl
    · rw [if_neg herror]
      rfl
  | wrongPort brings reaches port_ne =>
    refine .inl (outcome_walk_of_reaches brings reaches ?_)
    rw [Endpoint.outcome_answering,
      Cursor.scan_checkHeader _ _ (Datagram.size_le_of_mem_messages reaches.mem), if_pos port_ne]
    rfl
  | kernel brings reaches port_eq sequence_eq isError enough code_ne =>
    refine .inl (outcome_walk_of_reaches brings reaches ?_)
    rw [Endpoint.outcome_answering,
      Cursor.scan_checkHeader _ _ (Datagram.size_le_of_mem_messages reaches.mem),
      if_neg (not_not_intro port_eq), if_neg (not_not_intro sequence_eq), if_pos isError,
      KernelError.read_of_le enough]
    simp only [if_pos code_ne]
    rfl
  | short brings reaches port_eq sequence_eq isError few =>
    refine .inl (outcome_walk_of_reaches brings reaches ?_)
    rw [Endpoint.outcome_answering,
      Cursor.scan_checkHeader _ _ (Datagram.size_le_of_mem_messages reaches.mem),
      if_neg (not_not_intro port_eq), if_neg (not_not_intro sequence_eq), if_pos isError,
      KernelError.read_of_lt few]
    rfl
  | malformed brings strays ends =>
    refine .inr ⟨outcome_walk_of_strays brings strays t, _, ?_, rfl⟩
    rw [messages_of_brings brings, ends]
    rfl
  | truncated octets_eq long =>
    simp only [messages, octets_eq, if_neg (Nat.not_le.2 long)]
    exact .inr ⟨rfl, _, rfl, rfl⟩
  | socket octets_eq =>
    simp only [messages, octets_eq]
    exact .inr ⟨rfl, _, rfl, rfl⟩

end Judge

end Arrival

namespace Endpoint

variable {τ : Type} {sequence : UInt32} {e : Endpoint}

variable (sequence) in
/-- **The first arrival** decides, or it passes and the request goes on with the next one. -/
theorem exchangeFrom_answer_cons (a : Arrival) (rest : List Arrival) (t : τ) :
    ∃ book,
      (a.Passes e.port sequence e.link.lastSequence e.buffer.length ∧
        Act.outcome (exchangeFrom (answer sequence) (a :: rest)) (t, e) =
          Act.outcome (exchangeFrom (answer sequence) rest) (t, (e.taking a rest).noting book)) ∨
      ∃ result, a.Decides e.port sequence e.link.lastSequence e.buffer.length result ∧
        Act.outcome (exchangeFrom (answer sequence) (a :: rest)) (t, e) =
          (result, t, (e.taking a rest).noting book) := by
  obtain ⟨book, hstep⟩ := outcome_exchangeFrom_cons (judges_answer e.port sequence) a rest t
  refine ⟨book, ?_⟩
  rw [hstep]
  rcases a.passes_or_decides e.port sequence e.link.lastSequence e.buffer.length with
    hpasses | ⟨result, hdecides⟩
  · obtain ⟨hwalk, hends⟩ := hpasses.outcome_walk t
    rw [hwalk, hends]
    exact .inl ⟨hpasses, rfl⟩
  · refine .inr ⟨result, hdecides, ?_⟩
    rcases hdecides.outcome_walk t with hwalk | ⟨hwalk, failure, hends, rfl⟩
    · rw [hwalk]
      cases result <;> rfl
    · rw [hwalk, hends]

variable (sequence) in
/-- **An exchange for an answer** goes as the arrivals have it. -/
theorem exchangeFrom_answer (arrivals : List Arrival) (hinbox : e.link.inbox = arrivals) (t : τ) :
    ∃ result n left e', Arrival.Awaits e.port sequence e.link.lastSequence e.buffer.length
        e.link.drained arrivals result n left ∧
      Act.outcome (exchangeFrom (answer sequence) arrivals) (t, e) = (result, t, e') ∧
      e'.link.inbox = left ∧ e'.link.calls = List.replicate n .receive ++ e.link.calls := by
  induction arrivals generalizing e with
  | nil => exact ⟨_, _, _, _, .starved, rfl, hinbox, rfl⟩
  | cons a rest ih =>
    obtain ⟨book, hstep⟩ := exchangeFrom_answer_cons sequence (e := e) a rest t
    have hfirst := (received_taking a rest e).noting book
    rcases hstep with ⟨hpasses, hrun⟩ | ⟨result, hdecides, hrun⟩
    · obtain ⟨result, n, left, e', hawaits, hrest, hleft, hcalls⟩ :=
        ih (e := (e.taking a rest).noting book) rfl
      rw [hfirst.port, hfirst.lastSequence, hfirst.capacity, hfirst.drained] at hawaits
      refine ⟨result, n + 1, left, e', .passed hpasses hawaits, hrun.trans hrest, hleft, ?_⟩
      rw [hcalls, List.replicate_succ', List.append_assoc]
      rfl
    · exact ⟨result, 1, rest, _, .decided hdecides rest, hrun, rfl, rfl⟩

/-- What the arrivals have it come to is what comes of judging their messages. -/
theorem settling_of_awaits {arrivals left : List Arrival} {result : Except Failure Bytes} {n : Nat}
    (h : Arrival.Awaits e.port sequence e.link.lastSequence e.buffer.length e.link.drained arrivals
      result n left) (t : τ) :
    Act.outcome (settling (answering e.port sequence) e arrivals) t = (result, t) := by
  induction h with
  | starved => rfl
  | @decided a result decides rest =>
    rw [outcome_settling_cons]
    rcases decides.outcome_walk t with hwalk | ⟨hwalk, failure, hends, rfl⟩
    · rw [hwalk]
      cases result <;> rfl
    · rw [hwalk, hends]
  | passed passes awaits ih =>
    obtain ⟨hwalk, hends⟩ := passes.outcome_walk t
    rw [outcome_settling_cons, hwalk, hends]
    exact ih

/-- What answers a request is one of the messages of a datagram, for the port and of the sequence
number. -/
theorem exists_of_awaits {port sequence last : UInt32} {capacity n : Nat} {drained : SocketError}
    {arrivals left : List Arrival} {message : Bytes}
    (h : Arrival.Awaits port sequence last capacity drained arrivals (.ok message) n left) :
    (∃ datagram, message ∈ (Datagram.messages datagram).1) ∧
      (MessageHeader.ofBytes message).port = port ∧
      (MessageHeader.ofBytes message).sequence = sequence := by
  generalize hresult : (.ok message : Except Failure Bytes) = result at h
  induction h with
  | starved => cases hresult
  | decided decides rest =>
    subst hresult
    cases decides with
    | answer brings reaches port_eq sequence_eq =>
      exact ⟨⟨_, reaches.mem⟩, port_eq, sequence_eq⟩
  | passed passes awaits ih => exact ih hresult

/-- Once its message is sent, a request comes to what an arrival decides. -/
theorem exists_outcome_request {draft : Draft} {e₁ : Endpoint}
    (hsend : Act.outcome (send draft) e = (.ok sequence, e₁)) :
    ∃ message result n left e₂, draft.finish sequence = .ok message ∧
      Arrival.Awaits e.port sequence e₁.link.lastSequence e.buffer.length e.link.drained
        e.link.inbox result n left ∧
      Act.outcome (request draft) e = (result, e₂) ∧ e₂.link.inbox = left ∧
      e₂.link.calls = List.replicate n .receive ++
        .send message (e.link.outcomes.headD .delivered) :: e.link.calls := by
  obtain ⟨-, message, hfinish, rfl⟩ := exists_of_send hsend
  obtain ⟨result, n, left, e₂, hawaits, hrun, hleft, hcalls⟩ :=
    exchangeFrom_answer sequence (e := e.sending message) e.link.inbox rfl ()
  refine ⟨message, result, n, left, e₂, hfinish, hawaits, ?_, hleft, hcalls⟩
  have hexchange : Act.outcome (exchange (answer sequence)) ((), e.sending message) =
      (result, (), e₂) := by
    rw [exchange, Act.outcome_bind, Act.outcome_get]
    exact hrun
  rw [request, Act.outcome_bind, hsend]
  simp only [Act.outcome_starting, hexchange]

/-- A request comes to a result by what arrives: its message goes out, and the arrivals have it come
to this. -/
def ComesTo (draft : Draft) (e : Endpoint) (result : Except Failure Bytes) : Prop :=
  ∃ message n left, draft.finish e.link.nextSequence = .ok message ∧
    Link.SendOutcome.result message.length (e.link.outcomes.headD .delivered) = .ok () ∧
    Arrival.Awaits e.port e.link.nextSequence (e.sending message).link.lastSequence
      e.buffer.length e.link.drained e.link.inbox result n left

/-- **What a request comes to is what it returns.** -/
theorem ComesTo.result_eq {draft : Draft} {result : Except Failure Bytes}
    (h : ComesTo draft e result) : (Act.outcome (request draft) e).1 = result := by
  obtain ⟨message, n, left, hfinish, hsent, hawaits⟩ := h
  obtain ⟨_, _, e₂, -, -, hrun, -⟩ := exchange_run (e := e.sending message)
    (judges_answer e.port e.link.nextSequence) ()
  have hsettling : Act.outcome (settling (answering e.port e.link.nextSequence)
      (e.sending message) e.link.inbox) () = (result, ()) :=
    settling_of_awaits (e := e.sending message) hawaits ()
  have hinbox : (e.sending message).link.inbox = e.link.inbox := rfl
  rw [outcome_request, outcome_converse, hfinish]
  simp only [hsent, hrun, hinbox, hsettling]

end Endpoint

/-- A failure may be one of a request that has not been sent. -/
inductive Failure.IsUnsent : Failure → Prop
  /-- The message cannot be written. -/
  | encode (cause : EncodeError) : IsUnsent (.encode cause)
  /-- The message cannot be sent, unless it is receiving that fails. -/
  | socket (cause : SocketError) : IsUnsent (.socket cause)
  /-- The session is closed. -/
  | closed : IsUnsent .closed

namespace Endpoint

variable {sequence : UInt32} {e : Endpoint}

/-- **What a request returns is what it comes to**, unless this may be for want of sending. -/
theorem request_eq_iff_comesTo {draft : Draft} {result : Except Failure Bytes}
    (hsent : ∀ f, result = .error f → ¬ f.IsUnsent) :
    (Act.outcome (request draft) e).1 = result ↔ ComesTo draft e result := by
  refine ⟨fun h => ?_, ComesTo.result_eq⟩
  cases hfinish : draft.finish e.link.nextSequence with
  | error cause =>
    have hsend : Act.outcome (send draft) e = (.error (.encode cause), e) := by
      simp only [outcome_send, hfinish]
    rw [request, Act.outcome_bind, hsend] at h
    exact absurd (.encode cause) (hsent _ h.symm)
  | ok message =>
    cases hgone : Link.SendOutcome.result message.length (e.link.outcomes.headD .delivered) with
    | error cause =>
      have hsend : Act.outcome (send draft) e = (.error (.socket cause), e.sending message) := by
        simp only [outcome_send, hfinish, hgone]
      rw [request, Act.outcome_bind, hsend] at h
      exact absurd (.socket cause) (hsent _ h.symm)
    | ok _ =>
      have hsend : Act.outcome (send draft) e =
          (.ok e.link.nextSequence, e.sending message) := by
        simp only [outcome_send, hfinish, hgone]
      obtain ⟨_, _, n, left, _, -, hawaits, hrun, -⟩ := exists_outcome_request hsend
      rw [hrun] at h
      exact ⟨message, n, left, hfinish, hgone, h ▸ hawaits⟩

/-- **What a request comes to.** Once its message is sent, under the sequence number `sequence`, a
request receives until an arrival decides it and returns what this one decides, be it the message
that answers it, without padding, or a failure. Every message in front of the one that decides is
for the port and carries another sequence number. One message is sent, and nothing is received
behind the datagram that decides. -/
theorem request_decided {draft : Draft} {e₁ : Endpoint}
    (hsend : Act.outcome (send draft) e = (.ok sequence, e₁)) :
    ∃ message result n left e₂, draft.finish sequence = .ok message ∧
      Arrival.Awaits e.port sequence e₁.link.lastSequence e.buffer.length e.link.drained
        e.link.inbox result n left ∧
      Act.outcome (request draft) e = (result, e₂) ∧ e₂.link.inbox = left ∧
      e₂.link.calls = List.replicate n .receive ++
        .send message (e.link.outcomes.headD .delivered) :: e.link.calls ∧
      ∀ m, result = .ok m → (MessageHeader.ofBytes m).length.toNat = m.length := by
  obtain ⟨message, result, n, left, e₂, hfinish, hawaits, hrun, hleft, hcalls⟩ :=
    exists_outcome_request hsend
  refine ⟨message, result, n, left, e₂, hfinish, hawaits, hrun, hleft, hcalls, ?_⟩
  rintro m rfl
  obtain ⟨⟨datagram, hmem⟩, -⟩ := exists_of_awaits hawaits
  exact Datagram.length_eq_of_mem_messages hmem

/-- An endpoint of the port 5 to which strays come in one datagram, among them the report of an
error, a stray and two answers in the next one, and one more datagram. -/
def patient : Endpoint :=
  ⟨5, Buffer.fresh 64, {
    inbox := [.datagram (tell 26 6 [1, 1, 1, 1] ++ tell 2 6 ([255, 255, 255, 255] ++
        List.replicate 16 0)),
      .datagram (tell 26 6 [] ++ tell 26 7 [2, 2, 2] ++ [0] ++ tell 26 7 [3, 3, 3, 3]),
      .datagram (tell 26 7 [4, 4, 4, 4])]
    drained := .system 11
    outcomes := []
    calls := []
    nextSequence := 7
    logbook := .empty }⟩

theorem request_decided_patient :
    ∃ n left e₂, Arrival.Awaits 5 7 7 64 (.system 11) patient.link.inbox
        (.ok (tell 26 7 [2, 2, 2])) n left ∧
      Act.outcome (request (Draft.start requestFlags 26)) patient =
        (.ok (tell 26 7 [2, 2, 2]), e₂) ∧
      e₂.link.inbox = [.datagram (tell 26 7 [4, 4, 4, 4])] ∧ left = e₂.link.inbox := by
  have hsend : Act.outcome (send (Draft.start requestFlags 26)) patient = (.ok 7, _) := rfl
  obtain ⟨message, result, n, left, e₂, -, hawaits, hrun, hleft, -, -⟩ := request_decided hsend
  have hresult : (Act.outcome (request (Draft.start requestFlags 26)) patient).1 =
      .ok (tell 26 7 [2, 2, 2]) := by
    cbv
  have hinbox : (Act.outcome (request (Draft.start requestFlags 26)) patient).2.link.inbox =
      [.datagram (tell 26 7 [4, 4, 4, 4])] := by
    cbv
  rw [hrun] at hresult hinbox
  obtain rfl : result = .ok (tell 26 7 [2, 2, 2]) := hresult
  exact ⟨n, left, e₂, hawaits, hrun, hinbox, hleft.symm⟩

end Endpoint

end VSwitch
