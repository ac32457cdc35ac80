import VSwitch.Endpoint
import VSwitch.Kernel.Station
import VSwitch.Proofs.Outcome

/-!
# What a computation can fail with

Each way of putting computations together fails with what its parts fail with and with nothing else.
So the failures of an operation are read off the steps that it is made of, whatever arrives and
whatever the system refuses.

* `VSwitch.Act.FailsIn` says that a computation fails with nothing but failures of a kind;
* `VSwitch.Failure.IsOfAnswer` is the kind of failures of what becomes of a message that has been
  written, and `VSwitch.Failure.IsOfExchange` adds those of writing it;
* `VSwitch.Endpoint.failsIn_request`, `VSwitch.Endpoint.failsIn_collect` and
  `VSwitch.Endpoint.failsIn_send`: exchanges fail with no others, and not for writing a message that
  can be written;
* `VSwitch.Kernel.failsIn_connect` and `VSwitch.Station.failsIn_spawn`: opening sockets and stations
  fails as sockets do.
-/

namespace VSwitch

namespace Act

variable {σ τ α β : Type} {P : Failure → Prop}

/-- Whatever state it is run from, a computation fails with nothing but failures that satisfy
`P`. -/
def FailsIn (P : Failure → Prop) (act : Act σ α) : Prop :=
  ∀ s f, (outcome act s).1 = .error f → P f

namespace FailsIn

/-! ### Computations put together -/

theorem mono {Q : Failure → Prop} {act : Act σ α} (h : FailsIn P act) (hPQ : ∀ f, P f → Q f) :
    FailsIn Q act := fun s f hf => hPQ f (h s f hf)

/-- **A sequence fails with what its parts fail with.** -/
theorem bind {x : Act σ α} {k : α → Act σ β} (hx : FailsIn P x) (hk : ∀ a, FailsIn P (k a)) :
    FailsIn P (x >>= k) := by
  intro s f h
  rw [outcome_bind] at h
  rcases hrun : outcome x s with ⟨e | a, t⟩
  · rw [hrun] at h
    cases h
    exact hx s f (by rw [hrun])
  · rw [hrun] at h
    exact hk a t f h

theorem pure (a : α) : FailsIn P (pure a : Act σ α) := by
  intro s f h
  cases h

/-- What is done with one thing after the other fails as it does with one of them. -/
theorem forM {act : α → Act σ Unit} (h : ∀ a, FailsIn P (act a)) (as : List α) :
    FailsIn P (as.forM act) := by
  induction as with
  | nil => exact .pure _
  | cons a as ih => exact .bind (h a) fun _ => ih

theorem throw {f : Failure} (h : P f) : FailsIn P (MonadExcept.throw f : Act σ α) := by
  intro s g hg
  cases hg
  exact h

/-- What would follow a failure does not matter. -/
theorem throw_bind {f : Failure} {k : α → Act σ β} (h : P f) :
    FailsIn P ((MonadExcept.throw f : Act σ α) >>= k) := by
  intro s g hg
  cases hg
  exact h

theorem get : FailsIn P (MonadState.get : Act σ σ) := by
  intro s f h
  cases h

theorem modify (g : σ → σ) : FailsIn P (modify g : Act σ Unit) := by
  intro s f h
  cases h

theorem debug [Journal σ] (text : String) : FailsIn P (VSwitch.debug text : Act σ Unit) := by
  intro s f h
  cases h

theorem lift (act : StateM σ α) : FailsIn P (liftM act : Act σ α) := by
  intro s f h
  rw [outcome_lift] at h
  cases h

theorem ofExcept {r : Except Failure α} (h : ∀ f, r = .error f → P f) :
    FailsIn P (MonadExcept.ofExcept r : Act σ α) := by
  intro s f hf
  rw [outcome_ofExcept] at hf
  exact h f hf

theorem ofEncode {r : Except EncodeError α} (h : ∀ e, r = .error e → P (.encode e)) :
    FailsIn P (Act.ofEncode r : Act σ α) := by
  intro s f hf
  obtain ⟨e, he, rfl⟩ := mapError_eq_error_iff.1 hf
  exact h e he

theorem ofDecode {r : Except DecodeError α} (h : ∀ e, P (.decode e)) :
    FailsIn P (Act.ofDecode r : Act σ α) := by
  intro s f hf
  obtain ⟨e, -, rfl⟩ := mapError_eq_error_iff.1 hf
  exact h e

/-! ### Parts of a state -/

theorem within {part : σ → τ} {put : τ → σ → σ} {act : Act τ α} (h : FailsIn P act) :
    FailsIn P (Act.within part put act) := fun s f hf => h (part s) f hf

theorem onSecond {act : Act σ α} (h : FailsIn P act) :
    FailsIn P (Act.onSecond act : Act (τ × σ) α) := fun s f hf => h s.2 f hf

theorem starting {t : τ} {act : Act (τ × σ) α} (h : FailsIn P act) :
    FailsIn P (Act.starting t act) := fun s f hf => h (t, s) f hf

theorem carrying {t : τ} {act : Act (τ × σ) α} (h : FailsIn P act) :
    FailsIn P (Act.carrying t act) := fun s f hf => h (t, s) f (map_eq_error_iff.1 hf)

/-- What undoes a computation does not change what it fails with. -/
theorem undoing {undo : StateM σ Unit} {act : Act σ α} (h : FailsIn P act) :
    FailsIn P (Act.undoing undo act) := by
  intro s f hf
  rw [outcome_undoing] at hf
  rcases hrun : outcome act s with ⟨e | a, t⟩
  · rw [hrun] at hf
    exact h s f (by rw [hrun]; exact hf)
  · rw [hrun] at hf
    cases hf

theorem onFirst {act : Act τ α} (h : FailsIn P act) :
    FailsIn P (Act.onFirst act : Act (τ × σ) α) := fun s f hf => h s.1 f hf

/-- System calls fail as sockets do. -/
theorem sys {call : Kernel.Sys α} (h : ∀ e, P (.socket e)) : FailsIn P call.act := by
  intro s f hf
  obtain ⟨errno, -, rfl⟩ := mapError_eq_error_iff.1 hf
  exact h _

end FailsIn

end Act

open Act (FailsIn)

/-! ### Exchanges -/

/-- The failures of requests and dumps. -/
inductive Failure.IsOfExchange : Failure → Prop
  /-- The message cannot be written. -/
  | encode (cause : EncodeError) : IsOfExchange (.encode cause)
  /-- The message cannot be sent, or nothing can be received. -/
  | socket (cause : SocketError) : IsOfExchange (.socket cause)
  /-- What is received does not fit into the buffer. -/
  | truncated (length bufferLength : Nat) : IsOfExchange (.truncated length bufferLength)
  /-- What is received cannot be read. -/
  | decode (cause : DecodeError) : IsOfExchange (.decode cause)
  /-- What is received is for another port. -/
  | wrongPort (expected found : UInt32) : IsOfExchange (.wrongPort expected found)
  /-- The kernel answers with an error. -/
  | kernel (report : KernelError) : IsOfExchange (.kernel report)

/-- The failures of what becomes of a message that has been written. -/
inductive Failure.IsOfAnswer : Failure → Prop
  /-- The message cannot be sent, or nothing can be received. -/
  | socket (cause : SocketError) : IsOfAnswer (.socket cause)
  /-- What is received does not fit into the buffer. -/
  | truncated (length bufferLength : Nat) : IsOfAnswer (.truncated length bufferLength)
  /-- What is received cannot be read. -/
  | decode (cause : DecodeError) : IsOfAnswer (.decode cause)
  /-- What is received is for another port. -/
  | wrongPort (expected found : UInt32) : IsOfAnswer (.wrongPort expected found)
  /-- The kernel answers with an error. -/
  | kernel (report : KernelError) : IsOfAnswer (.kernel report)

open Failure (IsOfAnswer IsOfExchange)

theorem Failure.IsOfAnswer.isOfExchange {f : Failure} (h : f.IsOfAnswer) : f.IsOfExchange := by
  cases h with
  | socket cause => exact .socket cause
  | truncated length bufferLength => exact .truncated length bufferLength
  | decode cause => exact .decode cause
  | wrongPort expected found => exact .wrongPort expected found
  | kernel report => exact .kernel report

namespace Cursor

theorem failsIn_reading {α : Type} (steps : Scan DecodeError α) :
    FailsIn IsOfAnswer (reading steps) := by
  intro c f h
  obtain ⟨e, -, rfl⟩ := mapError_eq_error_iff.1 h
  exact .decode e

theorem failsIn_checkHeader (port sequence : UInt32) :
    FailsIn IsOfAnswer (checkHeader port sequence) := by
  refine .bind (failsIn_reading _) fun h => ?_
  by_cases hport : h.port ≠ port
  · rw [if_pos hport]
    exact .throw_bind (.wrongPort _ _)
  rw [if_neg hport]
  by_cases hsequence : h.sequence ≠ sequence
  · rw [if_pos hsequence]
    exact .pure _
  rw [if_neg hsequence]
  by_cases herror : h.isError = true
  · rw [if_pos herror]
    refine .bind (failsIn_reading _) fun report => ?_
    by_cases hcode : report.code ≠ 0
    · rw [if_pos hcode]
      exact .throw_bind (.kernel _)
    · rw [if_neg hcode]
      exact .pure _
  · rw [if_neg herror]
    exact .pure _

end Cursor

namespace Link

theorem failsIn_send (message : Bytes) : FailsIn IsOfAnswer (send message) := by
  intro l f h
  obtain ⟨e, -, rfl⟩ := mapError_eq_error_iff.1 h
  exact .socket e

theorem failsIn_arrive (arrival : Arrival) (rest : List Arrival) :
    FailsIn IsOfAnswer (arrive arrival rest) := by
  refine .bind .get fun _ => .bind (.modify _) fun _ => ?_
  cases arrival with
  | datagram octets => exact .pure _
  | fault cause => exact .throw (.socket cause)
  | replies replies => exact .bind (.modify _) fun _ => .pure _

theorem failsIn_starve {α : Type} : FailsIn IsOfAnswer (starve : Act Link α) :=
  .bind (.modify _) fun _ => .bind .get fun _ => .throw (.socket _)

end Link

theorem Endpoint.failsIn_accept (arrival : Arrival) (rest : List Arrival) :
    FailsIn IsOfAnswer (accept arrival rest) := by
  refine .bind (.within (Link.failsIn_arrive arrival rest)) fun datagram => ?_
  refine .bind (.modify _) fun _ => .bind .get fun e => .ofExcept fun f hf => ?_
  rw [Buffer.received] at hf
  split at hf
  · cases hf
  · cases hf
    exact .truncated _ _

theorem Endpoint.failsIn_check (sequence : UInt32) (message : Bytes) :
    FailsIn IsOfAnswer (check sequence message) :=
  .bind .get fun e => .ofExcept fun f hf => Cursor.failsIn_checkHeader e.port sequence _ f hf

section Exchanges

variable {τ α : Type} {P : Failure → Prop} (hP : ∀ f, IsOfAnswer f → P f)

include hP

/-- Handing messages over fails as the judge does, or as a datagram ends. -/
theorem failsIn_walk {σ : Type} {judge : Bytes → Act σ (Option α)}
    (h : ∀ message, FailsIn P (judge message)) (messages : List Bytes)
    (ending : Option DecodeError) : FailsIn P (walk judge messages ending) := by
  induction messages with
  | nil =>
    cases ending with
    | none => exact .pure _
    | some e => exact .throw (hP _ (.decode e))
  | cons message rest ih =>
    refine .bind (h message) fun r => ?_
    cases r with
    | some a => exact .pure _
    | none => exact ih

namespace Endpoint

theorem failsIn_exchange {judge : Bytes → Act (τ × Endpoint) (Option α)}
    (h : ∀ message, FailsIn P (judge message)) : FailsIn P (exchange judge) := by
  refine .bind .get fun s => ?_
  generalize s.2.link.inbox = arrivals
  induction arrivals with
  | nil => exact .onSecond (.within (Link.failsIn_starve.mono hP))
  | cons arrival rest ih =>
    refine .bind (.onSecond ((failsIn_accept arrival rest).mono hP)) fun datagram => ?_
    refine .bind (failsIn_walk hP h _ _) fun r => ?_
    cases r with
    | some a => exact .pure _
    | none => exact ih

theorem failsIn_answer (sequence : UInt32) (message : Bytes) :
    FailsIn P (answer sequence message : Act (τ × Endpoint) (Option Bytes)) := by
  refine .bind (.onSecond ((failsIn_check sequence message).mono hP)) fun r => ?_
  cases r with
  | answer h => exact .pure _
  | stray h => exact .bind (.debug _) fun _ => .pure _

theorem failsIn_part {consume : Bytes → Act τ Unit} (h : ∀ message, FailsIn P (consume message))
    (sequence : UInt32) (message : Bytes) : FailsIn P (part consume sequence message) := by
  refine .bind (.onSecond ((failsIn_check sequence message).mono hP)) fun r => ?_
  cases r with
  | answer header =>
    simp only
    split
    · exact .pure _
    · exact .bind (.onFirst (h message)) fun _ => .pure _
  | stray header => exact .bind (.debug _) fun _ => .pure _

variable {draft : Draft} (hdraft : ∀ sequence e, draft.finish sequence = .error e → P (.encode e))

include hdraft

/-- **Sending fails as the link does**, unless the message cannot be finished. -/
theorem failsIn_send : FailsIn P (send draft) :=
  .within (.bind .get fun _ => .bind (.ofEncode fun e he => hdraft _ e he) fun message =>
    .bind (.modify _) fun _ => .bind ((Link.failsIn_send message).mono hP) fun _ => .pure _)

/-- **A request fails as exchanges do.** -/
theorem failsIn_request : FailsIn P (request draft) :=
  .bind (failsIn_send hP hdraft) fun sequence =>
    .starting (failsIn_exchange hP (failsIn_answer hP sequence))

/-- **A dump fails as exchanges do**, or as what its messages say cannot be read. -/
theorem failsIn_collect {decode : Bytes → Except Failure α}
    (h : ∀ message f, decode message = .error f → P f) : FailsIn P (collect draft decode) := by
  have hgather : ∀ message, FailsIn P (gather decode message) := fun message =>
    .bind (.ofExcept (h message)) fun _ => .modify _
  refine .starting (.bind ?_ fun _ => .bind .get fun _ => .pure _)
  exact .bind (.onSecond (failsIn_send hP hdraft)) fun sequence =>
    failsIn_exchange hP (failsIn_part hP hgather sequence)

end Endpoint

end Exchanges

/-! ### Sockets and stations -/

section Sockets

variable {P : Failure → Prop} (h : ∀ e, P (.socket e))

include h

theorem Kernel.failsIn_connect (protocol : Int32) (port? : Option UInt32) (groups : Groups) :
    FailsIn P (connect protocol port? groups) :=
  .bind (.sys h) fun _ => .undoing (.bind (.sys h) fun _ => .pure _)

theorem Station.failsIn_withAuxiliary {α : Type} (kind : CallKind) (call : Nat → SystemCall)
    {body : Nat → Act Kernel α} (hbody : ∀ number, FailsIn P (body number)) :
    FailsIn P (withAuxiliary kind call body) :=
  .bind (.sys h) fun number => .undoing (hbody number)

theorem Station.failsIn_spawn (socket bufferLength : Nat) :
    FailsIn P (spawn socket bufferLength) := by
  refine .undoing (.bind (.sys h) fun port => ?_)
  refine failsIn_withAuxiliary h _ _ fun signal => failsIn_withAuxiliary h _ _ fun handle => ?_
  refine .bind (.sys h) fun _ => failsIn_withAuxiliary h _ _ fun poll => ?_
  exact .bind (.sys h) fun _ => .bind (.lift _) fun _ => .pure _

end Sockets

end VSwitch
