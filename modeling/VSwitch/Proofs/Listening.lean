import Mathlib
import VSwitch.Listener

/-!
# What a listener tells its handler

A listener goes through wakes, through what is ready after each of them and through what its socket
has received, and each of the three may end it. What its handler hears of all this is told here
without the three loops: things happen one after the other, up to the first one that ends the
listener, and each of them is told in its turn, whatever the handler makes of it.

* `VSwitch.Happening` is something that happens to a listener, `VSwitch.Wake.happenings` are the
  happenings of a wake, and `VSwitch.Happening.met` are those up to the first that ends a listener;
* `VSwitch.HandlerCall` is a call of a handler, and `VSwitch.Handler.recording` keeps the calls;
* `VSwitch.Happening.Told` says which calls tell of a happening;
* `VSwitch.Listener.calls` are the calls of a run, and `VSwitch.Listener.chronicle` is the result.
-/

namespace VSwitch

/-! ### What happens -/

/-- Something that happens to a listener. -/
inductive Happening
  /-- A datagram is received. -/
  | datagram (octets : Bytes)
  /-- Waiting or receiving fails, and not only for now. -/
  | fault (errno : Int32)
  /-- The signal to stop is read. -/
  | stop
  deriving DecidableEq, Repr

namespace Happening

/-- Whether a listener goes on after it. -/
def isPassing : Happening → Bool
  | .datagram _ => true
  | .fault _ | .stop => false

/-- What a listener meets: what happens up to and including the first that ends it. -/
def met : List Happening → List Happening
  | [] => []
  | e :: rest => e :: if e.isPassing then met rest else []

/-- What follows is met if nothing ends the listener before. -/
theorem met_append (events later : List Happening) : met (events ++ later) =
    met events ++ if events.all isPassing then met later else [] := by
  induction events with
  | nil => rfl
  | cons e rest ih =>
    rw [List.cons_append, met, met, List.all_cons, ih]
    cases e.isPassing <;> simp

/-- The messages in it that are handled. Of a datagram that does not fit into the receive buffer
there are none. -/
def messages (capacity : Nat) : Happening → List Bytes
  | .datagram octets => if octets.length ≤ capacity then (Datagram.messages octets).1 else []
  | .fault _ | .stop => []

end Happening

/-- What happens when something is received. An interrupted call is made again. -/
def Receipt.happening? : Receipt → Option Happening
  | .datagram octets => some (.datagram octets)
  | .fault errno => if errno = Errno.interrupted then none else some (.fault errno)

/-- What happens when something is ready. The socket is read until there is nothing left. -/
def Ready.happenings : Ready → List Happening
  | .signal readable => if readable then [.stop] else []
  | .socket receipts =>
    (receipts.takeWhile fun r => r ≠ .fault Errno.tryAgain).filterMap Receipt.happening?

/-- A failure that is not passing is one of the things that happen. -/
theorem Ready.happenings_fault {errno : Int32} {rest : List Receipt}
    (hagain : errno ≠ Errno.tryAgain) (hinterrupted : errno ≠ Errno.interrupted) :
    (Ready.socket (.fault errno :: rest)).happenings =
      .fault errno :: (Ready.socket rest).happenings := by
  have hne : Receipt.fault errno ≠ .fault Errno.tryAgain := fun h => hagain (Receipt.fault.inj h)
  have hhappens : (Receipt.fault errno).happening? = some (.fault errno) :=
    if_neg hinterrupted
  rw [happenings, List.takeWhile_cons, decide_eq_true hne, if_pos rfl,
    List.filterMap_cons_some hhappens]
  rfl

/-- What happens in a wake. An interrupted wait is made again. -/
def Wake.happenings : Wake → List Happening
  | .fault errno => if errno = Errno.interrupted then [] else [.fault errno]
  | .ready what => what.flatMap Ready.happenings

/-! ### Calls of a handler -/

/-- A call of a handler. -/
inductive HandlerCall
  /-- It is given a message, and what becomes of it. -/
  | handle (message : Bytes) (result : Except Failure Unit)
  /-- It is told of a failure. -/
  | report (failure : Failure) (fatal : Bool)
  deriving DecidableEq

namespace HandlerCall

/-- The message, if there is one. -/
def message? : HandlerCall → Option Bytes
  | .handle message _ => some message
  | .report _ _ => none

/-- Whether it tells of a fatal failure. -/
def isFatal : HandlerCall → Bool
  | .handle _ _ => false
  | .report _ fatal => fatal

end HandlerCall

/-- A handler that keeps what it is called with, in order, and does what `h` does. -/
def Handler.recording {σ : Type} (h : Handler σ) : Handler (List HandlerCall × σ) where
  handle message := fun (calls, s) =>
    let (r, s') := h.handle message s
    (r, calls ++ [.handle message r], s')
  report failure fatal := fun (calls, s) =>
    ((), calls ++ [.report failure fatal], (h.report failure fatal s).2)

/-- The calls that hand messages over: each message once, in order, and each failure of the handler
right behind the message that it fails on. -/
inductive Handed : List Bytes → List HandlerCall → Prop
  | nil : Handed [] []
  | done {message : Bytes} {rest : List Bytes} {calls : List HandlerCall}
      (h : Handed rest calls) : Handed (message :: rest) (.handle message (.ok ()) :: calls)
  | failed {message : Bytes} {rest : List Bytes} {calls : List HandlerCall} (e : Failure)
      (h : Handed rest calls) :
      Handed (message :: rest) (.handle message (.error e) :: .report e false :: calls)

/-- The call that tells why the rest of a datagram is no message. -/
def rejection (ending : Option DecodeError) : List HandlerCall :=
  (ending.map fun e => .report (.decode e) false).toList

/-- The calls that tell of what happens to a listener with a buffer of `capacity` octets. -/
inductive Happening.Told (capacity : Nat) : Happening → List HandlerCall → Prop
  /-- The messages of a datagram are handed over, and then comes why the rest is none. -/
  | fitting {octets : Bytes} {calls : List HandlerCall} (fits : octets.length ≤ capacity)
      (handed : Handed (Datagram.messages octets).1 calls) :
      Told capacity (.datagram octets) (calls ++ rejection (Datagram.messages octets).2)
  /-- Of a datagram that does not fit there is nothing but its loss. -/
  | truncated {octets : Bytes} (lost : capacity < octets.length) :
      Told capacity (.datagram octets) [.report (.truncated octets.length capacity) false]
  /-- A failure of the system is fatal. -/
  | fault (errno : Int32) : Told capacity (.fault errno) [.report (.socket (.system errno)) true]
  /-- The signal is not told. -/
  | stop : Told capacity .stop []

/-! ### What calls tell -/

/-- The messages handed over are those of the datagram. -/
theorem Handed.filterMap_message? {messages : List Bytes} {calls : List HandlerCall}
    (h : Handed messages calls) : calls.filterMap HandlerCall.message? = messages := by
  induction h with
  | nil => rfl
  | done h ih => exact congrArg (_ :: ·) ih
  | failed e h ih => exact congrArg (_ :: ·) ih

/-- No failure of a handler is fatal. -/
theorem Handed.isFatal_eq_false {messages : List Bytes} {calls : List HandlerCall}
    (h : Handed messages calls) : ∀ c ∈ calls, c.isFatal = false := by
  induction h with
  | nil => exact fun c hc => absurd hc List.not_mem_nil
  | done h ih => exact List.forall_mem_cons.2 ⟨rfl, ih⟩
  | failed e h ih => exact List.forall_mem_cons.2 ⟨rfl, List.forall_mem_cons.2 ⟨rfl, ih⟩⟩

theorem filterMap_message?_rejection (ending : Option DecodeError) :
    (rejection ending).filterMap HandlerCall.message? = [] := by
  cases ending <;> rfl

theorem isFatal_eq_false_of_mem_rejection {ending : Option DecodeError} :
    ∀ c ∈ rejection ending, c.isFatal = false := by
  cases ending with
  | none => exact fun c hc => absurd hc List.not_mem_nil
  | some e => exact List.forall_mem_singleton.2 rfl

namespace Happening

variable {capacity : Nat} {e : Happening} {calls : List HandlerCall}

/-- **What is handled** are the messages of the datagrams that fit. -/
theorem Told.filterMap_message? (h : e.Told capacity calls) :
    calls.filterMap HandlerCall.message? = e.messages capacity := by
  cases h with
  | fitting fits handed =>
    rw [List.filterMap_append, handed.filterMap_message?, filterMap_message?_rejection,
      List.append_nil, messages, if_pos fits]
  | truncated lost =>
    rw [messages, if_neg (Nat.not_le.2 lost)]
    rfl
  | fault errno => rfl
  | stop => rfl

/-- What a listener goes on after is not told as fatal. -/
theorem Told.isFatal_eq_false (h : e.Told capacity calls) (hpassing : e.isPassing = true) :
    ∀ c ∈ calls, c.isFatal = false := by
  cases h with
  | fitting fits handed =>
    intro c hc
    rcases List.mem_append.1 hc with hc | hc
    · exact handed.isFatal_eq_false c hc
    · exact isFatal_eq_false_of_mem_rejection c hc
  | truncated lost => exact List.forall_mem_singleton.2 rfl
  | fault errno => cases hpassing
  | stop => cases hpassing

/-- **What is told as fatal** is that the system failed. -/
theorem Told.mem_report_true_iff (h : e.Told capacity calls) {f : Failure} :
    .report f true ∈ calls ↔ ∃ errno, e = .fault errno ∧ f = .socket (.system errno) := by
  by_cases hpassing : e.isPassing = true
  · constructor
    · intro hc
      cases h.isFatal_eq_false hpassing _ hc
    · rintro ⟨errno, rfl, -⟩
      cases hpassing
  · cases h with
    | fitting fits handed => exact absurd rfl hpassing
    | truncated lost => exact absurd rfl hpassing
    | fault errno =>
      constructor
      · intro hc
        cases List.mem_singleton.1 hc
        exact ⟨errno, rfl, rfl⟩
      · rintro ⟨errno', he, rfl⟩
        cases he
        exact List.mem_singleton.2 rfl
    | stop =>
      constructor
      · exact fun hc => absurd hc List.not_mem_nil
      · rintro ⟨errno, he, -⟩
        cases he

/-- Nothing is told after a fatal failure. -/
theorem isFatal_eq_false_of_mem_dropLast {events : List Happening} {told : List (List HandlerCall)}
    (h : List.Forall₂ (Told capacity) (met events) told) :
    ∀ c ∈ told.flatten.dropLast, c.isFatal = false := by
  induction events generalizing told with
  | nil =>
    cases h
    exact fun c hc => absurd hc List.not_mem_nil
  | cons e rest ih =>
    rw [met] at h
    cases h with | cons hfirst hlater =>
    rename_i first later
    intro c hc
    cases hpassing : e.isPassing with
    | true =>
      rw [hpassing, if_pos rfl] at hlater
      rw [List.flatten_cons, List.dropLast_append] at hc
      split at hc
      · exact hfirst.isFatal_eq_false hpassing c (List.mem_of_mem_dropLast hc)
      · rcases List.mem_append.1 hc with hc | hc
        · exact hfirst.isFatal_eq_false hpassing c hc
        · exact ih hlater c hc
    | false =>
      rw [hpassing, if_neg Bool.false_ne_true] at hlater
      cases hlater
      rw [List.flatten_singleton] at hc
      cases hfirst with
      | fitting fits handed => cases hpassing
      | truncated lost => cases hpassing
      | fault errno => cases hc
      | stop => cases hc

theorem mem_report_true_iff {events : List Happening} {told : List (List HandlerCall)}
    (h : List.Forall₂ (Told capacity) events told) {f : Failure} :
    .report f true ∈ told.flatten ↔
      ∃ errno, .fault errno ∈ events ∧ f = .socket (.system errno) := by
  induction h with
  | nil => simp
  | cons hfirst hlater ih =>
    rw [List.flatten_cons, List.mem_append, hfirst.mem_report_true_iff, ih, ← exists_or]
    refine exists_congr fun errno => ?_
    rw [List.mem_cons, or_and_right, eq_comm]

theorem filterMap_message?_flatten {events : List Happening} {told : List (List HandlerCall)}
    (h : List.Forall₂ (Told capacity) events told) :
    told.flatten.filterMap HandlerCall.message? = events.flatMap (messages capacity) := by
  induction h with
  | nil => rfl
  | cons hfirst hlater ih =>
    rw [List.flatten_cons, List.filterMap_append, hfirst.filterMap_message?, ih, List.flatMap_cons]

end Happening

/-! ### Datagrams -/

namespace Handler

section

variable {σ : Type} (h : Handler σ)

theorem handle_recording (message : Bytes) (calls : List HandlerCall) (s : σ) :
    h.recording.handle message (calls, s) = ((h.handle message s).1,
      calls ++ [.handle message (h.handle message s).1], (h.handle message s).2) := rfl

theorem report_recording (e : Failure) (fatal : Bool) (calls : List HandlerCall) (s : σ) :
    h.recording.report e fatal (calls, s) =
      ((), calls ++ [.report e fatal], (h.report e fatal s).2) := rfl

end

variable {σ : Type} [Journal σ] (h : Handler σ)

theorem handleOne_of_ok {message : Bytes} {s s' : σ} (hrun : h.handle message s = (.ok (), s')) :
    h.handleOne message s = ((), s') := by
  simp only [handleOne, ExceptT.run, bind, StateT.bind, hrun]
  rfl

theorem handleOne_of_error {message : Bytes} {s s' : σ} {e : Failure}
    (hrun : h.handle message s = (.error e, s')) : h.handleOne message s =
      h.report e false (Journal.write ⟨.warn, e.wordedBehind "Failed to handle message: "⟩ s') := by
  simp only [handleOne, ExceptT.run, bind, StateT.bind, hrun]
  rfl

/-- **One message is handed over**, and then come the calls for the rest. -/
theorem exists_handleOne_recording (message : Bytes) (calls : List HandlerCall) (s : σ) :
    ∃ told, (∀ rest later, Handed rest later → Handed (message :: rest) (told ++ later)) ∧
      h.recording.handleOne message (calls, s) =
        ((), calls ++ told, (h.handleOne message s).2) := by
  have hkept := h.handle_recording message calls s
  rcases hrun : h.handle message s with ⟨e | _, s'⟩
  · rw [hrun] at hkept
    refine ⟨[.handle message (.error e), .report e false], fun _ _ => .failed e, ?_⟩
    rw [handleOne_of_error _ hrun, handleOne_of_error _ hkept, report_recording]
    exact congrArg (fun c => ((), c, _)) (List.append_assoc calls [_] [_])
  · rw [hrun] at hkept
    refine ⟨[.handle message (.ok ())], fun _ _ => .done, ?_⟩
    rw [handleOne_of_ok _ hrun, handleOne_of_ok _ hkept]

/-- **Messages are handed over** one after the other, whatever becomes of them. -/
theorem exists_handleEach_recording (messages : List Bytes) (calls : List HandlerCall) (s : σ) :
    ∃ told, Handed messages told ∧ h.recording.handleEach messages (calls, s) =
      ((), calls ++ told, (h.handleEach messages s).2) := by
  induction messages generalizing calls s with
  | nil => exact ⟨[], .nil, congrArg (fun c => ((), c, s)) (List.append_nil calls).symm⟩
  | cons message rest ih =>
    obtain ⟨first, hfirst, hone⟩ := h.exists_handleOne_recording message calls s
    obtain ⟨later, hlater, heach⟩ := ih (calls ++ first) (h.handleOne message s).2
    refine ⟨first ++ later, hfirst rest later hlater, ?_⟩
    change h.recording.handleEach rest (h.recording.handleOne message (calls, s)).2 = _
    rw [hone, heach, List.append_assoc]
    rfl

/-- What follows the messages of a datagram is reported if it is none. -/
theorem exists_dispatch_recording (datagram : Bytes) (calls : List HandlerCall) (s : σ) :
    ∃ told, Handed (Datagram.messages datagram).1 told ∧ h.recording.dispatch datagram (calls, s) =
      ((), calls ++ (told ++ rejection (Datagram.messages datagram).2),
        (h.dispatch datagram s).2) := by
  rcases hsplit : Datagram.messages datagram with ⟨messages, ending⟩
  obtain ⟨told, htold, heach⟩ := h.exists_handleEach_recording messages calls s
  refine ⟨told, htold, ?_⟩
  rw [← List.append_assoc, dispatch, dispatch, hsplit]
  cases ending with
  | none =>
    rw [rejection, Option.map_none, Option.toList_none, List.append_nil]
    exact heach
  | some e =>
    change h.recording.report (.decode e) false
      (Journal.write _ (h.recording.handleEach messages (calls, s)).2) = _
    rw [heach]
    rfl

end Handler

/-! ### Parts of a run -/

namespace Listener

theorem unlessEnded_apply {τ : Type} (a b : StateM τ Bool) (t : τ) :
    (do if ← a then b else return false : StateM τ Bool) t =
      if (a t).1 then b (a t).2 else (false, (a t).2) := by
  change (if (a t).1 then b else fun t => (false, t)) (a t).2 = _
  cases (a t).1 <;> rfl

/-- It does not matter how parts that may end a listener are grouped. -/
theorem unlessEnded_assoc {τ : Type} (a b c : StateM τ Bool) :
    (do if ← (do if ← a then b else return false) then c else return false) =
      (do if ← a then (do if ← b then c else return false) else return false) := by
  funext t
  simp only [unlessEnded_apply]
  cases (a t).1 <;> rfl

variable {σ : Type}

/-- A part of a listener's life, over a handler and over the one that keeps what it is called with:
both do the same, and the calls kept are those that tell of what is met. -/
def Meets (plain : StateM (Listener × σ) Bool)
    (kept : StateM (Listener × List HandlerCall × σ) Bool) (events : List Happening) : Prop :=
  ∀ l calls s, ∃ told l' s',
    plain (l, s) = (events.all Happening.isPassing, l', s') ∧
      kept (l, calls, s) = (events.all Happening.isPassing, l', calls ++ told.flatten, s') ∧
      l'.buffer.length = l.buffer.length ∧
      List.Forall₂ (Happening.Told l.buffer.length) (Happening.met events) told

/-- A step of a listener, over a handler and over the one that keeps what it is called with: the
calls tell of `e`. -/
def Tells (plain : StateM (Listener × σ) Unit)
    (kept : StateM (Listener × List HandlerCall × σ) Unit) (e : Happening) : Prop :=
  ∀ l calls s, ∃ told l' s', plain (l, s) = ((), l', s') ∧
    kept (l, calls, s) = ((), l', calls ++ told, s') ∧ l'.buffer.length = l.buffer.length ∧
    e.Told l.buffer.length told

namespace Meets

variable {plain plain' : StateM (Listener × σ) Bool}
  {kept kept' : StateM (Listener × List HandlerCall × σ) Bool} {events events' : List Happening}
  {act : StateM (Listener × σ) Unit} {act' : StateM (Listener × List HandlerCall × σ) Unit}
  {e : Happening}

theorem nil : Meets (return true : StateM (Listener × σ) Bool) (return true) [] := by
  intro l calls s
  exact ⟨[], l, s, rfl, congrArg (fun c => (true, l, c, s)) (List.append_nil calls).symm, rfl, .nil⟩

/-- **One thing happens** that a listener goes on after, and then the rest. -/
theorem cons (hact : Tells act act' e) (hpassing : e.isPassing = true)
    (h : Meets plain kept events) :
    Meets (do act; plain) (do act'; kept) (e :: events) := by
  intro l calls s
  obtain ⟨first, l₁, s₁, hact, hact', hlength₁, hfirst⟩ := hact l calls s
  obtain ⟨later, l₂, s₂, hplain, hkept, hlength₂, hlater⟩ := h l₁ (calls ++ first) s₁
  have hmet : Happening.met (e :: events) = e :: Happening.met events := by
    rw [Happening.met, if_pos hpassing]
  have hall : (e :: events).all Happening.isPassing = events.all Happening.isPassing := by
    rw [List.all_cons, hpassing, Bool.true_and]
  refine ⟨first :: later, l₂, s₂, ?_, ?_, hlength₂.trans hlength₁, ?_⟩
  · change plain (act (l, s)).2 = _
    rw [hact, hplain, hall]
  · change kept (act' (l, calls, s)).2 = _
    rw [hact', hkept, hall, List.flatten_cons, List.append_assoc]
  · rw [hmet]
    exact .cons hfirst (hlength₁ ▸ hlater)

/-- **What ends a listener is the last thing that it meets.** -/
theorem last (hact : Tells act act' e) (hends : e.isPassing = false) :
    Meets (do act; return false) (do act'; return false) (e :: events) := by
  intro l calls s
  obtain ⟨told, l', s', hact, hact', hlength, htold⟩ := hact l calls s
  have hmet : Happening.met (e :: events) = [e] := by
    rw [Happening.met, hends]
    rfl
  have hall : (e :: events).all Happening.isPassing = false := by
    rw [List.all_cons, hends, Bool.false_and]
  refine ⟨[told], l', s', ?_, ?_, hlength, ?_⟩
  · change (false, (act (l, s)).2) = _
    rw [hact, hall]
  · change (false, (act' (l, calls, s)).2) = _
    rw [hact', hall, List.flatten_singleton]
  · rw [hmet]
    exact .cons htold .nil

/-- **One part after the other**, unless the first one ends the listener. -/
theorem append (h : Meets plain kept events) (h' : Meets plain' kept' events') :
    Meets (do if ← plain then plain' else return false) (do if ← kept then kept' else return false)
      (events ++ events') := by
  intro l calls s
  obtain ⟨first, l₁, s₁, hplain, hkept, hlength₁, hfirst⟩ := h l calls s
  simp only [unlessEnded_apply]
  rw [hplain, hkept, List.all_append]
  cases hall : events.all Happening.isPassing with
  | true =>
    obtain ⟨later, l₂, s₂, hplain', hkept', hlength₂, hlater⟩ := h' l₁ (calls ++ first.flatten) s₁
    refine ⟨first ++ later, l₂, s₂, hplain', ?_, hlength₂.trans hlength₁, ?_⟩
    · rw [List.flatten_append, ← List.append_assoc]
      exact hkept'
    · rw [Happening.met_append, if_pos hall]
      exact List.rel_append hfirst (hlength₁ ▸ hlater)
  | false =>
    refine ⟨first, l₁, s₁, rfl, rfl, hlength₁, ?_⟩
    rw [Happening.met_append, if_neg (Bool.eq_false_iff.1 hall), List.append_nil]
    exact hfirst

end Meets

section

variable [Journal σ] (h : Handler σ)

theorem tells_accept (octets : Bytes) :
    Tells (accept h octets) (accept h.recording octets) (.datagram octets) := by
  intro l calls s
  have hreceived := Buffer.received_overlay l.buffer octets
  have hlength := Buffer.length_overlay l.buffer octets
  by_cases hfits : octets.length ≤ l.buffer.length
  · rw [if_pos hfits] at hreceived
    obtain ⟨told, htold, hdispatch⟩ := h.exists_dispatch_recording octets calls s
    refine ⟨_, ⟨l.port, Buffer.overlay l.buffer octets⟩, (h.dispatch octets s).2, ?_, ?_, hlength,
      .fitting hfits htold⟩
    · simp only [accept, hreceived]
    · simp only [accept, hreceived, hdispatch]
  · rw [if_neg hfits] at hreceived
    refine ⟨_, ⟨l.port, Buffer.overlay l.buffer octets⟩, (accept h octets (l, s)).2.2, ?_, ?_,
      hlength, .truncated (Nat.lt_of_not_le hfits)⟩
    · simp only [accept, hreceived]
    · simp only [accept, hreceived]
      rfl

theorem tells_fail (text : Listener → String) (errno : Int32) :
    Tells (do fail h (text (← get).1) errno) (do fail h.recording (text (← get).1) errno)
      (.fault errno) :=
  fun l _ _ => ⟨_, l, _, rfl, rfl, rfl, .fault errno⟩

theorem tells_farewell :
    Tells (do farewell (← get).1 : StateM (Listener × σ) Unit) (do farewell (← get).1) .stop :=
  fun l calls _ =>
    ⟨[], l, _, rfl, congrArg (fun c => ((), l, c, _)) (List.append_nil calls).symm, rfl, .stop⟩

theorem meets_drain (receipts : List Receipt) :
    Meets (drain h receipts) (drain h.recording receipts) (Ready.socket receipts).happenings := by
  induction receipts with
  | nil => exact .nil
  | cons receipt rest ih =>
    cases receipt with
    | datagram octets => exact .cons (tells_accept h octets) rfl ih
    | fault errno =>
      rw [drain, drain]
      by_cases hagain : errno = Errno.tryAgain
      · rw [if_pos hagain, if_pos hagain, hagain]
        exact .nil
      · rw [if_neg hagain, if_neg hagain]
        by_cases hinterrupted : errno = Errno.interrupted
        · rw [if_pos hinterrupted, if_pos hinterrupted, hinterrupted]
          exact ih
        · rw [if_neg hinterrupted, if_neg hinterrupted, Ready.happenings_fault hagain hinterrupted]
          let cause := (SocketError.system errno).message
          exact .last (tells_fail h
            (fun l => s!"Receive failed on listener port ID {l.port}: {cause}; exiting") errno) rfl

theorem meets_attend (what : List Ready) :
    Meets (attend h what) (attend h.recording what) (what.flatMap Ready.happenings) := by
  induction what with
  | nil => exact .nil
  | cons ready rest ih =>
    cases ready with
    | signal readable =>
      cases readable with
      | true => exact .last tells_farewell rfl
      | false => exact ih
    | socket receipts => exact .append (meets_drain h receipts) ih

/-- **A run over wakes** tells of what is met. -/
theorem meets_run (wakes : List Wake) :
    Meets (run h wakes) (run h.recording wakes) (wakes.flatMap Wake.happenings) := by
  induction wakes with
  | nil => exact .nil
  | cons wake rest ih =>
    cases wake with
    | fault errno =>
      rw [run, run, List.flatMap_cons, Wake.happenings]
      by_cases hinterrupted : errno = Errno.interrupted
      · rw [if_pos hinterrupted, if_pos hinterrupted, if_pos hinterrupted]
        exact ih
      · rw [if_neg hinterrupted, if_neg hinterrupted, if_neg hinterrupted]
        let cause := (SocketError.system errno).message
        exact .last (tells_fail h
          (fun _ => s!"Failed to epoll file descriptors: {cause}; exiting listener") errno) rfl
    | ready what => exact .append (meets_attend h what) ih

/-! ### The signal -/

/-- What is ready later is looked at if nothing ends the listener before. -/
theorem attend_append (what more : List Ready) :
    attend h (what ++ more) = do if ← attend h what then attend h more else return false := by
  induction what with
  | nil => rfl
  | cons ready rest ih =>
    cases ready with
    | signal readable =>
      cases readable with
      | true => rfl
      | false => exact ih
    | socket receipts =>
      rw [List.cons_append, attend, attend, ih, unlessEnded_assoc]

/-- Later wakes are gone through if nothing ends the listener before. -/
theorem run_append (wakes later : List Wake) :
    run h (wakes ++ later) = do if ← run h wakes then run h later else return false := by
  induction wakes with
  | nil => rfl
  | cons wake rest ih =>
    cases wake with
    | fault errno =>
      rw [List.cons_append, run, run]
      by_cases hinterrupted : errno = Errno.interrupted
      · rw [if_pos hinterrupted, if_pos hinterrupted]
        exact ih
      · rw [if_neg hinterrupted, if_neg hinterrupted]
        rfl
    | ready what => rw [List.cons_append, run, run, ih, unlessEnded_assoc]

/-- The calls of a run. -/
def calls (wakes : List Wake) (l : Listener) (s : σ) : List HandlerCall :=
  (run h.recording wakes (l, [], s)).2.2.1

/-- **The signal ends the calls**: they are those of a run that ends right before it. -/
theorem calls_signal (before rest : List Wake) (what more : List Ready) (l : Listener) (s : σ) :
    calls h (before ++ .ready (what ++ .signal true :: more) :: rest) l s =
      calls h (before ++ [.ready what]) l s := by
  rw [calls, calls, run_append, run_append, run, run, attend_append]
  simp only [unlessEnded_apply]
  cases (run h.recording before (l, [], s)).1 with
  | false => rfl
  | true =>
    simp only [if_true]
    cases (attend h.recording what (run h.recording before (l, [], s)).2).1 <;> rfl

/-! ### The calls of a run -/

/-- What the calls of a run tell of what happens, to a listener with a buffer of `capacity` octets
that goes on afterwards or not. -/
structure Chronicle (capacity : Nat) (events : List Happening) (goesOn : Bool)
    (calls : List HandlerCall) : Prop where
  /-- What is met is told in its turn, and nothing else is. -/
  told : ∃ told, List.Forall₂ (Happening.Told capacity) (Happening.met events) told ∧
    calls = told.flatten
  /-- The listener goes on unless the signal is read or the system fails. -/
  goesOn_iff : goesOn = true ↔ ∀ e ∈ events, e.isPassing = true
  /-- Only the last call may be about a fatal failure. -/
  fatal_last : ∀ c ∈ calls.dropLast, c.isFatal = false
  /-- There is such a call exactly if the system fails before anything else ends the listener. -/
  fatal_iff : ∀ f, .report f true ∈ calls ↔
    ∃ errno, .fault errno ∈ Happening.met events ∧ f = .socket (.system errno)
  /-- The messages of the datagrams that fit are handled, each of them once and in order. -/
  handled : calls.filterMap HandlerCall.message? =
    (Happening.met events).flatMap (Happening.messages capacity)

/-- **What a listener tells its handler**, whatever happens and whatever the handler makes of it:
each thing that is met in its turn, with a fatal failure as the last one. Once the signal is read
there are no more calls. Keeping the calls changes nothing else. -/
theorem chronicle (wakes : List Wake) (l : Listener) (s : σ) :
    Chronicle l.buffer.length (wakes.flatMap Wake.happenings) (run h wakes (l, s)).1
        (calls h wakes l s) ∧
      (∀ before what more rest,
        calls h (before ++ .ready (what ++ .signal true :: more) :: rest) l s =
          calls h (before ++ [.ready what]) l s) ∧
      run h.recording wakes (l, [], s) = ((run h wakes (l, s)).1, (run h wakes (l, s)).2.1,
        calls h wakes l s, (run h wakes (l, s)).2.2) := by
  obtain ⟨told, l', s', hplain, hkept, -, htold⟩ := meets_run h wakes l [] s
  have hcalls : calls h wakes l s = told.flatten := by
    rw [calls, hkept]
    rfl
  refine ⟨⟨⟨told, htold, hcalls⟩, ?_, ?_, fun f => ?_, ?_⟩, ?_, ?_⟩
  · rw [hplain]
    exact List.all_eq_true
  · rw [hcalls]
    exact Happening.isFatal_eq_false_of_mem_dropLast htold
  · rw [hcalls]
    exact Happening.mem_report_true_iff htold
  · rw [hcalls]
    exact Happening.filterMap_message?_flatten htold
  · exact fun before what more rest => calls_signal h before rest what more l s
  · rw [calls, hkept, hplain]

end

/-- A wait is interrupted and a datagram is lost. Then the connection to the other side breaks down,
so the datagram behind that is not received any more. -/
example : calls (⟨fun _ => return, fun _ _ => return⟩ : Handler Logbook)
    [.fault Errno.interrupted, .ready [.socket [.datagram (List.replicate 32 0), .fault 104,
      .datagram (List.replicate 16 0)]]] (.start 7 24) .empty =
    [.report (.truncated 32 24) false, .report (.socket (.system 104)) true] :=
  rfl

end Listener

end VSwitch
