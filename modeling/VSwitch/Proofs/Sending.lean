import VSwitch.Proofs.Exchange
import VSwitch.Session

/-!
# What a computation sends

What is handed to a link can be read off the calls that are made on it. Each way of putting
computations together is looked at once here: what it sends is what its parts send. Receiving sends
nothing, however long it takes, and so the messages of an operation are those that its requests are
finished to.

* `VSwitch.Linked` are the states with a link, and `VSwitch.Act.Sends` says that a computation
  hands nothing to the link but messages with a property;
* `VSwitch.Request.Yields` are the messages that a request may be finished to;
* `VSwitch.Session.sends_request`, `VSwitch.Session.sends_collect` and `VSwitch.Session.sends_send`
  say that nothing else is sent for a request.
-/

namespace VSwitch

/-- States with a link. Writing to the journal is no call on it. -/
class Linked (σ : Type) [Journal σ] where
  /-- The link. -/
  link : σ → Link
  calls_write : ∀ line s, (link (Journal.write line s)).calls = (link s).calls

instance : Linked Link := ⟨id, fun _ _ => rfl⟩

instance : Linked Endpoint := ⟨Endpoint.link, fun _ _ => rfl⟩

instance : Linked Session := ⟨fun s => s.endpoint.link, fun _ _ => rfl⟩

instance {τ σ : Type} [Journal σ] [Linked σ] : Linked (τ × σ) :=
  ⟨fun s => Linked.link s.2, fun line s => Linked.calls_write line s.2⟩

namespace Act

variable {σ τ α β : Type} [Journal σ] [Linked σ] {P : Bytes → Prop} {s : σ}

/-- Every message that a computation hands to the link, run from the given state, satisfies `P`. -/
def Sends (P : Bytes → Prop) (act : Act σ α) (s : σ) : Prop :=
  ∃ calls, (Linked.link (outcome act s).2).calls = calls ++ (Linked.link s).calls ∧
    ∀ m ∈ calls.filterMap Link.Call.message?, P m

namespace Sends

/-! ### Computations put together -/

/-- A computation that makes no call sends nothing. -/
theorem of_calls_eq {act : Act σ α}
    (h : (Linked.link (outcome act s).2).calls = (Linked.link s).calls) : Sends P act s :=
  ⟨[], h, by simp⟩

/-- A sequence sends what its parts send, where the second part runs on what the first one leaves. -/
theorem bind_of_ok {x : Act σ α} {k : α → Act σ β} (hx : Sends P x s)
    (hk : ∀ a t, outcome x s = (.ok a, t) → Sends P (k a) t) : Sends P (x >>= k) s := by
  obtain ⟨first, hfirst, hP⟩ := hx
  rw [Sends, outcome_bind]
  rcases hrun : outcome x s with ⟨e | a, t⟩
  · rw [hrun] at hfirst
    exact ⟨first, hfirst, hP⟩
  · rw [hrun] at hfirst
    obtain ⟨second, hsecond, hP'⟩ := hk a t hrun
    refine ⟨second ++ first, ?_, fun m hm => ?_⟩
    · rw [hsecond, hfirst, List.append_assoc]
    · rw [List.filterMap_append] at hm
      exact (List.mem_append.1 hm).elim (hP' m) (hP m)

/-- **A sequence sends what its parts send.** -/
theorem bind {x : Act σ α} {k : α → Act σ β} (hx : Sends P x s)
    (hk : ∀ a t, Sends P (k a) t) : Sends P (x >>= k) s :=
  hx.bind_of_ok fun a t _ => hk a t

/-- What is done with the state may depend on it. -/
theorem get_bind {k : σ → Act σ β} (h : Sends P (k s) s) : Sends P (get >>= k) s := by
  rw [Sends, outcome_bind, outcome_get]
  exact h

/-- What is done with something that was to be written is done with what was written. -/
theorem ofEncode_bind {r : Except EncodeError α} {k : α → Act σ β}
    (h : ∀ a, r = .ok a → Sends P (k a) s) : Sends P (Act.ofEncode r >>= k) s := by
  cases r with
  | error e => exact of_calls_eq rfl
  | ok a => exact h a rfl

theorem pure (a : α) : Sends P (pure a : Act σ α) s := of_calls_eq rfl

theorem throw (e : Failure) : Sends P (throw e : Act σ α) s := of_calls_eq rfl

/-- What comes after a failure is not done. -/
theorem throw_bind (e : Failure) {k : α → Act σ β} :
    Sends P ((MonadExcept.throw e : Act σ α) >>= k) s := of_calls_eq rfl

theorem ofExcept (r : Except Failure α) : Sends P (MonadExcept.ofExcept r : Act σ α) s :=
  of_calls_eq (by rw [outcome_ofExcept])

theorem ofNumber (r : Except Overflow α) : Sends P (Act.ofNumber r : Act σ α) s := of_calls_eq rfl

theorem debug (text : String) : Sends P (VSwitch.debug text : Act σ Unit) s :=
  of_calls_eq (by rw [outcome_debug, Linked.calls_write])

theorem onFirst {act : Act τ α} {s : τ × σ} : Sends P (Act.onFirst act : Act (τ × σ) α) s :=
  of_calls_eq rfl

theorem onSecond {act : Act σ α} {s : τ × σ} (h : Sends P act s.2) :
    Sends P (Act.onSecond act : Act (τ × σ) α) s := h

theorem starting {t : τ} {act : Act (τ × σ) α} (h : Sends P act (t, s)) :
    Sends P (Act.starting t act) s := h

theorem attempt {act : Act σ α} (h : Sends P act s) : Sends P (Act.attempt act) s := h

end Sends

end Act

/-! ### The link -/

/-- A message that a draft may be finished to, whatever sequence number it gets. -/
def Draft.Yields (d : Draft) (m : Bytes) : Prop := ∃ sequence, d.finish sequence = .ok m

namespace Link

open Act (Sends)

variable {α : Type} {P : Bytes → Prop} {l : Link}

theorem sends_send {message : Bytes} (h : P message) : Sends P (send message) l := by
  refine ⟨[.send message (l.outcomes.headD .delivered)], rfl, fun m hm => ?_⟩
  obtain rfl : m = message := by simpa [Call.message?] using hm
  exact h

/-- **A draft is sent as what it is finished to.** -/
theorem sends_transmit {draft : Draft} (h : ∀ m, draft.Yields m → P m) :
    Sends P (transmit draft) l := by
  refine .get_bind (.ofEncode_bind fun message hfinish => ?_)
  refine .bind (.of_calls_eq rfl) fun _ l' => ?_
  exact .bind (sends_send (h message ⟨_, hfinish⟩)) fun _ _ => .pure _

theorem sends_arrive (arrival : Arrival) (rest : List Arrival) :
    Sends P (arrive arrival rest) l := by
  cases arrival <;> exact ⟨[.receive], rfl, by simp [Call.message?]⟩

theorem sends_starve : Sends P (starve : Act Link α) l :=
  ⟨[.receive], rfl, by simp [Call.message?]⟩

end Link

/-! ### Endpoints -/

/-- Messages are handed over without any being sent, if none is sent for one of them. -/
theorem sends_walk {σ α : Type} [Journal σ] [Linked σ] {P : Bytes → Prop}
    {judge : Bytes → Act σ (Option α)} (h : ∀ message s, Act.Sends P (judge message) s)
    (messages : List Bytes) (ending : Option DecodeError) (s : σ) :
    Act.Sends P (walk judge messages ending) s := by
  induction messages generalizing s with
  | nil => cases ending <;> exact .of_calls_eq rfl
  | cons message rest ih =>
    refine .bind (h message s) fun r t => ?_
    cases r with
    | some a => exact .pure _
    | none => exact ih t

namespace Endpoint

open Act (Sends)

variable {τ α : Type} {P : Bytes → Prop}

theorem sends_onLink {act : Act Link α} {e : Endpoint} (h : Sends P act e.link) :
    Sends P (onLink act) e := h

theorem sends_send {draft : Draft} (h : ∀ m, draft.Yields m → P m) (e : Endpoint) :
    Sends P (send draft) e := sends_onLink (Link.sends_transmit h)

theorem sends_accept (arrival : Arrival) (rest : List Arrival) (e : Endpoint) :
    Sends P (accept arrival rest) e := by
  refine .bind (sends_onLink (Link.sends_arrive arrival rest)) fun datagram e' => ?_
  refine .bind (.of_calls_eq rfl) fun _ e'' => ?_
  exact .get_bind (.ofExcept _)

/-- **Receiving sends nothing**, if judging a message does not. -/
theorem sends_exchange {judge : Bytes → Act (τ × Endpoint) (Option α)}
    (h : ∀ message s, Sends P (judge message) s) (s : τ × Endpoint) :
    Sends P (exchange judge) s := by
  refine .get_bind ?_
  generalize s.2.link.inbox = arrivals
  induction arrivals generalizing s with
  | nil => exact .onSecond (sends_onLink Link.sends_starve)
  | cons arrival rest ih =>
    refine .bind (.onSecond (sends_accept arrival rest s.2)) fun datagram t => ?_
    refine .bind (sends_walk h _ _ t) fun r t' => ?_
    cases r with
    | some a => exact .pure _
    | none => exact ih t'

theorem sends_check (sequence : UInt32) (message : Bytes) (e : Endpoint) :
    Sends P (check sequence message) e := .get_bind (.ofExcept _)

theorem sends_answer (sequence : UInt32) (message : Bytes) (s : τ × Endpoint) :
    Sends P (answer sequence message) s := by
  refine .bind (.onSecond (sends_check sequence message s.2)) fun r t => ?_
  cases r with
  | answer header => exact .pure _
  | stray header => exact .bind (.debug _) fun _ _ => .pure _

theorem sends_part (consume : Bytes → Act τ Unit) (sequence : UInt32) (message : Bytes)
    (s : τ × Endpoint) : Sends P (part consume sequence message) s := by
  refine .bind (.onSecond (sends_check sequence message s.2)) fun r t => ?_
  cases r with
  | answer header =>
    simp only
    split
    · exact .pure _
    · exact .bind .onFirst fun _ _ => .pure _
  | stray header => exact .bind (.debug _) fun _ _ => .pure _

/-- **A request sends what its draft is finished to.** -/
theorem sends_request {draft : Draft} (h : ∀ m, draft.Yields m → P m) (e : Endpoint) :
    Sends P (request draft) e :=
  .bind (sends_send h e) fun sequence _ => .starting (sends_exchange (sends_answer sequence) _)

/-- **A dump sends what its draft is finished to.** -/
theorem sends_dump {draft : Draft} (h : ∀ m, draft.Yields m → P m) (consume : Bytes → Act τ Unit)
    (s : τ × Endpoint) : Sends P (dump draft consume) s :=
  .bind (.onSecond (sends_send h s.2)) fun sequence t =>
    sends_exchange (sends_part consume sequence) t

theorem sends_collect {draft : Draft} (h : ∀ m, draft.Yields m → P m)
    (decode : Bytes → Except Failure α) (e : Endpoint) : Sends P (collect draft decode) e :=
  .starting (.bind (sends_dump h _ _) fun _ _ => .get_bind (.pure _))

end Endpoint

/-! ### Sessions -/

/-- A message that a request may be finished to. -/
def Request.Yields (r : Request) (m : Bytes) : Prop := ∃ draft, r.draft = .ok draft ∧ draft.Yields m

namespace Session

open Act (Sends)

variable {α : Type} {P : Bytes → Prop} {r : Request}

theorem sends_onEndpoint {act : Act Endpoint α} {s : Session} (h : Sends P act s.endpoint) :
    Sends P (onEndpoint act) s := by
  refine .get_bind ?_
  by_cases hopen : s.isOpen = true
  · rw [if_pos hopen]
    exact h
  · rw [if_neg hopen]
    exact .of_calls_eq rfl

theorem sends_request (h : ∀ m, r.Yields m → P m) (s : Session) : Sends P (request r) s :=
  .ofEncode_bind fun draft hdraft =>
    sends_onEndpoint (Endpoint.sends_request (fun m hm => h m ⟨draft, hdraft, hm⟩) _)

theorem sends_collect (h : ∀ m, r.Yields m → P m) (decode : Bytes → Except Failure α)
    (s : Session) : Sends P (collect r decode) s :=
  .ofEncode_bind fun draft hdraft =>
    sends_onEndpoint (Endpoint.sends_collect (fun m hm => h m ⟨draft, hdraft, hm⟩) decode _)

theorem sends_send (h : ∀ m, r.Yields m → P m) (s : Session) : Sends P (send r) s := by
  refine .ofEncode_bind fun draft hdraft => .bind (sends_onEndpoint ?_) fun _ _ => .pure _
  exact Endpoint.sends_send (fun m hm => h m ⟨draft, hdraft, hm⟩) _

/-- **A request that the kernel may decline** sends what it is finished to, whatever is done next
with the answer or without one. -/
theorem sends_unlessKernel_bind {β : Type} {errno : Int32} {k : Option Bytes → Act Session β}
    {s : Session} (h : ∀ m, r.Yields m → P m) (hnone : ∀ t, Sends P (k none) t)
    (hsome : ∀ answer t, Sends P (k (some answer)) t) :
    Sends P (unlessKernel errno (request r) >>= k) s := by
  have hunless : Sends P (unlessKernel errno (request r)) s := by
    refine .bind (sends_request h s).attempt fun outcome t => ?_
    cases outcome with
    | ok answer => exact .pure _
    | error e =>
      refine .bind (.ofNumber _) fun isAbsent t => ?_
      split
      · exact .pure _
      · exact .throw _
  refine hunless.bind fun answer? t => ?_
  cases answer? with
  | none => exact hnone t
  | some answer => exact hsome answer t

end Session

end VSwitch
