import VSwitch.Proofs.Collecting
import VSwitch.Proofs.Errand
import VSwitch.Proofs.Extent
import VSwitch.Proofs.Failing

/-!
# Handing over a request

Whatever a client is asked to do starts with a request. The request is written, the session is
looked at, and the message gets its length and its number. Only then is anything sent. So what the
request is refused with, if it is, is what the client is told, and nothing has happened. If it is
not, whatever goes wrong later is not that a message cannot be written.

* `VSwitch.Act.Refuses` says which failure a computation is refused with;
* `VSwitch.Request.refusal?` is what a request is refused with, by an open session or a closed one;
* `VSwitch.Act.HingesOn` says of a computation that it hinges on a refusal, as above;
* `VSwitch.Errand.request?` is the first request for an errand, and `VSwitch.Errand.hingesOn_run` is
  the result: every errand hinges on what becomes of this request.
-/

namespace VSwitch

/-! ### Refusing -/

namespace Act

variable {σ τ α β : Type} {s : σ} {f : Failure}

/-- A computation fails with `f` and leaves the state as it is. -/
def Refuses (f : Failure) (act : Act σ α) (s : σ) : Prop := outcome act s = (.error f, s)

namespace Refuses

/-- What comes after a refusal is not done. -/
theorem bind {x : Act σ α} {k : α → Act σ β} (h : Refuses f x s) : Refuses f (x >>= k) s := by
  rw [Refuses, outcome_bind, h]

theorem get_bind {k : σ → Act σ β} (h : Refuses f (k s) s) : Refuses f (get >>= k) s := by
  rw [Refuses, outcome_bind, outcome_get]
  exact h

theorem onSecond {act : Act σ α} {s : τ × σ} (h : Refuses f act s.2) :
    Refuses f (Act.onSecond act : Act (τ × σ) α) s := by
  rw [Refuses, outcome_onSecond, h]

theorem starting {act : Act (τ × σ) α} {t : τ} (h : Refuses f act (t, s)) :
    Refuses f (Act.starting t act) s := by
  rw [Refuses, outcome_starting, h]

theorem within {part : σ → τ} {put : τ → σ → σ} {act : Act τ α} (h : Refuses f act (part s))
    (hput : put (part s) s = s) : Refuses f (Act.within part put act) s := by
  rw [Refuses, outcome_within, h, hput]

end Refuses

end Act

open Act (FailsIn Refuses)

/-! ### Hinging on a refusal -/

namespace Failure

/-- A failure is another one than that a message cannot be written. -/
def IsLater : Failure → Prop
  | .encode _ => False
  | _ => True

theorem IsOfAnswer.isLater {f : Failure} (h : f.IsOfAnswer) : f.IsLater := by
  cases h <;> trivial

theorem IsLater.ne_encode {f : Failure} (h : f.IsLater) (cause : EncodeError) :
    f ≠ .encode cause := by
  rintro rfl
  exact h

theorem IsLater.passedOn {f : Failure} (h : f.IsLater) : f.passedOn.IsLater := by
  rcases f.passedOn_cases with hf | ⟨_, cause, -, -, hf⟩
  · rwa [hf]
  · rw [hf]
    trivial

end Failure

open Failure (IsLater)

namespace Act

variable {σ τ α β : Type} {s : σ} {refusal? : Option Failure}

/-- A computation hinges on a refusal: if there is one, this is what it fails with, and nothing is
done; if there is none, it does not fail as a message cannot be written. -/
structure HingesOn (refusal? : Option Failure) (act : Act σ α) (s : σ) : Prop where
  refuses : ∀ f, refusal? = some f → Refuses f act s
  isLater : refusal? = none → ∀ f, (outcome act s).1 = .error f → f.IsLater

namespace HingesOn

/-- Only the first of some computations matters, if the others send nothing that cannot be
written. -/
theorem bind {x : Act σ α} {k : α → Act σ β} (hx : HingesOn refusal? x s)
    (hk : ∀ a, FailsIn IsLater (k a)) : HingesOn refusal? (x >>= k) s := by
  refine ⟨fun f hf => (hx.refuses f hf).bind, fun hnone f hf => ?_⟩
  rw [outcome_bind] at hf
  rcases hrun : outcome x s with ⟨g | a, t⟩
  · rw [hrun] at hf
    cases hf
    exact hx.isLater hnone f (by rw [hrun])
  · -- The first one was not refused, and what follows does not fail for writing either.
    rw [hrun] at hf
    exact hk a t f hf

theorem get_bind {k : σ → Act σ β} (h : HingesOn refusal? (k s) s) :
    HingesOn refusal? (get >>= k) s :=
  ⟨fun f hf => (h.refuses f hf).get_bind, fun hnone f hf => h.isLater hnone f hf⟩

theorem onSecond {act : Act σ α} {s : τ × σ} (h : HingesOn refusal? act s.2) :
    HingesOn refusal? (Act.onSecond act : Act (τ × σ) α) s :=
  ⟨fun f hf => (h.refuses f hf).onSecond, fun hnone f hf => h.isLater hnone f hf⟩

theorem starting {act : Act (τ × σ) α} {t : τ} (h : HingesOn refusal? act (t, s)) :
    HingesOn refusal? (Act.starting t act) s :=
  ⟨fun f hf => (h.refuses f hf).starting, fun hnone f hf => h.isLater hnone f hf⟩

theorem within {part : σ → τ} {put : τ → σ → σ} {act : Act τ α}
    (h : HingesOn refusal? act (part s)) (hput : put (part s) s = s) :
    HingesOn refusal? (Act.within part put act) s :=
  ⟨fun f hf => (h.refuses f hf).within hput, fun hnone f hf => h.isLater hnone f hf⟩

/-- What cannot be refused but for a reason that comes later does not fail otherwise. -/
theorem failure_isLater {act : Act σ α} (h : HingesOn refusal? act s)
    (hlater : ∀ f, refusal? = some f → f.IsLater) {f : Failure}
    (hf : (outcome act s).1 = .error f) : f.IsLater := by
  cases hr : refusal? with
  | none => exact h.isLater hr f hf
  | some g =>
    rw [h.refuses g hr] at hf
    cases hf
    exact hlater f hr

end HingesOn

end Act

open Act (HingesOn)

/-! ### Refusing a request -/

/-- What is refused of a message that has been drafted, for a session that is open or not. -/
def Draft.refusal? (d : Draft) (isOpen : Bool) : Option Failure :=
  if isOpen then
    match d.finish 0 with
    | .error cause => some (.encode cause)
    | .ok _ => none
  else some .closed

/-- What a session that is open or not refuses a request with, if it does. -/
def Request.refusal? (r : Request) (isOpen : Bool) : Option Failure :=
  match r.draft with
  | .error cause => some (.encode cause)
  | .ok d => d.refusal? isOpen

/-- What a closed session refuses a request with. -/
def Request.refusal (r : Request) : Failure :=
  match r.draft with
  | .ok _ => .closed
  | .error cause => .encode cause

namespace Request

variable {r : Request}

theorem refusal?_closed (r : Request) : r.refusal? false = some r.refusal := by
  rw [refusal?, refusal]
  cases r.draft <;> rfl

/-- A refusal is no answer of the kernel. -/
theorem ne_kernel_of_refusal? {isOpen : Bool} {f : Failure} (h : r.refusal? isOpen = some f)
    (report : KernelError) : f ≠ .kernel report := by
  rintro rfl
  rw [refusal?] at h
  cases hdraft : r.draft with
  | error cause =>
    rw [hdraft] at h
    cases h
  | ok d =>
    rw [hdraft] at h
    cases isOpen with
    | false => cases h
    | true =>
      simp only [Draft.refusal?, if_true] at h
      cases hfinish : d.finish 0 with
      | error cause =>
        rw [hfinish] at h
        cases h
      | ok message =>
        rw [hfinish] at h
        cases h

/-- **An open session refuses just the requests that cannot be written**, for this reason. -/
theorem refusal?_of_unwritable (hr : Put.AreAttributes r.attributes) (h : r.Unwritable) :
    ∃ cause, r.refusal? true = some (.encode cause) := by
  rcases draft_cases hr with ⟨hwritable, -⟩ | ⟨-, ⟨cause, hdraft⟩ | ⟨d, cause, hdraft, hfinish⟩⟩
  · exact absurd h hwritable
  · exact ⟨cause, by rw [refusal?, hdraft]⟩
  · refine ⟨cause, ?_⟩
    simp only [refusal?, hdraft, Draft.refusal?, hfinish, if_true]

theorem refusal?_of_writable (hr : Put.AreAttributes r.attributes) (h : ¬ r.Unwritable) :
    r.refusal? true = none := by
  rcases draft_cases hr with ⟨-, d, hdraft, hfinish⟩ | ⟨hunwritable, -⟩
  · obtain ⟨message, hmessage⟩ := hfinish 0
    simp only [refusal?, hdraft, Draft.refusal?, hmessage, if_true]
  · exact absurd hunwritable h

/-- A request that can be written is refused by closed sessions at most. -/
theorem isLater_of_refusal? (hr : Put.AreAttributes r.attributes) (h : ¬ r.Unwritable)
    {isOpen : Bool} {f : Failure} (hf : r.refusal? isOpen = some f) : f.IsLater := by
  cases isOpen with
  | true =>
    rw [refusal?_of_writable hr h] at hf
    cases hf
  | false =>
    rcases draft_cases hr with ⟨-, d, hdraft, -⟩ | ⟨hunwritable, -⟩
    · simp only [refusal?, hdraft, Draft.refusal?, Bool.false_eq_true, if_false] at hf
      cases hf
      trivial
    · exact absurd hunwritable h

end Request

/-! ### Exchanges -/

namespace Endpoint

variable {α : Type}

/-- An exchange starts with sending a message. -/
structure IsExchange (exchange : Draft → Act Endpoint α) : Prop where
  refuses : ∀ {d cause}, (∀ sequence, d.finish sequence = .error cause) →
    ∀ e, Act.Refuses (.encode cause) (exchange d) e
  failsIn : ∀ {d}, (∀ sequence cause, d.finish sequence ≠ .error cause) →
    FailsIn IsLater (exchange d)

theorem isExchange_send : IsExchange send := by
  refine ⟨fun {d cause} hfinish e => ?_, fun hfinish =>
    failsIn_send (fun _ h => h.isLater) fun sequence cause h => absurd h (hfinish sequence cause)⟩
  have htransmit : Act.Refuses (.encode cause) (Link.transmit d) e.link := by
    refine .get_bind (.bind ?_)
    rw [Act.Refuses, Act.outcome_ofEncode, hfinish]
    rfl
  rw [send, onLink]
  exact .within htransmit rfl

theorem isExchange_request : IsExchange request :=
  ⟨fun hfinish e => .bind (isExchange_send.refuses hfinish e), fun hfinish =>
    failsIn_request (fun _ h => h.isLater) fun sequence cause h =>
      absurd h (hfinish sequence cause)⟩

theorem isExchange_collect {decode : Bytes → Except Failure α}
    (hdecode : ∀ message f, decode message = .error f → f.IsLater) :
    IsExchange fun d => collect d decode :=
  ⟨fun hfinish e => .starting (.bind (.bind (.onSecond (isExchange_send.refuses hfinish e)))),
    fun hfinish => failsIn_collect (fun _ h => h.isLater)
      (fun sequence cause h => absurd h (hfinish sequence cause)) hdecode⟩

theorem IsExchange.hingesOn {exchange : Draft → Act Endpoint α} (h : IsExchange exchange)
    (d : Draft) (e : Endpoint) : HingesOn (d.refusal? true) (exchange d) e := by
  -- The message gets another sequence number in the end, but its length is the same.
  cases hfinish : d.finish 0 with
  | error cause =>
    have hrefusal : d.refusal? true = some (.encode cause) := by
      simp only [Draft.refusal?, hfinish, if_true]
    refine ⟨fun f hf => ?_, fun hnone => ?_⟩
    · rw [hrefusal] at hf
      cases hf
      exact h.refuses (fun sequence => Draft.finish_eq_error hfinish sequence) e
    · rw [hrefusal] at hnone
      cases hnone
  | ok message =>
    have hrefusal : d.refusal? true = none := by
      simp only [Draft.refusal?, hfinish, if_true]
    refine ⟨fun f hf => ?_, fun _ f hf => h.failsIn (fun sequence cause herror => ?_) e f hf⟩
    · rw [hrefusal] at hf
      cases hf
    · have hzero := Draft.finish_eq_error herror 0
      rw [hfinish] at hzero
      cases hzero

end Endpoint

/-- What is written first is refused first. -/
theorem Act.HingesOn.draft_bind {σ α : Type} {s : σ} {r : Request} {isOpen : Bool}
    {k : Draft → Act σ α} (h : ∀ d, HingesOn (d.refusal? isOpen) (k d) s) :
    HingesOn (r.refusal? isOpen) (Act.ofEncode r.draft >>= k) s := by
  rw [Request.refusal?]
  cases hdraft : r.draft with
  | ok d => exact h d
  | error cause =>
    refine ⟨fun f hf => ?_, fun hnone => ?_⟩
    · cases hf
      rfl
    · cases hnone

namespace Session

variable {α : Type}

/-- A closed session refuses what an open one would hand to its endpoint. -/
theorem hingesOn_onEndpoint {exchange : Draft → Act Endpoint α} (h : Endpoint.IsExchange exchange)
    (d : Draft) (s : Session) : HingesOn (d.refusal? s.isOpen) (onEndpoint (exchange d)) s := by
  by_cases hopen : s.isOpen = true
  · have hexchange := h.hingesOn d s.endpoint
    rw [hopen]
    refine ⟨fun f hf => ?_, fun hnone f hf => ?_⟩
    · rw [Refuses, outcome_onEndpoint hopen, hexchange.refuses f hf]
    · rw [outcome_onEndpoint hopen] at hf
      exact hexchange.isLater hnone f hf
  · have hrefusal : d.refusal? s.isOpen = some .closed := if_neg hopen
    rw [hrefusal]
    refine ⟨fun f hf => ?_, fun hnone => ?_⟩
    · cases hf
      exact outcome_onEndpoint_of_not_isOpen hopen _
    · cases hnone

variable (r : Request) (s : Session)

theorem hingesOn_request : HingesOn (r.refusal? s.isOpen) (request r) s :=
  .draft_bind fun d => hingesOn_onEndpoint Endpoint.isExchange_request d s

theorem hingesOn_collect {decode : Bytes → Except Failure α}
    (hdecode : ∀ message f, decode message = .error f → f.IsLater) :
    HingesOn (r.refusal? s.isOpen) (collect r decode) s :=
  .draft_bind fun d => hingesOn_onEndpoint (Endpoint.isExchange_collect hdecode) d s

theorem hingesOn_send : HingesOn (r.refusal? s.isOpen) (send r) s :=
  .draft_bind fun d => (hingesOn_onEndpoint Endpoint.isExchange_send d s).bind fun _ => .pure _

/-- A refusal is not taken for an answer of the kernel that says that there is no such thing. -/
theorem hingesOn_unlessKernel (errno : Int32) :
    HingesOn (r.refusal? s.isOpen) (unlessKernel errno (request r)) s := by
  have hrequest := hingesOn_request r s
  refine ⟨fun f hf => ?_, fun hnone f hf => ?_⟩
  · have hkernel := Request.ne_kernel_of_refusal? hf
    rw [Refuses, outcome_unlessKernel, hrequest.refuses f hf]
    simp only [Failure.bears_of_ne_kernel hkernel errno, Failure.passedOn_of_ne_kernel hkernel,
      Bool.false_eq_true, if_false]
  · rw [outcome_unlessKernel] at hf
    rcases hrun : Act.outcome (request r) s with ⟨g | a, t⟩
    · rw [hrun] at hf
      dsimp only at hf
      split at hf
      · cases hf
      · cases hf
        exact (hrequest.isLater hnone g (by rw [hrun])).passedOn
    · rw [hrun] at hf
      cases hf

/-- What follows has to be told for when there is no such thing and for an answer. -/
theorem hingesOn_unlessKernel_bind {errno : Int32} {k : Option Bytes → Act Session α}
    (hnone : FailsIn IsLater (k none)) (hsome : ∀ answer, FailsIn IsLater (k (some answer))) :
    HingesOn (r.refusal? s.isOpen) (unlessKernel errno (request r) >>= k) s := by
  refine (hingesOn_unlessKernel r s errno).bind fun answer? => ?_
  cases answer? with
  | none => exact hnone
  | some answer => exact hsome answer

end Session

/-- What can be written is refused by closed sessions at most. -/
theorem Session.failsIn_of_writable {α : Type} {r : Request} {act : Act Session α}
    (hr : Put.AreAttributes r.attributes) (hwritable : ¬ r.Unwritable)
    (h : ∀ t : Session, HingesOn (r.refusal? t.isOpen) act t) : FailsIn IsLater act := fun t _ hf =>
  (h t).failure_isLater (fun _ hrefusal => Request.isLater_of_refusal? hr hwritable hrefusal) hf

/-! ### Reading answers -/

theorem isLater_of_mapError_decode {α : Type} {r : Except DecodeError α} {f : Failure}
    (h : r.mapError .decode = .error f) : f.IsLater := by
  obtain ⟨cause, -, rfl⟩ := mapError_eq_error_iff.1 h
  trivial

theorem Datapath.isLater_of_ensure {dp found : Datapath} {f : Failure}
    (h : dp.ensure found = .error f) : f.IsLater := by
  rw [ensure] at h
  split at h
  · cases h
  · cases h
    trivial

theorem Vport.isLater_of_readIn {families : Families} {command : ObjectCommand} {dp : Datapath}
    {message : Bytes} {f : Failure} (h : readIn families command dp message = .error f) :
    f.IsLater := by
  rcases bind_eq_error_iff.1 h with hread | ⟨notice, -, h⟩
  · exact isLater_of_mapError_decode hread
  rcases bind_eq_error_iff.1 h with hensure | ⟨_, -, h⟩
  · exact Datapath.isLater_of_ensure hensure
  · cases h

/-- What is read from the start of a message fails as the steps do. -/
theorem Cursor.isLater_of_scan {α : Type} {steps : Act Cursor α} (h : FailsIn IsLater steps)
    {message : Bytes} {f : Failure} (hf : scan steps message = .error f) : f.IsLater :=
  h (.start message) f hf

theorem Flow.isLater_of_parse {family : UInt16} {dp : Datapath} {message : Bytes} {f : Failure}
    (h : parse family dp message = .error f) : f.IsLater := by
  rw [parse] at h
  refine Cursor.isLater_of_scan ?_ h
  refine .bind ((Cursor.failsIn_reading _).mono fun _ h => h.isLater) fun headers => ?_
  refine .bind (.ofExcept fun _ => Datapath.isLater_of_ensure) fun _ => ?_
  refine .bind ((Cursor.failsIn_reading _).mono fun _ h => h.isLater) fun attributes => ?_
  exact .ofExcept fun _ => isLater_of_mapError_decode

/-! ### The operations -/

namespace Datapath

theorem isLater_of_read {families : Families} {message : Bytes} {f : Failure}
    (h : read families message = .error f) : f.IsLater :=
  isLater_of_mapError_decode h

variable (name : String) (dp : Datapath) (s : Session)

theorem hingesOn_create :
    HingesOn ((creation s.families name).refusal? s.isOpen) (create name) s := by
  refine .get_bind (.bind (Session.hingesOn_request _ s) fun answer => ?_)
  exact .bind (.ofExcept fun _ => isLater_of_read) fun _ => .bind (.debug _) fun _ => .pure _

theorem hingesOn_find : HingesOn ((inquiry s.families name).refusal? s.isOpen) (find name) s := by
  refine .get_bind (Session.hingesOn_unlessKernel_bind _ s (.pure _) fun answer => ?_)
  exact .bind (.ofExcept fun _ => isLater_of_read) fun _ => .pure _

theorem hingesOn_nameOf :
    HingesOn ((inquiryByIndex s.families dp).refusal? s.isOpen) (nameOf dp) s := by
  refine .get_bind (Session.hingesOn_unlessKernel_bind _ s (.pure _) fun answer => ?_)
  refine .bind (.ofExcept fun _ => isLater_of_read) fun found => ?_
  exact .bind (.ofExcept fun _ => isLater_of_ensure) fun _ => .pure _

theorem hingesOn_all : HingesOn ((inquiryForAll s.families).refusal? s.isOpen) all s :=
  .get_bind (.bind (Session.hingesOn_collect _ s fun _ _ => isLater_of_read) fun _ => .pure _)

theorem hingesOn_delete : HingesOn ((deletion s.families dp).refusal? s.isOpen) (delete dp) s :=
  .get_bind (.bind (Session.hingesOn_request _ s) fun _ => .debug _)

end Datapath

namespace Vport

variable (dp : Datapath) (id : VportId) (name : String) (s : Session)

theorem hingesOn_create (spec : VportSpec) :
    HingesOn ((creation s.families dp spec).refusal? s.isOpen) (create dp spec) s := by
  refine .get_bind (.bind (Session.hingesOn_request _ s) fun answer => ?_)
  exact .bind (.ofExcept fun _ => isLater_of_readIn) fun _ => .bind (.debug _) fun _ => .pure _

theorem hingesOn_lookup :
    HingesOn ((inquiry s.families dp name).refusal? s.isOpen) (lookup dp name) s := by
  refine .get_bind (Session.hingesOn_unlessKernel_bind _ s (.pure _) fun answer => ?_)
  exact .bind (.ofExcept fun _ => isLater_of_mapError_decode) fun _ => .pure _

theorem hingesOn_find :
    HingesOn ((inquiry s.families .unspecified name).refusal? s.isOpen) (find name) s := by
  refine .bind (hingesOn_lookup .unspecified name s) fun notice? => ?_
  cases notice? <;> exact .pure _

theorem hingesOn_findIn :
    HingesOn ((inquiry s.families dp name).refusal? s.isOpen) (findIn dp name) s := by
  refine .bind (hingesOn_lookup dp name s) fun notice? => ?_
  cases notice? with
  | none => exact .pure _
  | some notice => exact .bind (.ofExcept fun _ => Datapath.isLater_of_ensure) fun _ => .pure _

theorem hingesOn_get :
    HingesOn ((inquiryByNumber s.families dp id).refusal? s.isOpen) (get dp id) s := by
  refine .get_bind (Session.hingesOn_unlessKernel_bind _ s (.pure _) fun answer => ?_)
  exact .bind (.ofExcept fun _ => isLater_of_readIn) fun _ => .pure _

theorem hingesOn_nameOf :
    HingesOn ((inquiryByNumber s.families dp id).refusal? s.isOpen) (nameOf dp id) s := by
  refine .bind (hingesOn_get dp id s) fun vport? => ?_
  cases vport? <;> exact .pure _

theorem hingesOn_all :
    HingesOn ((inquiryForAll s.families dp).refusal? s.isOpen) (all dp) s :=
  .get_bind (Session.hingesOn_collect _ s fun _ _ => isLater_of_readIn)

theorem hingesOn_delete :
    HingesOn ((deletion s.families dp id).refusal? s.isOpen) (delete dp id) s :=
  .get_bind (.bind (Session.hingesOn_request _ s) fun _ => .pure _)

theorem hingesOn_setUpcall (port : UInt32) :
    HingesOn ((redirection s.families dp id port).refusal? s.isOpen) (setUpcall dp id port) s :=
  .get_bind (.bind (Session.hingesOn_request _ s) fun _ => .pure _)

end Vport

namespace Flow

variable (dp : Datapath) (f : Flow) (s : Session)

theorem hingesOn_install :
    HingesOn ((installation s.families dp f).refusal? s.isOpen) (install dp f) s :=
  .get_bind (.bind (Session.hingesOn_request _ s) fun _ => .debug _)

theorem hingesOn_remove : HingesOn ((removal s.families dp f).refusal? s.isOpen) (remove dp f) s :=
  .get_bind (Session.hingesOn_unlessKernel_bind _ s (.pure _) fun _ => .pure _)

theorem hingesOn_all : HingesOn ((inquiryForAll s.families dp).refusal? s.isOpen) (all dp) s :=
  .get_bind (Session.hingesOn_collect _ s fun _ _ => isLater_of_parse)

end Flow

/-! ### Pointing vports -/

namespace Upcall

variable {σ : Type} [Journal σ] {P : Failure → Prop} {set : Setter σ}
  (hset : ∀ dp id port, FailsIn P (set dp id port))

include hset

/-- Pointing a vport fails as setting its port does. -/
theorem failsIn_configure (id : VportId) : FailsIn P (configure set id) := by
  refine .bind .get fun x => ?_
  obtain ⟨u, s⟩ := x
  dsimp only
  split
  · exact .pure _
  · refine .bind (.onSecond (hset _ _ _)) fun _ => ?_
    exact .bind (.modify _) fun _ => .bind (.debug _) fun _ => .pure _

theorem failsIn_configureEach (meanwhile : StateM (Upcall × σ) Unit) (vports : List Vport) :
    FailsIn P (configureEach set meanwhile vports) := by
  induction vports with
  | nil => exact .lift _
  | cons vport rest ih =>
    exact .bind (.lift _) fun _ => .bind (failsIn_configure hset _) fun _ => ih

end Upcall

namespace Vport

variable (dp : Datapath) (id : VportId) (port : UInt32)

/-- The request to point a vport can always be written: it holds two numbers. -/
theorem not_unwritable_redirection (families : Families) :
    ¬ (redirection families dp id port).Unwritable := by
  rintro (⟨p, hp, hoffends⟩ | hlong)
  · rcases List.mem_pair.1 hp with rfl | rfl
    · exact Put.not_offends_u32 _ _ hoffends
    · exact Put.not_offends_u32 _ _ hoffends
  · have hhead : (redirection families dp id port).head.length = 8 := rfl
    have hextents : Put.extents (redirection families dp id port).attributes = 16 := by
      simp only [redirection, messageFor, numberAttribute, upcallAttribute, Put.extents,
        Put.extent_u32]
    rw [hhead, hextents] at hlong
    exact absurd hlong (by decide)

theorem failsIn_setUpcall : FailsIn IsLater (setUpcall dp id port) := by
  refine .bind .get fun s => .bind ?_ fun _ => .pure _
  have hattributes : Put.AreAttributes (redirection s.families dp id port).attributes :=
    ⟨trivial, trivial, trivial⟩
  exact Session.failsIn_of_writable hattributes (not_unwritable_redirection dp id port s.families)
    (Session.hingesOn_request _)

/-- The vports of a datapath can always be asked for. -/
theorem failsIn_all : FailsIn IsLater (all dp) := by
  refine .bind .get fun s => ?_
  have hattributes : Put.AreAttributes (inquiryForAll s.families dp).attributes := trivial
  refine Session.failsIn_of_writable hattributes ?_ fun t =>
    Session.hingesOn_collect _ t fun _ _ => isLater_of_readIn
  rintro (⟨p, hp, -⟩ | hlong)
  · cases hp
  · have hhead : (inquiryForAll s.families dp).head.length = 8 := rfl
    have hextents : Put.extents (inquiryForAll s.families dp).attributes = 0 := rfl
    rw [hhead, hextents] at hlong
    exact absurd hlong (by decide)

end Vport

namespace Upcall

theorem hingesOn_configure {u : Upcall} {id : VportId} (h : ¬ u.isConfigured id = true)
    (s : Session) :
    HingesOn ((Vport.redirection s.families u.datapath id u.port).refusal? s.isOpen)
      (configure Vport.setUpcall id) (u, s) := by
  refine .get_bind ?_
  simp only [if_neg h]
  refine .bind (.onSecond (Vport.hingesOn_setUpcall u.datapath id s u.port)) fun _ => ?_
  exact .bind (.modify _) fun _ => .bind (.debug _) fun _ => .pure _

/-- A pass over all vports hinges on asking for them: pointing them can always be written. -/
theorem hingesOn_configureAll (u : Upcall) (s : Session) :
    HingesOn ((Vport.inquiryForAll s.families u.datapath).refusal? s.isOpen)
      (configureAll Vport.setUpcall (pure ()) (Vport.all u.datapath)) (u, s) := by
  have hpass := HingesOn.bind
    (.onSecond (Vport.hingesOn_all u.datapath s) : HingesOn _ _ (u, s)) fun vports =>
      failsIn_configureEach Vport.failsIn_setUpcall (pure ()) vports
  exact ⟨fun f hf => hpass.refuses f hf, fun hnone f hf => hpass.isLater hnone f hf⟩

end Upcall

/-! ### Errands -/

namespace Errand

variable {s : Session} {r : Request}

/-- The first request that is written for an errand that goes through a session of these families.
There is none for a vport that points at the upcall port. -/
def request? (families : Families) : Errand → Option Request
  | .lookup _ | .connect _ => none
  | .createDatapath name => some (Datapath.creation families name)
  | .findDatapath name => some (Datapath.inquiry families name)
  | .nameDatapath dp => some (Datapath.inquiryByIndex families dp)
  | .listDatapaths => some (Datapath.inquiryForAll families)
  | .deleteDatapath dp => some (Datapath.deletion families dp)
  | .createVport dp spec => some (Vport.creation families dp spec)
  | .findVport name => some (Vport.inquiry families .unspecified name)
  | .findVportIn dp name => some (Vport.inquiry families dp name)
  | .getVport dp id | .nameVport dp id => some (Vport.inquiryByNumber families dp id)
  | .listVports dp => some (Vport.inquiryForAll families dp)
  | .deleteVport dp id => some (Vport.deletion families dp id)
  | .setUpcall dp id port => some (Vport.redirection families dp id port)
  | .point u id =>
    if u.isConfigured id then none else some (Vport.redirection families u.datapath id u.port)
  | .pointAll u => some (Vport.inquiryForAll families u.datapath)
  | .installFlow dp f => some (Flow.installation families dp f)
  | .removeFlow dp f => some (Flow.removal families dp f)
  | .listFlows dp => some (Flow.inquiryForAll families dp)
  | .execute dp packet keys actions => some (Packet.execution families dp packet keys actions)

/-- **Every errand hinges on its first request.** -/
theorem hingesOn_run {errand : Errand} (hr : errand.request? s.families = some r) :
    HingesOn (r.refusal? s.isOpen) errand.run s := by
  cases errand with
  | lookup name | connect autoload => cases hr
  | createDatapath name =>
    cases hr
    exact .bind (Datapath.hingesOn_create name s) fun _ => .pure _
  | findDatapath name =>
    cases hr
    exact .bind (Datapath.hingesOn_find name s) fun _ => .pure _
  | nameDatapath dp =>
    cases hr
    exact .bind (Datapath.hingesOn_nameOf dp s) fun _ => .pure _
  | listDatapaths =>
    cases hr
    exact .bind (Datapath.hingesOn_all s) fun _ => .pure _
  | deleteDatapath dp =>
    cases hr
    exact Datapath.hingesOn_delete dp s
  | createVport dp spec =>
    cases hr
    exact .bind (Vport.hingesOn_create dp s spec) fun _ => .pure _
  | findVport name =>
    cases hr
    exact .bind (Vport.hingesOn_find name s) fun _ => .pure _
  | findVportIn dp name =>
    cases hr
    exact .bind (Vport.hingesOn_findIn dp name s) fun _ => .pure _
  | getVport dp id =>
    cases hr
    exact .bind (Vport.hingesOn_get dp id s) fun _ => .pure _
  | nameVport dp id =>
    cases hr
    exact .bind (Vport.hingesOn_nameOf dp id s) fun _ => .pure _
  | listVports dp =>
    cases hr
    exact .bind (Vport.hingesOn_all dp s) fun _ => .pure _
  | deleteVport dp id =>
    cases hr
    exact Vport.hingesOn_delete dp id s
  | setUpcall dp id port =>
    cases hr
    exact Vport.hingesOn_setUpcall dp id s port
  | point u id =>
    rw [request?] at hr
    split at hr
    · cases hr
    · next hpoint =>
      cases hr
      exact .bind (.starting (Upcall.hingesOn_configure hpoint s)) fun _ => .pure _
  | pointAll u =>
    cases hr
    exact .starting (Upcall.hingesOn_configureAll u s)
  | installFlow dp f =>
    cases hr
    exact Flow.hingesOn_install dp f s
  | removeFlow dp f =>
    cases hr
    exact .bind (Flow.hingesOn_remove dp f s) fun _ => .pure _
  | listFlows dp =>
    cases hr
    exact .bind (Flow.hingesOn_all dp s) fun _ => .pure _
  | execute dp packet keys actions =>
    cases hr
    exact .get_bind (Session.hingesOn_send _ s)

end Errand

end VSwitch
