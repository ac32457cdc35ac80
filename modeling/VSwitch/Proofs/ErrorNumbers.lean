import Mathlib
import VSwitch.Proofs.Absence

/-!
# The number of an error

The kernel reports an error by a number below zero, and whoever looks at the report asks for the
number without its sign. So the field of the message is negated. The negation of a signed number of
32 bits is one of them again, with one exception: that of the least number is not, and whoever asks
for it panics. All that look at an error find the same number in it, or panic all the same.

* `VSwitch.KernelError.IsTakenFor` says that all that look at a report find a number in it, or that
  there is none, and `VSwitch.KernelError.isTakenFor_iff` that this is one finding;
* `VSwitch.Endpoint.FailsWith` says that a request, a dump or the lookup of a family fails with a
  report, and `VSwitch.Endpoint.exists_refuses` that a message which arrives reports it;
* `VSwitch.KernelError.taken_as_sent` is the result, and `VSwitch.KernelError.least_has_no_number`
  shows the exception.
-/

namespace VSwitch

/-! ### Looking at an error -/

namespace KernelError

/-- What a report is passed on as by someone who has found a number in it, or that there is none. -/
def passedOnAs (report : KernelError) : Except Overflow Int32 → Failure
  | .ok _ => .kernel report
  | .error cause => .overflow cause

/-- All that look at a report find the same number in it, or panic as there is none. -/
structure IsTakenFor (report : KernelError) (number : Except Overflow Int32) : Prop where
  errno_eq : report.errno = number
  errno?_eq : (Failure.kernel report).errno? = number.map some
  isKernelErrno_eq : ∀ v, (Failure.kernel report).isKernelErrno v = number.map (· == v)
  isAlreadyExists_eq :
    (Failure.kernel report).isAlreadyExists = number.map (· == Errno.alreadyExists)
  /-- A search whose request fails with the report finds nothing if it asks for the number. -/
  absent_iff : ∀ (q : Search) (s : Session),
    (Act.outcome (Session.request (q.request s.families)) s).1 = .error (.kernel report) →
      ((Act.outcome q.run s).1 = .ok false ↔ number = .ok q.errno)
  /-- Otherwise it fails with the report, or panics. -/
  run_eq : ∀ (q : Search) (s : Session),
    (Act.outcome (Session.request (q.request s.families)) s).1 = .error (.kernel report) →
      number ≠ .ok q.errno → (Act.outcome q.run s).1 = .error (report.passedOnAs number)
  /-- If a family is looked up and this fails with the report, then so does the call, or it panics,
  unless the number says that there is no such family. -/
  resolve_eq : ∀ {σ : Type} (lookup : String → Act σ Family) (probe : StateM σ Unit)
    (autoload : Bool) (name : String) (s : σ),
    (Act.outcome (lookup name) s).1 = .error (.kernel report) → number ≠ .ok Errno.noEntry →
      (Act.outcome (Family.resolve lookup probe autoload name) s).1 =
        .error (report.passedOnAs number)
  /-- If it fails like that as often as it is tried, this is what the number says. -/
  unavailable_iff : ∀ {σ : Type} (lookup : String → Act σ Family) (probe : StateM σ Unit)
    (autoload : Bool) (name : String) (s : σ),
    (∀ t, (Act.outcome (lookup name) t).1 = .error (.kernel report)) →
      ((Act.outcome (Family.resolve lookup probe autoload name) s).1 =
        .error (.familyUnavailable name) ↔ number = .ok Errno.noEntry)
  /-- The number is worded, and it is in the wording. -/
  message_eq : (Failure.kernel report).message = number.map fun v =>
    "Error response received from netlink: " ++ Errno.text v ++ " (os error " ++ toString v ++ ")"

variable {report : KernelError}

theorem bears_iff {n : Int32} :
    (Failure.kernel report).bears n = true ↔ report.errno = .ok n := by
  simp [Failure.bears_iff]

theorem passedOn_eq (report : KernelError) :
    (Failure.kernel report).passedOn = report.passedOnAs report.errno := by
  cases h : report.errno with
  | ok n => exact Failure.passedOn_of_errno h
  | error cause => exact Failure.passedOn_of_overflow h

theorem absent_iff (q : Search) {s : Session}
    (h : (Act.outcome (Session.request (q.request s.families)) s).1 = .error (.kernel report)) :
    (Act.outcome q.run s).1 = .ok false ↔ report.errno = .ok q.errno := by
  rw [Search.result_run, h, Search.settled_eq_false_iff]
  simp

theorem run_eq (q : Search) {s : Session}
    (h : (Act.outcome (Session.request (q.request s.families)) s).1 = .error (.kernel report))
    (hother : report.errno ≠ .ok q.errno) :
    (Act.outcome q.run s).1 = .error (report.passedOnAs report.errno) := by
  rw [Search.result_run, h, Search.settled_of_not_bears (mt bears_iff.1 hother), passedOn_eq]

section Resolving

variable {σ : Type} {lookup : String → Act σ Family} {name : String} {s : σ}
  (probe : StateM σ Unit) (autoload : Bool)

theorem concluded_of_other (h : report.errno ≠ .ok Errno.noEntry) :
    Family.concluded name (.error (.kernel report)) =
      .error (report.passedOnAs report.errno) := by
  have hmissing : ¬ Family.isMissing (.error (.kernel report)) = true := mt bears_iff.1 h
  rw [Family.concluded, if_neg hmissing, ← passedOn_eq]
  rfl

theorem resolve_eq (h : (Act.outcome (lookup name) s).1 = .error (.kernel report))
    (hother : report.errno ≠ .ok Errno.noEntry) :
    (Act.outcome (Family.resolve lookup probe autoload name) s).1 =
      .error (report.passedOnAs report.errno) := by
  have hmissing : Family.isMissing (.error (.kernel report)) = false :=
    Bool.eq_false_iff.2 (mt bears_iff.1 hother)
  rw [Family.outcome_resolve]
  generalize Act.outcome (lookup name) s = first at h ⊢
  obtain ⟨r, t⟩ := first
  obtain rfl : r = .error (.kernel report) := h
  simp only [hmissing, Bool.and_false]
  exact concluded_of_other hother

theorem resolve_eq_concluded
    (h : ∀ t, (Act.outcome (lookup name) t).1 = .error (.kernel report)) :
    (Act.outcome (Family.resolve lookup probe autoload name) s).1 =
      Family.concluded name (.error (.kernel report)) := by
  rw [Family.outcome_resolve]
  simp only
  split
  · rw [h]
  · rw [h]

theorem unavailable_iff (h : ∀ t, (Act.outcome (lookup name) t).1 = .error (.kernel report)) :
    (Act.outcome (Family.resolve lookup probe autoload name) s).1 =
      .error (.familyUnavailable name) ↔ report.errno = .ok Errno.noEntry := by
  rw [resolve_eq_concluded probe autoload h]
  by_cases hmissing : report.errno = .ok Errno.noEntry
  · exact iff_of_true (if_pos (bears_iff.2 hmissing)) hmissing
  · rw [concluded_of_other hmissing]
    refine iff_of_false ?_ hmissing
    cases report.errno <;> exact fun hunavailable => by cases hunavailable

end Resolving

/-- **There is one finding in a report.** -/
theorem isTakenFor_iff {number : Except Overflow Int32} :
    report.IsTakenFor number ↔ report.errno = number := by
  constructor
  · exact IsTakenFor.errno_eq
  · rintro rfl
    have hmessage : (Failure.kernel report).message = report.errno.map fun v =>
        "Error response received from netlink: " ++ Errno.text v ++ " (os error " ++
          toString v ++ ")" := by
      have hbind : (Failure.kernel report).message = (do
        let cause ← report.message
        return s!"Error response received from netlink: {cause}") := rfl
      rw [hbind, message]
      cases report.errno with
      | error cause => rfl
      | ok v => rfl
    exact {
      errno_eq := rfl
      errno?_eq := rfl
      isKernelErrno_eq := fun _ => rfl
      isAlreadyExists_eq := rfl
      absent_iff := fun q _ h => absent_iff q h
      run_eq := fun q _ h => run_eq q h
      resolve_eq := fun _ probe autoload _ _ h => resolve_eq probe autoload h
      unavailable_iff := fun _ probe autoload _ _ h => unavailable_iff probe autoload h
      message_eq := hmessage }

/-- The least code has no number. -/
theorem errno_of_least (h : report.code.toInt = -2 ^ 31) : report.errno = .error .negation := by
  have hleast : report.code = Int32.minValue := Int32.toInt_inj.1 h
  rw [errno, Errno.negate, if_pos hleast]

/-- Every other code has its negation for a number. -/
theorem exists_errno (h : report.code.toInt ≠ -2 ^ 31) :
    ∃ v : Int32, report.errno = .ok v ∧ v.toInt = -report.code.toInt := by
  have hother : ¬ report.code = Int32.minValue := mt Int32.toInt_inj.2 h
  have hle := report.code.le_toInt
  have hlt := report.code.toInt_lt
  refine ⟨-report.code, ?_, ?_⟩
  · rw [errno, Errno.negate, if_neg hother]
  · rw [Int32.toInt_neg]
    exact Int.bmod_eq_of_le (by omega) (by omega)

end KernelError

/-! ### Where errors come from -/

namespace Dump

variable {τ : Type} {port sequence : UInt32} {report : KernelError}

theorem refuses_of_role {message : Bytes}
    (h : role port sequence message = .last (.error (.kernel report))) :
    Endpoint.Refuses port sequence report message := by
  rw [role] at h
  split at h
  · cases h
  split at h
  · cases h
  split at h
  · split at h
    · cases h
    split at h
    · next hport hsequence herror hlong hcode =>
      cases h
      exact ⟨not_not.1 hport, not_not.1 hsequence, herror,
        KernelError.read_of_le (Nat.not_lt.1 hlong), hcode⟩
    · cases h
  · split at h <;> cases h

/-- If a dump ends with an error of the kernel, one of its messages reports it. -/
theorem exists_refuses_of_result {messages : List Bytes} {failure : Failure}
    (hfailure : failure ≠ .kernel report)
    (h : result port sequence messages failure = .error (.kernel report)) :
    ∃ m ∈ messages, Endpoint.Refuses port sequence report m := by
  induction messages with
  | nil => exact absurd (Except.error.inj h) hfailure
  | cons message rest ih =>
    have hrest : result port sequence rest failure = .error (.kernel report) →
        ∃ m ∈ message :: rest, Endpoint.Refuses port sequence report m := by
      intro hlater
      obtain ⟨m, hm, hrefuses⟩ := ih hlater
      exact ⟨m, List.mem_cons_of_mem message hm, hrefuses⟩
    rw [result] at h
    cases hrole : role port sequence message with
    | part =>
      rw [hrole] at h
      exact hrest h
    | stray =>
      rw [hrole] at h
      exact hrest h
    | last ending =>
      rw [hrole] at h
      have hends : ending = .error (.kernel report) := h
      exact ⟨message, List.mem_cons_self, refuses_of_role (hends ▸ hrole)⟩

/-- The consumer has not failed with it, so the dump has ended with it. -/
theorem exists_refuses_of_feed {consume : Bytes → Act τ Unit} {arriving : List Bytes × Failure}
    {t : τ} (hconsume : ∀ m, Act.FailsIn (· ≠ .kernel report) (consume m))
    (hfailure : arriving.2 ≠ .kernel report)
    (h : (Act.outcome (feed port sequence consume arriving) t).1 = .error (.kernel report)) :
    ∃ m ∈ arriving.1, Endpoint.Refuses port sequence report m := by
  have hparts := Act.FailsIn.forM hconsume (parts port sequence arriving.1) t
  rw [feed, Act.outcome_bind] at h
  generalize Act.outcome ((parts port sequence arriving.1).forM consume) t = first at h hparts
  obtain ⟨f | _, t'⟩ := first
  · exact absurd (Except.error.inj h) (hparts f rfl)
  · simp only [Act.outcome_ofExcept] at h
    exact exists_refuses_of_result hfailure h

end Dump

namespace Endpoint

/-- What is done over an endpoint fails with an error that the kernel reports. -/
inductive FailsWith (e : Endpoint) (report : KernelError) : Prop
  /-- A request fails with it. -/
  | request (draft : Draft)
    (h : (Act.outcome (request draft) e).1 = .error (.kernel report)) : FailsWith e report
  /-- A dump fails with it, and not because its consumer does. -/
  | dump {τ : Type} (draft : Draft) (consume : Bytes → Act τ Unit) (t : τ)
    (hconsume : ∀ m, Act.FailsIn (· ≠ .kernel report) (consume m))
    (h : (Act.outcome (dump draft consume) (t, e)).1 = .error (.kernel report)) :
    FailsWith e report
  /-- Looking up a family fails with it. -/
  | lookup (name : String)
    (h : (Act.outcome (Family.lookup name) e).1 = .error (.kernel report)) : FailsWith e report

/-- A message arrives once another one is sent. -/
def Arrives (e : Endpoint) (message : Bytes) : Prop :=
  ∃ sent, message ∈ ((e.sending sent).stream e.link.inbox).1

variable {e : Endpoint} {report : KernelError}

theorem exists_refuses_of_isRefused {draft : Draft} (h : IsRefused draft e report) :
    ∃ message, e.Arrives message ∧ Refuses e.port e.link.nextSequence report message := by
  obtain ⟨sent, -, -, strays, message, rest, hsplit, -, hrefuses⟩ := h
  refine ⟨message, ⟨sent, ?_⟩, hrefuses⟩
  rw [hsplit]
  exact List.mem_append_right strays List.mem_cons_self

/-- Nothing has been heard of the kernel when a message is sent. -/
theorem send_ne_kernel (draft : Draft) : Act.FailsIn (· ≠ .kernel report) (send draft) := by
  rintro e _ h rfl
  rw [outcome_send] at h
  split at h
  · cases h
  · split at h <;> cases h

theorem exists_refuses_of_dump {τ : Type} {draft : Draft} {consume : Bytes → Act τ Unit} {t : τ}
    (hconsume : ∀ m, Act.FailsIn (· ≠ .kernel report) (consume m))
    (h : (Act.outcome (dump draft consume) (t, e)).1 = .error (.kernel report)) :
    ∃ message, e.Arrives message ∧ Refuses e.port e.link.nextSequence report message := by
  rcases hsend : Act.outcome (send draft) e with ⟨f | sequence, e₁⟩
  · rw [dump, Act.outcome_bind, Act.outcome_onSecond, hsend] at h
    exact absurd (Except.error.inj h) (send_ne_kernel draft e f (by rw [hsend]))
  · obtain ⟨rfl, sent, -, rfl⟩ := exists_of_send hsend
    obtain ⟨e₂, hdump⟩ := exists_outcome_dump hsend consume t
    rw [hdump] at h
    obtain ⟨message, hmessage, hrefuses⟩ :=
      Dump.exists_refuses_of_feed hconsume (incoming_ne_kernel _ _ _ _ report) h
    exact ⟨message, ⟨sent, hmessage⟩, hrefuses⟩

/-- **A message reports the error**, to the port of the endpoint and about what it has sent. -/
theorem exists_refuses (h : e.FailsWith report) :
    ∃ message, e.Arrives message ∧ Refuses e.port e.link.nextSequence report message := by
  cases h with
  | request draft h => exact exists_refuses_of_isRefused (request_eq_kernel_iff.1 h)
  | dump draft consume t hconsume h => exact exists_refuses_of_dump hconsume h
  | lookup name h =>
    obtain ⟨draft, -, hrefused⟩ := Family.lookup_eq_kernel_iff.1 h
    exact exists_refuses_of_isRefused hrefused

end Endpoint

/-! ### Signs -/

namespace KernelError

/-- The field of a message that holds the number of an error, negated. -/
def field (message : Bytes) : Int := (Bytes.toI32 (message.drop MessageHeader.size)).toInt

theorem code_of_refuses {port sequence : UInt32} {report : KernelError} {message : Bytes}
    (h : Endpoint.Refuses port sequence report message) :
    report.code.toInt = field message := by
  have hread := h.read_eq
  rcases Nat.lt_or_ge (message.drop MessageHeader.size).length size with hshort | hlong
  · rw [read_of_lt hshort] at hread
    cases hread
  · rw [read_of_le hlong] at hread
    rw [← Except.ok.inj hread]
    rfl

/-- **Errors are taken as they are sent.** What a request, a dump or the lookup of a family fails
with has been reported by a message that arrives, about what has been sent. All that look at it find
one number in it, which is the negation of the field of the message. There is one exception: if the
field is the least number, all of them panic. A number is found to be the one exactly if its
negation was sent. -/
theorem taken_as_sent {e : Endpoint} {report : KernelError} (h : e.FailsWith report) :
    ∃ message, e.Arrives message ∧
      Endpoint.Refuses e.port e.link.nextSequence report message ∧ field message ≠ 0 ∧
      ((∃ v : Int32, v.toInt = -field message ∧ report.IsTakenFor (.ok v)) ↔
        field message ≠ -2 ^ 31) ∧
      (field message = -2 ^ 31 → report.IsTakenFor (.error .negation)) ∧
      ∀ v : Int32, (Failure.kernel report).isKernelErrno v = .ok true ↔
        field message = -v.toInt := by
  obtain ⟨message, harrives, hrefuses⟩ := Endpoint.exists_refuses h
  have hcode := code_of_refuses hrefuses
  have hzero : report.code.toInt ≠ Int32.toInt 0 := mt Int32.toInt_inj.1 hrefuses.code_ne
  rw [hcode, Int32.toInt_zero] at hzero
  have hfound : report.IsTakenFor report.errno := isTakenFor_iff.2 rfl
  refine ⟨message, harrives, hrefuses, hzero, ?_⟩
  simp only [isTakenFor_iff, hfound.isKernelErrno_eq]
  by_cases hleast : field message = -2 ^ 31
  · have herrno := errno_of_least (hcode.trans hleast)
    refine ⟨iff_of_false ?_ (not_not_intro hleast), fun _ => herrno, fun v => ?_⟩
    · rintro ⟨v, -, hv⟩
      rw [herrno] at hv
      cases hv
    · -- There is no number whose negation is the least one.
      have hlt := v.toInt_lt
      rw [herrno]
      exact iff_of_false (fun h => by cases h) (by omega)
  · obtain ⟨n, hn, hvalue⟩ := exists_errno (hcode ▸ hleast : report.code.toInt ≠ -2 ^ 31)
    rw [hcode] at hvalue
    refine ⟨iff_of_true ⟨n, hvalue, hn⟩ hleast, fun h => absurd h hleast, fun v => ?_⟩
    have hfinds : (Except.map (· == v) report.errno = .ok true) ↔ n = v := by
      rw [hn]
      simp [Except.map]
    rw [hfinds, ← Int32.toInt_inj]
    omega

/-- An endpoint of the port 5, whose next request has the sequence number 7 and is answered with an
error. -/
def unanswered (field : Bytes) : Endpoint :=
  ⟨5, Buffer.fresh 64, ⟨[.datagram (Endpoint.tell 2 7 (field ++ List.replicate 16 0))],
    .system 11, [], [], 7, .empty⟩⟩

/-- What is reported by the negation of 19 is taken for the error 19. -/
theorem taken_as_sent_noDevice : ∃ report,
    (unanswered [237, 255, 255, 255]).FailsWith report ∧
      report.IsTakenFor (.ok Errno.noDevice) := by
  have hfails : (unanswered [237, 255, 255, 255]).FailsWith ⟨-19, ⟨0, 0, 0, 0, 0⟩⟩ :=
    .request (Draft.start requestFlags 30) (by cbv)
  obtain ⟨message, -, hrefuses, -, htaken, -⟩ := taken_as_sent hfails
  have hfield : field message = -19 := (code_of_refuses hrefuses).symm
  rw [hfield] at htaken
  obtain ⟨v, hv, hnumber⟩ := htaken.2 (by decide)
  obtain rfl : v = Errno.noDevice := Int32.toInt_inj.1 hv
  exact ⟨_, hfails, hnumber⟩

/-- Of the least number there is no negation, and whoever asks for the error number panics. -/
theorem least_has_no_number : ∃ report,
    (Act.outcome (Endpoint.request (Draft.start requestFlags 30))
        (unanswered [0, 0, 0, 128])).1 = .error (.kernel report) ∧
      report.code.toInt = -2 ^ 31 ∧ report.errno = .error .negation ∧
      (Failure.kernel report).errno? = .error .negation ∧
      (Failure.kernel report).isAlreadyExists = .error .negation ∧
      (Failure.kernel report).message = .error .negation :=
  ⟨⟨-2147483648, ⟨0, 0, 0, 0, 0⟩⟩, by cbv, by decide, rfl, rfl, rfl, rfl⟩

end KernelError

end VSwitch
