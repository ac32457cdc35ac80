import VSwitch.Cursor
import VSwitch.Proofs.Octets

/-!
# Outcomes of computations

Computations over a state either give a value or fail, and in both cases leave a state. The facts
here say what each way of putting computations together does to that pair, so that no later proof
has to open the layers that computations are made of.

* `VSwitch.bind_eq_ok_iff` is about results in sequence, and `VSwitch.run_bind` about computations
  in sequence, over any state and with any failures;
* the facts in `VSwitch.Act` say the same of `VSwitch.Act.outcome` and of each way to run a
  computation on a part of a state;
* `VSwitch.Failure.bears` says that the kernel answered with an error number, and
  `VSwitch.Failure.passedOn` what becomes of a failure if someone looks at its number.
-/

namespace VSwitch

section Results

variable {ε ε' α β : Type}

/-- A sequence of results is a value exactly if both are. -/
theorem bind_eq_ok_iff {x : Except ε α} {k : α → Except ε β} {b : β} :
    x >>= k = .ok b ↔ ∃ a, x = .ok a ∧ k a = .ok b := by
  cases x with
  | error e => simp [bind, Except.bind]
  | ok a => simp [bind, Except.bind]

/-- A sequence of results is an error exactly if one of them is, and then the first that is one. -/
theorem bind_eq_error_iff {x : Except ε α} {k : α → Except ε β} {e : ε} :
    x >>= k = .error e ↔ x = .error e ∨ ∃ a, x = .ok a ∧ k a = .error e := by
  cases x with
  | error e => simp [bind, Except.bind]
  | ok a => simp [bind, Except.bind]

theorem map_eq_ok_iff {x : Except ε α} {g : α → β} {b : β} :
    x.map g = .ok b ↔ ∃ a, x = .ok a ∧ g a = b := by
  cases x <;> simp [Except.map]

theorem map_eq_error_iff {x : Except ε α} {g : α → β} {e : ε} :
    x.map g = .error e ↔ x = .error e := by
  cases x <;> simp [Except.map]

theorem mapError_eq_ok_iff {x : Except ε α} {g : ε → ε'} {a : α} :
    x.mapError g = .ok a ↔ x = .ok a := by
  cases x with
  | error e =>
    constructor <;> intro h <;> cases h
  | ok b =>
    constructor <;> intro h <;> cases h <;> rfl

theorem mapError_eq_error_iff {x : Except ε α} {g : ε → ε'} {e : ε'} :
    x.mapError g = .error e ↔ ∃ cause, x = .error cause ∧ g cause = e := by
  cases x with
  | error cause =>
    constructor
    · intro h
      cases h
      exact ⟨cause, rfl, rfl⟩
    · rintro ⟨cause', h, rfl⟩
      cases h
      rfl
  | ok b =>
    constructor
    · intro h
      cases h
    · rintro ⟨cause, h, -⟩
      cases h

end Results

section Steps

variable {ε σ α β : Type}

/-- **A sequence of computations**: the second one runs on what the first one leaves, unless this
fails. -/
theorem run_bind (x : ExceptT ε (StateM σ) α) (k : α → ExceptT ε (StateM σ) β) (s : σ) :
    (x >>= k).run s = match x.run s with
      | (.ok a, s') => (k a).run s'
      | (.error e, s') => (.error e, s') := by
  rw [ExceptT.run_bind]
  change StateT.bind (x.run : StateT σ Id (Except ε α)) _ s = _
  rw [StateT.bind]
  rcases x.run s with ⟨_ | _, _⟩ <;> rfl

/-- Steps in sequence give a value exactly if both do. -/
theorem run_bind_eq_ok_iff {x : ExceptT ε (StateM σ) α} {k : α → ExceptT ε (StateM σ) β} {s : σ}
    {b : β} : ((x >>= k).run s).1 = .ok b ↔
      ∃ a t, x.run s = (.ok a, t) ∧ ((k a).run t).1 = .ok b := by
  rw [run_bind]
  rcases x.run s with ⟨_ | a, t⟩
  · constructor
    · intro h
      cases h
    · rintro ⟨a, t', heq, -⟩
      cases heq
  · constructor
    · exact fun h => ⟨a, t, rfl, h⟩
    · rintro ⟨a', t', heq, h⟩
      cases heq
      exact h

/-- Steps in sequence give a value and leave a state exactly if both do. -/
theorem run_bind_eq_iff {x : ExceptT ε (StateM σ) α} {k : α → ExceptT ε (StateM σ) β} {s s' : σ}
    {b : β} : (x >>= k).run s = (.ok b, s') ↔
      ∃ a t, x.run s = (.ok a, t) ∧ (k a).run t = (.ok b, s') := by
  rw [run_bind]
  rcases x.run s with ⟨_ | a, t⟩
  · constructor
    · intro h
      cases h
    · rintro ⟨a, t', heq, -⟩
      cases heq
  · constructor
    · exact fun h => ⟨a, t, rfl, h⟩
    · rintro ⟨a', t', heq, h⟩
      cases heq
      exact h

/-- Computations that do not fail, in sequence. -/
theorem run_stateM_bind (x : StateM σ α) (k : α → StateM σ β) (s : σ) :
    (x >>= k) s = k (x s).1 (x s).2 := rfl

theorem run_pure (a : α) (s : σ) : (pure a : ExceptT ε (StateM σ) α).run s = (.ok a, s) := rfl

theorem run_throw (e : ε) (s : σ) : (throw e : ExceptT ε (StateM σ) α).run s = (.error e, s) := rfl

theorem run_get (s : σ) : (get : ExceptT ε (StateM σ) σ).run s = (.ok s, s) := rfl

theorem run_set (t s : σ) : (set t : ExceptT ε (StateM σ) PUnit).run s = (.ok ⟨⟩, t) := rfl

theorem run_liftM (r : Except ε α) (s : σ) :
    (liftM r : ExceptT ε (StateM σ) α).run s = (r, s) := by
  cases r <;> rfl

theorem run_ofExcept (r : Except ε α) (s : σ) :
    (MonadExcept.ofExcept r : ExceptT ε (StateM σ) α).run s = (r, s) := by
  cases r <;> rfl

end Steps

/-! ### Failures that are looked at -/

namespace Failure

/-- Whether the kernel answered with the error number `n`. An error without a number is none. -/
def bears (n : Int32) (f : Failure) : Bool := (f.isKernelErrno n).toOption.getD false

/-- What becomes of a failure that is passed on by someone who looks at its number: there is a panic
if this is wanting. -/
def passedOn (f : Failure) : Failure :=
  match f.errno? with
  | .ok _ => f
  | .error cause => .overflow cause

variable {f : Failure} {n : Int32}

/-- Only answers of the kernel count. -/
theorem bears_iff : f.bears n = true ↔ ∃ report, f = .kernel report ∧ report.errno = .ok n := by
  cases f with
  | kernel report =>
    have hbears : (kernel report).bears n =
        ((report.errno.map fun v => v == n).toOption.getD false) := rfl
    simp only [hbears, kernel.injEq, exists_eq_left']
    cases report.errno with
    | error cause => simp [Except.map, Except.toOption]
    | ok v => simp [Except.map, Except.toOption]
  | _ =>
    constructor
    · intro h
      cases h
    · rintro ⟨report, h, -⟩
      cases h

theorem bears_of_ne_kernel (h : ∀ report, f ≠ .kernel report) (n : Int32) : f.bears n = false := by
  cases f with
  | kernel report => exact absurd rfl (h report)
  | _ => rfl

/-- Only errors of the kernel may want a number. -/
theorem passedOn_of_ne_kernel (h : ∀ report, f ≠ .kernel report) : f.passedOn = f := by
  cases f with
  | kernel report => exact absurd rfl (h report)
  | _ => rfl

theorem passedOn_of_errno {report : KernelError} (h : report.errno = .ok n) :
    (kernel report).passedOn = .kernel report := by
  have herrno : (kernel report).errno? = report.errno.map some := rfl
  rw [passedOn, herrno, h]
  rfl

theorem passedOn_of_overflow {report : KernelError} {cause : Overflow}
    (h : report.errno = .error cause) : (kernel report).passedOn = .overflow cause := by
  have herrno : (kernel report).errno? = report.errno.map some := rfl
  rw [passedOn, herrno, h]
  rfl

/-- A failure is passed on as it is, or it is an error without a number. -/
theorem passedOn_cases (f : Failure) : f.passedOn = f ∨
    ∃ report cause, f = .kernel report ∧ report.errno = .error cause ∧
      f.passedOn = .overflow cause := by
  cases f with
  | kernel report =>
    cases h : report.errno with
    | ok n => exact .inl (passedOn_of_errno h)
    | error cause => exact .inr ⟨report, cause, rfl, h, passedOn_of_overflow h⟩
  | _ => exact .inl rfl

/-- Asking whether a failure has a number gives an answer, or a panic if there is none. -/
theorem isKernelErrno_cases (f : Failure) (n : Int32) :
    f.isKernelErrno n = .ok (f.bears n) ∧ f.passedOn = f ∨
      ∃ cause, f.isKernelErrno n = .error cause ∧ f.bears n = false ∧
        f.passedOn = .overflow cause := by
  cases f with
  | kernel report =>
    have his : (kernel report).isKernelErrno n = report.errno.map fun v => v == n := rfl
    rw [bears, his]
    cases h : report.errno with
    | ok v => exact .inl ⟨rfl, passedOn_of_errno h⟩
    | error cause => exact .inr ⟨cause, rfl, rfl, passedOn_of_overflow h⟩
  | overflow cause => exact .inr ⟨cause, rfl, rfl, rfl⟩
  | _ => exact .inl ⟨rfl, rfl⟩

/-- A failure that does not want a number is passed on as it is. -/
theorem passedOn_eq_self (h : ∀ report, f = .kernel report → ∃ n, report.errno = .ok n) :
    f.passedOn = f := by
  rcases f.passedOn_cases with hf | ⟨report, cause, hreport, herrno, -⟩
  · exact hf
  · obtain ⟨n, hn⟩ := h report hreport
    rw [hn] at herrno
    cases herrno

theorem not_bears_of_overflow {report : KernelError} {cause : Overflow}
    (h : report.errno = .error cause) (n : Int32) : ¬ (kernel report).bears n = true := by
  intro hbears
  obtain ⟨_, hsame, hn⟩ := bears_iff.1 hbears
  cases hsame
  rw [h] at hn
  cases hn

end Failure

namespace Act

variable {σ τ α β : Type}

theorem outcome_bind (x : Act σ α) (k : α → Act σ β) (s : σ) :
    outcome (x >>= k) s = match outcome x s with
      | (.ok a, s') => outcome (k a) s'
      | (.error f, s') => (.error f, s') := by
  simp only [outcome]
  rw [run_bind]
  rcases x.run s with ⟨_ | _, _⟩ <;> rfl

/-- A sequence gives a value exactly if both computations do. -/
theorem outcome_bind_eq_ok_iff {x : Act σ α} {k : α → Act σ β} {s s' : σ} {b : β} :
    outcome (x >>= k) s = (.ok b, s') ↔
      ∃ a t, outcome x s = (.ok a, t) ∧ outcome (k a) t = (.ok b, s') :=
  run_bind_eq_iff

@[simp]
theorem outcome_pure (a : α) (s : σ) : outcome (pure a : Act σ α) s = (.ok a, s) := rfl

@[simp]
theorem outcome_throw (f : Failure) (s : σ) :
    outcome (throw f : Act σ α) s = (.error f, s) := rfl

@[simp]
theorem outcome_get (s : σ) : outcome (get : Act σ σ) s = (.ok s, s) := rfl

@[simp]
theorem outcome_modify (g : σ → σ) (s : σ) :
    outcome (modify g : Act σ Unit) s = (.ok (), g s) := rfl

@[simp]
theorem outcome_ofExcept (r : Except Failure α) (s : σ) :
    outcome (MonadExcept.ofExcept r : Act σ α) s = (r, s) := by
  cases r <;> rfl

@[simp]
theorem outcome_ofEncode (r : Except EncodeError α) (s : σ) :
    outcome (ofEncode r : Act σ α) s = (r.mapError .encode, s) := rfl

@[simp]
theorem outcome_ofDecode (r : Except DecodeError α) (s : σ) :
    outcome (ofDecode r : Act σ α) s = (r.mapError .decode, s) := rfl

@[simp]
theorem outcome_debug [Journal σ] (text : String) (s : σ) :
    outcome (debug text : Act σ Unit) s = (.ok (), Journal.write ⟨.debug, some text⟩ s) :=
  rfl

@[simp]
theorem outcome_within (part : σ → τ) (put : τ → σ → σ) (act : Act τ α) (s : σ) :
    outcome (within part put act) s = ((outcome act (part s)).1, put (outcome act (part s)).2 s) :=
  rfl

@[simp]
theorem outcome_onFirst (act : Act τ α) (t : τ) (s : σ) :
    outcome (onFirst act) (t, s) = ((outcome act t).1, (outcome act t).2, s) := rfl

@[simp]
theorem outcome_onSecond (act : Act σ α) (t : τ) (s : σ) :
    outcome (onSecond act) (t, s) = ((outcome act s).1, t, (outcome act s).2) := rfl

/-- Attempting does not fail. -/
theorem outcome_attempt (act : Act σ α) (s : σ) :
    outcome (attempt act) s = (.ok (outcome act s).1, (outcome act s).2) := rfl

theorem outcome_lift (act : StateM σ α) (s : σ) :
    outcome (liftM act : Act σ α) s = (.ok (act s).1, (act s).2) := rfl

theorem outcome_undoing (undo : StateM σ Unit) (act : Act σ α) (s : σ) :
    outcome (undoing undo act) s = match outcome act s with
      | (.ok a, s') => (.ok a, s')
      | (.error e, s') => (.error e, (undo s').2) := rfl

/-- **Whoever asks for the number of a failure** goes on if it is the one, and else passes on the
failure, unless it has no number. -/
theorem outcome_isKernelErrno_bind {f : Failure} {n : Int32} {k : Bool → Act σ α} {s : σ}
    (hk : outcome (k false) s = (.error f, s)) :
    outcome (ofNumber (f.isKernelErrno n) >>= k) s =
      if f.bears n then outcome (k true) s else (.error f.passedOn, s) := by
  have hrun : outcome (ofNumber (f.isKernelErrno n)) s =
    ((f.isKernelErrno n).mapError .overflow, s) := rfl
  rw [outcome_bind, hrun]
  rcases f.isKernelErrno_cases n with ⟨his, hpassed⟩ | ⟨cause, his, hbears, hpassed⟩
  · rw [his, hpassed]
    cases f.bears n with
    | true => rfl
    | false => exact hk
  · rw [his, hbears, hpassed]
    rfl

/-- Undoing is for failures only. -/
theorem outcome_undoing_eq_ok_iff {undo : StateM σ Unit} {act : Act σ α} {s s' : σ} {a : α} :
    outcome (undoing undo act) s = (.ok a, s') ↔ outcome act s = (.ok a, s') := by
  rw [outcome_undoing]
  rcases outcome act s with ⟨_ | _, s'⟩
  · simp
  · simp

theorem outcome_carrying_eq_ok_iff {act : Act (τ × σ) α} {t t' : τ} {s s' : σ} {a : α} :
    outcome (carrying t act) s = (.ok (a, t'), s') ↔ outcome act (t, s) = (.ok a, t', s') := by
  have hcarrying : outcome (carrying t act) s =
      ((outcome act (t, s)).1.map fun a => (a, (outcome act (t, s)).2.1),
        (outcome act (t, s)).2.2) := rfl
  rw [hcarrying]
  rcases outcome act (t, s) with ⟨_ | _, t'', s''⟩
  · simp [Except.map]
  · simp [Except.map, and_assoc]

@[simp]
theorem outcome_starting (act : Act (τ × σ) α) (t : τ) (s : σ) :
    outcome (starting t act) s = ((outcome act (t, s)).1, (outcome act (t, s)).2.2) := rfl

end Act

namespace Cursor

/-! ### Steps over a message -/

variable {c : Cursor}

theorem remaining_start (message : Bytes) : (start message).remaining = message := rfl

theorem run_reading {α : Type} (steps : Scan DecodeError α) (c : Cursor) :
    (reading steps).run c = ((steps.run c).1.mapError .decode, (steps.run c).2) := rfl

/-- Taking octets that are there moves behind them and their padding. -/
theorem run_advance {context : String} {length : Nat} (h : length ≤ c.remaining.length) :
    (advance context length).run c = (.ok (c.remaining.take length),
      { c with pos := c.pos + (c.remaining.take (align4 length)).length }) := by
  simp only [advance, run_bind, run_get, run_liftM, ensureLength_of_le h, run_set, run_pure]

end Cursor

end VSwitch
