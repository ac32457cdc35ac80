import VSwitch.Kernel.Client
import VSwitch.Proofs.Lookup

/-!
# Resolving families in a process

A family that the kernel does not know may be one whose module is not loaded. Whoever resolves a
family asks for it, and if the kernel answers that there is no such family, has the module loaded
and asks once more. The module is asked for once in a process, however many families are resolved
and whatever comes of it.

* `VSwitch.Kernel.Probe` are the system calls that ask for the module;
* `VSwitch.Resolution` is a call that resolves a family, and `VSwitch.Resolution.accounts` makes one
  call after the other in a process;
* `VSwitch.Resolution.once` and `VSwitch.Resolution.twice` are about one call;
* `VSwitch.Resolution.asks_once_or_twice` is the result, and `VSwitch.Resolution.puzzled_panics` is
  about an error that is not returned.
-/

namespace VSwitch

/-! ### The probe -/

/-- Whether a call in the record was to send a message. -/
def Deed.isSend : Deed → Bool
  | .done (.send _ _) | .refused (.send _ _) => true
  | _ => false

namespace Kernel

/-- The system calls of a probe, in their order: a socket is opened, the module is asked for as if
it were a device, and the socket is closed. Without a socket there is nothing to ask with. -/
inductive Probe : List Deed → Prop
  /-- No socket can be opened. -/
  | unopened (socket : Nat) :
    Probe [.refused (.openSocket socket (Vocabulary.number AddressFamily.inet) 0)]
  /-- The module is asked for, with whatever outcome. -/
  | opened (socket : Nat) (asked : Deed)
    (h : asked = .done (.device socket moduleName) ∨ asked = .refused (.device socket moduleName)) :
    Probe [.done (.openSocket socket (Vocabulary.number AddressFamily.inet) 0), asked,
      .done (.close (.socket socket))]

theorem Probe.filter_not_isSend {deeds : List Deed} (h : Probe deeds) :
    (deeds.filter fun d => !d.isSend) = deeds := by
  cases h with
  | unopened socket => rfl
  | opened socket asked h => rcases h with rfl | rfl <;> rfl

/-- The kernel after a call of a kind. -/
def asked (kind : CallKind) (deed : Deed) (k : Kernel) : Kernel :=
  { k with
    refusals := fun c => if c = kind then (k.refusals c).tail else k.refusals c
    deeds := deed :: k.deeds }

theorem run_ask (kind : CallKind) (call : SystemCall) (k : Kernel) :
    (ask kind call).run k = match (k.refusals kind).headD none with
      | none => (.ok (), k.asked kind (.done call))
      | some errno => (.error errno, k.asked kind (.refused call)) := by
  have hrefusal : (liftM (refusal? kind) : Sys (Option Int32)).run k =
    (.ok ((k.refusals kind).headD none),
      { k with refusals := fun c => if c = kind then (k.refusals c).tail else k.refusals c }) := rfl
  rw [ask, run_bind, hrefusal]
  simp only
  cases (k.refusals kind).headD none <;> rfl

/-- A socket that is none of netlink is opened by one call, unless this is refused. -/
theorem exists_run_openSocket (k : Kernel) : ∃ r k', (openSocket .inet 0).run k = (r, k') ∧
    k'.probed = k.probed ∧
    ((∃ errno, r = .error errno ∧ k'.deeds = .refused
        (.openSocket k.sockets.length (Vocabulary.number AddressFamily.inet) 0) :: k.deeds) ∨
      r = .ok k.sockets.length ∧ k'.deeds = .done
        (.openSocket k.sockets.length (Vocabulary.number AddressFamily.inet) 0) :: k.deeds) := by
  rw [openSocket, run_bind, run_get]
  simp only
  rw [run_bind, run_ask]
  cases (k.refusals .openSocket).headD none with
  | some errno => exact ⟨_, _, rfl, rfl, .inl ⟨errno, rfl, rfl⟩⟩
  | none => exact ⟨_, _, rfl, rfl, .inr ⟨rfl, rfl⟩⟩

/-- Asking for a device is one call, whether it is refused or finds none or not. -/
theorem exists_run_seekDevice (socket : Nat) (name : String) (k : Kernel) : ∃ r k' asked,
    (seekDevice socket name).run k = (r, k') ∧ k'.probed = k.probed ∧
      (asked = .done (.device socket name) ∨ asked = .refused (.device socket name)) ∧
      k'.deeds = asked :: k.deeds := by
  rw [seekDevice, run_bind, run_ask]
  cases (k.refusals .device).headD none with
  | some errno => exact ⟨_, _, _, rfl, rfl, .inr rfl, rfl⟩
  | none =>
    simp only [run_bind, run_get]
    split
    · exact ⟨_, _, _, rfl, rfl, .inl rfl, rfl⟩
    · exact ⟨_, _, _, rfl, rfl, .inl rfl, rfl⟩

/-- **The first probe** makes the calls of one, and leaves a mark that it has been made. -/
theorem exists_probe_of_not_probed {k : Kernel} (h : ¬ k.probed = true) : ∃ deeds, Probe deeds ∧
    (probe k).2.deeds = deeds.reverse ++ k.deeds ∧ (probe k).2.probed = true := by
  obtain ⟨r, k', hopen, hprobed, hdeeds⟩ := exists_run_openSocket { k with probed := true }
  -- The mark is set before anything is opened, so it stays even if nothing can be.
  have hmarked : ExceptT.run (openSocket .inet 0)
    ((modify fun k => { k with probed := true } : StateM Kernel Unit) k).2 = (r, k') := hopen
  have hprobe : probe k = (if k.probed = true then (pure () : StateM Kernel Unit) else _) k := rfl
  rw [hprobe, if_neg h, run_stateM_bind, run_stateM_bind, hmarked]
  rcases hdeeds with ⟨errno, rfl, hdeeds⟩ | ⟨rfl, hdeeds⟩
  · exact ⟨_, .unopened _, hdeeds, hprobed⟩
  · obtain ⟨r, k'', asked, hask, hprobed', hasked, hdeeds'⟩ :=
      exists_run_seekDevice k.sockets.length moduleName k'
    simp only
    rw [run_stateM_bind, hask]
    refine ⟨_, .opened k.sockets.length asked hasked, ?_⟩
    have hclosed : .done (.close (.socket k.sockets.length)) :: k''.deeds =
        [Deed.done (.openSocket k.sockets.length (Vocabulary.number AddressFamily.inet) 0), asked,
          .done (.close (.socket k.sockets.length))].reverse ++ k.deeds := by
      rw [hdeeds', hdeeds]
      rfl
    have hmarked' : k''.probed = true := hprobed'.trans hprobed
    cases r with
    | error errno => exact ⟨hclosed, hmarked'⟩
    | ok _ => exact ⟨hclosed, hmarked'⟩

/-- **The probe is made once**: afterwards nothing is done for it. -/
theorem exists_probe (k : Kernel) : ∃ deeds,
    (if k.probed = true then deeds = [] else Probe deeds) ∧
      (probe k).2.deeds = deeds.reverse ++ k.deeds ∧ (probe k).2.probed = true := by
  by_cases h : k.probed = true
  · have hprobe : probe k = (if k.probed = true then (pure () : StateM Kernel Unit) else _) k := rfl
    rw [hprobe, if_pos h]
    exact ⟨[], (if_pos h).mpr rfl, rfl, h⟩
  · obtain ⟨deeds, hdeeds, hprobe⟩ := exists_probe_of_not_probed h
    exact ⟨deeds, (if_neg h).mpr hdeeds, hprobe⟩

end Kernel

/-! ### Calls over a connection -/

namespace Connection

/-- A system call by which a family is asked for over a connection, whatever becomes of it. -/
def Asks (c : Connection) (name : String) (d : Deed) : Prop :=
  ∃ message, Family.IsInquiry name message ∧
    (d = .done (.send c.socket message) ∨ d = .refused (.send c.socket message))

theorem Asks.isSend {c : Connection} {name : String} {d : Deed} (h : c.Asks name d) :
    d.isSend = true := by
  obtain ⟨_, _, rfl | rfl⟩ := h <;> rfl

/-- Looks a family up over a connection. -/
def look (name : String) (s : Connection × Kernel) : Except Failure Family × Connection × Kernel :=
  Act.outcome (run (Family.lookup name)) s

/-- **A lookup over a connection is one system call** that sends. -/
theorem exists_asks {name : String} (h : Family.IsName name) (s : Connection × Kernel) :
    ∃ d, s.1.Asks name d ∧ (look name s).2.2.deeds = d :: s.2.deeds := by
  obtain ⟨c, k⟩ := s
  obtain ⟨message, n, hinquiry, hcalls⟩ := Family.exists_calls_lookup h (c.endpoint k)
  have hdeeds : (look name (c, k)).2.2.deeds =
      (Act.outcome (Family.lookup name) (c.endpoint k)).2.link.calls.filterMap
        (Kernel.deedOf c.socket) ++ k.deeds := rfl
  have hreceive : (List.replicate n Call.receive).filterMap (Kernel.deedOf c.socket) = [] := by
    simp [Kernel.deedOf]
  have hnone : (c.endpoint k).link.calls = [] := rfl
  rw [hdeeds, hcalls, List.filterMap_append, hreceive, hnone]
  cases (c.endpoint k).link.outcomes.headD .delivered with
  | delivered => exact ⟨_, ⟨message, hinquiry, .inl rfl⟩, rfl⟩
  | short count => exact ⟨_, ⟨message, hinquiry, .inr rfl⟩, rfl⟩
  | fault cause => exact ⟨_, ⟨message, hinquiry, .inr rfl⟩, rfl⟩

end Connection

/-! ### Calls in a process -/

/-- A call that resolves a family, in a process in which other things happen too. -/
structure Resolution where
  /-- The connection that it is made over. -/
  connection : Connection
  /-- Whether the module may be asked for. -/
  autoload : Bool
  /-- The name of the family. -/
  name : String
  /-- What happens to the kernel before the call. -/
  meanwhile : Kernel → Kernel

/-- What one sees of a call. -/
structure Resolved where
  /-- The call. -/
  call : Resolution
  /-- The kernel that the call meets. -/
  before : Kernel
  /-- What comes of the call. -/
  result : Except Failure Family
  /-- The kernel that the call leaves. -/
  after : Kernel

namespace Resolution

/-- The kernel that a call meets. Whatever has happened, the process knows whether it has made the
probe. -/
def before (r : Resolution) (k : Kernel) : Kernel := { r.meanwhile k with probed := k.probed }

/-- Makes a call, and tells what one sees of it. -/
def resolved (r : Resolution) (k : Kernel) : Resolved :=
  let (result, _, after) :=
    Act.outcome (Connection.resolve r.autoload r.name) (r.connection, r.before k)
  ⟨r, r.before k, result, after⟩

/-- Makes one call after the other. -/
def accounts : List Resolution → Kernel → List Resolved
  | [], _ => []
  | r :: rest, k => r.resolved k :: accounts rest (r.resolved k).after

end Resolution

/-! ### What one sees of a call -/

namespace Resolved

/-- The system calls that are made for a call, in their order. -/
def deeds (a : Resolved) : List Deed :=
  (a.after.deeds.take (a.after.deeds.length - a.before.deeds.length)).reverse

/-- What is done for a call beside sending. -/
def probing (a : Resolved) : List Deed := a.deeds.filter fun d => !d.isSend

/-- The endpoint that the first lookup is made from. -/
def first (a : Resolved) : Endpoint := a.call.connection.endpoint a.before

/-- The endpoint that a second lookup is made from: what the first one and a probe leave. -/
def second (a : Resolved) : Endpoint :=
  let (_, c, k) := Connection.look a.call.name (a.call.connection, a.before)
  c.endpoint (Kernel.probe k).2

/-- A call looks the family up once more if it may have the module loaded and the kernel answers the
first lookup that there is no such family. -/
def AsksAgain (a : Resolved) : Prop :=
  a.call.autoload = true ∧ Family.IsUnknown a.call.name a.first

/-- What comes of a call whose last lookup is made from the endpoint `last`. -/
structure Concludes (a : Resolved) (last : Endpoint) : Prop where
  unavailable : (∃ name, a.result = .error (.familyUnavailable name)) ↔
    Family.IsUnknown a.call.name last
  named : ∀ name, a.result = .error (.familyUnavailable name) → name = a.call.name
  /-- Anything else that comes of the lookup comes of the call, but for an error of the kernel that
  has no number. -/
  otherwise : ¬ Family.IsUnknown a.call.name last →
    (∀ report, (Act.outcome (Family.lookup a.call.name) last).1 = .error (.kernel report) →
      ∃ n, report.errno = .ok n) →
      a.result = (Act.outcome (Family.lookup a.call.name) last).1
  /-- An error without a number makes the call panic. -/
  numberless : ∀ report cause,
    (Act.outcome (Family.lookup a.call.name) last).1 = .error (.kernel report) →
      report.errno = .error cause → a.result = .error (.overflow cause)

/-- What is to be said of a call. -/
structure Sound (a : Resolved) : Prop where
  /-- A call that does not ask again makes one system call, which sends a request. -/
  once : ¬ a.AsksAgain →
    (∃ d, a.deeds = [d] ∧ a.call.connection.Asks a.call.name d) ∧ a.Concludes a.first
  /-- A call that asks again sends two requests, and between them it may make a probe. -/
  twice : a.AsksAgain →
    (∃ d probe d', a.deeds = d :: (probe ++ [d']) ∧ a.call.connection.Asks a.call.name d ∧
      (probe = [] ∨ Kernel.Probe probe) ∧ a.call.connection.Asks a.call.name d') ∧
    a.Concludes a.second

variable {a : Resolved}

theorem deeds_eq {made : List Deed} (h : a.after.deeds = made.reverse ++ a.before.deeds) :
    a.deeds = made := by
  rw [deeds, h, List.length_append, Nat.add_sub_cancel, List.take_left, List.reverse_reverse]

theorem concludes_of_eq {last : Endpoint} (h : a.result =
    Family.concluded a.call.name (Act.outcome (Family.lookup a.call.name) last).1) :
    a.Concludes last := by
  have hmissing : Family.isMissing (Act.outcome (Family.lookup a.call.name) last).1 = true ↔
    Family.IsUnknown a.call.name last := Family.isMissing_lookup_iff
  have hnumberless : ∀ report cause,
      (Act.outcome (Family.lookup a.call.name) last).1 = .error (.kernel report) →
        report.errno = .error cause → a.result = .error (.overflow cause) := by
    intro report cause hreport herrno
    rw [h, hreport, Family.concluded_of_overflow herrno]
  by_cases hunknown : Family.IsUnknown a.call.name last
  · rw [Family.concluded, if_pos (hmissing.2 hunknown)] at h
    refine ⟨⟨fun _ => hunknown, fun _ => ⟨_, h⟩⟩, fun name hname => ?_, absurd hunknown,
      hnumberless⟩
    rw [h] at hname
    cases hname
    rfl
  · -- Nothing that is received makes a lookup fail like that, so only the call itself does.
    have hother : ∀ name, a.result ≠ .error (.familyUnavailable name) := by
      intro name hname
      rw [h, Family.concluded, if_neg (mt hmissing.1 hunknown)] at hname
      obtain ⟨f, hf, hname⟩ := mapError_eq_error_iff.1 hname
      have hexchange := Family.failsIn_lookup _ _ _ hf
      rcases f.passedOn_cases with hsame | ⟨_, cause, -, -, hoverflow⟩
      · rw [hsame] at hname
        subst hname
        cases hexchange
      · rw [hoverflow] at hname
        cases hname
    refine ⟨⟨fun hname => ?_, fun h => absurd h hunknown⟩,
      fun name hname => absurd hname (hother name), fun _ hnumber => ?_, hnumberless⟩
    · obtain ⟨name, hname⟩ := hname
      exact absurd hname (hother name)
    · exact h.trans (Family.concluded_eq_self (mt hmissing.1 hunknown) hnumber)

end Resolved

namespace Resolution

variable {r : Resolution} {k : Kernel}

theorem outcome_connectionResolve (autoload : Bool) (name : String) (s : Connection × Kernel) :
    Act.outcome (Connection.resolve autoload name) s =
      let (first, c, k) := Connection.look name s
      if autoload && Family.isMissing first then
        let (second, t) := Connection.look name (c, (Kernel.probe k).2)
        (Family.concluded name second, t)
      else (Family.concluded name first, c, k) :=
  Family.outcome_resolve _ _ autoload name s

theorem resolved_of_not_asksAgain (h : ¬ (r.resolved k).AsksAgain) :
    (r.resolved k).result = Family.concluded r.name
        (Act.outcome (Family.lookup r.name) (r.resolved k).first).1 ∧
      (r.resolved k).after = (Connection.look r.name (r.connection, r.before k)).2.2 := by
  have hagain : ¬ (r.autoload && Family.isMissing
      (Connection.look r.name (r.connection, r.before k)).1) = true := by
    intro hagain
    obtain ⟨hautoload, hmissing⟩ := Bool.and_eq_true_iff.1 hagain
    exact h ⟨hautoload, Family.isMissing_lookup_iff.1 hmissing⟩
  constructor
  · simp only [resolved, outcome_connectionResolve, if_neg hagain]
    rfl
  · simp only [resolved, outcome_connectionResolve, if_neg hagain]

theorem resolved_of_asksAgain (h : (r.resolved k).AsksAgain) :
    (r.resolved k).result = Family.concluded r.name
        (Act.outcome (Family.lookup r.name) (r.resolved k).second).1 ∧
      (r.resolved k).after = (Connection.look r.name
        ((Connection.look r.name (r.connection, r.before k)).2.1,
          (Kernel.probe (Connection.look r.name (r.connection, r.before k)).2.2).2)).2.2 := by
  have hagain : (r.autoload && Family.isMissing
      (Connection.look r.name (r.connection, r.before k)).1) = true :=
    Bool.and_eq_true_iff.2 ⟨h.1, Family.isMissing_lookup_iff.2 h.2⟩
  constructor
  · simp only [resolved, outcome_connectionResolve, if_pos hagain]
    rfl
  · simp only [resolved, outcome_connectionResolve, if_pos hagain]

/-- **A call that does not ask again** makes one system call and no probe. -/
theorem once (hname : Family.IsName r.name) (h : ¬ (r.resolved k).AsksAgain) :
    (∃ d, (r.resolved k).deeds = [d] ∧ r.connection.Asks r.name d) ∧
      (r.resolved k).Concludes (r.resolved k).first ∧
      (r.resolved k).after.probed = k.probed := by
  obtain ⟨hresult, hafter⟩ := resolved_of_not_asksAgain h
  obtain ⟨d, hasks, hdeeds⟩ := Connection.exists_asks hname (r.connection, r.before k)
  refine ⟨⟨d, Resolved.deeds_eq ?_, hasks⟩, Resolved.concludes_of_eq hresult, ?_⟩
  · rw [hafter, hdeeds]
    rfl
  · rw [hafter]
    rfl

/-- **A call that asks again** sends two requests. If there has been no probe, it makes one, and
there has been one when it is done. -/
theorem twice (hname : Family.IsName r.name) (h : (r.resolved k).AsksAgain) :
    (∃ d probe d', (r.resolved k).deeds = d :: (probe ++ [d']) ∧ r.connection.Asks r.name d ∧
        (if k.probed = true then probe = [] else Kernel.Probe probe) ∧
        r.connection.Asks r.name d') ∧
      (r.resolved k).Concludes (r.resolved k).second ∧
      (r.resolved k).after.probed = true := by
  obtain ⟨hresult, hafter⟩ := resolved_of_asksAgain h
  obtain ⟨d, hasks, hfirst⟩ := Connection.exists_asks hname (r.connection, r.before k)
  have hprobed : (Connection.look r.name (r.connection, r.before k)).2.2.probed = k.probed := rfl
  have hsocket : (Connection.look r.name (r.connection, r.before k)).2.1.socket =
    r.connection.socket := rfl
  -- The probe and the second lookup go on from what the first lookup leaves, whatever that is.
  generalize Connection.look r.name (r.connection, r.before k) = t at *
  obtain ⟨probe, hprobe, hdeeds, hmark⟩ := Kernel.exists_probe t.2.2
  obtain ⟨d', hasks', hsecond⟩ := Connection.exists_asks hname (t.2.1, (Kernel.probe t.2.2).2)
  refine ⟨⟨d, probe, d', Resolved.deeds_eq ?_, hasks, ?_, ?_⟩,
    Resolved.concludes_of_eq hresult, ?_⟩
  · rw [hafter, hsecond, hdeeds, hfirst]
    simp [resolved]
  · rwa [hprobed] at hprobe
  · rwa [Connection.Asks, hsocket] at hasks'
  · rw [hafter]
    exact hmark

/-! ### A run of calls -/

/-- What is not sent for a call is a probe, the first one, or nothing at all. -/
theorem probing_resolved (hname : Family.IsName r.name) (k : Kernel) :
    (r.resolved k).probing = [] ∧ (k.probed = true → (r.resolved k).after.probed = true) ∨
      k.probed = false ∧ Kernel.Probe (r.resolved k).probing ∧
        (r.resolved k).after.probed = true := by
  by_cases h : (r.resolved k).AsksAgain
  · obtain ⟨⟨d, probe, d', hdeeds, hasks, hprobe, hasks'⟩, -, hprobed⟩ := twice hname h
    have hprobing : (r.resolved k).probing = probe.filter fun d => !d.isSend := by
      rw [Resolved.probing, hdeeds]
      simp [hasks.isSend, hasks'.isSend]
    split at hprobe
    · rw [hprobing, hprobe]
      exact .inl ⟨rfl, fun _ => hprobed⟩
    · rename_i hfirst
      rw [hprobing, hprobe.filter_not_isSend]
      exact .inr ⟨Bool.not_eq_true _ ▸ hfirst, hprobe, hprobed⟩
  · obtain ⟨⟨d, hdeeds, hasks⟩, -, hprobed⟩ := once hname h
    refine .inl ⟨?_, fun hk => hprobed.trans hk⟩
    rw [Resolved.probing, hdeeds]
    simp [hasks.isSend]

/-- Once there has been a probe there is no other one. -/
theorem probing_of_probed {calls : List Resolution} (hnames : ∀ r ∈ calls, Family.IsName r.name)
    (hprobed : k.probed = true) : (accounts calls k).flatMap Resolved.probing = [] := by
  induction calls generalizing k with
  | nil => rfl
  | cons r rest ih =>
    obtain ⟨hname, hrest⟩ := List.forall_mem_cons.1 hnames
    rcases probing_resolved hname k with ⟨hnone, hafter⟩ | ⟨hk, -⟩
    · rw [accounts, List.flatMap_cons, hnone, ih hrest (hafter hprobed)]
      rfl
    · rw [hprobed] at hk
      cases hk

/-- **There is at most one probe** in a run. -/
theorem probing_accounts {calls : List Resolution} (hnames : ∀ r ∈ calls, Family.IsName r.name)
    (k : Kernel) : (accounts calls k).flatMap Resolved.probing = [] ∨
      Kernel.Probe ((accounts calls k).flatMap Resolved.probing) := by
  induction calls generalizing k with
  | nil => exact .inl rfl
  | cons r rest ih =>
    obtain ⟨hname, hrest⟩ := List.forall_mem_cons.1 hnames
    rw [accounts, List.flatMap_cons]
    rcases probing_resolved hname k with ⟨hnone, -⟩ | ⟨-, hprobe, hprobed⟩
    · rw [hnone, List.nil_append]
      exact ih hrest _
    · rw [probing_of_probed hrest hprobed, List.append_nil]
      exact .inr hprobe

/-- **One call** asks for its family once or twice, and concludes from the last answer. -/
theorem sound_resolved (hname : Family.IsName r.name) (k : Kernel) : (r.resolved k).Sound where
  once h := by
    obtain ⟨hdeeds, hconcludes, -⟩ := once hname h
    exact ⟨hdeeds, hconcludes⟩
  twice h := by
    obtain ⟨⟨d, probe, d', hdeeds, hasks, hprobe, hasks'⟩, hconcludes, -⟩ := twice hname h
    refine ⟨⟨d, probe, d', hdeeds, hasks, ?_, hasks'⟩, hconcludes⟩
    split at hprobe
    · exact .inl hprobe
    · exact .inr hprobe

theorem sound_of_mem_accounts {calls : List Resolution}
    (hnames : ∀ r ∈ calls, Family.IsName r.name) {a : Resolved} (ha : a ∈ accounts calls k) :
    a.Sound := by
  induction calls generalizing k with
  | nil => cases ha
  | cons r rest ih =>
    obtain ⟨hname, hrest⟩ := List.forall_mem_cons.1 hnames
    rcases List.mem_cons.1 ha with rfl | ha
    · exact sound_resolved hname k
    · exact ih hrest ha

/-- **Families are resolved with few calls.** Over any run of calls in a process, for names that can
be asked for, whatever the kernel is like and whatever it answers: each call sends one request for
its family, or two if it may have the module loaded and the kernel answers the first one that there
is no such family. It finds the family unavailable exactly if the kernel answers so in the end, and
otherwise what comes of its last lookup comes of it, unless the kernel reports an error that has no
number: then there is a panic. What is done beside sending, in all calls together, is one probe at
most. -/
theorem asks_once_or_twice (calls : List Resolution) (k : Kernel)
    (hnames : ∀ r ∈ calls, Family.IsName r.name) :
    (∀ a ∈ accounts calls k, a.Sound) ∧
      ((accounts calls k).flatMap Resolved.probing = [] ∨
        Kernel.Probe ((accounts calls k).flatMap Resolved.probing)) :=
  ⟨fun _ ha => sound_of_mem_accounts hnames ha, probing_accounts hnames k⟩

/-- A kernel with one socket, which answers three times that there is no such family. Then receiving
fails with an error of the same number. -/
def ignorant : Kernel :=
  let missing : Arrival := .replies [⟨Reply.refusal Errno.noEntry, 0, 5⟩]
  { Kernel.start 1 false with
    sockets := [⟨5, [missing, missing, missing, .fault (.system Errno.noEntry)], [], true, true⟩] }

/-- Two calls over the socket of that kernel. -/
def persistent : List Resolution :=
  [⟨⟨0, 5, Buffer.fresh 64⟩, true, "a", id⟩, ⟨⟨0, 5, Buffer.fresh 64⟩, true, "b", id⟩]

theorem asks_once_or_twice_persistent :
    (accounts persistent ignorant).map Resolved.result =
        [.error (.familyUnavailable "a"), .error (.socket (.system Errno.noEntry))] ∧
      (∀ a ∈ accounts persistent ignorant, a.Sound) ∧
      Kernel.Probe ((accounts persistent ignorant).flatMap Resolved.probing) := by
  have hnames : ∀ r ∈ persistent, Family.IsName r.name := by
    simp only [persistent, List.forall_mem_cons]
    exact ⟨⟨Bool.eq_false_iff.1 (by cbv), by decide⟩, ⟨Bool.eq_false_iff.1 (by cbv), by decide⟩,
      by simp⟩
  refine ⟨by cbv, ?_⟩
  obtain ⟨hsound, hnone | hprobe⟩ := asks_once_or_twice persistent ignorant hnames
  · have hlength : ((accounts persistent ignorant).flatMap Resolved.probing).length = 3 := by
      cbv
    rw [hnone] at hlength
    cases hlength
  · exact ⟨hsound, hprobe⟩

/-- A call whose request is answered with an error that has no number. -/
def puzzled : Resolved :=
  let puzzling : Arrival := .datagram (Endpoint.tell 2 1 ([0, 0, 0, 128] ++ List.replicate 16 0))
  resolved ⟨⟨0, 5, Buffer.fresh 64⟩, true, "a", id⟩
    { Kernel.start 1 false with sockets := [⟨5, [puzzling], [], true, true⟩] }

/-- The call does not ask again, and does not return the error that its lookup fails with, as it
panics when it looks at it. -/
theorem puzzled_panics : puzzled.deeds.length = 1 ∧
    (Act.outcome (Family.lookup "a") puzzled.first).1 =
      .error (.kernel ⟨Int32.minValue, ⟨0, 0, 0, 0, 0⟩⟩) ∧
    puzzled.result = .error (.overflow .negation) :=
  ⟨by cbv, by cbv, by cbv⟩

end Resolution

end VSwitch
