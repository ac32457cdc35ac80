import Mathlib
import VSwitch.Datapath
import VSwitch.Flow.Operations
import VSwitch.Proofs.Answering
import VSwitch.Proofs.Collecting
import VSwitch.Proofs.Confinement
import VSwitch.Proofs.Lookup
import VSwitch.Vport

/-!
# What is not there

A search for a datapath or a vport, and the removal of a flow, may come to nothing, and this is no
failure. Only the kernel can say so: the message that decides the request has to report the one
error that stands for absence. What else comes of the request is returned as it is, so neither a
failure of the socket with the same number, nor a report about an earlier request, nor a reply that
cannot be read is taken for absence.

* `VSwitch.Endpoint.IsDeclined` says that the datagram which decides a request does so by an error;
* `VSwitch.Search` is what may be searched for, and `VSwitch.Search.IsAbsent` says when it is not
  there;
* `VSwitch.Search.result_run`: a search settles what comes of its request;
* `VSwitch.Search.absent_exactly` is the result.
-/

namespace VSwitch

/-! ### Requests that an error decides -/

namespace Endpoint

/-- An error that the kernel reports decides a request: its message goes out, and the first datagram
that does not leave the request open brings the error behind nothing but strays. -/
def IsDeclined (draft : Draft) (e : Endpoint) (report : KernelError) : Prop :=
  ComesTo draft e (.error (.kernel report))

end Endpoint

/-! ### Searches -/

/-- What may turn out not to be there. -/
inductive Search
  /-- A datapath is found by its name. -/
  | datapath (name : String)
  /-- The name of a datapath is asked for. -/
  | datapathAt (dp : Datapath)
  /-- A vport is found by its name, in whatever datapath it is. -/
  | vport (name : String)
  /-- A vport of a datapath is found by its name. -/
  | vportIn (dp : Datapath) (name : String)
  /-- A vport of a datapath is found by its number. -/
  | vportAt (dp : Datapath) (id : VportId)
  /-- The flow with the match of a flow is removed. -/
  | flow (dp : Datapath) (f : Flow)

namespace Search

/-- Searches, and tells whether there is something. -/
def run : Search → Act Session Bool
  | .datapath name => do return (← Datapath.find name).isSome
  | .datapathAt dp => do return (← Datapath.nameOf dp).isSome
  | .vport name => do return (← Vport.find name).isSome
  | .vportIn dp name => do return (← Vport.findIn dp name).isSome
  | .vportAt dp id => do return (← Vport.get dp id).isSome
  | .flow dp f => do return (← Flow.remove dp f) == .removed

/-- The request. -/
def request (families : Families) : Search → Request
  | .datapath name => Datapath.inquiry families name
  | .datapathAt dp => Datapath.inquiryByIndex families dp
  | .vport name => Vport.inquiry families .unspecified name
  | .vportIn dp name => Vport.inquiry families dp name
  | .vportAt dp id => Vport.inquiryByNumber families dp id
  | .flow dp f => Flow.removal families dp f

/-- The error by which the kernel says that there is nothing: there is no such device, or no such
entry of the flow table. -/
def errno : Search → Int32
  | .flow _ _ => Errno.noEntry
  | _ => Errno.noDevice

/-- Whether a reply can be read. That a flow is removed needs no words. -/
def read (families : Families) (message : Bytes) : Search → Except Failure Unit
  | .datapath _ => (Datapath.read families message).map fun _ => ()
  | .datapathAt dp => do dp.ensure (← Datapath.read families message).1
  | .vport _ => (Vport.read families .get message).map fun _ => ()
  | .vportIn dp _ | .vportAt dp _ => (Vport.readIn families .get dp message).map fun _ => ()
  | .flow _ _ => .ok ()

/-- What a search makes of what comes of its request. -/
def settled (families : Families) (q : Search) : Except Failure Bytes → Except Failure Bool
  | .ok message => (q.read families message).map fun _ => true
  | .error f => if f.bears q.errno then .ok false else .error f.passedOn

/-- There is nothing: the session is open, the request can be written, and what decides it is the
error of the kernel that says so. -/
def IsAbsent (q : Search) (s : Session) : Prop :=
  s.isOpen = true ∧ ∃ draft report, (q.request s.families).draft = .ok draft ∧
    Endpoint.IsDeclined draft s.endpoint report ∧ report.errno = .ok q.errno

variable {q : Search} {s : Session}

/-- The reply is read, or there is none as there is nothing. -/
theorem result_ask (q : Search) (s : Session) {k : Option Bytes → Act Session Bool}
    (hnone : ∀ t, (Act.outcome (k none) t).1 = .ok false)
    (hsome : ∀ m t, (Act.outcome (k (some m)) t).1 = (q.read s.families m).map fun _ => true) :
    (Act.outcome (Session.unlessKernel q.errno (Session.request (q.request s.families)) >>= k)
      s).1 = q.settled s.families (Act.outcome (Session.request (q.request s.families)) s).1 := by
  rw [Session.result_unlessKernel _ hnone hsome]
  cases (Act.outcome (Session.request (q.request s.families)) s).1 <;> rfl

/-- **What a search comes to** is what its request comes to, apart from the one error. -/
theorem result_run (q : Search) (s : Session) :
    (Act.outcome q.run s).1 =
      q.settled s.families (Act.outcome (Session.request (q.request s.families)) s).1 := by
  cases q with
  | datapath name =>
    simp only [run, Datapath.find, bind_assoc]
    rw [Act.outcome_bind, Act.outcome_get]
    refine result_ask (.datapath name) s (fun t => rfl) fun m t => ?_
    simp only [read, Act.outcome_bind, Act.outcome_ofExcept]
    cases Datapath.read s.families m <;> rfl
  | datapathAt dp =>
    simp only [run, Datapath.nameOf, bind_assoc]
    rw [Act.outcome_bind, Act.outcome_get]
    refine result_ask (.datapathAt dp) s (fun t => rfl) fun m t => ?_
    simp only [read, Act.outcome_bind, Act.outcome_ofExcept]
    cases Datapath.read s.families m with
    | error f => rfl
    | ok found =>
      have hensure : (do dp.ensure (← Except.ok found).1) = dp.ensure found.1 := rfl
      rw [hensure]
      dsimp only
      cases dp.ensure found.1 <;> rfl
  | vport name =>
    simp only [run, Vport.find, Vport.lookup, bind_assoc]
    rw [Act.outcome_bind, Act.outcome_get]
    refine result_ask (.vport name) s (fun t => rfl) fun m t => ?_
    simp only [read, Act.outcome_bind, Act.outcome_ofExcept]
    cases Vport.read s.families .get m <;> rfl
  | vportIn dp name =>
    simp only [run, Vport.findIn, Vport.lookup, bind_assoc]
    rw [Act.outcome_bind, Act.outcome_get]
    refine result_ask (.vportIn dp name) s (fun t => rfl) fun m t => ?_
    simp only [read, Vport.readIn, Act.outcome_bind, Act.outcome_ofExcept]
    cases Vport.read s.families .get m with
    | error f => rfl
    | ok notice =>
      have hensure : (do let n ← Except.ok notice; dp.ensure n.datapath; return n.vport) =
          (dp.ensure notice.datapath).map fun _ => notice.vport := rfl
      rw [hensure]
      simp only [Act.outcome_pure, Act.outcome_bind, Act.outcome_ofExcept]
      cases dp.ensure notice.datapath <;> rfl
  | vportAt dp id =>
    simp only [run, Vport.get, bind_assoc]
    rw [Act.outcome_bind, Act.outcome_get]
    refine result_ask (.vportAt dp id) s (fun t => rfl) fun m t => ?_
    simp only [read, Act.outcome_bind, Act.outcome_ofExcept]
    cases Vport.readIn s.families .get dp m <;> rfl
  | flow dp f =>
    simp only [run, Flow.remove, bind_assoc]
    rw [Act.outcome_bind, Act.outcome_get]
    exact result_ask (.flow dp f) s (fun t => rfl) fun m t => rfl

/-- Nothing is found only for the one error: a reply is something, or it cannot be read. -/
theorem settled_eq_false_iff {families : Families} {r : Except Failure Bytes} :
    q.settled families r = .ok false ↔
      ∃ report, r = .error (.kernel report) ∧ report.errno = .ok q.errno := by
  cases r with
  | ok message =>
    constructor
    · intro h
      obtain ⟨_, -, htrue⟩ := map_eq_ok_iff.1 h
      cases htrue
    · rintro ⟨report, h, -⟩
      cases h
  | error f =>
    constructor
    · intro h
      rw [settled] at h
      split at h
      · next hkernel =>
        obtain ⟨report, rfl, herrno⟩ := Failure.bears_iff.1 hkernel
        exact ⟨report, rfl, herrno⟩
      · cases h
    · rintro ⟨report, h, herrno⟩
      obtain rfl := Except.error.inj h
      rw [settled, if_pos (Failure.bears_iff.2 ⟨report, rfl, herrno⟩)]

/-- A failure that is not the one error is passed on. -/
theorem settled_of_not_bears {families : Families} {f : Failure} (h : ¬ f.bears q.errno = true) :
    q.settled families (.error f) = .error f.passedOn := if_neg h

theorem isAbsent_iff : q.IsAbsent s ↔ ∃ report,
    (Act.outcome (Session.request (q.request s.families)) s).1 = .error (.kernel report) ∧
      report.errno = .ok q.errno := by
  simp only [Session.request_eq_kernel_iff_comesTo]
  constructor
  · rintro ⟨hopen, draft, report, hdraft, hdeclined, herrno⟩
    exact ⟨report, ⟨hopen, draft, hdraft, hdeclined⟩, herrno⟩
  · rintro ⟨report, ⟨hopen, draft, hdraft, hdeclined⟩, herrno⟩
    exact ⟨hopen, draft, report, hdraft, hdeclined, herrno⟩

/-- **Absence is told exactly** if the kernel says so, by the message that decides the request.
Whatever else the request fails with is what the search fails with, but that there is a panic if the
kernel reports an error which has no number. A reply has to be read: if it cannot be, this is a
failure, too. -/
theorem absent_exactly (q : Search) (s : Session) :
    ((Act.outcome q.run s).1 = .ok false ↔ q.IsAbsent s) ∧
      (∀ f, (Act.outcome (Session.request (q.request s.families)) s).1 = .error f →
        (∀ report, f = .kernel report → ∃ n, report.errno = .ok n ∧ n ≠ q.errno) →
          (Act.outcome q.run s).1 = .error f) ∧
      (∀ report cause,
        (Act.outcome (Session.request (q.request s.families)) s).1 = .error (.kernel report) →
          report.errno = .error cause → (Act.outcome q.run s).1 = .error (.overflow cause)) ∧
      ∀ message,
        (Act.outcome (Session.request (q.request s.families)) s).1 = .ok message →
          (Act.outcome q.run s).1 = (q.read s.families message).map fun _ => true := by
  rw [result_run, settled_eq_false_iff, isAbsent_iff]
  refine ⟨Iff.rfl, fun f hf hother => ?_, fun report cause hreport herrno => ?_,
    fun message hmessage => ?_⟩
  · have hbears : ¬ f.bears q.errno = true := by
      intro h
      obtain ⟨report, hreport, herrno⟩ := Failure.bears_iff.1 h
      obtain ⟨n, hn, hne⟩ := hother report hreport
      exact hne (Except.ok.inj (hn.symm.trans herrno))
    have hnumber : ∀ report, f = .kernel report → ∃ n, report.errno = .ok n := by
      intro report hreport
      obtain ⟨n, hn, -⟩ := hother report hreport
      exact ⟨n, hn⟩
    rw [hf, settled_of_not_bears hbears, Failure.passedOn_eq_self hnumber]
  · rw [hreport, settled_of_not_bears (Failure.not_bears_of_overflow herrno _),
      Failure.passedOn_of_overflow herrno]
  · rw [hmessage, settled]

/-- The report that there is no such device, about the request of a sequence number. -/
def noSuchDevice (sequence : UInt32) : Bytes :=
  Endpoint.tell 2 sequence ([237, 255, 255, 255] ++ List.replicate 16 0)

/-- A session of the port 5, whose next request has the sequence number 7. -/
def expecting (arrivals : List Arrival) : Session :=
  .start ⟨5, Buffer.fresh 128, ⟨arrivals, .system 11, [], [], 7, .empty⟩⟩ Inquiry.someFamilies
    .standard

/-- The report about an earlier request is passed over: what decides is the report about this one,
or a failure of the socket, which is none of the kernel although its number is the same. -/
theorem absent_exactly_behind_stray :
    (vport "a").IsAbsent (expecting [.datagram (noSuchDevice 6 ++ noSuchDevice 7)]) ∧
      (Act.outcome (vport "a").run
          (expecting [.datagram (noSuchDevice 6), .fault (.system 19)])).1 =
        .error (.socket (.system 19)) := by
  refine ⟨(absent_exactly (vport "a") _).1.1 (by cbv), ?_⟩
  refine (absent_exactly (vport "a") _).2.1 _ (by cbv) ?_
  intro report h
  cases h

end Search

end VSwitch
