import Mathlib
import VSwitch.Proofs.Correlation
import VSwitch.Proofs.Errand

/-!
# Closing a session

The clones of a client and the handles of its datapaths share one session, so whoever closes it
closes it for all of them. From then on nothing goes through the session any more: whatever it is
used for fails, as the session is closed or as a message could not even be written, and changes
nothing. No call is made on the link, no sequence number is used up and no line is written to the
journal. Only where there is nothing left to do there is nothing to fail, either: a session can be
closed again, and a vport that has been pointed at an upcall port need not be pointed again.

* `VSwitch.Act.Declines` says that a computation fails in this way and leaves the state as it is;
* `VSwitch.Use` is what a session is used for, and `VSwitch.Occasion.usages` tells what becomes of
  one use after the other, whoever makes them;
* `VSwitch.Usage.Idle` says that a use of a closed session had no effect;
* `VSwitch.Occasion.close_absorbs` is the result, and `VSwitch.Occasion.midPass` is a run in which
  the session is closed while a pass over vports is under way.
-/

namespace VSwitch

/-! ### Declining -/

/-- Failures of what is asked of a closed session. -/
inductive Failure.IsRefusal : Failure → Prop
  /-- The session is closed. -/
  | closed : IsRefusal .closed
  /-- The message cannot be written, which is found out before the session is looked at. -/
  | unwritten (cause : EncodeError) : IsRefusal (.encode cause)

theorem Failure.IsRefusal.isKernelErrno_eq_false {f : Failure} (h : f.IsRefusal) (n : Int32) :
    f.isKernelErrno n = .ok false := by
  cases h <;> rfl

namespace Act

variable {σ τ α β : Type} {s : σ}

/-- A computation is refused and leaves the state as it is. -/
def Declines (act : Act σ α) (s : σ) : Prop :=
  ∃ f : Failure, f.IsRefusal ∧ outcome act s = (.error f, s)

/-- Where others do nothing in between, there is only what follows. -/
theorem outcome_idle_bind (k : Unit → Act σ β) (s : σ) :
    outcome ((liftM (pure () : StateM σ Unit) : Act σ Unit) >>= k) s = outcome (k ()) s := rfl

namespace Declines

theorem throw {f : Failure} (h : f.IsRefusal) : Declines (throw f : Act σ α) s := ⟨f, h, rfl⟩

/-- What comes after a refusal is not done. -/
theorem bind {x : Act σ α} {k : α → Act σ β} (h : Declines x s) : Declines (x >>= k) s := by
  obtain ⟨f, hf, hrun⟩ := h
  refine ⟨f, hf, ?_⟩
  rw [outcome_bind, hrun]

theorem get_bind {k : σ → Act σ β} (h : Declines (k s) s) : Declines (get >>= k) s := by
  obtain ⟨f, hf, hrun⟩ := h
  refine ⟨f, hf, ?_⟩
  rw [outcome_bind, outcome_get]
  exact hrun

/-- What cannot be written is refused, too. -/
theorem ofEncode_bind {r : Except EncodeError α} {k : α → Act σ β} (h : ∀ a, Declines (k a) s) :
    Declines (Act.ofEncode r >>= k) s := by
  cases r with
  | error e => exact ⟨_, .unwritten e, rfl⟩
  | ok a => exact h a

theorem onSecond {act : Act σ α} {s : τ × σ} (h : Declines act s.2) :
    Declines (Act.onSecond act : Act (τ × σ) α) s := by
  obtain ⟨f, hf, hrun⟩ := h
  refine ⟨f, hf, ?_⟩
  rw [outcome_onSecond, hrun]

theorem starting {act : Act (τ × σ) α} {t : τ} (h : Declines act (t, s)) :
    Declines (Act.starting t act) s := by
  obtain ⟨f, hf, hrun⟩ := h
  refine ⟨f, hf, ?_⟩
  rw [outcome_starting, hrun]

end Declines

end Act

open Act (Declines)

/-! ### A closed session -/

namespace Session

variable {α : Type} {s : Session}

theorem isClosed_iff : s.isClosed = true ↔ ¬ s.isOpen = true := by
  rw [isClosed, Bool.not_eq_true', Bool.not_eq_true]

/-- Nothing is done to the endpoint of a closed session. -/
theorem declines_onEndpoint (h : s.isClosed = true) (act : Act Endpoint α) :
    Declines (onEndpoint act) s := by
  refine .get_bind ?_
  rw [if_neg (isClosed_iff.1 h)]
  exact .bind (.throw .closed)

theorem declines_request (h : s.isClosed = true) (r : Request) : Declines (request r) s :=
  .ofEncode_bind fun _ => declines_onEndpoint h _

theorem declines_collect (h : s.isClosed = true) (r : Request)
    (decode : Bytes → Except Failure α) : Declines (collect r decode) s :=
  .ofEncode_bind fun _ => declines_onEndpoint h _

theorem declines_send (h : s.isClosed = true) (r : Request) : Declines (send r) s :=
  .ofEncode_bind fun _ => .bind (declines_onEndpoint h _)

/-- A refusal is not an answer of the kernel. -/
theorem declines_unlessKernel {errno : Int32} {act : Act Session α} (h : Declines act s) :
    Declines (unlessKernel errno act) s := by
  obtain ⟨f, hf, hrun⟩ := h
  -- The failure is caught and, as it has no error number, raised again.
  have hattempt : Act.outcome (Act.attempt act) s = (.ok (.error f), s) := by
    change (Except.ok (Act.outcome act s).1, (Act.outcome act s).2) = _
    rw [hrun]
  refine ⟨f, hf, ?_⟩
  rw [unlessKernel, Act.outcome_bind, hattempt]
  simp only [hf.isKernelErrno_eq_false errno]
  rfl

theorem outcome_close_of_isClosed (h : s.isClosed = true) :
    Act.outcome close s = (.ok (), s) := by
  rw [close, Act.outcome_bind, Act.outcome_get]
  simp only [if_neg (isClosed_iff.1 h)]
  rfl

/-- **Closing closes.** -/
theorem isClosed_of_close (s : Session) :
    (Act.outcome close s).1 = .ok () ∧ (Act.outcome close s).2.isClosed = true := by
  by_cases hclosed : s.isClosed = true
  · rw [outcome_close_of_isClosed hclosed]
    exact ⟨rfl, hclosed⟩
  · rw [isClosed_iff, Decidable.not_not] at hclosed
    rw [close, Act.outcome_bind, Act.outcome_get]
    simp only [if_pos hclosed]
    exact ⟨rfl, rfl⟩

end Session

/-! ### What is asked of a closed session -/

theorem Vport.declines_lookup {s : Session} (hs : s.isClosed = true) (dp : Datapath)
    (name : String) : Declines (lookup dp name) s :=
  .get_bind (.bind (Session.declines_unlessKernel (Session.declines_request hs _)))

theorem Vport.declines_get {s : Session} (hs : s.isClosed = true) (dp : Datapath) (id : VportId) :
    Declines (get dp id) s :=
  .get_bind (.bind (Session.declines_unlessKernel (Session.declines_request hs _)))

theorem Vport.declines_setUpcall {s : Session} (hs : s.isClosed = true) (dp : Datapath)
    (id : VportId) (port : UInt32) : Declines (setUpcall dp id port) s :=
  .get_bind (.bind (Session.declines_request hs _))

namespace Upcall

variable {s : Session} {u : Upcall} {id : VportId}

theorem outcome_configure_of_isConfigured (h : u.isConfigured id = true) :
    Act.outcome (configure Vport.setUpcall id) (u, s) = (.ok false, u, s) := by
  rw [outcome_configure, if_pos h]

theorem declines_configure (hs : s.isClosed = true) (h : ¬ u.isConfigured id = true) :
    Declines (configure Vport.setUpcall id) (u, s) := by
  refine .get_bind ?_
  simp only [if_neg h]
  exact .bind (.onSecond (Vport.declines_setUpcall hs u.datapath id u.port))

/-- Vports that have been pointed are passed over. -/
theorem outcome_configureEach_of_isConfigured {vports : List Vport}
    (h : ∀ vport ∈ vports, u.isConfigured vport.id = true) :
    Act.outcome (configureEach Vport.setUpcall (pure ()) vports) (u, s) = (.ok (), u, s) := by
  induction vports with
  | nil => rfl
  | cons vport rest ih =>
    have hpoint : Act.outcome (configure Vport.setUpcall vport.id) (u, s) = (.ok false, u, s) :=
      outcome_configure_of_isConfigured (h vport List.mem_cons_self)
    rw [configureEach, Act.outcome_idle_bind, Act.outcome_bind, hpoint]
    exact ih fun v hv => h v (List.mem_cons_of_mem vport hv)

/-- A pass ends at the first vport that has not been pointed. -/
theorem declines_configureEach (hs : s.isClosed = true) {vports : List Vport}
    (h : ¬ ∀ vport ∈ vports, u.isConfigured vport.id = true) :
    Declines (configureEach Vport.setUpcall (pure ()) vports) (u, s) := by
  induction vports with
  | nil => exact absurd (fun v hv => absurd hv List.not_mem_nil) h
  | cons vport rest ih =>
    by_cases hvport : u.isConfigured vport.id = true
    · have hrest : ¬ ∀ v ∈ rest, u.isConfigured v.id = true := by
        intro hall
        refine h fun v hv => ?_
        rcases List.mem_cons.1 hv with rfl | hv
        · exact hvport
        · exact hall v hv
      rw [configureEach, Declines, Act.outcome_idle_bind, Act.outcome_bind,
        outcome_configure_of_isConfigured hvport]
      exact ih hrest
    · rw [configureEach, Declines, Act.outcome_idle_bind]
      exact (declines_configure hs hvport).bind

/-- A pass over all vports ends before it begins. -/
theorem declines_configureAll (hs : s.isClosed = true) (dp : Datapath) :
    Declines (configureAll Vport.setUpcall (pure ()) (Vport.all dp)) (u, s) := by
  have hall : Declines (Act.onSecond (Vport.all dp)) (u, s) :=
    .onSecond (.get_bind (Session.declines_collect hs _ _))
  rw [configureAll, Declines, Act.outcome_idle_bind]
  exact hall.bind

end Upcall

namespace Errand

variable {s : Session}

/-- Whether an errand goes through a session. The others are for making one. -/
def usesSession : Errand → Bool
  | .lookup _ | .connect _ => false
  | _ => true

/-- Whether there is nothing left to do for an errand: the vport points at the upcall port. -/
def isSettled : Errand → Bool
  | .point u id => u.isConfigured id
  | _ => false

/-- **A closed session declines every errand** for which there is something left to do. -/
theorem declines_run (hs : s.isClosed = true) {errand : Errand} (huses : errand.usesSession = true)
    (hsettled : errand.isSettled = false) : Declines errand.run s := by
  have hrequest := Session.declines_request hs
  have hunless : ∀ errno r, Declines (Session.unlessKernel errno (Session.request r)) s :=
    fun errno r => Session.declines_unlessKernel (hrequest r)
  cases errand with
  | lookup name | connect autoload => cases huses
  | createDatapath name => exact .bind (.get_bind (.bind (hrequest _)))
  | findDatapath name | nameDatapath dp => exact .bind (.get_bind (.bind (hunless _ _)))
  | listDatapaths => exact .bind (.get_bind (.bind (Session.declines_collect hs _ _)))
  | deleteDatapath dp => exact .get_bind (.bind (hrequest _))
  | createVport dp spec => exact .bind (.get_bind (.bind (hrequest _)))
  | findVport name => exact .bind (.bind (Vport.declines_lookup hs _ name))
  | findVportIn dp name => exact .bind (.bind (Vport.declines_lookup hs dp name))
  | getVport dp id => exact .bind (Vport.declines_get hs dp id)
  | nameVport dp id => exact .bind (.bind (Vport.declines_get hs dp id))
  | listVports dp => exact .bind (.get_bind (Session.declines_collect hs _ _))
  | deleteVport dp id => exact .get_bind (.bind (hrequest _))
  | setUpcall dp id port => exact Vport.declines_setUpcall hs dp id port
  | point u id =>
    refine .bind (.starting (Upcall.declines_configure hs ?_))
    exact Bool.eq_false_iff.1 hsettled
  | pointAll u => exact .starting (Upcall.declines_configureAll hs u.datapath)
  | installFlow dp f => exact .get_bind (.bind (hrequest _))
  | removeFlow dp f => exact .bind (.get_bind (.bind (hunless _ _)))
  | listFlows dp => exact .bind (.get_bind (Session.declines_collect hs _ _))
  | execute dp packet keys actions => exact .get_bind (Session.declines_send hs _)

end Errand

/-! ### Runs -/

/-- What a session is used for, by any clone of a client or by a handle of one of its datapaths. -/
inductive Use
  /-- The session is closed. -/
  | close
  /-- The port of the session is asked for. -/
  | port
  /-- An errand is run that goes through the session. -/
  | errand (e : Errand) (uses : e.usesSession = true)
  /-- What is left of a pass over vports is done. Others may come in between any two vports, and
  then a pass is more than one use. -/
  | pass (u : Upcall) (vports : List Vport)

namespace Use

/-- Uses a session. -/
def run : Use → Act Session Unit
  | .close => Session.close
  | .port => do let _ ← Session.port
  | .errand e _ => e.run
  | .pass u vports => Act.starting u (Upcall.configureEach Vport.setUpcall (pure ()) vports)

/-- Whether there is nothing left to do where a closed session is used: it is to be closed, or the
vports point at the upcall port. -/
def isSettled : Use → Bool
  | .close => true
  | .port => false
  | .errand e _ => e.isSettled
  | .pass u vports => vports.all fun vport => u.isConfigured vport.id

end Use

/-- What became of a use of a session. -/
structure Usage where
  /-- The use. -/
  use : Use
  /-- The session right before. -/
  before : Session
  /-- The result. -/
  result : Except Failure Unit
  /-- The session right after. -/
  after : Session

/-- A use of a session, and what happens on its link before: messages arrive, and other sockets use
up sequence numbers. -/
structure Occasion where
  /-- What happens on the link. -/
  meanwhile : Link → Link
  /-- The use. -/
  use : Use

namespace Occasion

/-- The session when it is used. -/
def before (o : Occasion) (s : Session) : Session :=
  { s with endpoint := { s.endpoint with link := o.meanwhile s.endpoint.link } }

/-- What becomes of the use. -/
def usage (o : Occasion) (s : Session) : Usage :=
  ⟨o.use, o.before s, (Act.outcome o.use.run (o.before s)).1,
    (Act.outcome o.use.run (o.before s)).2⟩

/-- What becomes of one use after the other. -/
def usages : List Occasion → Session → List Usage
  | [], _ => []
  | o :: rest, s => o.usage s :: usages rest (o.usage s).after

end Occasion

/-- A closed session was used, which had no effect on it whatsoever. -/
structure Usage.Idle (a : Usage) : Prop where
  /-- The session was closed. -/
  isClosed : a.before.isClosed = true
  /-- It is as it was: no call has been made on the link, and no sequence number has been used. -/
  unchanged : a.after = a.before
  /-- There was nothing left to do, or what there was is refused. -/
  result : if a.use.isSettled then a.result = .ok () else
    ∃ f : Failure, f.IsRefusal ∧ a.result = .error f

namespace Use

variable {s : Session} {use : Use}

theorem outcome_run_of_isSettled (hs : s.isClosed = true) (h : use.isSettled = true) :
    Act.outcome use.run s = (.ok (), s) := by
  cases use with
  | close => exact Session.outcome_close_of_isClosed hs
  | port => cases h
  | errand e huses =>
    cases e with
    | point u id =>
      have hpoint := Upcall.outcome_configure_of_isConfigured (s := s) h
      rw [run, Errand.run, Act.outcome_bind, Act.outcome_starting, hpoint]
      rfl
    | _ => cases h
  | pass u vports =>
    have hall : ∀ vport ∈ vports, u.isConfigured vport.id = true := List.all_eq_true.1 h
    rw [run, Act.outcome_starting, Upcall.outcome_configureEach_of_isConfigured hall]

theorem declines_run (hs : s.isClosed = true) (h : use.isSettled = false) :
    Declines use.run s := by
  cases use with
  | close => cases h
  | port => exact .bind (Session.declines_onEndpoint hs _)
  | errand e huses => exact Errand.declines_run hs huses h
  | pass u vports =>
    refine .starting (Upcall.declines_configureEach hs fun hall => ?_)
    have hsettled : (Use.pass u vports).isSettled = true := List.all_eq_true.2 hall
    rw [h] at hsettled
    cases hsettled

end Use

namespace Occasion

variable {s : Session} {occasions : List Occasion} {a b : Usage}

/-- **One use of a closed session** has no effect on it. -/
theorem idle_usage (hs : s.isClosed = true) (o : Occasion) : (o.usage s).Idle := by
  have hbefore : (o.before s).isClosed = true := hs
  cases hsettled : o.use.isSettled with
  | true =>
    have hrun := Use.outcome_run_of_isSettled hbefore hsettled
    refine ⟨hbefore, congrArg Prod.snd hrun, ?_⟩
    rw [usage, hsettled, if_pos rfl]
    exact congrArg Prod.fst hrun
  | false =>
    obtain ⟨f, hf, hrun⟩ := Use.declines_run hbefore hsettled
    refine ⟨hbefore, congrArg Prod.snd hrun, ?_⟩
    rw [usage, hsettled, if_neg Bool.false_ne_true]
    exact ⟨f, hf, congrArg Prod.fst hrun⟩

/-- However often a closed session is used, this has no effect. -/
theorem idle_of_mem_usages (hs : s.isClosed = true) (hb : b ∈ usages occasions s) :
    b.Idle := by
  induction occasions generalizing s with
  | nil => cases hb
  | cons o rest ih =>
    have hidle := idle_usage hs o
    rcases List.mem_cons.1 hb with rfl | hb
    · exact hidle
    · -- What this use leaves is the closed session itself, so the later ones find it closed.
      refine ih ?_ hb
      rw [hidle.unchanged]
      exact hidle.isClosed

/-- Closing a session succeeds and leaves it closed. -/
theorem isClosed_usage {o : Occasion} (h : (o.usage s).use = .close) :
    (o.usage s).result = .ok () ∧ (o.usage s).after.isClosed = true := by
  have hclose : o.use = .close := h
  rw [usage, hclose]
  exact Session.isClosed_of_close _

/-- **Closing is final.** However a session is used, and whatever happens on its link in between:
closing it leaves it closed, and none of the later uses has any effect on it. They are refused,
unless they are to close it again or to point vports that have been pointed already; that such a
vport is not pointed again is told without a look at the session. -/
theorem close_absorbs (occasions : List Occasion) (s : Session) :
    (∀ a ∈ usages occasions s, a.use = .close → a.result = .ok () ∧ a.after.isClosed = true) ∧
      ((usages occasions s).Pairwise fun a b => a.use = .close → b.Idle) ∧
      ∀ (u : Upcall) (id : VportId) (t : Session), u.isConfigured id = true →
        Act.outcome (Upcall.configure Vport.setUpcall id) (u, t) = (.ok false, u, t) := by
  refine ⟨?_, ?_, fun u id t h => Upcall.outcome_configure_of_isConfigured h⟩
  · induction occasions generalizing s with
    | nil => exact fun a ha => absurd ha List.not_mem_nil
    | cons o rest ih =>
      intro a ha hclose
      rcases List.mem_cons.1 ha with rfl | ha
      · exact isClosed_usage hclose
      · exact ih _ a ha hclose
  · induction occasions generalizing s with
    | nil => exact .nil
    | cons o rest ih =>
      refine List.pairwise_cons.2 ⟨fun b hb hclose => ?_, ih _⟩
      exact idle_of_mem_usages (isClosed_usage hclose).2 hb

/-- A session with an answer to its first request on the way: the kernel has no objections. -/
def acknowledging : Session :=
  .start ⟨5, Buffer.fresh 64,
      ⟨[.datagram (Endpoint.tell 2 7 (List.replicate 20 0))], .system 11, [], [], 7, .empty⟩⟩
    ⟨.plain "d" 32, .plain "v" 33, .plain "f" 34, .plain "p" 35⟩ .standard

/-- A port for the misses of the datapath 9, which no vport points at. -/
def sink : Upcall := .start ⟨9⟩ 77

/-- The vport 1 is pointed at the port and the session is closed. Then comes the rest of a pass over
the vports 1 and 2, the vport 1 is to be pointed once more, the session is closed once more and its
port is asked for. -/
def midPass : List Occasion :=
  [⟨id, .errand (.point sink ⟨1⟩) rfl⟩, ⟨id, .close⟩,
    ⟨id, .pass (sink.remember ⟨1⟩) [⟨⟨1⟩, .internal "a"⟩, ⟨⟨2⟩, .internal "b"⟩]⟩,
    ⟨id, .errand (.point (sink.remember ⟨1⟩) ⟨1⟩) rfl⟩, ⟨id, .close⟩, ⟨id, .port⟩]

theorem results_midPass : (usages midPass acknowledging).map Usage.result =
    [.ok (), .ok (), .error .closed, .ok (), .ok (), .error .closed] := by
  cbv

theorem close_absorbs_midPass : ∀ b ∈ (usages midPass acknowledging).drop 2, b.Idle := by
  obtain ⟨-, hpairs, -⟩ := close_absorbs midPass acknowledging
  obtain ⟨-, hpairs⟩ := List.pairwise_cons.1 hpairs
  obtain ⟨hlater, -⟩ := List.pairwise_cons.1 hpairs
  exact fun b hb => hlater b hb rfl

/-- A vport that has been pointed is reported as such after the session is closed, too: not all that
comes after closing is refused. -/
theorem point_after_close : ¬ (usages midPass acknowledging).Pairwise fun a b =>
    a.use = .close → b.use ≠ .close → ∃ f, b.result = .error f := by
  intro hpairs
  obtain ⟨-, hpairs⟩ := List.pairwise_cons.1 hpairs
  obtain ⟨hlater, -⟩ := List.pairwise_cons.1 hpairs
  have hfourth : ((usages midPass acknowledging).map Usage.result)[3]? = some (.ok ()) := by
    rw [results_midPass]
    rfl
  obtain ⟨f, hf⟩ := hlater _ (List.mem_cons_of_mem _ List.mem_cons_self) rfl (by
    intro h
    cases h)
  have hresult := (Option.some.inj hfourth).symm.trans hf
  cases hresult

end Occasion

end VSwitch
