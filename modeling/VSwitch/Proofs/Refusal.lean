import Mathlib
import VSwitch.Kernel.Subscription
import VSwitch.Proofs.Closing
import VSwitch.Proofs.Handover

/-!
# How a closed session refuses

A session is looked at when a message is handed to its endpoint, and by then the attributes of the
message have been written. So what a closed session is asked for fails with `closed` exactly if they
can be written: a name with a zero in it is reported as such whether the session is closed or not.
Listening for vport events takes a socket of its own and never looks at the session, so it goes on
as if the session were open.

* `VSwitch.Errand.refuses_run` says what becomes of one errand;
* `VSwitch.Occasion.refused_after_close` is the result, and
  `VSwitch.Occasion.refused_otherwise_than_closed` says that it is not what closing promises.
-/

namespace VSwitch

open Act (Refuses)

/-- **A closed session refuses every errand**, and what it refuses it with is told by the first
request for the errand. -/
theorem Errand.refuses_run {s : Session} (hs : s.isClosed = true) {errand : Errand} {r : Request}
    (hr : errand.request? s.families = some r) : Refuses r.refusal errand.run s := by
  have hclosed : s.isOpen = false := by simpa [Session.isClosed] using hs
  refine (hingesOn_run hr).refuses _ ?_
  rw [hclosed, Request.refusal?_closed]

/-! ### Listening for vport events -/

/-- The failures of listening for vport events. -/
inductive Failure.IsOfListening : Failure → Prop
  /-- The family of vports has no group of the name. -/
  | noGroup (group family : String) : IsOfListening (.noGroup group family)
  /-- A socket, or what goes with it, cannot be had. -/
  | socket (cause : SocketError) : IsOfListening (.socket cause)

theorem Client.failsIn_subscribe (c : Client) :
    Act.FailsIn Failure.IsOfListening c.subscribe := by
  have hgroup : ∀ f, c.families.vport.group vportGroupName = .error f → f.IsOfListening := by
    intro f hf
    rw [Family.group] at hf
    split at hf
    · cases hf
    · cases hf
      exact .noGroup _ _
  refine .bind (.ofExcept hgroup) fun group => ?_
  refine .bind (Kernel.failsIn_connect .socket _ _ _) fun number => .bind (.debug _) fun _ => ?_
  exact Station.failsIn_spawn .socket _ _

/-! ### Runs -/

namespace Occasion

variable {s : Session} {occasions : List Occasion} {a b : Usage}

/-- What becomes of a use is told by the session right before it. -/
theorem result_of_mem_usages (hb : b ∈ usages occasions s) :
    b.result = (Act.outcome b.use.run b.before).1 := by
  induction occasions generalizing s with
  | nil => cases hb
  | cons o rest ih =>
    rcases List.mem_cons.1 hb with rfl | hb
    · rfl
    · exact ih hb

/-- After a session is closed it is found closed by whoever uses it. -/
theorem isClosed_before_of_close : (usages occasions s).Pairwise fun a b =>
    a.use = .close → b.before.isClosed = true := by
  induction occasions generalizing s with
  | nil => exact .nil
  | cons o rest ih =>
    refine List.pairwise_cons.2 ⟨fun b hb hclose => ?_, ih⟩
    exact (idle_of_mem_usages (isClosed_usage hclose).2 hb).isClosed

/-- **What becomes of errands after a session is closed**, however it is used and whatever happens
on its link in between: an errand whose request can be written is told that the session is closed,
and any other one why its request cannot be written. Listening for vport events is not refused: it
goes on as if the client were open, and it fails only as a group or a socket cannot be had. -/
theorem refused_after_close (occasions : List Occasion) (s : Session) :
    ((usages occasions s).Pairwise fun a b => a.use = .close → ∀ errand uses r,
        b.use = .errand errand uses → errand.request? b.before.families = some r →
          b.result = .error r.refusal) ∧
      ∀ (c : Client) (k : Kernel) (isOpen : Bool),
        Act.outcome ({ c with isOpen } : Client).subscribe k = Act.outcome c.subscribe k ∧
          ∀ f, (Act.outcome c.subscribe k).1 = .error f → f.IsOfListening := by
  refine ⟨?_, fun c k isOpen => ⟨rfl, Client.failsIn_subscribe c k⟩⟩
  refine isClosed_before_of_close.imp_of_mem ?_
  intro a b _ hb hclosed hclose errand uses r huse hr
  have hrun := Errand.refuses_run (hclosed hclose) hr
  rw [result_of_mem_usages hb, huse]
  exact congrArg Prod.fst hrun

/-- A session is closed. Then a datapath is to be created under a name with a zero in it, and the
datapaths are asked for. -/
def closeFirst : List Occasion :=
  [⟨id, .close⟩, ⟨id, .errand (.createDatapath "a\x00b") rfl⟩, ⟨id, .errand .listDatapaths rfl⟩]

/-- A client that has been closed. Its family of vports has the group `group`. -/
def closedClient (group : String) : Client :=
  ⟨⟨0, 77, Buffer.fresh 64⟩, ⟨.plain "d" 32, ⟨"v", 33, .ofList [(group, 5)]⟩, .plain "f" 34,
    .plain "p" 35⟩, { bufferLength := 64 }, false⟩

theorem refused_after_close_closeFirst :
    ((usages closeFirst acknowledging).map Usage.result).tail =
        [.error (.encode .nulInText), .error .closed] ∧
      Failure.IsOfListening (.noGroup vportGroupName "v") := by
  obtain ⟨hpairs, hsubscribe⟩ := refused_after_close closeFirst acknowledging
  obtain ⟨hlater, -⟩ := List.pairwise_cons.1 hpairs
  constructor
  · have hcreate := hlater _ List.mem_cons_self rfl _ _ _ rfl rfl
    have hlist := hlater _ (List.mem_cons_of_mem _ List.mem_cons_self) rfl _ _ _ rfl rfl
    have hunwritten : (Datapath.creation acknowledging.families "a\x00b").refusal =
        .encode .nulInText := by
      cbv
    have hclosed : (Datapath.inquiryForAll acknowledging.families).refusal = .closed := by
      cbv
    have hresults : ((usages closeFirst acknowledging).map Usage.result).tail =
        [_, _] := rfl
    rw [hresults, hcreate, hlist]
    exact congrArg₂ (fun f g => [Except.error f, Except.error g]) hunwritten hclosed
  · exact (hsubscribe (closedClient "") (.start 1 true) false).2 _ (by cbv)

/-- **A closed client does not refuse everything with `closed`**: not what cannot be written, and
listening for vport events not at all. -/
theorem refused_otherwise_than_closed :
    (¬ ∀ (occasions : List Occasion) (s : Session),
        (usages occasions s).Pairwise fun a b => a.use = .close → ∀ errand uses r,
          b.use = .errand errand uses → errand.request? b.before.families = some r →
            b.result = .error .closed) ∧
      ¬ ∀ (c : Client) (k : Kernel), c.isOpen = false →
        (Act.outcome c.subscribe k).1 = .error .closed := by
  constructor
  · intro hall
    obtain ⟨hlater, -⟩ := List.pairwise_cons.1 (hall closeFirst acknowledging)
    have hclosed := hlater _ List.mem_cons_self rfl _ _ _ rfl rfl
    have hcreate : (Act.outcome (Errand.createDatapath "a\x00b").run
        (Act.outcome Session.close acknowledging).2).1 = .error (.encode .nulInText) := by
      cbv
    have hsame := hcreate.symm.trans hclosed
    cases hsame
  · intro hall
    have hlistens : (Act.outcome (closedClient vportGroupName).subscribe (.start 1 true)).1 =
        .ok ⟨0, .start 5000 64, 0, 1, 2, true⟩ := by
      cbv
    have hsame := hlistens.symm.trans (hall (closedClient vportGroupName) (.start 1 true) rfl)
    cases hsame

end Occasion

end VSwitch
