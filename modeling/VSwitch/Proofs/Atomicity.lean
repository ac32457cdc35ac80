import Mathlib
import VSwitch.Kernel.Subscription
import VSwitch.Proofs.Lookup
import VSwitch.Proofs.Refusal

/-!
# Requests that cannot be written

A request that cannot be written is not sent in part. The client is told, and nothing else happens:
no message is sent, none is received, no sequence number is used up and no module is probed for. The
other way round, this is what a client is told for no other reason. Behind the first request of an
errand there come at most others that can always be written, as when vports are pointed at a port.

* `VSwitch.Act.IsAtomic` says that a computation is all or nothing, with respect to a request;
* `VSwitch.Errand.firstRequest?` is the first request for an errand on an open session;
* `VSwitch.Takeover.failsIn_perform`: a takeover fails as its parts do, whatever they are;
* `VSwitch.Errand.all_or_nothing` is the result. `VSwitch.Request.Unwritable` says by the lengths of
  its attributes and the zeros in its texts which requests are meant.
-/

namespace VSwitch

open Act (FailsIn HingesOn)
open Failure (IsLater)

/-! ### All or nothing -/

namespace Act

variable {σ α : Type} {s : σ} {r : Request} {act : Act σ α}

/-- A computation that starts with a request, if with any, is told that a message cannot be written
exactly if this request cannot be, and then the state is as it was. -/
structure IsAtomic (request? : Option Request) (act : Act σ α) (s : σ) : Prop where
  fails_iff : (∃ cause, (outcome act s).1 = .error (.encode cause)) ↔
    ∃ r, request? = some r ∧ r.Unwritable
  state_eq : ∀ cause, (outcome act s).1 = .error (.encode cause) → (outcome act s).2 = s

theorem IsAtomic.exists_outcome {request? : Option Request} (h : IsAtomic request? act s)
    (hrequest : request? = some r) (hr : r.Unwritable) :
    ∃ cause, outcome act s = (.error (.encode cause), s) := by
  obtain ⟨cause, hf⟩ := h.fails_iff.2 ⟨r, hrequest, hr⟩
  exact ⟨cause, Prod.ext hf (h.state_eq cause hf)⟩

/-- What hinges on what an open session refuses is all or nothing. -/
theorem HingesOn.isAtomic (h : HingesOn (r.refusal? true) act s)
    (hr : Put.AreAttributes r.attributes) : IsAtomic (some r) act s := by
  by_cases hunwritable : r.Unwritable
  · obtain ⟨cause, hrefusal⟩ := Request.refusal?_of_unwritable hr hunwritable
    have hrun := h.refuses _ hrefusal
    refine ⟨⟨fun _ => ⟨r, rfl, hunwritable⟩, fun _ => ⟨cause, ?_⟩⟩, fun _ _ => ?_⟩
    · rw [hrun]
    · rw [hrun]
  · have hlater := h.isLater (Request.refusal?_of_writable hr hunwritable)
    refine ⟨⟨?_, ?_⟩, fun cause hf => absurd rfl ((hlater _ hf).ne_encode cause)⟩
    · rintro ⟨cause, hf⟩
      exact absurd rfl ((hlater _ hf).ne_encode cause)
    · rintro ⟨_, heq, h⟩
      cases heq
      exact absurd h hunwritable

/-- Where there is no request, there is none that cannot be written. -/
theorem FailsIn.isAtomic (h : FailsIn IsLater act) (s : σ) : IsAtomic none act s := by
  refine ⟨⟨?_, ?_⟩, fun cause hf => absurd rfl ((h s _ hf).ne_encode cause)⟩
  · rintro ⟨cause, hf⟩
    exact absurd rfl ((h s _ hf).ne_encode cause)
  · rintro ⟨_, heq, -⟩
    cases heq

end Act

open Act (IsAtomic)

/-! ### Families -/

namespace Family

variable {probe : StateM Endpoint Unit} {autoload : Bool}

theorem hingesOn_lookup (name : String) (e : Endpoint) :
    HingesOn ((request name).refusal? true) (lookup name) e :=
  .draft_bind fun d => (Endpoint.isExchange_request.hingesOn d e).bind fun _ =>
    .bind (.ofDecode fun _ => trivial) fun _ => .bind (.debug _) fun _ => .pure _

/-- What a call concludes is a failure of its last lookup, or that the family cannot be had. -/
theorem isLater_of_concluded {name : String} {r : Except Failure Family} {f : Failure}
    (hr : ∀ g, r = .error g → g.IsLater) (hf : concluded name r = .error f) : f.IsLater := by
  rw [concluded] at hf
  split at hf
  · cases hf
    trivial
  · obtain ⟨g, hg, rfl⟩ := mapError_eq_error_iff.1 hf
    exact (hr g hg).passedOn

/-- **A family is not probed for if its name cannot be written.** -/
theorem hingesOn_resolve (name : String) (e : Endpoint) :
    HingesOn ((request name).refusal? true) (resolve lookup probe autoload name) e := by
  have hfirst := hingesOn_lookup name e
  refine ⟨fun f hf => ?_, fun hnone f hf => ?_⟩
  · -- Only an answer of the kernel leads to the probe, and a refusal is none.
    have hkernel := Request.ne_kernel_of_refusal? hf
    have hmissing : isMissing (.error f) = false := Failure.bears_of_ne_kernel hkernel _
    rw [Act.Refuses, outcome_resolve, hfirst.refuses f hf]
    simp only [hmissing, Bool.and_false, Bool.false_eq_true, if_false, concluded, Except.mapError,
      Failure.passedOn_of_ne_kernel hkernel]
  · rw [outcome_resolve] at hf
    dsimp only at hf
    split at hf
    · exact isLater_of_concluded ((hingesOn_lookup name _).isLater hnone) hf
    · exact isLater_of_concluded (hfirst.isLater hnone) hf

theorem failsIn_resolve {name : String} (h : IsName name) :
    FailsIn IsLater (resolve lookup probe autoload name) := fun e _ hf =>
  (hingesOn_resolve name e).isLater
    (Request.refusal?_of_writable (areAttributes_request name) (not_unwritable_request h)) _ hf

end Family

/-- Four names, which can all be written, are asked for one after the other. -/
theorem Families.hingesOn_resolve {probe : StateM Endpoint Unit} {autoload : Bool} (e : Endpoint) :
    HingesOn ((Family.request datapathFamilyName).refusal? true)
      (Families.resolve (Family.resolve Family.lookup probe autoload)) e := by
  have hvport : Family.IsName vportFamilyName := ⟨Bool.eq_false_iff.1 (by cbv), by decide⟩
  have hflow : Family.IsName flowFamilyName := ⟨Bool.eq_false_iff.1 (by cbv), by decide⟩
  have hpacket : Family.IsName packetFamilyName := ⟨Bool.eq_false_iff.1 (by cbv), by decide⟩
  refine (Family.hingesOn_resolve datapathFamilyName e).bind fun _ => ?_
  refine .bind (Family.failsIn_resolve hvport) fun _ => ?_
  refine .bind (Family.failsIn_resolve hflow) fun _ => ?_
  exact .bind (Family.failsIn_resolve hpacket) fun _ => .pure _

/-! ### Taking over misses -/

namespace Takeover

variable {σ μ κ ε : Type} [Journal σ] {world : Surroundings σ μ κ ε} {P : Failure → Prop}

/-- **A takeover fails as its parts do.** -/
theorem failsIn_perform (hlisten : FailsIn P world.listen) (hconnect : FailsIn P world.connect)
    (hvports : FailsIn P world.vports) (hset : ∀ dp id port, FailsIn P (world.set dp id port))
    (hsubscribe : FailsIn P world.subscribe) (dp : Datapath) : FailsIn P (perform world dp) := by
  have hconfigure : FailsIn P (configureAll world) :=
    .bind (.lift _) fun _ => .bind (.onSecond (.onSecond hvports)) fun vports =>
      Upcall.failsIn_configureEach hset _ vports
  have hfollow : FailsIn P (follow world) :=
    .bind hconfigure fun _ => .bind (.onSecond (.onSecond hsubscribe)) fun _ =>
      .undoing (.bind hconfigure fun _ => .pure _)
  refine .bind hlisten fun listener => .undoing (.bind (.debug _) fun _ => ?_)
  refine .bind hconnect fun connection => .undoing (.bind ?_ fun _ => .pure _)
  exact .carrying (.carrying hfollow)

end Takeover

theorem Hosts.failsIn_act {σ α : Type} [Hosts σ] {P : Failure → Prop} {a : Act Kernel α}
    (h : FailsIn P a) : FailsIn P (act a : Act σ α) := .within h

namespace Client

theorem failsIn_reconnect (c : Client) : FailsIn IsLater c.reconnect := by
  have hsocket : ∀ e, IsLater (.socket e) := fun _ => trivial
  have hdial : FailsIn IsLater (dial c.config) := by
    refine .bind (Kernel.failsIn_connect hsocket _ _ _) fun number => .undoing ?_
    refine .bind (.sys hsocket) fun _ => .bind (.sys hsocket) fun port => ?_
    exact .bind (.debug _) fun _ => .pure _
  exact .bind hdial fun _ => .pure _

theorem failsIn_listen (c : Client) : FailsIn IsLater c.listen := by
  have hsocket : ∀ e, IsLater (.socket e) := fun _ => trivial
  refine .bind (Kernel.failsIn_connect hsocket _ _ _) fun number => ?_
  refine .bind (.undoing (.bind (.sys hsocket) fun _ => .pure _)) fun _ => ?_
  exact Station.failsIn_spawn hsocket _ _

theorem failsIn_subscribe_isLater (c : Client) : FailsIn IsLater c.subscribe := by
  refine (failsIn_subscribe c).mono fun f hf => ?_
  cases hf <;> trivial

theorem failsIn_run {σ α : Type} [Hosts σ] {P : Failure → Prop} {act : Act Session α}
    (h : FailsIn P act) : FailsIn P (run act : Act (Client × σ) α) := fun (c, s) f hf =>
  h (c.session (Hosts.kernel s)) f hf

end Client

namespace MissStation

variable {σ : Type} [Hosts σ]

theorem failsIn_setter (dp : Datapath) (id : VportId) (port : UInt32) :
    FailsIn IsLater (setter dp id port : Act (Client × σ) Unit) := by
  rw [setter]
  exact Client.failsIn_run (Vport.failsIn_setUpcall dp id port)

variable [Journal σ] (dp : Datapath)

theorem surroundings_set (consumer : MissConsumer (Client × σ)) :
    (surroundings dp consumer).set = setter := rfl

theorem failsIn_perform (consumer : MissConsumer (Client × σ)) :
    FailsIn IsLater (Takeover.perform (surroundings dp consumer) dp) := by
  refine Takeover.failsIn_perform ?_ ?_ ?_ ?_ ?_ dp
  · refine .bind .get fun x => ?_
    obtain ⟨c, t⟩ := x
    exact .bind (Hosts.failsIn_act (Client.failsIn_listen c)) fun _ => .lift _
  · exact .bind .get fun x => Hosts.failsIn_act (Client.failsIn_reconnect x.1)
  · exact Client.failsIn_run (Vport.failsIn_all dp)
  · rw [surroundings_set]
    exact failsIn_setter
  · exact .bind .get fun x => Hosts.failsIn_act (Client.failsIn_subscribe_isLater x.1)

/-- Taking over misses asks for nothing that cannot be written. -/
theorem failsIn_start (consumer : MissConsumer σ) : FailsIn IsLater (start dp consumer) :=
  .bind (failsIn_perform dp consumer.onSecond) fun _ => .bind .get fun _ => .onSecond (.lift _)

end MissStation

/-- A packet that comes with nothing can be handed over exactly if it fits into an attribute. -/
theorem Packet.unwritable_execution_iff {families : Families} {dp : Datapath} {packet : Bytes} :
    (execution families dp packet .empty []).Unwritable ↔
      Draft.maxAttributeLength < AttributeHeader.size + packet.length := by
  have hsets : Match.empty.keyTrees = [] := rfl
  have hhead : (execution families dp packet .empty []).head.length = 8 := rfl
  rw [Request.Unwritable, hhead]
  simp only [execution, hsets, List.map_nil, AttributeTree.puts, List.exists_mem_cons_iff,
    List.not_mem_nil, false_and, exists_false, false_or, or_false, Put.offends_slice_iff,
    Put.offends_nested_iff, Put.extents, Put.extent, align4, AttributeHeader.size,
    Draft.maxAttributeLength, Draft.maxLength, MessageHeader.size]
  omega

/-! ### Errands -/

namespace Errand

variable {s : Session} {errand : Errand} {r : Request}

/-- The first request that is written for an errand on an open session. -/
def firstRequest? (families : Families) : Errand → Option Request
  | .lookup name => some (Family.request name)
  | .connect _ => some (Family.request datapathFamilyName)
  | errand => errand.request? families

theorem areAttributes_of_firstRequest? {families : Families}
    (hr : errand.firstRequest? families = some r) : Put.AreAttributes r.attributes := by
  cases errand with
  | lookup | connect | findDatapath | findVport | findVportIn =>
    cases hr
    exact ⟨trivial, trivial⟩
  | getVport | nameVport | deleteVport =>
    cases hr
    exact ⟨trivial, trivial⟩
  | nameDatapath | listDatapaths | deleteDatapath | listVports | pointAll | listFlows =>
    cases hr
    trivial
  | createDatapath =>
    cases hr
    exact ⟨trivial, trivial, trivial, trivial⟩
  | setUpcall =>
    cases hr
    exact ⟨trivial, trivial, trivial⟩
  | createVport dp spec =>
    cases hr
    exact ⟨trivial, trivial, Put.areAttributes_puts _, trivial, trivial⟩
  | point u id =>
    have hrequest : (point u id).request? families = some r := hr
    rw [request?] at hrequest
    split at hrequest
    · cases hrequest
    · cases hrequest
      exact ⟨trivial, trivial, trivial⟩
  | installFlow | removeFlow =>
    cases hr
    exact Put.areAttributes_puts _
  | execute dp packet keys actions =>
    cases hr
    exact ⟨trivial, Put.areAttributes_puts _, Put.areAttributes_puts _, trivial⟩

theorem hingesOn_first (hs : s.isOpen = true) (hr : errand.firstRequest? s.families = some r) :
    HingesOn (r.refusal? true) errand.run s := by
  have hrun : errand.request? s.families = some r → HingesOn (r.refusal? true) errand.run s :=
    fun h => hs ▸ hingesOn_run h
  cases errand with
  -- Families are asked for over the endpoint, which an open session lets through.
  | lookup name =>
    cases hr
    exact .bind (.within (Family.hingesOn_lookup name s.endpoint) rfl) fun _ => .pure _
  | connect autoload =>
    cases hr
    exact .bind (.within (Families.hingesOn_resolve s.endpoint) rfl) fun _ => .pure _
  | _ => exact hrun hr

/-- Where there is no first request, nothing is asked for: the vport points at the port. -/
theorem failsIn_run_of_firstRequest? {families : Families}
    (hr : errand.firstRequest? families = none) : FailsIn IsLater errand.run := by
  cases errand with
  | point u id =>
    exact .bind (.starting (Upcall.failsIn_configure Vport.failsIn_setUpcall id)) fun _ => .pure _
  | _ => cases hr

/-- **Requests that cannot be written are all or nothing.** Whatever an open session is asked to do,
it is told that a message cannot be written exactly if the first request for it cannot be: a text in
it has a zero, an attribute or a list of attributes in it is too long for 16 bits, or all of it is
too long for 32 bits. Then the session is as it was, so nothing has been sent or received on its
link, and the next sequence number is the same. So it is with a family that is resolved, whatever
the probe does; and neither taking over the misses of a datapath nor listening for vport events is
told so. -/
theorem all_or_nothing :
    (∀ s : Session, s.isOpen = true → ∀ errand : Errand,
        IsAtomic (errand.firstRequest? s.families) errand.run s) ∧
      (∀ probe autoload name (e : Endpoint), IsAtomic (some (Family.request name))
        (Family.resolve Family.lookup probe autoload name) e) ∧
      (∀ (c : Client) (k : Kernel), IsAtomic none c.subscribe k) ∧
      ∀ {σ : Type} [Hosts σ] [Journal σ] (dp : Datapath) (consumer : MissConsumer σ)
        (s : Client × σ), IsAtomic none (MissStation.start dp consumer) s := by
  refine ⟨fun s hs errand => ?_, fun probe autoload name e => ?_, fun c k => ?_, ?_⟩
  · cases hr : errand.firstRequest? s.families with
    | some r => exact (hingesOn_first hs hr).isAtomic (areAttributes_of_firstRequest? hr)
    | none => exact (failsIn_run_of_firstRequest? hr).isAtomic s
  · exact (Family.hingesOn_resolve name e).isAtomic (Family.areAttributes_request name)
  · exact (Client.failsIn_subscribe_isLater c).isAtomic k
  · exact fun dp consumer s => (MissStation.failsIn_start dp consumer).isAtomic s

/-- A packet of zeros is dropped. -/
def dropping (length : Nat) : Errand := .execute ⟨9⟩ (List.replicate length 0) .empty []

theorem all_or_nothing_acknowledging :
    Occasion.acknowledging.isOpen = true ∧
      (∃ cause, Act.outcome (createDatapath "a\x00b").run Occasion.acknowledging =
        (.error (.encode cause), Occasion.acknowledging)) ∧
      (∃ cause, Act.outcome (dropping 65532).run Occasion.acknowledging =
        (.error (.encode cause), Occasion.acknowledging)) ∧
      ¬ ∃ cause, (Act.outcome (dropping 65531).run Occasion.acknowledging).1 =
        .error (.encode cause) := by
  have hatomic := all_or_nothing.1 Occasion.acknowledging rfl
  refine ⟨rfl, (hatomic _).exists_outcome rfl (.inl ?_), (hatomic _).exists_outcome rfl ?_, ?_⟩
  · exact ⟨_, List.mem_cons_self, .nul (by cbv)⟩
  · rw [Packet.unwritable_execution_iff, List.length_replicate]
    decide
  · intro hfails
    obtain ⟨_, heq, hunwritable⟩ := (hatomic _).fails_iff.1 hfails
    cases heq
    rw [Packet.unwritable_execution_iff, List.length_replicate] at hunwritable
    exact absurd hunwritable (by decide)

end Errand

end VSwitch
