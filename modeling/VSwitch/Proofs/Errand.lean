import VSwitch.Datapath
import VSwitch.Flow.Operations
import VSwitch.Packet
import VSwitch.Proofs.Outline
import VSwitch.Proofs.Upcall.Calls
import VSwitch.Vport

/-!
# What a client sends

Whatever a client is asked to do, with whatever arguments, and whatever the kernel answers: each
message that it hands to the link is well formed, goes to the family that the errand is about, and
carries the command and the datapath of the errand.

* `VSwitch.Errand` is what a client may be asked to do, and `VSwitch.Errand.run` does it;
* `VSwitch.Errand.outlines` are the messages that may be sent for an errand;
* `VSwitch.Errand.sends_described` is the result.
-/

namespace VSwitch

open Act (Sends)

variable {P : Bytes → Prop} {s : Session}

/-! ### The operations -/

namespace Family

theorem sends_lookup {name : String} (h : ∀ m, (request name).Yields m → P m) (e : Endpoint) :
    Sends P (lookup name) e := by
  refine .ofEncode_bind fun draft hdraft => ?_
  refine .bind (Endpoint.sends_request (fun m hm => h m ⟨draft, hdraft, hm⟩) e) fun answer e' => ?_
  refine .bind (.of_calls_eq rfl) fun family e'' => ?_
  exact .bind (.debug _) fun _ _ => .pure _

/-- If the probe sends nothing, there are only the messages of the lookups. -/
theorem sends_resolve {probe : StateM Endpoint Unit} {autoload : Bool} {name : String}
    (hprobe : ∀ e, (probe e).2.link.calls = e.link.calls)
    (h : ∀ m, (request name).Yields m → P m) (e : Endpoint) :
    Sends P (resolve lookup probe autoload name) e := by
  refine .bind (sends_lookup h e).attempt fun first e₁ => ?_
  cases first with
  | ok family => exact .pure _
  | error failure =>
    -- Whether the module may be asked for is settled before the failure is looked at.
    simp only
    split
    · refine .bind (.ofNumber _) fun _ e₁ => ?_
      split
      · refine .bind (.of_calls_eq (hprobe e₁)) fun _ e₂ => ?_
        refine .bind (sends_lookup h e₂).attempt fun second e₃ => ?_
        cases second with
        | ok family => exact .pure _
        | error failure =>
          refine .bind (.ofNumber _) fun _ e₄ => ?_
          split
          · exact .throw_bind _
          · exact .throw _
      · exact .throw_bind _
    · refine .bind (.ofNumber _) fun _ e₁ => ?_
      split
      · exact .throw_bind _
      · exact .throw_bind _

end Family

/-- Four families are resolved one after the other. -/
theorem Families.sends_resolve {resolve : String → Act Endpoint Family}
    (h : ∀ name e, Sends P (resolve name) e) (e : Endpoint) :
    Sends P (Families.resolve resolve) e := by
  refine .bind (h _ e) fun _ e₁ => .bind (h _ e₁) fun _ e₂ => ?_
  exact .bind (h _ e₂) fun _ e₃ => .bind (h _ e₃) fun _ _ => .pure _

namespace Datapath

theorem sends_create {name : String} (h : ∀ m, (creation s.families name).Yields m → P m) :
    Sends P (create name) s := by
  refine .get_bind (.bind (Session.sends_request h s) fun answer t => ?_)
  refine .bind (.ofExcept _) fun found t' => ?_
  exact .bind (.debug _) fun _ _ => .pure _

theorem sends_find {name : String} (h : ∀ m, (inquiry s.families name).Yields m → P m) :
    Sends P (find name) s := by
  refine .get_bind (Session.sends_unlessKernel_bind h (fun _ => .pure _) fun answer t => ?_)
  exact .bind (.ofExcept _) fun _ _ => .pure _

theorem sends_nameOf {dp : Datapath} (h : ∀ m, (inquiryByIndex s.families dp).Yields m → P m) :
    Sends P (nameOf dp) s := by
  refine .get_bind (Session.sends_unlessKernel_bind h (fun _ => .pure _) fun answer t => ?_)
  refine .bind (.ofExcept _) fun found t' => ?_
  exact .bind (.ofExcept _) fun _ _ => .pure _

theorem sends_all (h : ∀ m, (inquiryForAll s.families).Yields m → P m) : Sends P all s :=
  .get_bind (.bind (Session.sends_collect h _ s) fun _ _ => .pure _)

theorem sends_delete {dp : Datapath} (h : ∀ m, (deletion s.families dp).Yields m → P m) :
    Sends P (delete dp) s :=
  .get_bind (.bind (Session.sends_request h s) fun _ _ => .debug _)

end Datapath

namespace Vport

variable {dp : Datapath} {id : VportId}

theorem sends_create {spec : VportSpec} (h : ∀ m, (creation s.families dp spec).Yields m → P m) :
    Sends P (create dp spec) s := by
  refine .get_bind (.bind (Session.sends_request h s) fun answer t => ?_)
  refine .bind (.ofExcept _) fun vport t' => ?_
  exact .bind (.debug _) fun _ _ => .pure _

theorem sends_lookup {name : String} (h : ∀ m, (inquiry s.families dp name).Yields m → P m) :
    Sends P (lookup dp name) s := by
  refine .get_bind (Session.sends_unlessKernel_bind h (fun _ => .pure _) fun answer t => ?_)
  exact .bind (.ofExcept _) fun _ _ => .pure _

theorem sends_find {name : String}
    (h : ∀ m, (inquiry s.families .unspecified name).Yields m → P m) : Sends P (find name) s := by
  refine .bind (sends_lookup h) fun notice? t => ?_
  cases notice? <;> exact .pure _

theorem sends_findIn {name : String} (h : ∀ m, (inquiry s.families dp name).Yields m → P m) :
    Sends P (findIn dp name) s := by
  refine .bind (sends_lookup h) fun notice? t => ?_
  cases notice? with
  | none => exact .pure _
  | some notice => exact .bind (.ofExcept _) fun _ _ => .pure _

theorem sends_get (h : ∀ m, (inquiryByNumber s.families dp id).Yields m → P m) :
    Sends P (get dp id) s := by
  refine .get_bind (Session.sends_unlessKernel_bind h (fun _ => .pure _) fun answer t => ?_)
  exact .bind (.ofExcept _) fun _ _ => .pure _

theorem sends_nameOf (h : ∀ m, (inquiryByNumber s.families dp id).Yields m → P m) :
    Sends P (nameOf dp id) s := by
  refine .bind (sends_get h) fun vport? t => ?_
  cases vport? <;> exact .pure _

theorem sends_all (h : ∀ m, (inquiryForAll s.families dp).Yields m → P m) :
    Sends P (all dp) s :=
  .get_bind (Session.sends_collect h _ s)

theorem sends_delete (h : ∀ m, (deletion s.families dp id).Yields m → P m) :
    Sends P (delete dp id) s :=
  .get_bind (.bind (Session.sends_request h s) fun _ _ => .pure _)

theorem sends_setUpcall {port : UInt32}
    (h : ∀ m, (redirection s.families dp id port).Yields m → P m) :
    Sends P (setUpcall dp id port) s :=
  .get_bind (.bind (Session.sends_request h s) fun _ _ => .pure _)

end Vport

namespace Flow

variable {dp : Datapath} {f : Flow}

theorem sends_install (h : ∀ m, (installation s.families dp f).Yields m → P m) :
    Sends P (install dp f) s :=
  .get_bind (.bind (Session.sends_request h s) fun _ _ => .debug _)

theorem sends_remove (h : ∀ m, (removal s.families dp f).Yields m → P m) :
    Sends P (remove dp f) s :=
  .get_bind (Session.sends_unlessKernel_bind h (fun _ => .pure _) fun _ _ => .pure _)

theorem sends_all (h : ∀ m, (inquiryForAll s.families dp).Yields m → P m) :
    Sends P (all dp) s :=
  .get_bind (Session.sends_collect h _ s)

end Flow

theorem Packet.sends_execute {dp : Datapath} {packet : Bytes} {keys : Match}
    {actions : List Action}
    (h : ∀ m, (execution s.families dp packet keys actions).Yields m → P m) :
    Sends P (execute dp packet keys actions) s :=
  .get_bind (Session.sends_send h s)

/-! ### Pointing vports -/

namespace Session

theorem families_onEndpoint {α : Type} (act : Act Endpoint α) (s : Session) :
    (Act.outcome (onEndpoint act) s).2.families = s.families := by
  rw [onEndpoint, Act.outcome_bind, Act.outcome_get]
  by_cases hopen : s.isOpen = true
  · simp only [if_pos hopen]
    rfl
  · simp only [if_neg hopen]
    rfl

theorem families_request (r : Request) (s : Session) :
    (Act.outcome (request r) s).2.families = s.families := by
  rw [request, Act.outcome_bind, Act.outcome_ofEncode]
  cases r.draft with
  | error e => rfl
  | ok draft => exact families_onEndpoint _ s

theorem families_collect {α : Type} (r : Request) (decode : Bytes → Except Failure α)
    (s : Session) : (Act.outcome (collect r decode) s).2.families = s.families := by
  rw [collect, Act.outcome_bind, Act.outcome_ofEncode]
  cases r.draft with
  | error e => rfl
  | ok draft => exact families_onEndpoint _ s

end Session

theorem Vport.families_setUpcall (dp : Datapath) (id : VportId) (port : UInt32) (s : Session) :
    (Act.outcome (setUpcall dp id port) s).2.families = s.families := by
  have hrequest := Session.families_request (redirection s.families dp id port) s
  rw [setUpcall, Act.outcome_bind, Act.outcome_get]
  simp only
  rw [Act.outcome_bind]
  rcases hrun : Act.outcome (Session.request (redirection s.families dp id port)) s with ⟨_ | _, t⟩
  · rw [hrun] at hrequest
    exact hrequest
  · rw [hrun] at hrequest
    exact hrequest

theorem Vport.families_all (dp : Datapath) (s : Session) :
    (Act.outcome (all dp) s).2.families = s.families := by
  rw [all, Act.outcome_bind, Act.outcome_get]
  exact Session.families_collect _ _ s

namespace Upcall

variable {families : Families} {dp : Datapath} {port : UInt32} {t : Upcall × Session}

theorem sends_configure {id : VportId}
    (h : ∀ m, (Vport.redirection t.2.families t.1.datapath id t.1.port).Yields m → P m) :
    Sends P (configure Vport.setUpcall id) t := by
  refine .get_bind ?_
  simp only
  split
  · exact .pure _
  · refine .bind (.onSecond (Vport.sends_setUpcall h)) fun _ t₁ => ?_
    refine .bind (.of_calls_eq rfl) fun _ t₂ => ?_
    exact .bind (.debug _) fun _ _ => .pure _

theorem fixed_of_configure {id : VportId} {b : Bool} {t' : Upcall × Session}
    (h : Act.outcome (configure Vport.setUpcall id) t = (.ok b, t')) :
    t'.2.families = t.2.families ∧ t'.1.datapath = t.1.datapath ∧ t'.1.port = t.1.port := by
  obtain ⟨u, s⟩ := t
  have hfamilies := Vport.families_setUpcall u.datapath id u.port s
  rw [outcome_configure] at h
  split at h
  · cases h
    exact ⟨rfl, rfl, rfl⟩
  · rcases hset : Act.outcome (Vport.setUpcall u.datapath id u.port) s with ⟨_ | _, s'⟩
    · rw [hset] at h
      cases h
    · rw [hset] at h hfamilies
      cases h
      exact ⟨hfamilies, rfl, rfl⟩

/-- A pass over vports asks for one redirection after the other, by the same families. -/
theorem sends_configureEach
    (h : ∀ id m, (Vport.redirection families dp id port).Yields m → P m) (vports : List Vport)
    (hfamilies : t.2.families = families) (hdp : t.1.datapath = dp) (hport : t.1.port = port) :
    Sends P (configureEach Vport.setUpcall (pure ()) vports) t := by
  induction vports generalizing t with
  | nil => exact .of_calls_eq rfl
  | cons vport rest ih =>
    subst hfamilies hdp hport
    refine .bind_of_ok (.of_calls_eq rfl) fun _ t₁ hidle => ?_
    cases hidle
    refine .bind_of_ok (sends_configure (h vport.id)) fun b t₂ hconfigure => ?_
    obtain ⟨hfamilies, hdp, hport⟩ := fixed_of_configure hconfigure
    exact ih hfamilies hdp hport

/-- A pass over all vports asks for them first. -/
theorem sends_configureAll
    (hall : ∀ m, (Vport.inquiryForAll t.2.families dp).Yields m → P m)
    (h : ∀ id m, (Vport.redirection t.2.families t.1.datapath id t.1.port).Yields m → P m) :
    Sends P (configureAll Vport.setUpcall (pure ()) (Vport.all dp)) t := by
  refine .bind_of_ok (.of_calls_eq rfl) fun _ t₁ hidle => ?_
  cases hidle
  refine .bind_of_ok (.onSecond (Vport.sends_all hall)) fun vports t₂ hvports => ?_
  have hfamilies := Vport.families_all dp t.2
  rw [Act.outcome_onSecond] at hvports
  injection hvports with _ hstate
  subst hstate
  exact sends_configureEach h vports hfamilies rfl rfl

end Upcall

/-! ### Errands -/

/-- What a client may be asked to do. -/
inductive Errand
  /-- A family is looked up. -/
  | lookup (name : String)
  /-- The families of the switch are resolved, as for a new client. -/
  | connect (autoload : Bool)
  /-- A datapath is created. -/
  | createDatapath (name : String)
  /-- A datapath is found by its name. -/
  | findDatapath (name : String)
  /-- The name of a datapath is asked for. -/
  | nameDatapath (dp : Datapath)
  /-- All datapaths are asked for. -/
  | listDatapaths
  /-- A datapath is deleted. -/
  | deleteDatapath (dp : Datapath)
  /-- A vport is created. -/
  | createVport (dp : Datapath) (spec : VportSpec)
  /-- A vport is found by its name, in any datapath. -/
  | findVport (name : String)
  /-- A vport is found by its name in a datapath. -/
  | findVportIn (dp : Datapath) (name : String)
  /-- A vport is found by its number. -/
  | getVport (dp : Datapath) (id : VportId)
  /-- The name of a vport is asked for. -/
  | nameVport (dp : Datapath) (id : VportId)
  /-- All vports of a datapath are asked for. -/
  | listVports (dp : Datapath)
  /-- A vport is deleted. -/
  | deleteVport (dp : Datapath) (id : VportId)
  /-- The misses of a vport are sent to a port. -/
  | setUpcall (dp : Datapath) (id : VportId) (port : UInt32)
  /-- A vport is pointed at an upcall port, unless that has been done. -/
  | point (u : Upcall) (id : VportId)
  /-- All vports of a datapath are pointed at an upcall port. -/
  | pointAll (u : Upcall)
  /-- A flow is installed. -/
  | installFlow (dp : Datapath) (f : Flow)
  /-- A flow is removed. -/
  | removeFlow (dp : Datapath) (f : Flow)
  /-- All flows of a datapath are asked for. -/
  | listFlows (dp : Datapath)
  /-- Actions are carried out on a packet. -/
  | execute (dp : Datapath) (packet : Bytes) (keys : Match) (actions : List Action)

namespace Errand

/-- Runs a computation on the endpoint, whether the session is open or not. -/
def onEndpoint {α : Type} (act : Act Endpoint α) : Act Session α :=
  Act.within Session.endpoint (fun e s => { s with endpoint := e }) act

/-- Does what a client is asked to do. The probe for a family that is missing is left out, as it
makes no call on the link. -/
def run : Errand → Act Session Unit
  | .lookup name => do let _ ← onEndpoint (Family.lookup name)
  | .connect autoload => do
    let _ ← onEndpoint (Families.resolve (Family.resolve Family.lookup (pure ()) autoload))
  | .createDatapath name => do let _ ← Datapath.create name
  | .findDatapath name => do let _ ← Datapath.find name
  | .nameDatapath dp => do let _ ← Datapath.nameOf dp
  | .listDatapaths => do let _ ← Datapath.all
  | .deleteDatapath dp => Datapath.delete dp
  | .createVport dp spec => do let _ ← Vport.create dp spec
  | .findVport name => do let _ ← Vport.find name
  | .findVportIn dp name => do let _ ← Vport.findIn dp name
  | .getVport dp id => do let _ ← Vport.get dp id
  | .nameVport dp id => do let _ ← Vport.nameOf dp id
  | .listVports dp => do let _ ← Vport.all dp
  | .deleteVport dp id => Vport.delete dp id
  | .setUpcall dp id port => Vport.setUpcall dp id port
  | .point u id => do let _ ← Act.starting u (Upcall.configure Vport.setUpcall id)
  | .pointAll u =>
    Act.starting u (Upcall.configureAll Vport.setUpcall (pure ()) (Vport.all u.datapath))
  | .installFlow dp f => Flow.install dp f
  | .removeFlow dp f => do let _ ← Flow.remove dp f
  | .listFlows dp => do let _ ← Flow.all dp
  | .execute dp packet keys actions => Packet.execute dp packet keys actions

end Errand

namespace Outline

/-- A message to the control family that asks for a family. -/
def control : Outline where
  family := Vocabulary.number FixedFamily.control
  generic := ⟨Vocabulary.number ControlCommand.getFamily, controlVersion⟩
  datapath? := none
  types := [Vocabulary.number ControlAttribute.familyName]
  sets := []

/-- A message about a datapath. -/
def datapath (families : Families) (command : ObjectCommand) (dp : Datapath)
    (types : List DatapathAttribute) : Outline where
  family := families.datapath.id
  generic := ⟨Vocabulary.number command, datapathVersion⟩
  datapath? := some ⟨dp.ifindex⟩
  types := types.map Vocabulary.number
  sets := []

/-- A message about the vports of a datapath. -/
def vport (families : Families) (command : ObjectCommand) (dp : Datapath)
    (types : List VportAttribute) : Outline where
  family := families.vport.id
  generic := ⟨Vocabulary.number command, vportVersion⟩
  datapath? := some ⟨dp.ifindex⟩
  types := types.map Vocabulary.number
  sets := [Vocabulary.number VportAttribute.options]

/-- A message about the flows of a datapath. -/
def flow (families : Families) (command : ObjectCommand) (dp : Datapath)
    (types : List FlowAttribute) : Outline where
  family := families.flow.id
  generic := ⟨Vocabulary.number command, flowVersion⟩
  datapath? := some ⟨dp.ifindex⟩
  types := types.map Vocabulary.number
  sets := [FlowAttribute.key, .mask, .actions].map Vocabulary.number

/-- A message that has actions carried out on a packet. -/
def execution (families : Families) (dp : Datapath) : Outline where
  family := families.packet.id
  generic := ⟨Vocabulary.number PacketCommand.execute, packetVersion⟩
  datapath? := some ⟨dp.ifindex⟩
  types := [PacketAttribute.packet, .key, .actions].map Vocabulary.number
  sets := [PacketAttribute.key, .actions].map Vocabulary.number

end Outline

/-! ### Requests and their outlines -/

theorem Family.follows_request (name : String) : (Family.request name).Follows .control
    [.text (Vocabulary.number ControlAttribute.familyName) name] :=
  ⟨Put.writes_text _ name [], rfl, rfl, rfl, rfl, rfl, rfl⟩

namespace Datapath

variable (families : Families) (dp : Datapath) (name : String)

theorem follows_creation : (creation families name).Follows
    (.datapath families .new .unspecified [.name, .upcallPort, .features])
    [.text (Vocabulary.number DatapathAttribute.name) name,
      .u32 (Vocabulary.number DatapathAttribute.upcallPort) 0,
      .u32 (Vocabulary.number DatapathAttribute.features) features] :=
  ⟨Put.writes_text _ name [.u32 _ 0, .u32 _ features], rfl, rfl, rfl, rfl, rfl, rfl⟩

theorem follows_inquiry : (inquiry families name).Follows
    (.datapath families .get .unspecified [.name])
    [.text (Vocabulary.number DatapathAttribute.name) name] :=
  ⟨Put.writes_text _ name [], rfl, rfl, rfl, rfl, rfl, rfl⟩

theorem follows_inquiryByIndex :
    (inquiryByIndex families dp).Follows (.datapath families .get dp []) [] :=
  ⟨Put.writes_puts [], rfl, rfl, rfl, rfl, rfl, rfl⟩

theorem follows_inquiryForAll :
    (inquiryForAll families).Follows (.datapath families .get .unspecified []) [] :=
  ⟨Put.writes_puts [], rfl, rfl, rfl, rfl, rfl, rfl⟩

theorem follows_deletion : (deletion families dp).Follows (.datapath families .del dp []) [] :=
  ⟨Put.writes_puts [], rfl, rfl, rfl, rfl, rfl, rfl⟩

end Datapath

namespace Vport

variable (families : Families) (dp : Datapath) (id : VportId) (name : String)

theorem follows_creation (spec : VportSpec) : (creation families dp spec).Follows
    (.vport families .new dp [.name, .type, .options, .upcallPort])
    [.text (Vocabulary.number VportAttribute.name) spec.name,
      .u32 (Vocabulary.number VportAttribute.type) (Vocabulary.number spec.type),
      .node (Vocabulary.number VportAttribute.options) spec.options,
      .u32 (Vocabulary.number VportAttribute.upcallPort) 0] :=
  ⟨Put.writes_text _ spec.name [.u32 _ _, .node _ spec.options, .u32 _ 0],
    rfl, rfl, rfl, rfl, rfl, rfl⟩

theorem follows_inquiry : (inquiry families dp name).Follows (.vport families .get dp [.name])
    [.text (Vocabulary.number VportAttribute.name) name] :=
  ⟨Put.writes_text _ name [], rfl, rfl, rfl, rfl, rfl, rfl⟩

theorem follows_inquiryByNumber :
    (inquiryByNumber families dp id).Follows (.vport families .get dp [.portNumber])
      [.u32 (Vocabulary.number VportAttribute.portNumber) id.number] :=
  ⟨Put.writes_puts [.u32 _ id.number], rfl, rfl, rfl, rfl, rfl, rfl⟩

theorem follows_inquiryForAll :
    (inquiryForAll families dp).Follows (.vport families .get dp []) [] :=
  ⟨Put.writes_puts [], rfl, rfl, rfl, rfl, rfl, rfl⟩

theorem follows_deletion :
    (deletion families dp id).Follows (.vport families .del dp [.portNumber])
      [.u32 (Vocabulary.number VportAttribute.portNumber) id.number] :=
  ⟨Put.writes_puts [.u32 _ id.number], rfl, rfl, rfl, rfl, rfl, rfl⟩

theorem follows_redirection (port : UInt32) : (redirection families dp id port).Follows
    (.vport families .set dp [.portNumber, .upcallPort])
    [.u32 (Vocabulary.number VportAttribute.portNumber) id.number,
      .u32 (Vocabulary.number VportAttribute.upcallPort) port] :=
  ⟨Put.writes_puts [.u32 _ id.number, .u32 _ port], rfl, rfl, rfl, rfl, rfl, rfl⟩

end Vport

namespace Flow

variable (families : Families) (dp : Datapath) (f : Flow)

theorem follows_installation : (installation families dp f).Follows
    (.flow families .new dp [.key, .mask, .actions]) f.trees :=
  ⟨Put.writes_puts f.trees, rfl, rfl, rfl, rfl, rfl, rfl⟩

theorem follows_removal : (removal families dp f).Follows
    (.flow families .del dp [.key, .mask, .actions]) f.trees :=
  ⟨Put.writes_puts f.trees, rfl, rfl, rfl, rfl, rfl, rfl⟩

theorem follows_inquiryForAll :
    (inquiryForAll families dp).Follows (.flow families .get dp []) [] :=
  ⟨Put.writes_puts [], rfl, rfl, rfl, rfl, rfl, rfl⟩

end Flow

theorem Packet.follows_execution (families : Families) (dp : Datapath) (packet : Bytes)
    (keys : Match) (actions : List Action) :
    (Packet.execution families dp packet keys actions).Follows (.execution families dp)
      [.leaf (Vocabulary.number PacketAttribute.packet) packet,
        .node (Vocabulary.number PacketAttribute.key) keys.keyTrees,
        .node (Vocabulary.number PacketAttribute.actions) (actions.map Action.tree)] :=
  ⟨Put.writes_puts [.leaf _ packet, .node _ keys.keyTrees, .node _ (actions.map Action.tree)],
    rfl, rfl, rfl, rfl, rfl, rfl⟩

namespace Errand

/-- The messages that may be sent for an errand. -/
def outlines (families : Families) : Errand → List Outline
  | .lookup _ | .connect _ => [.control]
  | .createDatapath _ => [.datapath families .new .unspecified [.name, .upcallPort, .features]]
  | .findDatapath _ => [.datapath families .get .unspecified [.name]]
  | .nameDatapath dp => [.datapath families .get dp []]
  | .listDatapaths => [.datapath families .get .unspecified []]
  | .deleteDatapath dp => [.datapath families .del dp []]
  | .createVport dp _ => [.vport families .new dp [.name, .type, .options, .upcallPort]]
  | .findVport _ => [.vport families .get .unspecified [.name]]
  | .findVportIn dp _ => [.vport families .get dp [.name]]
  | .getVport dp _ | .nameVport dp _ => [.vport families .get dp [.portNumber]]
  | .listVports dp => [.vport families .get dp []]
  | .deleteVport dp _ => [.vport families .del dp [.portNumber]]
  | .setUpcall dp _ _ => [.vport families .set dp [.portNumber, .upcallPort]]
  | .point u _ => [.vport families .set u.datapath [.portNumber, .upcallPort]]
  | .pointAll u => [.vport families .get u.datapath [],
      .vport families .set u.datapath [.portNumber, .upcallPort]]
  | .installFlow dp _ => [.flow families .new dp [.key, .mask, .actions]]
  | .removeFlow dp _ => [.flow families .del dp [.key, .mask, .actions]]
  | .listFlows dp => [.flow families .get dp []]
  | .execute dp _ _ _ => [.execution families dp]

/-- What is finished for a request is described, if the request follows an outline of the errand. -/
theorem described {families : Families} {errand : Errand} {r : Request} {o : Outline}
    {trees : List AttributeTree} (h : r.Follows o trees) (ho : o ∈ errand.outlines families) :
    ∀ m, r.Yields m → ∃ o ∈ errand.outlines families, o.Describes m :=
  fun _ hm => ⟨o, ho, Request.describes h hm⟩

theorem sends_onEndpoint {α : Type} {act : Act Endpoint α} (h : Sends P act s.endpoint) :
    Sends P (onEndpoint act) s := h

theorem sends_ignoring {α : Type} {act : Act Session α} (h : Sends P act s) :
    Sends P (do let _ ← act) s := h.bind fun _ _ => .pure _

/-- **What a client sends is well formed.** Each message that is handed to the link for an errand,
whatever its arguments are and whatever the link does, is one of those that the errand is about. -/
theorem sends_described (errand : Errand) (s : Session) :
    Act.Sends (fun m => ∃ o ∈ errand.outlines s.families, o.Describes m) errand.run s := by
  have hself : ∀ o : Outline, o ∈ [o] := List.mem_singleton_self
  cases errand with
  | lookup name =>
    refine sends_ignoring (sends_onEndpoint (Family.sends_lookup ?_ s.endpoint))
    exact described (Family.follows_request name) (hself _)
  | connect autoload =>
    refine sends_ignoring (sends_onEndpoint (Families.sends_resolve (fun name e => ?_) s.endpoint))
    exact Family.sends_resolve (fun _ => rfl) (described (Family.follows_request name) (hself _)) e
  | createDatapath name =>
    exact sends_ignoring (Datapath.sends_create
      (described (Datapath.follows_creation s.families name) (hself _)))
  | findDatapath name =>
    exact sends_ignoring (Datapath.sends_find
      (described (Datapath.follows_inquiry s.families name) (hself _)))
  | nameDatapath dp =>
    exact sends_ignoring (Datapath.sends_nameOf
      (described (Datapath.follows_inquiryByIndex s.families dp) (hself _)))
  | listDatapaths =>
    exact sends_ignoring (Datapath.sends_all
      (described (Datapath.follows_inquiryForAll s.families) (hself _)))
  | deleteDatapath dp =>
    exact Datapath.sends_delete (described (Datapath.follows_deletion s.families dp) (hself _))
  | createVport dp spec =>
    exact sends_ignoring (Vport.sends_create
      (described (Vport.follows_creation s.families dp spec) (hself _)))
  | findVport name =>
    exact sends_ignoring (Vport.sends_find
      (described (Vport.follows_inquiry s.families .unspecified name) (hself _)))
  | findVportIn dp name =>
    exact sends_ignoring (Vport.sends_findIn
      (described (Vport.follows_inquiry s.families dp name) (hself _)))
  | getVport dp id =>
    exact sends_ignoring (Vport.sends_get
      (described (Vport.follows_inquiryByNumber s.families dp id) (hself _)))
  | nameVport dp id =>
    exact sends_ignoring (Vport.sends_nameOf
      (described (Vport.follows_inquiryByNumber s.families dp id) (hself _)))
  | listVports dp =>
    exact sends_ignoring (Vport.sends_all
      (described (Vport.follows_inquiryForAll s.families dp) (hself _)))
  | deleteVport dp id =>
    exact Vport.sends_delete (described (Vport.follows_deletion s.families dp id) (hself _))
  | setUpcall dp id port =>
    exact Vport.sends_setUpcall
      (described (Vport.follows_redirection s.families dp id port) (hself _))
  | point u id =>
    refine sends_ignoring (.starting (Upcall.sends_configure ?_))
    exact described (Vport.follows_redirection s.families u.datapath id u.port) (hself _)
  | pointAll u =>
    refine .starting (Upcall.sends_configureAll ?_ fun id => ?_)
    · exact described (Vport.follows_inquiryForAll s.families u.datapath) List.mem_cons_self
    · exact described (Vport.follows_redirection s.families u.datapath id u.port)
        (List.mem_cons_of_mem _ (hself _))
  | installFlow dp f =>
    exact Flow.sends_install (described (Flow.follows_installation s.families dp f) (hself _))
  | removeFlow dp f =>
    exact sends_ignoring (Flow.sends_remove
      (described (Flow.follows_removal s.families dp f) (hself _)))
  | listFlows dp =>
    exact sends_ignoring (Flow.sends_all
      (described (Flow.follows_inquiryForAll s.families dp) (hself _)))
  | execute dp packet keys actions =>
    exact Packet.sends_execute
      (described (Packet.follows_execution s.families dp packet keys actions) (hself _))

/-- The message that asks for the vports of a datapath. -/
example :
    let families : Families := ⟨.plain "d" 32, .plain "v" 33, .plain "f" 34, .plain "p" 35⟩
    let session : Session :=
      .start ⟨500, [], ⟨[], .system 11, [], [], 5, .empty⟩⟩ families .standard
    (Act.outcome (run (.listVports ⟨9⟩)) session).2.endpoint.link.sent =
      [[24, 0, 0, 0, 33, 0, 1, 3, 5, 0, 0, 0, 0, 0, 0, 0, 3, 1, 0, 0, 9, 0, 0, 0]] := by
  cbv

end Errand

end VSwitch
