import Mathlib
import VSwitch.Flow.Operations
import VSwitch.Proofs.Collecting
import VSwitch.Proofs.Reading

/-!
# Results do not cross datapaths

Whatever is asked about one datapath is answered from messages about this datapath. Each operation
comes to the check by its own path: from a single reply, from one part of a dump after the other, or
by a lookup that serves to find a vport anywhere, too.

* `VSwitch.Inquiry` is what may be asked about a datapath, and `VSwitch.Inquiry.run` asks it;
* `VSwitch.Inquiry.replies` are the messages that the result is read from, and
  `VSwitch.Inquiry.Told` says what they tell;
* `VSwitch.Inquiry.keeps_read`: the reader of every inquiry keeps to its datapath;
* `VSwitch.Inquiry.confined` is the result.
-/

namespace VSwitch

/-- What is told of a datapath. -/
inductive Finding
  /-- The number of a vport. -/
  | number (id : VportId)
  /-- A vport. -/
  | vport (v : Vport)
  /-- A name, of a vport or of the datapath. -/
  | name (text : String)
  /-- A flow. -/
  | flow (f : Flow)
  deriving DecidableEq

/-- What may be asked about a datapath. -/
inductive Inquiry
  /-- A vport is created, and its number is told. -/
  | createVport (spec : VportSpec)
  /-- A vport is found by its number. -/
  | getVport (id : VportId)
  /-- A vport is found by its name. -/
  | findVport (name : String)
  /-- The name of a vport is asked for. -/
  | nameVport (id : VportId)
  /-- All vports are asked for. -/
  | listVports
  /-- All flows are asked for. -/
  | listFlows
  /-- The name of the datapath is asked for. -/
  | nameDatapath

namespace Inquiry

/-- Asks about a datapath. -/
def run (dp : Datapath) : Inquiry → Act Session (List Finding)
  | .createVport spec => do return [.number (← Vport.create dp spec)]
  | .getVport id => do return ((← Vport.get dp id).map .vport).toList
  | .findVport name => do return ((← Vport.findIn dp name).map .vport).toList
  | .nameVport id => do return [.name (← Vport.nameOf dp id)]
  | .listVports => do return (← Vport.all dp).map .vport
  | .listFlows => do return (← Flow.all dp).map .flow
  | .nameDatapath => do return ((← Datapath.nameOf dp).map .name).toList

/-! ### Replies -/

/-- The request. -/
def request (families : Families) (dp : Datapath) : Inquiry → Request
  | .createVport spec => Vport.creation families dp spec
  | .getVport id | .nameVport id => Vport.inquiryByNumber families dp id
  | .findVport name => Vport.inquiry families dp name
  | .listVports => Vport.inquiryForAll families dp
  | .listFlows => Flow.inquiryForAll families dp
  | .nameDatapath => Datapath.inquiryByIndex families dp

/-- Whether the request is for a dump. -/
def isDump : Inquiry → Bool
  | .listVports | .listFlows => true
  | _ => false

/-- The replies that the result is read from. -/
def replies (q : Inquiry) (dp : Datapath) (s : Session) : List Bytes :=
  if q.isDump then Session.parts (q.request s.families dp) s
  else Session.answers (q.request s.families dp) s

/-- The family of the replies. -/
def family (families : Families) : Inquiry → UInt16
  | .nameDatapath => families.datapath.id
  | .listFlows => families.flow.id
  | _ => families.vport.id

/-- The commands of the replies. -/
def commands : Inquiry → List UInt8
  | .createVport _ => Vport.replyCommands .new
  | .getVport _ | .findVport _ | .nameVport _ | .listVports => Vport.replyCommands .get
  | .listFlows => Flow.replyCommands
  | .nameDatapath => Datapath.replyCommands

/-- What a reply tells by its attributes. -/
def ofAttributes (s : AttributeSet) : Inquiry → Except DecodeError Finding
  | .createVport _ => (Vport.ofAttributes s).map fun v => .number v.id
  | .getVport _ | .findVport _ | .listVports => (Vport.ofAttributes s).map .vport
  | .nameVport _ => (Vport.ofAttributes s).map fun v => .name v.spec.name
  | .listFlows => (Flow.ofAttributes s).map .flow
  | .nameDatapath => (s.text (Vocabulary.number DatapathAttribute.name)).map .name

/-- A reply tells something of a datapath. -/
def Told (families : Families) (q : Inquiry) (dp : Datapath) (message : Bytes) (d : Finding) :
    Prop :=
  Conveys (q.family families) q.commands (fun s => q.ofAttributes s) dp message d

/-- What is read from a reply. -/
def read (families : Families) (dp : Datapath) (message : Bytes) : Inquiry → Except Failure Finding
  | .createVport _ => (Vport.readIn families .new dp message).map fun v => .number v.id
  | .getVport _ | .findVport _ | .listVports =>
    (Vport.readIn families .get dp message).map .vport
  | .nameVport _ => (Vport.readIn families .get dp message).map fun v => .name v.spec.name
  | .listFlows => (Flow.parse families.flow.id dp message).map .flow
  | .nameDatapath => (do
      let (found, name) ← Datapath.read families message
      dp.ensure found
      return name : Except Failure String).map .name

/-- **What is read keeps to the datapath.** -/
theorem keeps_read (families : Families) (dp : Datapath) (q : Inquiry) :
    Keeps dp (q.Told families) fun message => q.read families dp message := by
  cases q with
  | createVport spec => exact (Vport.keeps_readIn families .new dp).map_conveys _
  | getVport id | findVport name | listVports | nameVport id =>
    exact (Vport.keeps_readIn families .get dp).map_conveys _
  | listFlows => exact (Flow.keeps_parse families.flow.id dp).map_conveys _
  | nameDatapath => exact (Datapath.keeps_read families dp).map_conveys _

/-! ### One reply -/

/-- Whether the kernel may answer that there is no such thing. -/
def mayBeAbsent : Inquiry → Bool
  | .getVport _ | .findVport _ | .nameVport _ | .nameDatapath => true
  | .createVport _ | .listVports | .listFlows => false

/-- What is returned if there is no such thing. A vport then goes by numbers. -/
def absent (dp : Datapath) : Inquiry → List Finding
  | .nameVport id => [.name s!"{dp.ifindex}:{id}"]
  | _ => []

/-- What becomes of an inquiry that is answered by one message. -/
def settled (families : Families) (dp : Datapath) (q : Inquiry) :
    Except Failure Bytes → Except Failure (List Finding)
  | .ok message => (q.read families dp message).map fun d => [d]
  | .error f =>
    if q.mayBeAbsent then
      if f.bears Errno.noDevice then .ok (q.absent dp) else .error f.passedOn
    else .error f

variable {q : Inquiry} {dp : Datapath} {s : Session}

/-- The reply is read, or there is none as there is no such thing. -/
theorem result_ask (families : Families) (habsent : q.mayBeAbsent = true) (r : Request)
    {k : Option Bytes → Act Session (List Finding)}
    (hnone : ∀ t, (Act.outcome (k none) t).1 = .ok (q.absent dp))
    (hsome : ∀ m t, (Act.outcome (k (some m)) t).1 =
      (q.read families dp m).map fun d => [d]) :
    (Act.outcome (Session.unlessKernel Errno.noDevice (Session.request r) >>= k) s).1 =
      q.settled families dp (Act.outcome (Session.request r) s).1 := by
  rw [Session.result_unlessKernel _ hnone hsome]
  cases (Act.outcome (Session.request r) s).1 with
  | ok m => rfl
  | error f => simp only [settled, habsent, if_true]

/-- **An inquiry that is answered by one message** returns what this tells, or that there is no such
thing. -/
theorem told_or_absent {data : List Finding}
    (h : q.settled s.families dp
      (Act.outcome (Session.request (q.request s.families dp)) s).1 = .ok data) :
    List.Forall₂ (q.Told s.families dp)
        (Session.answers (q.request s.families dp) s) data ∨
      q.mayBeAbsent = true ∧ (∃ report,
        Session.ComesTo (q.request s.families dp) s (.error (.kernel report)) ∧
          report.errno = .ok Errno.noDevice) ∧ data = q.absent dp := by
  rw [Session.answers]
  cases hrequest : (Act.outcome (Session.request (q.request s.families dp)) s).1 with
  | ok message =>
    rw [hrequest] at h
    obtain ⟨d, hd, rfl⟩ := map_eq_ok_iff.1 h
    exact .inl (.cons ((keeps_read s.families dp q).told_of_ok message d hd) .nil)
  | error f =>
    rw [hrequest, settled] at h
    split at h
    · next hmay =>
      split at h
      · next hkernel =>
        obtain ⟨report, rfl, herrno⟩ := Failure.bears_iff.1 hkernel
        have hcomes := Session.request_eq_kernel_iff_comesTo.1 hrequest
        exact .inr ⟨hmay, ⟨report, hcomes, herrno⟩, (Except.ok.inj h).symm⟩
      · cases h
    · cases h

/-- **An inquiry that is answered by one message** asks for it and settles what comes of that. -/
theorem result_run (h : q.isDump = false) (dp : Datapath) (s : Session) :
    (Act.outcome (q.run dp) s).1 =
      q.settled s.families dp (Act.outcome (Session.request (q.request s.families dp)) s).1 := by
  cases q with
  | createVport spec =>
    rw [run, Vport.create]
    simp only [Act.outcome_bind, Act.outcome_get]
    rcases hrun : Act.outcome (Session.request (Vport.creation s.families dp spec)) s with
      ⟨f | m, t⟩
    · rw [request, hrun]
      rfl
    · rw [request, hrun]
      simp only [Act.outcome_ofExcept, settled, read]
      cases Vport.readIn s.families .new dp m <;> rfl
  | getVport id =>
    simp only [run, Vport.get, bind_assoc]
    rw [Act.outcome_bind, Act.outcome_get]
    refine result_ask s.families rfl _ (fun t => rfl) fun m t => ?_
    simp only [read, Act.outcome_bind, Act.outcome_ofExcept]
    cases Vport.readIn s.families .get dp m <;> rfl
  | nameVport id =>
    simp only [run, Vport.nameOf, Vport.get, bind_assoc]
    rw [Act.outcome_bind, Act.outcome_get]
    refine result_ask s.families rfl _ (fun t => rfl) fun m t => ?_
    simp only [read, Act.outcome_bind, Act.outcome_ofExcept]
    cases Vport.readIn s.families .get dp m <;> rfl
  | findVport name =>
    simp only [run, Vport.findIn, Vport.lookup, bind_assoc]
    rw [Act.outcome_bind, Act.outcome_get]
    refine result_ask s.families rfl _ (fun t => rfl) fun m t => ?_
    simp only [read, Vport.readIn, Act.outcome_bind, Act.outcome_ofExcept]
    cases Vport.read s.families .get m with
    | error f => rfl
    | ok notice =>
      have hensure : (do let n ← Except.ok notice; dp.ensure n.datapath; return n.vport) =
          (dp.ensure notice.datapath).map fun _ => notice.vport := rfl
      rw [hensure]
      simp only [Act.outcome_pure, Act.outcome_bind, Act.outcome_ofExcept]
      cases dp.ensure notice.datapath <;> rfl
  | nameDatapath =>
    simp only [run, Datapath.nameOf, bind_assoc]
    rw [Act.outcome_bind, Act.outcome_get]
    refine result_ask s.families rfl _ (fun t => rfl) fun m t => ?_
    simp only [read, Act.outcome_bind, Act.outcome_ofExcept]
    cases Datapath.read s.families m with
    | error f => rfl
    | ok found =>
      have hensure : (do let n ← Except.ok found; dp.ensure n.1; return n.2) =
          (dp.ensure found.1).map fun _ => found.2 := rfl
      rw [hensure]
      dsimp only
      cases dp.ensure found.1 <;> rfl
  | listVports | listFlows => cases h

/-! ### Dumps -/

theorem result_listVports (dp : Datapath) (s : Session) :
    (Act.outcome (run dp .listVports) s).1 =
      (Act.outcome (Session.collect (Vport.inquiryForAll s.families dp)
        (Vport.readIn s.families .get dp)) s).1.map (List.map .vport) := by
  rw [run, Act.outcome_bind, Vport.all, Act.outcome_bind, Act.outcome_get]
  dsimp only
  rcases Act.outcome (Session.collect (Vport.inquiryForAll s.families dp)
    (Vport.readIn s.families .get dp)) s with ⟨_ | _, _⟩ <;> rfl

theorem result_listFlows (dp : Datapath) (s : Session) :
    (Act.outcome (run dp .listFlows) s).1 =
      (Act.outcome (Session.collect (Flow.inquiryForAll s.families dp)
        (Flow.parse s.families.flow.id dp)) s).1.map (List.map .flow) := by
  rw [run, Act.outcome_bind, Flow.all, Act.outcome_bind, Act.outcome_get]
  dsimp only
  rcases Act.outcome (Session.collect (Flow.inquiryForAll s.families dp)
    (Flow.parse s.families.flow.id dp)) s with ⟨_ | _, _⟩ <;> rfl

/-- **An inquiry that is answered by a dump** returns what the parts tell, one by one. -/
theorem forall₂_of_list (h : q.isDump = true) {data : List Finding}
    (hdata : (Act.outcome (q.run dp) s).1 = .ok data) :
    List.Forall₂ (fun m d => q.read s.families dp m = .ok d)
      (Session.parts (q.request s.families dp) s) data := by
  cases q with
  | listVports =>
    rw [result_listVports] at hdata
    exact Session.forall₂_of_map_collect hdata
  | listFlows =>
    rw [result_listFlows] at hdata
    exact Session.forall₂_of_map_collect hdata
  | _ => cases h

/-- It fails with the first part that cannot be read. -/
theorem list_eq_error (h : q.isDump = true) {before after : List Bytes} {message : Bytes}
    {f : Failure}
    (hparts : Session.parts (q.request s.families dp) s = before ++ message :: after)
    (hbefore : ∀ b ∈ before, ∃ d, q.read s.families dp b = .ok d)
    (hmessage : q.read s.families dp message = .error f) :
    (Act.outcome (q.run dp) s).1 = .error f := by
  cases q with
  | listVports =>
    rw [result_listVports]
    exact Session.map_collect_eq_error hparts hbefore hmessage
  | listFlows =>
    rw [result_listFlows]
    exact Session.map_collect_eq_error hparts hbefore hmessage
  | _ => cases h

/-! ### The result -/

/-- **Results do not cross datapaths.** Whatever is asked about the datapath `dp`, in whatever state
the session is and whatever arrives:
* the replies that are looked at are for the port of the session and carry the sequence number of
  the request, and where there is to be one of them, it is the one that the arrivals have the
  request come to;
* what is returned is what these replies tell of `dp`, one by one; or what the request comes to is
  the answer of the kernel that there is no such thing, and then this is what is returned;
* a reply that tells something of another datapath fails the inquiry if the replies before it are
  about `dp`, and the failure names both datapaths. -/
theorem confined (q : Inquiry) (dp : Datapath) (s : Session) :
    (∀ m ∈ q.replies dp s, s.Awaits m) ∧
      (q.isDump = false → ∀ m, m ∈ q.replies dp s ↔
        Session.ComesTo (q.request s.families dp) s (.ok m)) ∧
      (∀ data, (Act.outcome (q.run dp) s).1 = .ok data →
        List.Forall₂ (q.Told s.families dp) (q.replies dp s) data ∨
          q.mayBeAbsent = true ∧ (∃ report,
            Session.ComesTo (q.request s.families dp) s (.error (.kernel report)) ∧
              report.errno = .ok Errno.noDevice) ∧ data = q.absent dp) ∧
      ∀ before message after found d, q.replies dp s = before ++ message :: after →
        (∀ b ∈ before, ∃ d, q.Told s.families dp b d) → q.Told s.families found message d →
          found ≠ dp →
            (Act.outcome (q.run dp) s).1 = .error (.wrongDatapath dp.ifindex found.ifindex) := by
  have hkeeps := keeps_read s.families dp q
  cases hdump : q.isDump with
  | true =>
    have hreplies : q.replies dp s = Session.parts (q.request s.families dp) s := by
      rw [replies, if_pos hdump]
    rw [hreplies]
    refine ⟨fun m hm => Session.awaits_of_mem_parts hm, fun h => ?_, fun data hdata => .inl ?_, ?_⟩
    · cases h
    · exact (forall₂_of_list hdump hdata).imp fun m d => hkeeps.told_of_ok m d
    · intro before message after found d hparts hbefore htold hne
      refine list_eq_error hdump hparts (fun b hb => ?_) (hkeeps.mismatch message found d htold hne)
      obtain ⟨d', hd'⟩ := hbefore b hb
      exact ⟨d', hkeeps.ok_of_told b d' hd'⟩
  | false =>
    have hreplies : q.replies dp s = Session.answers (q.request s.families dp) s := by
      rw [replies, if_neg (Bool.eq_false_iff.1 hdump)]
    rw [hreplies]
    refine ⟨fun m hm => Session.awaits_of_mem_answers hm,
      fun _ m => Session.mem_answers_iff_comesTo, fun data hdata => ?_, ?_⟩
    · rw [result_run hdump] at hdata
      exact told_or_absent hdata
    · intro before message after found d hanswers hbefore htold hne
      have hrequest := Session.mem_answers_iff.1 (hanswers ▸ List.mem_append_cons_self)
      rw [result_run hdump, hrequest, settled, hkeeps.mismatch message found d htold hne]
      rfl

/-- Families for runs on fixed inputs. -/
def someFamilies : Families := ⟨.plain "d" 32, .plain "v" 33, .plain "f" 34, .plain "p" 35⟩

/-- A message about the vport 7 of the datapath of an index, which is the network device `a`. -/
def aboutVport (ifindex : UInt8) : Bytes :=
  Endpoint.tell 33 7 [1, 1, 0, 0, ifindex, 0, 0, 0, 8, 0, 1, 0, 7, 0, 0, 0, 8, 0, 2, 0, 1, 0, 0, 0,
    6, 0, 3, 0, 97, 0, 0, 0]

/-- A session that a dump of two parts waits for: one about the datapath 9, and one about that of
the given index. -/
def listing (ifindex : UInt8) : Session :=
  .start ⟨5, Buffer.fresh 128, ⟨[.datagram (aboutVport 9 ++ aboutVport ifindex ++
    Endpoint.tell 3 7 [0, 0, 0, 0])], .system 11, [], [], 7, .empty⟩⟩ someFamilies .standard

/-- A session that a request waits for, with one message that arrives. -/
def asking (message : Bytes) : Session :=
  .start ⟨5, Buffer.fresh 128, ⟨[.datagram message], .system 11, [], [], 7, .empty⟩⟩ someFamilies
    .standard

/-- The report that there is no such device, about the request. -/
def unknownDevice : Bytes := Endpoint.tell 2 7 ([237, 255, 255, 255] ++ List.replicate 16 0)

set_option maxRecDepth 4000 in
/-- What is told of the datapath 9 by a dump, and that a part about another one fails it; and the
same of a single reply, which may also say that there is no such vport. -/
theorem confined_listing :
    (List.Forall₂ (Told someFamilies .listVports ⟨9⟩) [aboutVport 9, aboutVport 9]
          [.vport ⟨⟨7⟩, .netdev "a"⟩, .vport ⟨⟨7⟩, .netdev "a"⟩] ∧
        (Act.outcome (run ⟨9⟩ .listVports) (listing 10)).1 = .error (.wrongDatapath 9 10)) ∧
      Session.ComesTo (request someFamilies ⟨9⟩ (.getVport ⟨7⟩)) (asking (aboutVport 9))
          (.ok (aboutVport 9)) ∧
        (Act.outcome (run ⟨9⟩ (.getVport ⟨7⟩)) (asking (aboutVport 10))).1 =
          .error (.wrongDatapath 9 10) ∧
        ∃ report, Session.ComesTo (request someFamilies ⟨9⟩ (.nameVport ⟨7⟩))
          (asking unknownDevice) (.error (.kernel report)) ∧ report.errno = .ok Errno.noDevice := by
  refine ⟨⟨?_, ?_⟩, ?_, ?_, ?_⟩
  · have hdata : (Act.outcome (run ⟨9⟩ .listVports) (listing 9)).1 =
        .ok [.vport ⟨⟨7⟩, .netdev "a"⟩, .vport ⟨⟨7⟩, .netdev "a"⟩] := by
      cbv
    have hreplies : replies .listVports ⟨9⟩ (listing 9) = [aboutVport 9, aboutVport 9] := by
      cbv
    rcases (confined .listVports ⟨9⟩ (listing 9)).2.2.1 _ hdata with htold | ⟨habsent, -⟩
    · rw [hreplies] at htold
      exact htold
    · cases habsent
  · have hreplies : replies .listVports ⟨9⟩ (listing 10) = [aboutVport 9, aboutVport 10] := by
      cbv
    have htold : ∀ b ∈ [aboutVport 9],
        ∃ d, Told someFamilies .listVports ⟨9⟩ b d := by
      refine List.forall_mem_singleton.2 ⟨.vport ⟨⟨7⟩, .netdev "a"⟩, ?_⟩
      exact (keeps_read someFamilies ⟨9⟩ .listVports).told_of_ok _ _ (by cbv)
    have hother : Told someFamilies .listVports ⟨10⟩ (aboutVport 10) (.vport ⟨⟨7⟩, .netdev "a"⟩) :=
      (keeps_read someFamilies ⟨10⟩ .listVports).told_of_ok _ _ (by cbv)
    exact (confined .listVports ⟨9⟩ (listing 10)).2.2.2 [aboutVport 9] _ [] ⟨10⟩ _ hreplies htold
      hother (by decide)
  · have hreplies : replies (.getVport ⟨7⟩) ⟨9⟩ (asking (aboutVport 9)) = [aboutVport 9] := by
      cbv
    refine ((confined (.getVport ⟨7⟩) ⟨9⟩ (asking (aboutVport 9))).2.1 rfl _).1 ?_
    rw [hreplies]
    exact List.mem_singleton_self _
  · have hreplies : replies (.getVport ⟨7⟩) ⟨9⟩ (asking (aboutVport 10)) = [aboutVport 10] := by
      cbv
    have hother : Told someFamilies (.getVport ⟨7⟩) ⟨10⟩ (aboutVport 10)
        (.vport ⟨⟨7⟩, .netdev "a"⟩) :=
      (keeps_read someFamilies ⟨10⟩ (.getVport ⟨7⟩)).told_of_ok _ _ (by cbv)
    exact (confined (.getVport ⟨7⟩) ⟨9⟩ (asking (aboutVport 10))).2.2.2 [] _ [] ⟨10⟩ _ hreplies
      (List.forall_mem_nil _) hother (by decide)
  · have hdata : (Act.outcome (run ⟨9⟩ (.nameVport ⟨7⟩)) (asking unknownDevice)).1 =
        .ok [.name "9:7"] := by
      cbv
    have hreplies : replies (.nameVport ⟨7⟩) ⟨9⟩ (asking unknownDevice) = [] := by
      cbv
    rcases (confined (.nameVport ⟨7⟩) ⟨9⟩ (asking unknownDevice)).2.2.1 _ hdata with
      htold | ⟨-, habsent, -⟩
    · rw [hreplies] at htold
      cases htold
    · exact habsent

end Inquiry

end VSwitch
