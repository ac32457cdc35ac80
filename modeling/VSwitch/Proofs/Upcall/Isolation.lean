import Mathlib
import VSwitch.Proofs.Encoding
import VSwitch.Proofs.Listening
import VSwitch.Proofs.Reading
import VSwitch.Proofs.Recording
import VSwitch.Proofs.Upcall.Calls

/-!
# Events of other datapaths

The events of all datapaths come by one group, and the numbers of vports mean something only within
their datapath. Whoever points the vports of one datapath at a port hears of all others, too, and of
what is no event or cannot be read. Here it is shown what becomes of all that.

* `VSwitch.Upcall.Call.ofMessage` is the call that a message makes, if any, and
  `VSwitch.Upcall.Call.effects` what calls do to a port and to a setter with a state of its own;
* `VSwitch.Upcall.seen_dispatchEach`: this is all that datagrams do;
* `VSwitch.Upcall.isolated` is the result on runs: only the messages with an event of the datapath
  itself make a difference, whatever comes between them;
* `VSwitch.Upcall.foreign_events` says what one event of another datapath does: nothing at all, if
  the vport in it can be read. If it cannot, the consumer of the misses is told of it, although it
  has nothing to do with that datapath (`VSwitch.Upcall.foreign_reported`).
-/

namespace VSwitch

/-! ### Datagrams one after the other -/

namespace Handler

variable {σ : Type} [Journal σ] (h : Handler σ)

/-- Hands over the messages of one datagram after the other. -/
def dispatchEach : List Bytes → StateM σ Unit
  | [] => return
  | datagram :: rest => do
    h.dispatch datagram
    dispatchEach rest

/-- **Handing over a datagram** is handing over its messages, and then what is told of the rest. -/
theorem dispatch_eq (datagram : Bytes) (s : σ) :
    (h.dispatch datagram s).2 = match (Datagram.messages datagram).2 with
      | none => (h.handleEach (Datagram.messages datagram).1 s).2
      | some e => (h.report (.decode e) false
          (Journal.write ⟨.warn, some s!"Dropping malformed datagram: {e.message}"⟩
            (h.handleEach (Datagram.messages datagram).1 s).2)).2 := by
  rcases hsplit : Datagram.messages datagram with ⟨messages, _ | e⟩
  · rw [dispatch, hsplit]
    rfl
  · rw [dispatch, hsplit]
    rfl

end Handler

/-! ### Reading what is behind the headers -/

/-- The word for a number is a named one exactly if this has the number, unless another word that is
named before has it, too. -/
theorem Vocabulary.ofNumber_eq_iff {α ρ : Type} [Vocabulary α ρ] [BEq ρ] [LawfulBEq ρ] {n : ρ}
    {w : α} (hw : (ofNumber (number w) : α) = w) : (ofNumber n : α) = w ↔ n = number w := by
  constructor
  · rintro rfl
    exact (number_ofNumber n).symm
  · rintro rfl
    exact hw

/-- Behind the headers of a message about vports, all that matters is the vport in its
attributes. -/
theorem VportNotice.parse_of_heads {family : UInt16} {commands : List UInt8} {found : Datapath}
    {message : Bytes} {s : AttributeSet} (h : Heads family commands found message)
    (hs : AttributeSet.parse (message.drop 24) = .ok s) :
    parse family commands message =
      (Vport.ofAttributes s).map fun v => ⟨(message.drop 16).headD 0, found, v⟩ := by
  have hheaders : (Cursor.checkHeaders family commands).run (.start message) =
      (.ok (.ofBytes (message.drop 16), ⟨found.ifindex⟩), ⟨message, 24⟩) :=
    Cursor.run_checkHeaders_eq_iff.2 ⟨h, rfl, rfl⟩
  have hremaining : (⟨message, 24⟩ : Cursor).remaining = message.drop 24 := rfl
  rw [parse, Cursor.scan, run_bind, hheaders]
  simp only [run_bind, Cursor.run_attributes, hremaining, hs, run_ofExcept]
  cases Vport.ofAttributes s <;> rfl

namespace Upcall

/-! ### What messages call for -/

/-- The call that a message makes for the port of a datapath, if any. -/
def Call.ofMessage (family : UInt16) (dp : Datapath) (message : Bytes) : Option Call :=
  match VportNotice.parse family VportEvents.commands message with
  | .ok notice => Call.ofNotice dp notice
  | .error _ => none

/-- Whether a message is read as the event of a vport that comes to a datapath or goes from it. -/
def isOwn (family : UInt16) (dp : Datapath) (message : Bytes) : Bool :=
  match VportNotice.parse family VportEvents.commands message with
  | .ok notice => notice.datapath = dp &&
    (notice.command == Vocabulary.number ObjectCommand.new ||
      notice.command == Vocabulary.number ObjectCommand.del)
  | .error _ => false

/-- Only the events of the datapath itself make a call. -/
theorem Call.isSome_ofMessage (family : UInt16) (dp : Datapath) (message : Bytes) :
    (ofMessage family dp message).isSome = isOwn family dp message := by
  rw [ofMessage, isOwn]
  cases VportNotice.parse family VportEvents.commands message with
  | error e => rfl
  | ok notice =>
    have hnew := Vocabulary.ofNumber_eq_iff (n := notice.command) (w := ObjectCommand.new) rfl
    have hdel := Vocabulary.ofNumber_eq_iff (n := notice.command) (w := ObjectCommand.del) rfl
    simp only [ofNotice]
    by_cases hdp : notice.datapath = dp
    · rw [if_pos hdp, decide_eq_true hdp, Bool.true_and]
      rw [Bool.eq_iff_iff, Bool.or_eq_true, beq_iff_eq, beq_iff_eq, ← hnew, ← hdel]
      cases (Vocabulary.ofNumber notice.command : ObjectCommand) <;> simp
    · rw [if_neg hdp, decide_eq_false hdp]
      rfl

/-! ### What calls do -/

section

variable {τ : Type}

/-- What a call does to a port and to the state of a setter. -/
def Call.effect (set : Setter τ) : Call → Upcall × τ → Upcall × τ
  | configure id, (u, t) =>
    if u.isConfigured id then (u, t)
    else match Act.outcome (set u.datapath id u.port) t with
      | (.ok _, t') => (u.remember id, t')
      | (.error _, t') => (u, t')
  | forget id, (u, t) => (u.forget id, t)

/-- What calls do one after the other. -/
def Call.effects (set : Setter τ) : List Call → Upcall × τ → Upcall × τ
  | [], x => x
  | call :: rest, x => effects set rest (call.effect set x)

theorem Call.effects_append (set : Setter τ) (calls later : List Call) (x : Upcall × τ) :
    effects set (calls ++ later) x = effects set later (effects set calls x) := by
  induction calls generalizing x with
  | nil => rfl
  | cons call rest ih => exact ih (call.effect set x)

/-- No call changes the datapath. -/
theorem Call.datapath_effect (set : Setter τ) (call : Call) (x : Upcall × τ) :
    (call.effect set x).1.datapath = x.1.datapath := by
  obtain ⟨u, t⟩ := x
  cases call with
  | configure id =>
    rw [effect]
    split
    · rfl
    · split <;> rfl
  | forget id => rfl

theorem Call.datapath_effects (set : Setter τ) (calls : List Call) (x : Upcall × τ) :
    (effects set calls x).1.datapath = x.1.datapath := by
  induction calls generalizing x with
  | nil => rfl
  | cons call rest ih => rw [effects, ih, datapath_effect]

end

/-! ### A setter with a state of its own -/

section

variable {τ σ : Type} [Journal σ]

/-- A setter with a state of its own, next to the state that everything else is in. What it does can
depend on nothing but on what it has been asked before. -/
def apart (set : Setter τ) : Setter (τ × σ) := fun dp id port => Act.onFirst (set dp id port)

/-- The handler of vport events that points the vports of a datapath at a port. -/
def eventHandler (family : UInt16) (set : Setter τ) (consumer : MissConsumer σ) :
    Handler (Upcall × τ × σ) :=
  VportEvents.handler family (follow (apart set) consumer.onSecond)

/-- What there is to see of a port and its setter. -/
def seen (x : Upcall × τ × σ) : Upcall × τ := (x.1, x.2.1)

variable (family : UInt16) (set : Setter τ) (consumer : MissConsumer σ)

theorem seen_report (e : Failure) (fatal : Bool) (x : Upcall × τ × σ) :
    seen ((eventHandler family set consumer).report e fatal x).2 = seen x := rfl

theorem seen_write (line : Line) (x : Upcall × τ × σ) : seen (Journal.write line x) = seen x := rfl

/-- Pointing a vport has the effect of the call. -/
theorem seen_configure (id : VportId) (u : Upcall) (t : τ) (s : σ) :
    seen (Act.outcome (configure (apart set) id) (u, t, s)).2 =
      (Call.configure id).effect set (u, t) := by
  have hset : Act.outcome (apart set u.datapath id u.port) (t, s) =
      ((Act.outcome (set u.datapath id u.port) t).1,
        (Act.outcome (set u.datapath id u.port) t).2, s) := rfl
  rw [outcome_configure, hset, Call.effect]
  by_cases hid : u.isConfigured id = true
  · rw [if_pos hid, if_pos hid]
    rfl
  · rw [if_neg hid, if_neg hid]
    rcases Act.outcome (set u.datapath id u.port) t with ⟨_ | _, t'⟩ <;> rfl

/-- An event has the effect of the call that is read off it. -/
theorem seen_deliver (notice : VportNotice) (u : Upcall) (t : τ) (s : σ) :
    seen (Act.outcome (VportEvents.deliver (follow (apart set) consumer.onSecond) notice)
      (u, t, s)).2 = Call.effects set (Call.ofNotice u.datapath notice).toList (u, t) := by
  rw [outcome_deliver_follow]
  cases Call.ofNotice u.datapath notice with
  | none => rfl
  | some call =>
    cases call with
    | configure id => exact seen_configure set id u t s
    | forget id => rfl

/-- **One message** has the effect of the call that is read off it, also if handling it fails. -/
theorem seen_handleOne (message : Bytes) (x : Upcall × τ × σ) :
    seen ((eventHandler family set consumer).handleOne message x).2 =
      Call.effects set (Call.ofMessage family x.1.datapath message).toList (seen x) := by
  obtain ⟨u, t, s⟩ := x
  have hhandle : seen (((eventHandler family set consumer).handle message) (u, t, s)).2 =
      Call.effects set (Call.ofMessage family u.datapath message).toList (u, t) := by
    change seen (Act.outcome (Act.ofDecode (VportNotice.parse family VportEvents.commands message)
      >>= VportEvents.deliver (follow (apart set) consumer.onSecond)) (u, t, s)).2 = _
    rw [Act.outcome_bind, Act.outcome_ofDecode, Call.ofMessage]
    cases VportNotice.parse family VportEvents.commands message with
    | error e => rfl
    | ok notice => exact seen_deliver set consumer notice u t s
  rcases hrun : (eventHandler family set consumer).handle message (u, t, s) with ⟨e | _, s'⟩
  · rw [Handler.handleOne_of_error _ hrun, seen_report, seen_write]
    rw [hrun] at hhandle
    exact hhandle
  · rw [Handler.handleOne_of_ok _ hrun]
    rw [hrun] at hhandle
    exact hhandle

/-- **Messages** have the effect of the calls that are read off them. -/
theorem seen_handleEach (messages : List Bytes) (x : Upcall × τ × σ) :
    seen ((eventHandler family set consumer).handleEach messages x).2 =
      Call.effects set (messages.filterMap (Call.ofMessage family x.1.datapath)) (seen x) := by
  induction messages generalizing x with
  | nil => rfl
  | cons message rest ih =>
    have hone := seen_handleOne family set consumer message x
    have hdp : ((eventHandler family set consumer).handleOne message x).2.1.datapath =
        x.1.datapath := by
      have hsame := congrArg (fun y => y.1.datapath) hone
      rwa [Call.datapath_effects] at hsame
    change seen ((eventHandler family set consumer).handleEach rest
      ((eventHandler family set consumer).handleOne message x).2).2 = _
    rw [ih, hone, hdp, ← Call.effects_append, List.filterMap_cons]
    cases Call.ofMessage family x.1.datapath message <;> rfl

theorem seen_dispatch (datagram : Bytes) (x : Upcall × τ × σ) :
    seen ((eventHandler family set consumer).dispatch datagram x).2 = Call.effects set
      ((Datagram.messages datagram).1.filterMap (Call.ofMessage family x.1.datapath)) (seen x) := by
  rw [Handler.dispatch_eq, ← seen_handleEach family set consumer]
  cases (Datagram.messages datagram).2 <;> rfl

/-- **Datagrams** have the effect of the calls that are read off their messages; what follows the
messages of a malformed one has none. -/
theorem seen_dispatchEach (datagrams : List Bytes) (x : Upcall × τ × σ) :
    seen ((eventHandler family set consumer).dispatchEach datagrams x).2 = Call.effects set
      ((datagrams.flatMap fun d => (Datagram.messages d).1).filterMap
        (Call.ofMessage family x.1.datapath)) (seen x) := by
  induction datagrams generalizing x with
  | nil => rfl
  | cons datagram rest ih =>
    have hone := seen_dispatch family set consumer datagram x
    have hdp : ((eventHandler family set consumer).dispatch datagram x).2.1.datapath =
        x.1.datapath := by
      have hsame := congrArg (fun y => y.1.datapath) hone
      rwa [Call.datapath_effects] at hsame
    change seen ((eventHandler family set consumer).dispatchEach rest
      ((eventHandler family set consumer).dispatch datagram x).2).2 = _
    rw [ih, hone, hdp, ← Call.effects_append, List.flatMap_cons, List.filterMap_append]

/-- The messages that make no call can be left out. -/
theorem filterMap_filter_isOwn (dp : Datapath) (messages : List Bytes) :
    (messages.filter (isOwn family dp)).filterMap (Call.ofMessage family dp) =
      messages.filterMap (Call.ofMessage family dp) := by
  rw [List.filterMap_filter]
  refine congrArg (fun f => messages.filterMap f) (funext fun message => ?_)
  rw [← Call.isSome_ofMessage]
  cases Call.ofMessage family dp message <;> rfl

/-- **Other datapaths make no difference.** Let datagrams come in, with whatever is in them, and let
the setter have a state of its own, so that what it answers depends only on what it was asked
before. Then the setter is asked for the same, and the same vports are remembered, as if there had
been no messages but those with an event of a vport that comes to the datapath of the port or goes
from it, in the order in which they came. -/
theorem isolated (family : UInt16) (set : Setter τ) (consumer : MissConsumer σ)
    (datagrams : List Bytes) (u : Upcall) (notes : List Note) (t : τ) (s s' : σ) :
    let handler := eventHandler family (noting set) consumer
    let messages := datagrams.flatMap fun d => (Datagram.messages d).1
    seen (handler.dispatchEach datagrams (u, (notes, t), s)).2 =
      seen (handler.handleEach (messages.filter (isOwn family u.datapath))
        (u, (notes, t), s')).2 := by
  intro handler messages
  rw [seen_dispatchEach, seen_handleEach]
  exact congrArg (fun calls => Call.effects (noting set) calls (u, notes, t))
    (filterMap_filter_isOwn family u.datapath messages).symm

end

end Upcall

/-! ### One event of another datapath -/

/-- The vport of a type can be read from a set of attributes that has its number and its name: the
options are attributes if there are any, and the type is one that is supported. The end of a VXLAN
tunnel needs its port among the options. -/
def VportSpec.Readable (a : AttributeSet) (type : UInt32) : Prop :=
  ∃ options, a.nested? (Vocabulary.number VportAttribute.options) = .ok options ∧
    (type = Vocabulary.number VportType.netdev ∨ type = Vocabulary.number VportType.internal ∨
      type = Vocabulary.number VportType.vxlan ∧ ∃ port,
        (options.getD .empty).u16 (Vocabulary.number TunnelOption.destinationPort) = .ok port)

theorem VportSpec.exists_ofOptions_iff (type : UInt32) (name : String) (options : AttributeSet) :
    (∃ spec, ofOptions (Vocabulary.ofNumber type) name options = .ok spec) ↔
      type = Vocabulary.number VportType.netdev ∨ type = Vocabulary.number VportType.internal ∨
        type = Vocabulary.number VportType.vxlan ∧ ∃ port,
          options.u16 (Vocabulary.number TunnelOption.destinationPort) = .ok port := by
  rw [← Vocabulary.ofNumber_eq_iff (w := VportType.netdev) rfl,
    ← Vocabulary.ofNumber_eq_iff (w := VportType.internal) rfl,
    ← Vocabulary.ofNumber_eq_iff (w := VportType.vxlan) rfl]
  cases (Vocabulary.ofNumber type : VportType) with
  | netdev | internal => simp [ofOptions]
  | vxlan => simp [ofOptions, map_eq_ok_iff]
  | _ => simp [ofOptions]

theorem Vport.exists_ofAttributes_iff {a : AttributeSet} {id type : UInt32} {name : String}
    (hid : a.u32 (Vocabulary.number VportAttribute.portNumber) = .ok id)
    (htype : a.u32 (Vocabulary.number VportAttribute.type) = .ok type)
    (hname : a.text (Vocabulary.number VportAttribute.name) = .ok name) :
    (∃ v, ofAttributes a = .ok v) ↔ VportSpec.Readable a type := by
  have hread : ofAttributes a = (do
      let options ← a.nested? (Vocabulary.number VportAttribute.options)
      let spec ← VportSpec.ofOptions (Vocabulary.ofNumber type) name (options.getD .empty)
      return ⟨⟨id⟩, spec⟩) := by
    rw [ofAttributes, hid, htype, hname]
    rfl
  simp only [hread, bind_eq_ok_iff, VportSpec.Readable, ← VportSpec.exists_ofOptions_iff type name]
  constructor
  · rintro ⟨v, options, hoptions, spec, hspec, -⟩
    exact ⟨options, hoptions, spec, hspec⟩
  · rintro ⟨options, hoptions, spec, hspec⟩
    exact ⟨_, options, hoptions, spec, hspec, rfl⟩

namespace Upcall

section

variable {σ : Type} [Journal σ] {family : UInt16} {found : Datapath} {message : Bytes}
  {a : AttributeSet} {u : Upcall}

/-- **An event of another datapath** has no effect if the vport in it can be read, and otherwise the
consumer is told why it cannot. -/
theorem handleOne_foreign (hheads : Heads family VportEvents.commands found message)
    (hset : AttributeSet.parse (message.drop 24) = .ok a) (hforeign : found ≠ u.datapath)
    (set : Setter σ) (consumer : MissConsumer σ) (s : σ) :
    ((VportEvents.handler family (follow set consumer)).handleOne message (u, s)).2 =
      match Vport.ofAttributes a with
      | .ok _ => (u, s)
      | .error e => (u, (consumer.report (.decode e) false (Journal.write
          ⟨.warn, (Failure.decode e).wordedBehind "Failed to handle message: "⟩ s)).2) := by
  have hparse := VportNotice.parse_of_heads hheads hset
  have hhandle : (VportEvents.handler family (follow set consumer)).handle message (u, s) =
      match Vport.ofAttributes a with
      | .ok _ => (.ok (), u, s)
      | .error e => (.error (.decode e), u, s) := by
    change Act.outcome (Act.ofDecode (VportNotice.parse family VportEvents.commands message)
      >>= VportEvents.deliver (follow set consumer)) (u, s) = _
    rw [Act.outcome_bind, Act.outcome_ofDecode, hparse]
    cases Vport.ofAttributes a with
    | error e => rfl
    | ok v =>
      have hnone : Call.ofNotice u.datapath ⟨(message.drop 16).headD 0, found, v⟩ = none :=
        if_neg hforeign
      change Act.outcome (VportEvents.deliver (follow set consumer) _) (u, s) = _
      rw [outcome_deliver_follow, hnone]
  cases hread : Vport.ofAttributes a with
  | ok v =>
    rw [hread] at hhandle
    rw [Handler.handleOne_of_ok _ hhandle]
  | error e =>
    rw [hread] at hhandle
    rw [Handler.handleOne_of_error _ hhandle]
    rfl

/-- **What an event of another datapath does.** Let it be well-formed, with the number, the type and
the name of a vport. If the vport can be read, nothing happens: the consumer of the misses is not
called, the setter is not asked, and what is remembered stays as it is. If not, all that happens is
that the consumer is told of one failure, behind a line in the journal, after which the listener
goes on: what is left is what this leaves, so the setter is not asked then, either. -/
theorem foreign_events {id type : UInt32} {name : String}
    (hheads : Heads family VportEvents.commands found message)
    (hset : AttributeSet.parse (message.drop 24) = .ok a)
    (hid : a.u32 (Vocabulary.number VportAttribute.portNumber) = .ok id)
    (htype : a.u32 (Vocabulary.number VportAttribute.type) = .ok type)
    (hname : a.text (Vocabulary.number VportAttribute.name) = .ok name)
    (hforeign : found ≠ u.datapath) (set : Setter (List MissConsumer.Call × σ))
    (consumer : MissConsumer σ) (calls : List MissConsumer.Call) (s : σ) :
    let handler := VportEvents.handler family (follow set consumer.recording)
    (VportSpec.Readable a type →
        (handler.handleOne message (u, calls, s)).2 = (u, calls, s)) ∧
      (¬ VportSpec.Readable a type → ∃ e, Vport.ofAttributes a = .error e ∧
        (handler.handleOne message (u, calls, s)).2 =
          (u, calls ++ [.report (.decode e) false], (consumer.report (.decode e) false
            (Journal.write ⟨.warn, (Failure.decode e).wordedBehind "Failed to handle message: "⟩
              s)).2)) := by
  intro handler
  have hread := Vport.exists_ofAttributes_iff hid htype hname
  have hone := handleOne_foreign hheads hset hforeign set consumer.recording (calls, s)
  rw [← hread]
  constructor
  · rintro ⟨v, hv⟩
    rw [hone, hv]
  · intro hunread
    cases hv : Vport.ofAttributes a with
    | ok v => exact absurd ⟨v, hv⟩ hunread
    | error e =>
      exact ⟨e, rfl, by rw [hone, hv]; rfl⟩

end

/-- An event about the vport 7 of the datapath 10, which has the name `a` and is of a type. -/
def elsewhere (type : UInt8) : Bytes :=
  [48, 0, 0, 0, 33, 0, 0, 0, 0, 0, 0, 0, 0, 0, 0, 0, 1, 1, 0, 0, 10, 0, 0, 0] ++
    AttributeTree.wires [.leaf 1 [7, 0, 0, 0], .leaf 2 [type, 0, 0, 0], .leaf 3 [97, 0]]

theorem heads_elsewhere (type : UInt8) :
    Heads 33 VportEvents.commands ⟨10⟩ (elsewhere type) := by
  refine ⟨?_, rfl, List.mem_cons_self, rfl⟩
  rw [elsewhere, List.length_append]
  exact Nat.le_add_right 24 _

/-- The attributes of such an event, as they are read. -/
def attributesElsewhere (type : UInt8) : AttributeSet :=
  .ofList [(1, [7, 0, 0, 0]), (2, [type, 0, 0, 0]), (3, [97, 0])]

theorem parse_elsewhere (type : UInt8) :
    AttributeSet.parse ((elsewhere type).drop 24) = .ok (attributesElsewhere type) := by
  have hdrop : (elsewhere type).drop 24 = AttributeTree.wires _ := List.drop_left' rfl
  rw [hdrop, AttributeTree.attributes_wires]
  · simp only [List.map_cons, List.map_nil, AttributeTree.type, AttributeTree.payload]
    rfl
  · simp [AttributeTree.FitAll, AttributeTree.Fits, AttributeHeader.size, Draft.maxAttributeLength]
  · simp [AttributeTree.type]

theorem portNumber_elsewhere (type : UInt8) :
    (attributesElsewhere type).u32 (Vocabulary.number VportAttribute.portNumber) = .ok 7 := rfl

theorem type_elsewhere (type : UInt8) :
    (attributesElsewhere type).u32 (Vocabulary.number VportAttribute.type) =
      .ok (Bytes.toU32 [type, 0, 0, 0]) := rfl

theorem name_elsewhere (type : UInt8) :
    (attributesElsewhere type).text (Vocabulary.number VportAttribute.name) = .ok "a" := by
  have hbytes : (attributesElsewhere type).bytes (Vocabulary.number VportAttribute.name) =
      .ok [97, 0] := rfl
  rw [AttributeSet.text, hbytes]
  decide +kernel

/-- The end of a GRE tunnel is no vport that can be read. -/
theorem ofAttributes_elsewhere :
    Vport.ofAttributes (attributesElsewhere 3) = .error (.unsupportedVport 3) := by
  cbv

/-- A consumer that takes no notice of anything. -/
def deaf : MissConsumer Logbook := ⟨fun _ => pure (), fun _ _ => pure ()⟩

/-- The port of the datapath 9 sees nothing of a network device of another datapath, but hears of
the end of a GRE tunnel there. -/
theorem foreign_events_elsewhere :
    let handler := VportEvents.handler 33 (follow (fun _ _ _ => pure ()) deaf.recording)
    (handler.handleOne (elsewhere 1) (.start ⟨9⟩ 77, [], ⟨[]⟩)).2 = (.start ⟨9⟩ 77, [], ⟨[]⟩) ∧
      (handler.handleOne (elsewhere 3) (.start ⟨9⟩ 77, [], ⟨[]⟩)).2 =
        (.start ⟨9⟩ 77, [.report (.decode (.unsupportedVport 3)) false], ⟨[⟨.warn,
          (Failure.decode (.unsupportedVport 3)).wordedBehind "Failed to handle message: "⟩]⟩) := by
  constructor
  · exact (foreign_events (u := .start ⟨9⟩ 77) (heads_elsewhere 1) (parse_elsewhere 1)
      (portNumber_elsewhere 1) (type_elsewhere 1) (name_elsewhere 1) (by decide) _ deaf [] _).1
      ⟨none, rfl, .inl rfl⟩
  · have hunreadable : ¬ VportSpec.Readable (attributesElsewhere 3) 3 := by
      rintro ⟨options, -, htype | htype | ⟨htype, -⟩⟩ <;> exact absurd htype (by decide)
    obtain ⟨e, hread, hone⟩ := (foreign_events (u := .start ⟨9⟩ 77) (heads_elsewhere 3)
      (parse_elsewhere 3) (portNumber_elsewhere 3) (type_elsewhere 3) (name_elsewhere 3) (by decide)
      _ deaf [] _).2 hunreadable
    obtain rfl : .unsupportedVport 3 = e :=
      Except.error.inj (ofAttributes_elsewhere.symm.trans hread)
    exact hone

/-- **Events of other datapaths are not always ignored.** It is not so that the consumer of the
misses of a datapath is called for no well-formed event of another one about a vport of a type that
has a name. -/
theorem foreign_reported :
    ¬ ∀ (message : Bytes) (found : Datapath) (a : AttributeSet) (id type : UInt32) (name : String)
      (u : Upcall), Heads 33 VportEvents.commands found message →
      AttributeSet.parse (message.drop 24) = .ok a →
      a.u32 (Vocabulary.number VportAttribute.portNumber) = .ok id →
      a.u32 (Vocabulary.number VportAttribute.type) = .ok type →
      a.text (Vocabulary.number VportAttribute.name) = .ok name →
      type ∈ [VportType.netdev, .internal, .gre, .vxlan, .geneve].map Vocabulary.number →
      found ≠ u.datapath → ∀ (set : Setter (List MissConsumer.Call × Logbook))
        (consumer : MissConsumer Logbook) (calls : List MissConsumer.Call) (s : Logbook),
        ((VportEvents.handler 33 (follow set consumer.recording)).handleOne message
          (u, calls, s)).2.2.1 = calls := by
  intro hall
  have hquiet := hall (elsewhere 3) ⟨10⟩ _ 7 3 "a" (.start ⟨9⟩ 77) (heads_elsewhere 3)
    (parse_elsewhere 3) (portNumber_elsewhere 3) (type_elsewhere 3) (name_elsewhere 3) (by decide)
    (by decide)
    (fun _ _ _ => pure ()) deaf [] ⟨[]⟩
  rw [handleOne_foreign (heads_elsewhere 3) (parse_elsewhere 3) (by decide),
    ofAttributes_elsewhere] at hquiet
  cases hquiet

end Upcall

end VSwitch
