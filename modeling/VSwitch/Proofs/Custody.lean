import VSwitch.Kernel.Client
import VSwitch.Kernel.Station
import VSwitch.Proofs.Resolution

/-!
# Custody of descriptors

Opening a socket, a connection or a station takes several system calls, each of which may be refused
when some descriptors have been opened already. Nobody gets these then, so they have to be closed
before the failure is told. Whatever the kernel refuses, each of them is closed, once, and nothing
else is: neither what was never opened nor what has been closed before.

* `VSwitch.SystemCall.opened?`, `VSwitch.SystemCall.closed?` and `VSwitch.SystemCall.used` say what
  a system call does to descriptors, and `VSwitch.Custody` what a series of calls does to those that
  are held;
* `VSwitch.Kernel.Minds` says of a computation that it holds whatever it opens until it either gives
  it to its caller or fails and closes it. There is a rule for each way in which the operations are
  put together: `VSwitch.Kernel.Minds.ask` for a single call, `VSwitch.Kernel.Minds.bind` for one
  computation after the other, and `VSwitch.Kernel.Minds.undoing` for one that is undone if the rest
  fails;
* `VSwitch.Released` says by counting that a record of calls leaves nothing behind, and
  `VSwitch.GivesBack` that a computation leaves nothing behind if it fails;
* `VSwitch.gives_back_what_it_opens` is the result.
-/

namespace VSwitch

/-! ### What a system call does to descriptors -/

namespace SystemCall

/-- The descriptor that a call opens. -/
def opened? : SystemCall → Option Descriptor
  | .openSocket socket _ _ => some (.socket socket)
  | .openSignal auxiliary | .duplicate _ auxiliary | .openPoll auxiliary =>
    some (.auxiliary auxiliary)
  | _ => none

/-- The descriptor that a call closes. -/
def closed? : SystemCall → Option Descriptor
  | .close closed => some closed
  | _ => none

/-- The descriptors that a call uses. To close one is to use it. -/
def used : SystemCall → List Descriptor
  | .openSocket _ _ _ | .openSignal _ | .openPoll _ => []
  | .bind socket _ _ | .join socket _ | .limit socket _ | .socketName socket | .getFlags socket
  | .setNonblocking socket | .send socket _ | .device socket _ => [.socket socket]
  | .duplicate signal _ => [.auxiliary signal]
  | .watch poll added => [.auxiliary poll, added]
  | .close closed => [closed]

theorem closed?_of_opened? {call : SystemCall} {d : Descriptor} (h : call.opened? = some d) :
    call.closed? = none := by
  cases call <;> first | rfl | cases h

end SystemCall

namespace Deed

/-- The call, whatever came of it. -/
def call : Deed → SystemCall
  | .done call | .refused call => call

/-- The descriptor that a program gets by a call: none if the call was refused. -/
def obtained? : Deed → Option Descriptor
  | .done call => call.opened?
  | .refused _ => none

/-- The closing of a descriptor. -/
def closing (d : Descriptor) : Deed := .done (.close d)

end Deed

/-! ### Custody -/

/-- What calls do to the descriptors that are held, the latest first: they use what is held, and
what they open is held from then on. Nothing is closed. -/
inductive Custody : List Descriptor → List Deed → List Descriptor → Prop
  /-- No calls. -/
  | nil (held : List Descriptor) : Custody held [] held
  /-- A call that opens nothing, or that is refused. -/
  | use {held held' : List Descriptor} {deed : Deed} {deeds : List Deed}
    (hnone : deed.obtained? = none) (hopen : deed.call.closed? = none)
    (hused : ∀ d ∈ deed.call.used, d ∈ held) (later : Custody held deeds held') :
    Custody held (deed :: deeds) held'
  /-- A call that opens a descriptor that is not held yet. -/
  | obtain {held held' : List Descriptor} {deed : Deed} {deeds : List Deed} {d : Descriptor}
    (hsome : deed.obtained? = some d) (hnew : d ∉ held)
    (hused : ∀ d ∈ deed.call.used, d ∈ held) (later : Custody (d :: held) deeds held') :
    Custody held (deed :: deeds) held'

namespace Custody

variable {held held' held'' : List Descriptor} {deeds deeds' : List Deed}

theorem trans (h : Custody held deeds held') (h' : Custody held' deeds' held'') :
    Custody held (deeds ++ deeds') held'' := by
  induction h with
  | nil => exact h'
  | use hnone hopen hused _ ih => exact .use hnone hopen hused (ih h')
  | obtain hsome hnew hused _ ih => exact .obtain hsome hnew hused (ih h')

/-- What is held is what was held and what has been obtained. -/
theorem eq_append (h : Custody held deeds held') :
    held' = (deeds.filterMap Deed.obtained?).reverse ++ held := by
  induction h with
  | nil => rfl
  | use hnone _ _ _ ih => rw [ih, List.filterMap_cons_none hnone]
  | obtain hsome _ _ _ ih =>
    rw [ih, List.filterMap_cons_some hsome, List.reverse_cons, List.append_assoc,
      List.singleton_append]

theorem nodup (h : Custody held deeds held') (hheld : held.Nodup) : held'.Nodup := by
  induction h with
  | nil => exact hheld
  | use _ _ _ _ ih => exact ih hheld
  | obtain _ hnew _ _ ih => exact ih (List.nodup_cons.2 ⟨hnew, hheld⟩)

theorem closed?_eq_none (h : Custody held deeds held') :
    ∀ deed ∈ deeds, deed.call.closed? = none := by
  induction h with
  | nil => exact List.forall_mem_nil _
  | use _ hopen _ _ ih => exact List.forall_mem_cons.2 ⟨hopen, ih⟩
  | @obtain _ _ deed _ _ hsome _ _ _ ih =>
    refine List.forall_mem_cons.2 ⟨?_, ih⟩
    cases deed with
    | done call => exact SystemCall.closed?_of_opened? hsome
    | refused call => cases hsome

end Custody

/-! ### Computations that mind what they open -/

namespace Kernel

/-- The other descriptors that are held have been opened. -/
def Knows (k : Kernel) (held : List Descriptor) : Prop :=
  ∀ n, .auxiliary n ∈ held → n < k.auxiliaries

variable {ε α β : Type} {held lost : List Descriptor}

/-- How a computation that starts out with the descriptors in `held` may end. If it gives a value,
it ends with those in `kept` and has closed none; if it fails, it ends with those in `lost`, and the
last thing that it has done is to close all others. -/
inductive Settles (held lost : List Descriptor) (kept : α → List Descriptor) (k : Kernel) :
    Except ε α × Kernel → Prop
  /-- It gives a value. -/
  | value {a : α} {k' : Kernel} (work : List Deed) (hdeeds : k'.deeds = work.reverse ++ k.deeds)
    (hcustody : Custody held work (kept a)) (hknows : k'.Knows (kept a)) :
    Settles held lost kept k (.ok a, k')
  /-- It fails. -/
  | failure {e : ε} {k' : Kernel} (work : List Deed) (closing : List Descriptor)
    (hdeeds : k'.deeds = (work ++ closing.map Deed.closing).reverse ++ k.deeds)
    (hcustody : Custody held work (closing ++ lost)) : Settles held lost kept k (.error e, k')

/-- A computation minds the descriptors, whatever becomes of its system calls. -/
def Minds (held : List Descriptor) (act : ExceptT ε (StateM Kernel) α) (lost : List Descriptor)
    (kept : α → List Descriptor) : Prop :=
  ∀ k, k.Knows held → Settles held lost kept k (act.run k)

namespace Minds

variable {kept : α → List Descriptor} {kept' : β → List Descriptor}

/-- **Computations in sequence**: the second one has custody of what the first one keeps. -/
theorem bind {x : ExceptT ε (StateM Kernel) α} {f : α → ExceptT ε (StateM Kernel) β}
    (hx : Minds held x lost kept) (hf : ∀ a, Minds (kept a) (f a) lost kept') :
    Minds held (x >>= f) lost kept' := by
  intro k hk
  have hfirst := hx k hk
  rw [run_bind]
  generalize x.run k = first at hfirst
  cases hfirst with
  | failure work closing hdeeds hcustody => exact .failure work closing hdeeds hcustody
  | @value a k' work hdeeds hcustody hknows =>
    have hsecond := hf a k' hknows
    simp only
    generalize (f a).run k' = second at hsecond
    cases hsecond with
    | value work' hdeeds' hcustody' hknows' =>
      refine .value (work ++ work') ?_ (hcustody.trans hcustody') hknows'
      rw [hdeeds', hdeeds, List.reverse_append, List.append_assoc]
    | failure work' closing hdeeds' hcustody' =>
      refine .failure (work ++ work') closing ?_ (hcustody.trans hcustody')
      rw [hdeeds', hdeeds]
      simp only [List.reverse_append, List.append_assoc]

theorem pure {a : α} (h : kept a = held) :
    Minds held (pure a : ExceptT ε (StateM Kernel) α) lost kept := by
  intro k hk
  rw [← h] at hk ⊢
  exact .value [] rfl (.nil _) hk

/-- A computation that makes no system call. -/
theorem of_silent {x : ExceptT ε (StateM Kernel) α}
    (h : ∀ k, ∃ a k', x.run k = (.ok a, k') ∧ k'.deeds = k.deeds ∧
      k'.auxiliaries = k.auxiliaries) : Minds held x lost fun _ => held := by
  intro k hk
  obtain ⟨a, k', hrun, hdeeds, hauxiliaries⟩ := h k
  rw [hrun]
  refine .value [] hdeeds (.nil held) fun n hn => ?_
  rw [hauxiliaries]
  exact hk n hn

/-- A failure of a system call is a failure. -/
theorem act {x : Sys α} (h : Minds held x lost kept) : Minds held x.act lost kept := by
  intro k hk
  have hx := h k hk
  have hrun : (Sys.act x).run k = ((x.run k).1.mapError fun errno => .socket (.system errno),
    (x.run k).2) := rfl
  rw [hrun]
  generalize x.run k = outcome at hx
  cases hx with
  | value work hdeeds hcustody hknows => exact .value work hdeeds hcustody hknows
  | failure work closing hdeeds hcustody => exact .failure work closing hdeeds hcustody

/-- A call that opens nothing uses what is held. -/
theorem ask (kind : CallKind) {call : SystemCall} (hopened : call.opened? = none)
    (hclosed : call.closed? = none) (hused : ∀ d ∈ call.used, d ∈ held) :
    Minds held (ask kind call) held fun _ => held := by
  intro k hk
  rw [run_ask]
  split
  · exact .value [.done call] rfl (.use hopened hclosed hused (.nil held)) hk
  · exact .failure [.refused call] [] rfl
      (.use rfl hclosed hused (.nil held))

/-- **Undoing** gives back the descriptor that was opened last. -/
theorem undoing {d : Descriptor} {act : Act Kernel α} (h : Minds held act (d :: lost) kept) :
    Minds held (Act.undoing (close d) act) lost kept := by
  intro k hk
  have hact : Settles held (d :: lost) kept k (Act.outcome act k) := h k hk
  change Settles held lost kept k (Act.outcome (Act.undoing (close d) act) k)
  rw [Act.outcome_undoing]
  generalize Act.outcome act k = outcome at hact
  cases hact with
  | value work hdeeds hcustody hknows => exact .value work hdeeds hcustody hknows
  | @failure e k' work closing hdeeds hcustody =>
    have hclose : (close d k').2.deeds = Deed.closing d :: k'.deeds := by
      cases d <;> rfl
    refine .failure work (closing ++ [d]) ?_ ?_
    · rw [hclose, hdeeds, List.map_append, List.map_singleton, ← List.append_assoc,
        List.reverse_concat, List.cons_append]
    · rwa [List.append_assoc, List.singleton_append]

end Minds

/-! ### The operations -/

/-- Nothing is held before a socket is opened. -/
theorem minds_openSocket (domain : AddressFamily) (protocol : Int32) :
    Minds [] (openSocket domain protocol) [] fun number => [.socket number] := by
  intro k hk
  rw [openSocket, run_bind, run_get]
  simp only
  rw [run_bind, run_ask]
  cases (k.refusals .openSocket).headD none with
  | some errno =>
    exact .failure [.refused _] [] rfl
      (.use rfl rfl (List.forall_mem_nil _) (.nil []))
  | none =>
    refine .value [.done _] rfl
      (.obtain rfl List.not_mem_nil (List.forall_mem_nil _) (.nil _)) fun n hn => ?_
    cases List.mem_singleton.1 hn

theorem minds_bind (number : Nat) (port : UInt32) :
    Minds [.socket number] (bind number port) [.socket number] fun _ => [.socket number] := by
  refine .bind (.ask .bind rfl rfl fun _ hd => hd) fun _ => .of_silent fun k => ?_
  split
  · exact ⟨_, _, rfl, rfl, rfl⟩
  · exact ⟨_, _, rfl, rfl, rfl⟩

theorem minds_joinEach (number : Nat) (groups : List UInt32) :
    Minds [.socket number] (joinEach number groups) [.socket number] fun _ => [.socket number] := by
  induction groups with
  | nil => exact .of_silent fun k => ⟨_, k, rfl, rfl, rfl⟩
  | cons group rest ih => exact .bind (.ask .setOption rfl rfl fun _ hd => hd) fun _ => ih

theorem minds_portOf (number : Nat) :
    Minds [.socket number] (portOf number) [.socket number] fun _ => [.socket number] :=
  .bind (.ask .socketName rfl rfl fun _ hd => hd) fun _ =>
    .of_silent fun k => ⟨_, k, rfl, rfl, rfl⟩

theorem minds_setNonblocking {number : Nat} (h : .socket number ∈ held) :
    Minds held (setNonblocking number) held fun _ => held := by
  have hused : ∀ d ∈ [Descriptor.socket number], d ∈ held := by
    simpa using h
  exact .bind (.ask .control rfl rfl hused) fun _ => .bind (.ask .control rfl rfl hused) fun _ =>
    .of_silent fun k => ⟨_, _, rfl, rfl, rfl⟩

theorem minds_connect (protocol : Int32) (port? : Option UInt32) (groups : Groups) :
    Minds [] (connect protocol port? groups) [] fun number => [.socket number] := by
  refine .bind (.act (minds_openSocket .netlink protocol)) fun number => .undoing ?_
  refine .bind (.act (.bind (minds_bind number _) fun _ => minds_joinEach number _)) fun _ => ?_
  exact .pure rfl

end Kernel

theorem Connection.minds_connect (groups : Groups) (timeout? : Option Duration)
    (bufferLength : Nat) : Kernel.Minds [] (connect groups timeout? bufferLength) [] fun c =>
      [.socket c.socket] := by
  refine .bind (Kernel.minds_connect _ none groups) fun number => .undoing ?_
  refine .bind (.act (.ask .setOption rfl rfl fun _ hd => hd)) fun _ => ?_
  refine .bind (.act (Kernel.minds_portOf number)) fun port => ?_
  refine .bind (.of_silent fun k => ⟨_, _, rfl, rfl, rfl⟩) fun _ => ?_
  exact .pure rfl

namespace Station

open Kernel

variable {ε α : Type} {held lost : List Descriptor} {kept : α → List Descriptor}

/-- An auxiliary descriptor is a new one: whatever is held has a smaller number. -/
theorem minds_openAuxiliary (kind : CallKind) {call : Nat → SystemCall}
    (hopened : ∀ n, (call n).opened? = some (.auxiliary n))
    (hused : ∀ n, ∀ d ∈ (call n).used, d ∈ held) :
    Minds held (openAuxiliary kind call) held fun n => .auxiliary n :: held := by
  intro k hk
  have hclosed : (call k.auxiliaries).closed? = none := SystemCall.closed?_of_opened? (hopened _)
  rw [openAuxiliary, run_bind, run_get]
  simp only
  rw [run_bind, run_ask]
  cases (k.refusals kind).headD none with
  | some errno =>
    exact .failure [.refused (call k.auxiliaries)] [] rfl
      (.use rfl hclosed (hused _) (.nil held))
  | none =>
    have hnew : .auxiliary k.auxiliaries ∉ held := fun hmem => Nat.lt_irrefl _ (hk _ hmem)
    refine .value [.done (call k.auxiliaries)] rfl
      (.obtain (hopened _) hnew (hused _) (.nil _)) fun n hn => ?_
    rcases List.mem_cons.1 hn with hn | hn
    · cases hn
      exact Nat.lt_succ_self _
    · exact Nat.lt_succ_of_lt (hk n hn)

theorem minds_withAuxiliary (kind : CallKind) {call : Nat → SystemCall} {body : Nat → Act Kernel α}
    (hopened : ∀ n, (call n).opened? = some (.auxiliary n))
    (hused : ∀ n, ∀ d ∈ (call n).used, d ∈ held)
    (hbody : ∀ n, Minds (.auxiliary n :: held) (body n) (.auxiliary n :: held) kept) :
    Minds held (withAuxiliary kind call body) held kept :=
  .bind (.act (minds_openAuxiliary kind hopened hused)) fun n => .undoing (hbody n)

theorem minds_spawn (socket bufferLength : Nat) :
    Minds [.socket socket] (spawn socket bufferLength) [] fun s =>
      [.auxiliary s.poll, .auxiliary s.handle, .auxiliary s.signal, .socket s.socket] := by
  refine .undoing (.bind (.act (minds_portOf socket)) fun port => ?_)
  refine minds_withAuxiliary .openSignal (fun _ => rfl) (fun _ => List.forall_mem_nil _)
    fun signal => ?_
  refine minds_withAuxiliary .duplicate (fun _ => rfl) (fun _ _ hd => ?_) fun handle => ?_
  · rw [List.mem_singleton.1 hd]
    exact List.mem_cons_self
  refine .bind (.act (minds_setNonblocking (by simp))) fun _ => ?_
  refine minds_withAuxiliary .openPoll (fun _ => rfl) (fun _ => List.forall_mem_nil _)
    fun poll => ?_
  refine .bind (.act (.bind (.ask .watch rfl rfl ?_) fun _ => .ask .watch rfl rfl ?_)) fun _ => ?_
  · simp [SystemCall.used]
  · simp [SystemCall.used]
  refine .bind (.of_silent fun k => ⟨_, _, rfl, rfl, rfl⟩) fun _ => ?_
  exact .pure rfl

end Station

/-! ### Giving back -/

/-- Calls give back what was given and what they have obtained: each of these descriptors is closed
once and no other one is closed, and nothing that has been closed is used. -/
structure Released (given : List Descriptor) (deeds : List Deed) : Prop where
  /-- How often a descriptor is closed. -/
  count_closed : ∀ d, (deeds.filterMap fun deed => deed.call.closed?).count d =
    if d ∈ given ++ deeds.filterMap Deed.obtained? then 1 else 0
  /-- No call uses what an earlier one has closed. -/
  unused : deeds.Pairwise fun earlier later =>
    ∀ d, earlier.call.closed? = some d → d ∉ later.call.used

/-- Closing everything closes everything. -/
theorem filterMap_closing (closing : List Descriptor) :
    (closing.map Deed.closing).filterMap (fun deed => deed.call.closed?) = closing := by
  rw [List.filterMap_map]
  exact List.filterMap_some

theorem filterMap_obtained_closing (closing : List Descriptor) :
    (closing.map Deed.closing).filterMap Deed.obtained? = [] :=
  List.filterMap_eq_nil_iff.2 fun deed hdeed => by
    obtain ⟨d, -, rfl⟩ := List.mem_map.1 hdeed
    rfl

/-- **Work and then closing everything** gives back everything. -/
theorem Custody.released {given : List Descriptor} (work : List Deed) (closing : List Descriptor)
    (h : Custody given work closing) (hgiven : given.Nodup) :
    Released given (work ++ closing.map Deed.closing) := by
  have hwork := List.filterMap_eq_nil_iff.2 h.closed?_eq_none
  have hnodup := h.nodup hgiven
  refine ⟨fun d => ?_, ?_⟩
  · rw [List.filterMap_append, hwork, filterMap_closing, List.nil_append, List.filterMap_append,
      filterMap_obtained_closing, List.append_nil, hnodup.count, h.eq_append]
    simp only [List.mem_append, List.mem_reverse, or_comm]
  · -- What closes comes after all the rest, and closes something else each time.
    have hopen : ∀ deed ∈ work, ∀ later : Deed, ∀ d, deed.call.closed? = some d →
        d ∉ later.call.used := by
      intro deed hdeed later d hd
      rw [h.closed?_eq_none deed hdeed] at hd
      cases hd
    refine List.pairwise_append.2 ⟨List.pairwise_of_forall_mem_list fun deed hdeed later _ =>
      hopen deed hdeed later, ?_, fun deed hdeed later _ => hopen deed hdeed later⟩
    refine List.pairwise_map.2 (hnodup.imp fun {d d'} hne c hc hused => ?_)
    obtain rfl : d = c := Option.some.inj hc
    exact hne (List.mem_singleton.1 hused)

/-- A computation gives back what it was given and what it has obtained, if it fails; otherwise it
closes nothing. -/
def GivesBack {α : Type} (given : List Descriptor) (act : Act Kernel α) : Prop :=
  ∀ k, ∃ deeds, (Act.outcome act k).2.deeds = deeds.reverse ++ k.deeds ∧
    match (Act.outcome act k).1 with
    | .ok _ => ∀ deed ∈ deeds, deed.call.closed? = none
    | .error _ => Released given deeds

/-- What is minded is given back. -/
theorem Kernel.Minds.givesBack {α : Type} {given : List Descriptor} {act : Act Kernel α}
    {kept : α → List Descriptor} (h : Minds given act [] kept) (hgiven : given.Nodup)
    (hknows : ∀ k : Kernel, k.Knows given) : GivesBack given act := by
  intro k
  have hact : Settles given [] kept k (Act.outcome act k) := h k (hknows k)
  generalize Act.outcome act k = outcome at hact
  cases hact with
  | value work hdeeds hcustody _ => exact ⟨work, hdeeds, hcustody.closed?_eq_none⟩
  | failure work closing hdeeds hcustody =>
    rw [List.append_nil] at hcustody
    exact ⟨_, hdeeds, hcustody.released work closing hgiven⟩

theorem Kernel.Probe.released {deeds : List Deed} (h : Probe deeds) : Released [] deeds := by
  cases h with
  | unopened socket =>
    exact Custody.released [_] []
      (.use rfl rfl (List.forall_mem_nil _) (.nil [])) List.nodup_nil
  | opened socket asked h =>
    refine Custody.released [_, asked] [.socket socket]
      (.obtain rfl List.not_mem_nil (List.forall_mem_nil _) ?_) List.nodup_nil
    rcases h with rfl | rfl <;> exact .use rfl rfl (fun _ hd => hd) (.nil _)

/-- **What fails gives back what it has opened**, whichever of its system calls the kernel refuses.
A socket, a connection and a station either come about, with nothing closed, or close all that they
have opened, each once and nothing else, and never use what they have closed; a station that does
not come about closes the socket that it was given, too. The probe for the module gives nothing to
its caller, so it closes what it has opened in any case. -/
theorem gives_back_what_it_opens (k : Kernel) :
    (∀ protocol port? groups, GivesBack [] (Kernel.connect protocol port? groups)) ∧
    (∀ groups timeout? bufferLength,
      GivesBack [] (Connection.connect groups timeout? bufferLength)) ∧
    (∀ socket bufferLength, GivesBack [.socket socket] (Station.spawn socket bufferLength)) ∧
    ∃ deeds, (Kernel.probe k).2.deeds = deeds.reverse ++ k.deeds ∧ Released [] deeds := by
  refine ⟨fun protocol port? groups => ?_, fun groups timeout? bufferLength => ?_,
    fun socket bufferLength => ?_, ?_⟩
  · exact (Kernel.minds_connect protocol port? groups).givesBack List.nodup_nil
      fun _ _ hn => absurd hn List.not_mem_nil
  · exact (Connection.minds_connect groups timeout? bufferLength).givesBack List.nodup_nil
      fun _ _ hn => absurd hn List.not_mem_nil
  · refine (Station.minds_spawn socket bufferLength).givesBack (List.nodup_singleton _)
      fun _ _ hn => ?_
    cases List.mem_singleton.1 hn
  · obtain ⟨deeds, hprobe, hdeeds, -⟩ := Kernel.exists_probe k
    refine ⟨deeds, hdeeds, ?_⟩
    split at hprobe
    · rw [hprobe]
      exact Custody.released [] [] (.nil []) List.nodup_nil
    · exact hprobe.released

/-- A kernel that does not let a station watch a second descriptor. -/
def Kernel.unwatching : Kernel :=
  { Kernel.start 1 false with refusals := fun | .watch => [none, some 28] | _ => [] }

/-- The station has opened all that it needs by then. -/
theorem gives_back_what_it_opens_unwatching : ∃ deeds,
    (Act.outcome (Station.spawn 0 64) Kernel.unwatching).2.deeds = deeds.reverse ∧
      deeds.filterMap Deed.obtained? = [.auxiliary 0, .auxiliary 1, .auxiliary 2] ∧
      Released [.socket 0] deeds := by
  obtain ⟨-, -, hspawn, -⟩ := gives_back_what_it_opens Kernel.unwatching
  obtain ⟨deeds, hdeeds, h⟩ := hspawn 0 64 Kernel.unwatching
  have hnone : deeds.reverse ++ Kernel.unwatching.deeds = deeds.reverse := List.append_nil _
  have hrun : (Act.outcome (Station.spawn 0 64) Kernel.unwatching).2.deeds = [
      .closing (.socket 0), .closing (.auxiliary 0), .closing (.auxiliary 1),
      .closing (.auxiliary 2), .refused (.watch 2 (.socket 0)), .done (.watch 2 (.auxiliary 0)),
      .done (.openPoll 2), .done (.setNonblocking 0), .done (.getFlags 0),
      .done (.duplicate 0 1), .done (.openSignal 0), .done (.socketName 0)] := rfl
  rw [hnone, hrun] at hdeeds
  have hchronological := congrArg List.reverse hdeeds
  rw [List.reverse_reverse] at hchronological
  refine ⟨deeds, by rw [← hdeeds, hrun], ?_, h⟩
  rw [← hchronological]
  rfl

end VSwitch
