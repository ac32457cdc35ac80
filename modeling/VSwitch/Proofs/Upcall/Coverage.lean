import Mathlib
import VSwitch.Proofs.Upcall.Scene

/-!
# Which vports a takeover reaches

After a takeover and the events that follow it, every vport of the datapath should send its misses
to the listener, whatever others did meanwhile. What is remembered is true of a vport unless its
deletion waits among the events; and a vport that has not been reached is still to come in the pass
over all vports, or waits among the events behind its deletion.

This breaks in one place. A number that is remembered from the first pass stays remembered if its
vport is deleted before the events are joined, as nobody hears of that; so whatever vport has that
number next is taken for one that has been reached. Such numbers are the lost ones of a scene.

* `VSwitch.Scene.Inv` is what holds between any two steps, and `VSwitch.Scene.Inv.change`,
  `VSwitch.Scene.Inv.point` that others and requests keep it;
* `VSwitch.Play.Sound.run`, `VSwitch.Play.Sound.configureEach` say the same of what happens between
  two steps and of a whole pass;
* `VSwitch.Takeover.reaches` is the result, and `VSwitch.Takeover.misses_reused` the place where it
  breaks.
-/

namespace VSwitch

/-! ### What the events call for -/

namespace Scene

variable {s : Scene} {id : VportId}

/-- The calls that the events make, the oldest first. -/
def due (s : Scene) : List Upcall.Call := s.events.filterMap (Upcall.Call.ofNotice s.datapath)

/-- Every call to forget a vport is followed by one to configure it. -/
def Returns (id : VportId) : List Upcall.Call → Prop
  | [] => True
  | call :: rest => (call = .forget id → .configure id ∈ rest) ∧ Returns id rest

theorem Returns.configure_mem {calls : List Upcall.Call} (h : Returns id calls)
    (hforget : .forget id ∈ calls) : .configure id ∈ calls := by
  induction calls with
  | nil => cases hforget
  | cons call rest ih =>
    obtain ⟨hcall, hrest⟩ := h
    rcases List.mem_cons.1 hforget with heq | hforget
    · exact List.mem_cons_of_mem _ (hcall heq.symm)
    · exact List.mem_cons_of_mem _ (ih hrest hforget)

/-- A call to configure a vport answers for all calls in front of it. -/
theorem returns_append_configure (id : VportId) (calls : List Upcall.Call) :
    Returns id (calls ++ [.configure id]) := by
  induction calls with
  | nil => exact ⟨nofun, trivial⟩
  | cons call rest ih =>
    exact ⟨fun _ => List.mem_append_right _ List.mem_cons_self, ih⟩

theorem Returns.append {calls : List Upcall.Call} (h : Returns id calls) {call : Upcall.Call}
    (hne : call ≠ .forget id) : Returns id (calls ++ [call]) := by
  induction calls with
  | nil => exact ⟨fun heq => absurd heq hne, trivial⟩
  | cons first rest ih =>
    exact ⟨fun heq => List.mem_append_left _ (h.1 heq), ih h.2⟩

/-! ### What others leave alone -/

@[simp] theorem port_change (s : Scene) (c : Change) : (s.change c).port = s.port := by
  cases c with
  | add vport =>
    rw [change]
    split <;> rfl
  | delete id =>
    rw [change]
    cases s.find? id <;> rfl
  | renew id =>
    rw [change]
    cases s.find? id <;> rfl
  | announce notice =>
    rw [change]
    split <;> rfl

@[simp] theorem port_changeAll (s : Scene) (changes : List Change) :
    (s.changeAll changes).port = s.port := by
  induction changes generalizing s with
  | nil => rfl
  | cons c rest ih => exact (ih (s.change c)).trans (s.port_change c)

theorem changeAll_append (s : Scene) (changes more : List Change) :
    s.changeAll (changes ++ more) = (s.changeAll changes).changeAll more := List.foldl_append

/-! ### What is announced -/

/-- The calls that the events make once one more is heard of. -/
def dueAfter (s : Scene) (call : Upcall.Call) : List Upcall.Call :=
  if s.isJoined then s.due ++ [call] else s.due

theorem mem_dueAfter {call call' : Upcall.Call} (h : call' ∈ s.due) : call' ∈ s.dueAfter call := by
  unfold dueAfter
  split
  · exact List.mem_append_left _ h
  · exact h

theorem dueAfter_of_isJoined (h : s.isJoined = true) (call : Upcall.Call) :
    s.dueAfter call = s.due ++ [call] := if_pos h

theorem dueAfter_of_not_isJoined (h : s.isJoined = false) (call : Upcall.Call) :
    s.dueAfter call = s.due := by
  rw [dueAfter, h]
  rfl

theorem filterMap_heard {notice : VportNotice} {call : Upcall.Call}
    (h : Upcall.Call.ofNotice s.datapath notice = some call) :
    (s.heard notice).filterMap (Upcall.Call.ofNotice s.datapath) = s.dueAfter call := by
  unfold heard dueAfter
  split
  · simp [due, h]
  · rfl

theorem ofNotice_new (s : Scene) (vport : Vport) :
    Upcall.Call.ofNotice s.datapath (s.notice .new vport) = some (.configure vport.id) := by
  simp only [Upcall.Call.ofNotice, notice, if_true]
  rfl

theorem ofNotice_del (s : Scene) (vport : Vport) :
    Upcall.Call.ofNotice s.datapath (s.notice .del vport) = some (.forget vport.id) := by
  simp only [Upcall.Call.ofNotice, notice, if_true]
  rfl

theorem due_add (s : Scene) (vport : Vport) :
    (s.add vport).due = s.dueAfter (.configure vport.id) := filterMap_heard (ofNotice_new s vport)

theorem due_delete (s : Scene) (seat : Seat) :
    (s.delete seat).due = s.dueAfter (.forget seat.vport.id) :=
  filterMap_heard (ofNotice_del s seat.vport)

theorem due_renew (s : Scene) (seat : Seat) :
    (s.renew seat).due = s.dueAfter (.configure seat.vport.id) :=
  filterMap_heard (ofNotice_new s seat.vport)

/-! ### What holds between two steps -/

/-- The vport of a number is there, and its misses go to the listener. -/
def Points (s : Scene) (id : VportId) : Prop :=
  (∃ seat ∈ s.seats, seat.vport.id = id) ∧
    ∀ seat ∈ s.seats, seat.vport.id = id → seat.upcall = s.port

/-- A vport has been reached, or it will be: by a pass that is still to come to the numbers `todo`,
or because of an event. A vport whose number is lost may not be reached at all. -/
def Reached (s : Scene) (todo : VportId → Prop) (seat : Seat) : Prop :=
  seat.upcall = s.port ∨ todo seat.vport.id ∨ .configure seat.vport.id ∈ s.due ∨
    seat.vport.id ∈ s.lost

/-- What holds between two steps, before and after the events are joined. -/
structure Inv (port : UInt32) (joined : Bool) (todo : VportId → Prop) (u : Upcall) (s : Scene) :
    Prop where
  datapath_eq : u.datapath = s.datapath
  port_eq : u.port = port
  listener_eq : s.port = port
  joined_eq : s.isJoined = joined
  unheard : joined = false → s.due = []
  remembered : ∀ id ∈ u.configured, .forget id ∈ s.due ∨ s.Points id ∨ id ∈ s.lost
  returns : ∀ seat ∈ s.seats, Returns seat.vport.id s.due
  reached : joined = true → ∀ seat ∈ s.seats, s.Reached todo seat

namespace Inv

variable {port : UInt32} {joined : Bool} {todo : VportId → Prop} {u : Upcall}

theorem mono {todo' : VportId → Prop} (h : Inv port joined todo u s)
    (hle : ∀ id, todo id → todo' id) : Inv port joined todo' u s :=
  { h with
    reached := fun hjoined seat hseat =>
      (h.reached hjoined seat hseat).imp_right (Or.imp_left (hle _)) }

theorem dueAfter_eq_nil (h : Inv port joined todo u s) (hjoined : joined = false)
    (call : Upcall.Call) : s.dueAfter call = [] := by
  rw [dueAfter_of_not_isJoined (h.joined_eq.trans hjoined), h.unheard hjoined]

theorem mem_dueAfter_self (h : Inv port joined todo u s) (hjoined : joined = true)
    (call : Upcall.Call) : call ∈ s.dueAfter call := by
  rw [dueAfter_of_isJoined (h.joined_eq.trans hjoined)]
  exact List.mem_append_right _ List.mem_cons_self

theorem returns_dueAfter (h : Inv port joined todo u s) {seat : Seat} (hseat : seat ∈ s.seats)
    {call : Upcall.Call} (hne : call ≠ .forget seat.vport.id) :
    Returns seat.vport.id (s.dueAfter call) := by
  unfold dueAfter
  split
  · exact (h.returns seat hseat).append hne
  · exact h.returns seat hseat

theorem returns_dueAfter_configure (h : Inv port joined todo u s) (id : VportId) :
    Returns id (s.dueAfter (.configure id)) := by
  cases hjoined : joined with
  | false =>
    rw [h.dueAfter_eq_nil hjoined]
    trivial
  | true =>
    rw [dueAfter_of_isJoined (h.joined_eq.trans hjoined)]
    exact returns_append_configure id s.due

/-- **A vport that is added** waits among the events, or a pass is still to come to it. -/
theorem add (h : Inv port joined todo u s) {vport : Vport} (hnew : s.find? vport.id = none) :
    Inv port joined todo u (s.add vport) := by
  have hother : ∀ seat ∈ s.seats, seat.vport.id ≠ vport.id := by
    simpa [find?] using hnew
  have hpoints : ∀ id, s.Points id → (s.add vport).Points id := by
    rintro id ⟨⟨seat, hseat, rfl⟩, hport⟩
    refine ⟨⟨seat, List.mem_append_left _ hseat, rfl⟩, fun other hmem heq => ?_⟩
    rcases List.mem_append.1 hmem with hmem | hmem
    · exact hport other hmem heq
    · rw [List.mem_singleton.1 hmem] at heq
      exact absurd heq.symm (hother seat hseat)
  refine { h with
    unheard := fun hjoined => ?_
    remembered := fun id hid => ?_
    returns := fun seat hseat => ?_
    reached := fun hjoined seat hseat => ?_ }
  · rw [due_add, h.dueAfter_eq_nil hjoined]
  · rw [due_add]
    exact (h.remembered id hid).imp mem_dueAfter (Or.imp_left (hpoints id))
  · rw [due_add]
    rcases List.mem_append.1 hseat with hseat | hseat
    · exact h.returns_dueAfter hseat nofun
    · rw [List.mem_singleton.1 hseat]
      exact h.returns_dueAfter_configure vport.id
  · rw [Reached, due_add]
    rcases List.mem_append.1 hseat with hseat | hseat
    · exact (h.reached hjoined seat hseat).imp_right (Or.imp_right (Or.imp_left mem_dueAfter))
    · rw [List.mem_singleton.1 hseat]
      exact .inr (.inr (.inl (h.mem_dueAfter_self hjoined _)))

/-- **A vport that is deleted** leaves its number remembered: its deletion waits among the events,
or the number is lost. -/
theorem delete (h : Inv port joined todo u s) {seat : Seat} (hfound : seat ∈ s.seats) :
    Inv port joined todo u (s.delete seat) := by
  have hmem : ∀ other, other ∈ (s.delete seat).seats ↔
      other ∈ s.seats ∧ other.vport.id ≠ seat.vport.id := by
    simp [Scene.delete]
  have hlost : ∀ id ≠ seat.vport.id, id ∈ s.lost → id ∈ (s.delete seat).lost := by
    intro id hne hid
    simp only [Scene.delete]
    split
    · simpa [hne] using hid
    · split
      · exact List.mem_cons_of_mem _ hid
      · exact hid
  refine { h with
    unheard := fun hjoined => ?_
    remembered := fun id hid => ?_
    returns := fun other hother => ?_
    reached := fun hjoined other hother => ?_ }
  · rw [due_delete, h.dueAfter_eq_nil hjoined]
  · rw [due_delete]
    by_cases heq : id = seat.vport.id
    · subst heq
      cases hjoined : s.isJoined with
      | false =>
        have hkept : (s.delete seat).lost =
            if seat.upcall = s.port then seat.vport.id :: s.lost else s.lost := by
          simp [Scene.delete, hjoined]
        rw [hkept]
        rcases h.remembered _ hid with hforget | hpoint | hgone
        · rw [h.unheard (h.joined_eq.symm.trans hjoined)] at hforget
          cases hforget
        · rw [if_pos (hpoint.2 seat hfound rfl)]
          exact .inr (.inr List.mem_cons_self)
        · refine .inr (.inr ?_)
          split
          · exact List.mem_cons_of_mem _ hgone
          · exact hgone
      | true => exact .inl (h.mem_dueAfter_self (h.joined_eq.symm.trans hjoined) _)
    · rcases h.remembered id hid with hforget | ⟨⟨other, hother, rfl⟩, hport⟩ | hgone
      · exact .inl (mem_dueAfter hforget)
      · refine .inr (.inl ⟨⟨other, (hmem other).2 ⟨hother, heq⟩, rfl⟩, fun third hthird => ?_⟩)
        exact hport third ((hmem third).1 hthird).1
      · exact .inr (.inr (hlost id heq hgone))
  · rw [due_delete]
    obtain ⟨hother, hne⟩ := (hmem other).1 hother
    exact h.returns_dueAfter hother fun heq => hne (by injection heq with heq; exact heq.symm)
  · obtain ⟨hother, hne⟩ := (hmem other).1 hother
    rw [Reached, due_delete]
    exact (h.reached hjoined other hother).imp_right
      (Or.imp_right (Or.imp mem_dueAfter (hlost _ hne)))

/-- **A vport that is announced once more** is as it was. -/
theorem renew (h : Inv port joined todo u s) (seat : Seat) :
    Inv port joined todo u (s.renew seat) := by
  refine { h with
    unheard := fun hjoined => ?_
    remembered := fun id hid => ?_
    returns := fun other hother => ?_
    reached := fun hjoined other hother => ?_ }
  · rw [due_renew, h.dueAfter_eq_nil hjoined]
  · rw [due_renew]
    exact (h.remembered id hid).imp_left mem_dueAfter
  · rw [due_renew]
    exact h.returns_dueAfter hother nofun
  · rw [Reached, due_renew]
    exact (h.reached hjoined other hother).imp_right (Or.imp_right (Or.imp_left mem_dueAfter))

/-- **A vport that is pointed** is reached, whatever the pass still had to do for it. -/
theorem redirect (hfound : ∃ seat ∈ s.seats, seat.vport.id = id)
    (h : Inv port joined (fun i => i = id ∨ todo i) u s) :
    Inv port joined todo (u.remember id) (s.redirect id u.port) := by
  have hids : ∀ seat : Seat, (pointed id u.port seat).vport = seat.vport := by
    intro seat
    unfold pointed
    split <;> rfl
  have hupcall : ∀ seat : Seat, seat.vport.id = id ∨ seat.upcall = s.port →
      (pointed id u.port seat).upcall = s.port := by
    intro seat hseat
    unfold pointed
    split
    · exact h.port_eq.trans h.listener_eq.symm
    · rename_i hne
      exact hseat.resolve_left hne
  have hpoints : ∀ i, i = id ∨ s.Points i → (s.redirect id u.port).Points i := by
    intro i hi
    constructor
    · obtain ⟨seat, hseat, rfl⟩ : ∃ seat ∈ s.seats, seat.vport.id = i := by
        rcases hi with rfl | hpoint
        · exact hfound
        · exact hpoint.1
      exact ⟨_, List.mem_map_of_mem hseat, by rw [hids]⟩
    · intro after hafter heq
      obtain ⟨seat, hseat, rfl⟩ := List.mem_map.1 hafter
      rw [hids] at heq
      exact hupcall seat (hi.imp heq.trans fun hpoint => hpoint.2 seat hseat heq)
  refine { h with
    remembered := fun i hi => ?_
    returns := fun after hafter => ?_
    reached := fun hjoined after hafter => ?_ }
  · rcases List.mem_cons.1 hi with rfl | hi
    · exact .inr (.inl (hpoints _ (.inl rfl)))
    · exact (h.remembered i hi).imp_right (Or.imp_left fun hpoint => hpoints i (.inr hpoint))
  · obtain ⟨seat, hseat, rfl⟩ := List.mem_map.1 hafter
    rw [hids]
    exact h.returns seat hseat
  · obtain ⟨seat, hseat, rfl⟩ := List.mem_map.1 hafter
    rw [Reached, hids]
    rcases h.reached hjoined seat hseat with hport | (heq | htodo) | hrest
    · exact .inl (hupcall seat (.inr hport))
    · exact .inl (hupcall seat (.inl heq))
    · exact .inr (.inl htodo)
    · exact .inr (.inr hrest)

/-- The events are all that an announcement about something else changes. -/
theorem of_due_eq {events : List VportNotice} (h : Inv port joined todo u s)
    (hdue : events.filterMap (Upcall.Call.ofNotice s.datapath) = s.due) :
    Inv port joined todo u { s with events } := by
  have heq : ({ s with events } : Scene).due = s.due := hdue
  refine { h with
    unheard := fun hjoined => ?_
    remembered := fun id hid => ?_
    returns := fun seat hseat => ?_
    reached := fun hjoined seat hseat => ?_ }
  · rw [heq, h.unheard hjoined]
  · rw [heq]
    exact h.remembered id hid
  · rw [heq]
    exact h.returns seat hseat
  · rw [Reached, heq]
    exact h.reached hjoined seat hseat

/-- **What others change** keeps what holds between two steps. -/
theorem change (h : Inv port joined todo u s) (c : Change) :
    Inv port joined todo u (s.change c) := by
  cases c with
  | add vport =>
    rw [Scene.change]
    cases hfound : s.find? vport.id with
    | none => exact h.add hfound
    | some seat => exact h
  | delete id =>
    rw [Scene.change]
    cases hfound : s.find? id with
    | none => exact h
    | some seat => exact h.delete (List.mem_of_find?_eq_some hfound)
  | renew id =>
    rw [Scene.change]
    cases s.find? id with
    | none => exact h
    | some seat => exact h.renew seat
  | announce notice =>
    rw [Scene.change]
    split
    · rename_i hnone
      refine h.of_due_eq ?_
      unfold heard
      split
      · simp [due, hnone]
      · rfl
    · exact h

theorem changeAll (h : Inv port joined todo u s) (changes : List Change) :
    Inv port joined todo u (s.changeAll changes) := by
  induction changes generalizing s with
  | nil => exact h
  | cons c rest ih => exact ih (h.change c)

/-- **A request that goes well** points the vport that it is about. -/
theorem point {s' : Scene} (h : Inv port joined (fun i => i = id ∨ todo i) u s)
    (hpoint : s.point u.datapath id u.port = (.ok (), s')) :
    Inv port joined todo (u.remember id) s' := by
  rw [Scene.point] at hpoint
  split at hpoint
  · rename_i hfound
    obtain ⟨seat, hseat⟩ := Option.isSome_iff_exists.1 hfound.2
    cases hpoint
    exact h.redirect ⟨seat, List.mem_of_find?_eq_some hseat, by simpa using List.find?_some hseat⟩
  · cases hpoint

/-- A vport that is remembered need not be pointed. -/
theorem skip (h : Inv port joined (fun i => i = id ∨ todo i) u s) (hid : id ∈ u.configured) :
    Inv port joined todo u s := by
  refine { h with reached := fun hjoined seat hseat => ?_ }
  rcases h.reached hjoined seat hseat with hport | (rfl | htodo) | hdue | hlost
  · exact .inl hport
  · rcases h.remembered _ hid with hforget | hpoint | hlost
    · -- Its deletion is still to be heard of, and so is what was added after that.
      exact .inr (.inr (.inl ((h.returns seat hseat).configure_mem hforget)))
    · exact .inl (hpoint.2 seat hseat rfl)
    · exact .inr (.inr (.inr hlost))
  · exact .inr (.inl htodo)
  · exact .inr (.inr (.inl hdue))
  · exact .inr (.inr (.inr hlost))

/-! ### What the listener for events takes -/

variable {notice : VportNotice} {rest : List VportNotice}

theorem due_eq_cons {call : Upcall.Call} (hevents : s.events = notice :: rest)
    (hcall : Upcall.Call.ofNotice s.datapath notice = some call) :
    s.due = call :: ({ s with events := rest } : Scene).due := by
  simp [due, hevents, hcall]

theorem take_none (h : Inv port joined todo u s) (hevents : s.events = notice :: rest)
    (hcall : Upcall.Call.ofNotice s.datapath notice = none) :
    Inv port joined todo u { s with events := rest } :=
  h.of_due_eq (by simp [due, hevents, hcall])

/-- An event about a new vport is taken: now it is the listener that is still to come to it. -/
theorem take_configure (h : Inv port joined todo u s) (hevents : s.events = notice :: rest)
    (hcall : Upcall.Call.ofNotice s.datapath notice = some (.configure id)) :
    Inv port joined (fun i => i = id ∨ todo i) u { s with events := rest } := by
  have hdue := due_eq_cons hevents hcall
  refine { h with
    unheard := fun hjoined => ?_
    remembered := fun id' hid => ?_
    returns := fun seat hseat => ?_
    reached := fun hjoined seat hseat => ?_ }
  · have hnil := h.unheard hjoined
    rw [hdue] at hnil
    cases hnil
  · have hremembered := h.remembered id' hid
    rw [hdue] at hremembered
    exact hremembered.imp_left fun hforget => (List.mem_cons.1 hforget).resolve_left (by simp)
  · have hreturns := h.returns seat hseat
    rw [hdue] at hreturns
    exact hreturns.2
  · have hreached := h.reached hjoined seat hseat
    rw [Reached, hdue] at hreached
    rcases hreached with hport | htodo | hmem | hlost
    · exact .inl hport
    · exact .inr (.inl (.inr htodo))
    · rcases List.mem_cons.1 hmem with heq | hmem
      · injection heq with heq
        exact .inr (.inl (.inl heq))
      · exact .inr (.inr (.inl hmem))
    · exact .inr (.inr (.inr hlost))

/-- An event about a deleted vport is taken, and the vport forgotten. -/
theorem take_forget (h : Inv port joined todo u s) (hevents : s.events = notice :: rest)
    (hcall : Upcall.Call.ofNotice s.datapath notice = some (.forget id)) :
    Inv port joined todo (u.forget id) { s with events := rest } := by
  have hdue := due_eq_cons hevents hcall
  refine { h with
    unheard := fun hjoined => ?_
    remembered := fun id' hid => ?_
    returns := fun seat hseat => ?_
    reached := fun hjoined seat hseat => ?_ }
  · have hnil := h.unheard hjoined
    rw [hdue] at hnil
    cases hnil
  · obtain ⟨hid, hne⟩ : id' ∈ u.configured ∧ id' ≠ id := by simpa [Upcall.forget] using hid
    have hremembered := h.remembered id' hid
    rw [hdue] at hremembered
    refine hremembered.imp_left fun hforget => (List.mem_cons.1 hforget).resolve_left fun heq => ?_
    injection heq with heq
    exact hne heq
  · have hreturns := h.returns seat hseat
    rw [hdue] at hreturns
    exact hreturns.2
  · have hreached := h.reached hjoined seat hseat
    rw [Reached, hdue] at hreached
    exact hreached.imp_right (Or.imp_right (Or.imp_left fun hmem =>
      (List.mem_cons.1 hmem).resolve_left (by simp)))

/-! ### The steps of a takeover -/

/-- Once the events are joined, a pass is still to come to every vport. -/
theorem join (h : Inv port false todo u s) :
    Inv port true (fun _ => True) u { s with isJoined := true } :=
  { h with
    joined_eq := rfl
    unheard := nofun
    reached := fun _ _ _ => .inr (.inl trivial) }

/-- A pass is to come to the vports that have been found. -/
theorem found (h : Inv port joined (fun _ => True) u s) :
    Inv port joined (· ∈ (s.seats.map Seat.vport).map Vport.id) u s :=
  { h with
    reached := fun _ _ hseat => .inr (.inl (List.mem_map_of_mem (List.mem_map_of_mem hseat))) }

end Inv

end Scene

/-! ### Runs -/

namespace Play

variable {port : UInt32} {joined : Bool} {todo : VportId → Prop} {id : VportId} {p p' : Play}
  {t t' : Upcall × Unit × Play}

/-- What holds between two steps of a play, unless the listener for events could not point a
vport. -/
def Sound (port : UInt32) (joined : Bool) (todo : VportId → Prop) (t : Upcall × Unit × Play) :
    Prop :=
  t.2.2.faulted = true ∨ Scene.Inv port joined todo t.1 t.2.2.scene

theorem Sound.mono {todo' : VportId → Prop} (h : Sound port joined todo t)
    (hle : ∀ id, todo id → todo' id) : Sound port joined todo' t :=
  h.imp_right fun h => h.mono hle

theorem faulted_during {α : Type} (effect : Scene → Except Failure α × Scene) (p : Play) :
    (Act.outcome (during effect) p).2.faulted = p.faulted := rfl

/-- A request that goes well has its effect in the middle of what others change. -/
theorem exists_of_during {α : Type} {effect : Scene → Except Failure α × Scene} {a : α}
    (h : Act.outcome (during effect) p = (.ok a, p')) :
    ∃ before after s, effect (p.scene.changeAll before) = (.ok a, s) ∧
      p'.scene = s.changeAll after ∧ p'.faulted = p.faulted := by
  have hfaulted := faulted_during effect p
  rw [h] at hfaulted
  simp only [during, Act.outcome, ExceptT.run] at h
  cases hcue : (p.cues.headD ⟨[], none, []⟩).fault? with
  | some e =>
    rw [hcue] at h
    cases h
  | none =>
    rw [hcue] at h
    injection h with hresult hp
    exact ⟨_, _, _, Prod.ext hresult rfl, by rw [← hp], hfaulted⟩

theorem outcome_setter (dp : Datapath) (id : VportId) (port : UInt32) (c : Unit) (p : Play) :
    Act.outcome (setter dp id port) (c, p) =
      ((Act.outcome (during (Scene.point dp id port)) p).1, c,
        (Act.outcome (during (Scene.point dp id port)) p).2) := rfl

theorem faulted_configure (id : VportId) (t : Upcall × Unit × Play) :
    (Act.outcome (Upcall.configure setter id) t).2.2.2.faulted = t.2.2.faulted := by
  obtain ⟨u, c, p⟩ := t
  rw [Upcall.outcome_configure, outcome_setter]
  split
  · rfl
  · have hfaulted := faulted_during (Scene.point u.datapath id u.port) p
    rcases hset : Act.outcome (during (Scene.point u.datapath id u.port)) p with ⟨_ | _, p'⟩
    · rw [hset] at hfaulted
      exact hfaulted
    · rw [hset] at hfaulted
      exact hfaulted

/-- **Pointing a vport** is all that was still to be done for it. -/
theorem Sound.configure {b : Bool} (h : Sound port joined (fun i => i = id ∨ todo i) t)
    (hrun : Act.outcome (Upcall.configure setter id) t = (.ok b, t')) :
    Sound port joined todo t' := by
  have hfaulted := faulted_configure id t
  rw [hrun] at hfaulted
  rcases h with h | h
  · exact .inl (hfaulted.trans h)
  · refine .inr ?_
    obtain ⟨u, c, p⟩ := t
    rw [Upcall.outcome_configure, outcome_setter] at hrun
    by_cases hid : u.isConfigured id = true
    · rw [if_pos hid] at hrun
      cases hrun
      exact h.skip (Upcall.isConfigured_iff.1 hid)
    · rw [if_neg hid] at hrun
      rcases hset : Act.outcome (during (Scene.point u.datapath id u.port)) p with ⟨_ | _, p'⟩
      · rw [hset] at hrun
        cases hrun
      · rw [hset] at hrun
        cases hrun
        obtain ⟨before, after, s, hpoint, hscene, -⟩ := exists_of_during hset
        have hnext := ((h.changeAll before).point hpoint).changeAll after
        rw [← hscene] at hnext
        exact hnext

/-- **What happens between two steps** keeps what holds there. -/
theorem Sound.run (h : Sound port joined todo t) (m : Move) : Sound port joined todo (m.run t) := by
  cases m with
  | change c => exact h.imp_right fun h => h.change c
  | handle =>
    obtain ⟨u, c, p⟩ := t
    rw [Move.run]
    cases hevents : p.scene.events with
    | nil => exact h
    | cons notice rest =>
      simp only
      rw [Upcall.outcome_deliver_follow]
      cases hcall : Upcall.Call.ofNotice u.datapath notice with
      | none => exact h.imp_right fun h => h.take_none hevents (h.datapath_eq ▸ hcall)
      | some call =>
        cases call with
        | forget id => exact h.imp_right fun h => h.take_forget hevents (h.datapath_eq ▸ hcall)
        | configure id =>
          have htaken : Sound port joined (fun i => i = id ∨ todo i)
              (u, (), { p with scene := { p.scene with events := rest } }) :=
            h.imp_right fun h => h.take_configure hevents (h.datapath_eq ▸ hcall)
          simp only
          rcases hconfigure : Act.outcome (Upcall.configure setter id)
            (u, (), { p with scene := { p.scene with events := rest } }) with ⟨_ | _, t'⟩
          · exact .inl rfl
          · exact htaken.configure hconfigure

theorem Sound.runAll (h : Sound port joined todo t) (moves : List Move) :
    Sound port joined todo (Move.runAll moves t) := by
  induction moves generalizing t with
  | nil => exact h
  | cons m rest ih => exact ih (h.run m)

theorem Sound.meanwhile {x : Unit} (h : Sound port joined todo t)
    (hrun : Act.outcome (liftM meanwhile : Act (Upcall × Unit × Play) Unit) t = (.ok x, t')) :
    Sound port joined todo t' := by
  rw [Act.outcome_lift] at hrun
  injection hrun with _ hrun
  rw [← hrun]
  have hnext : Sound port joined todo (t.1, (), { t.2.2 with moves := t.2.2.moves.tail }) := h
  exact hnext.runAll _

/-- **A pass** does all that was still to be done for its vports. -/
theorem Sound.configureEach {vports : List Vport}
    (h : Sound port joined (fun i => i ∈ vports.map Vport.id ∨ todo i) t)
    (hrun : Act.outcome (Upcall.configureEach setter Play.meanwhile vports) t = (.ok (), t')) :
    Sound port joined todo t' := by
  induction vports generalizing t with
  | nil => exact (h.meanwhile hrun).mono fun i hi => hi.resolve_left List.not_mem_nil
  | cons vport rest ih =>
    rw [Upcall.configureEach] at hrun
    obtain ⟨x, t₁, hmeanwhile, hrun⟩ := Act.outcome_bind_eq_ok_iff.1 hrun
    obtain ⟨b, t₂, hconfigure, hrun⟩ := Act.outcome_bind_eq_ok_iff.1 hrun
    have h₁ := h.meanwhile hmeanwhile
    refine ih (Sound.configure (h₁.mono fun i hi => ?_) hconfigure) hrun
    simpa [or_assoc] using hi

theorem surroundings_vports :
    surroundings.vports = during fun s => (.ok (s.seats.map Seat.vport), s) := rfl

theorem surroundings_subscribe :
    surroundings.subscribe = during fun s => (.ok (), { s with isJoined := true }) := rfl

theorem surroundings_listen : surroundings.listen = during fun s => (.ok s.port, s) := rfl

theorem surroundings_connect : surroundings.connect = during fun s => (.ok (), s) := rfl

theorem ok_pair_inj {α : Type} {a b : α} {s s' : Scene} :
    ((.ok a, s) : Except Failure α × Scene) = (.ok b, s') ↔ a = b ∧ s = s' := by
  simp

/-- A step on a play that is part of a takeover keeps the rest of it. -/
theorem exists_of_onSecond {α : Type} {x : Act Play α} {a : α} {u : Upcall} {c : Unit}
    (h : Act.outcome (Act.onSecond (Act.onSecond x)) (u, c, p) = (.ok a, t')) :
    ∃ p', Act.outcome x p = (.ok a, p') ∧ (u, c, p') = t' := by
  rw [Act.outcome_onSecond, Act.outcome_onSecond] at h
  injection h with hresult hstate
  exact ⟨_, Prod.ext hresult rfl, hstate⟩

/-- Looking for the vports leaves a pass to come to those that are found. -/
theorem Sound.vports {vports : List Vport} (h : Sound port joined (fun _ => True) t)
    (hrun : Act.outcome (Act.onSecond (Act.onSecond surroundings.vports)) t = (.ok vports, t')) :
    Sound port joined (· ∈ vports.map Vport.id) t' := by
  obtain ⟨u, c, p⟩ := t
  obtain ⟨p', hfind, rfl⟩ := exists_of_onSecond hrun
  rw [surroundings_vports] at hfind
  obtain ⟨before, after, s, heffect, hscene, hfaulted⟩ := exists_of_during hfind
  obtain ⟨rfl, rfl⟩ := ok_pair_inj.1 heffect
  refine h.imp (fun h => hfaulted.trans h) fun h => ?_
  have hnext := (h.changeAll before).found.changeAll after
  rw [← hscene] at hnext
  exact hnext

/-- **A pass over all vports** leaves nothing to be done. -/
theorem Sound.configureAll (h : Sound port joined (fun _ => True) t)
    (hrun : Act.outcome (Takeover.configureAll surroundings) t = (.ok (), t')) :
    Sound port joined (fun _ => False) t' := by
  rw [Takeover.configureAll, Upcall.configureAll] at hrun
  obtain ⟨x, t₁, hmeanwhile, hrun⟩ := Act.outcome_bind_eq_ok_iff.1 hrun
  obtain ⟨vports, t₂, hvports, hrun⟩ := Act.outcome_bind_eq_ok_iff.1 hrun
  have hfound := Sound.vports (h.meanwhile hmeanwhile) hvports
  exact Sound.configureEach (hfound.mono fun i hi => .inl hi) hrun

/-- Joining the events leaves a pass to come to every vport. -/
theorem Sound.subscribe {x : Unit} (h : Sound port false todo t)
    (hrun : Act.outcome (Act.onSecond (Act.onSecond surroundings.subscribe)) t = (.ok x, t')) :
    Sound port true (fun _ => True) t' := by
  obtain ⟨u, c, p⟩ := t
  obtain ⟨p', hjoin, rfl⟩ := exists_of_onSecond hrun
  rw [surroundings_subscribe] at hjoin
  obtain ⟨before, after, s, heffect, hscene, hfaulted⟩ := exists_of_during hjoin
  obtain ⟨-, rfl⟩ := ok_pair_inj.1 heffect
  refine h.imp (fun h => hfaulted.trans h) fun h => ?_
  have hnext := (h.changeAll before).join.changeAll after
  rw [← hscene] at hnext
  exact hnext

/-- **Both passes**, with the events joined in between. -/
theorem Sound.follow {x : Unit} (h : Sound port false (fun _ => True) t)
    (hrun : Act.outcome (Takeover.follow surroundings) t = (.ok x, t')) :
    Sound port true (fun _ => False) t' := by
  rw [Takeover.follow] at hrun
  obtain ⟨_, t₁, hfirst, hrun⟩ := Act.outcome_bind_eq_ok_iff.1 hrun
  obtain ⟨_, t₂, hjoin, hrun⟩ := Act.outcome_bind_eq_ok_iff.1 hrun
  rw [Act.outcome_undoing_eq_ok_iff] at hrun
  obtain ⟨_, t₃, hsecond, hrun⟩ := Act.outcome_bind_eq_ok_iff.1 hrun
  have hdone := (Sound.subscribe (h.configureAll hfirst) hjoin).configureAll hsecond
  cases hrun
  exact hdone

end Play

namespace Takeover

open Play

variable {dp : Datapath} {port : UInt32} {seats : List Seat} {cues : List Cue}
  {moves : List (List Move)}

/-- While the listener and the connection are opened, only others change the datapath. -/
theorem of_outcome_perform {p' : Play} {m : Takeover UInt32 Unit Unit}
    (h : Act.outcome (perform surroundings dp) (.start dp port seats cues moves) = (.ok m, p')) :
    m.listener = port ∧ ∃ changes p₁,
      p₁.scene = (Play.start dp port seats cues moves).scene.changeAll changes ∧
        Act.outcome (follow surroundings) (Upcall.start dp port, (), p₁) =
          (.ok (), m.upcall, (), p') := by
  rw [perform, surroundings_listen, surroundings_connect] at h
  obtain ⟨listener, p₁, hlisten, hrest⟩ := Act.outcome_bind_eq_ok_iff.1 h
  rw [Act.outcome_undoing_eq_ok_iff] at hrest
  obtain ⟨_, p₂, hdebug, hrest⟩ := Act.outcome_bind_eq_ok_iff.1 hrest
  obtain ⟨_, p₃, hconnect, hrest⟩ := Act.outcome_bind_eq_ok_iff.1 hrest
  rw [Act.outcome_undoing_eq_ok_iff] at hrest
  obtain ⟨⟨⟨_, u⟩, _⟩, p₄, hfollow, hend⟩ := Act.outcome_bind_eq_ok_iff.1 hrest
  rw [Act.outcome_carrying_eq_ok_iff, Act.outcome_carrying_eq_ok_iff] at hfollow
  clear h hrest
  obtain ⟨before₁, after₁, s₁, heffect₁, hscene₁, -⟩ := exists_of_during hlisten
  obtain ⟨before₂, after₂, s₂, heffect₂, hscene₂, -⟩ := exists_of_during hconnect
  obtain ⟨rfl, rfl⟩ := ok_pair_inj.1 heffect₁
  obtain ⟨-, rfl⟩ := ok_pair_inj.1 heffect₂
  cases hdebug
  have hport : ((Play.start dp port seats cues moves).scene.changeAll before₁).port = port :=
    Scene.port_changeAll _ _
  rw [hport] at hfollow hend
  cases hend
  refine ⟨rfl, before₁ ++ after₁ ++ (before₂ ++ after₂), p₃, ?_, hfollow⟩
  rw [hscene₂, Scene.changeAll_append, Scene.changeAll_append, Scene.changeAll_append, ← hscene₁]
  rfl

/-- Nothing is remembered of a datapath that nobody has looked at. -/
theorem inv_start :
    Scene.Inv port false (fun _ => True) (Upcall.start dp port)
      (Play.start dp port seats cues moves).scene where
  datapath_eq := rfl
  port_eq := rfl
  listener_eq := rfl
  joined_eq := rfl
  unheard _ := rfl
  remembered := nofun
  returns _ _ := trivial
  reached := nofun

/-- **Every vport is reached.** After a takeover that went well, once all events have been handled
and every vport that they announced could be pointed, the misses of each vport that is there go to
the listener, except for vports that have the number of one that was lost. -/
theorem reaches {p : Play} {m : Takeover UInt32 Unit Unit} {later : List Move}
    (hperform : Act.outcome (perform surroundings dp) (.start dp port seats cues moves) =
      (.ok m, p))
    (hhandled : (Move.runAll later (m.upcall, m.connection, p)).2.2.scene.events = [])
    (hclean : (Move.runAll later (m.upcall, m.connection, p)).2.2.faulted = false) :
    ∀ seat ∈ (Move.runAll later (m.upcall, m.connection, p)).2.2.scene.seats,
      seat.upcall = m.listener ∨
        seat.vport.id ∈ (Move.runAll later (m.upcall, m.connection, p)).2.2.scene.lost := by
  obtain ⟨hlistener, changes, p₁, hscene, hfollow⟩ := of_outcome_perform hperform
  have hstart : Sound port false (fun _ => True) (Upcall.start dp port, (), p₁) := by
    refine .inr ?_
    rw [hscene]
    exact inv_start.changeAll changes
  have hdone : Sound port true (fun _ => False) (Move.runAll later (m.upcall, m.connection, p)) :=
    (hstart.follow hfollow).runAll later
  generalize Move.runAll later (m.upcall, m.connection, p) = t at *
  have h := hdone.resolve_left (by simp [hclean])
  intro seat hseat
  rcases h.reached rfl seat hseat with hport | hnever | hdue | hlost
  · exact .inl (hport.trans (h.listener_eq.trans hlistener.symm))
  · exact hnever.elim
  · rw [Scene.due, hhandled] at hdue
    cases hdue
  · exact .inr hlost

/-- A network device as a vport. -/
def netdev (id : UInt32) (name : String) : Vport := ⟨⟨id⟩, .netdev name⟩

/-- A play in which a vport is added before the events are joined, and another one deleted, its
number reused, after the second pass has found it. -/
def busy : Play :=
  .start ⟨9⟩ 500 [⟨netdev 1 "eth1", 0⟩] []
    [[], [.change (.add (netdev 2 "eth2"))], [],
      [], [.change (.delete ⟨1⟩), .change (.add (netdev 1 "eth3"))], [.handle],
      [.change (.renew ⟨2⟩), .change (.announce ⟨1, ⟨8⟩, netdev 4 "eth4"⟩)]]

/-- What the takeover has made of `busy`. -/
def busyTakeover : Takeover UInt32 Unit Unit := ⟨500, (), (), ⟨⟨9⟩, 500, [⟨2⟩]⟩⟩

/-- What `busy` has become after the takeover. The vport that has the number of another one still
waits among the events. -/
def busyAfter : Play :=
  ⟨⟨⟨9⟩, 500, [⟨netdev 2 "eth2", 500⟩, ⟨netdev 1 "eth3", 0⟩], true,
    [⟨1, ⟨9⟩, netdev 1 "eth3"⟩, ⟨1, ⟨9⟩, netdev 2 "eth2"⟩, ⟨1, ⟨8⟩, netdev 4 "eth4"⟩], []⟩,
    [], [], false⟩

/-- The moves that are left after `busy`. -/
def busyLater : List Move := [.handle, .handle, .handle]

theorem reaches_busy :
    Act.outcome (perform surroundings ⟨9⟩) busy = (.ok busyTakeover, busyAfter) ∧
      ∀ seat ∈ (Move.runAll busyLater (busyTakeover.upcall, (), busyAfter)).2.2.scene.seats,
        seat.upcall = 500 := by
  have hperform : Act.outcome (perform surroundings ⟨9⟩) busy = (.ok busyTakeover, busyAfter) := by
    cbv
  have hhandled :
      (Move.runAll busyLater (busyTakeover.upcall, (), busyAfter)).2.2.scene.events = [] := by
    decide +kernel
  have hnone :
      (Move.runAll busyLater (busyTakeover.upcall, (), busyAfter)).2.2.scene.lost = [] := by
    decide +kernel
  refine ⟨hperform, fun seat hseat => ?_⟩
  rcases reaches hperform hhandled (by decide +kernel) seat hseat with hport | hlost
  · exact hport
  · rw [hnone] at hlost
    cases hlost

/-- A play in which a vport is deleted after the first pass has pointed it, before the events are
joined, and its number reused. -/
def reusing : Play :=
  .start ⟨9⟩ 500 [⟨netdev 7 "eth7", 0⟩] []
    [[], [], [.change (.delete ⟨7⟩), .change (.add (netdev 7 "eth9"))]]

/-- **A reused number is taken for one that has been reached.** The takeover goes well and no event
is left, yet the misses of the only vport go nowhere. -/
theorem misses_reused :
    ∃ m p, Act.outcome (perform surroundings ⟨9⟩) reusing = (.ok m, p) ∧ p.scene.events = [] ∧
      p.faulted = false ∧ p.scene.seats = [⟨netdev 7 "eth9", 0⟩] ∧ m.listener = 500 := by
  have hperform : Act.outcome (perform surroundings ⟨9⟩) reusing =
      (.ok ⟨500, (), (), ⟨⟨9⟩, 500, [⟨7⟩]⟩⟩,
        ⟨⟨⟨9⟩, 500, [⟨netdev 7 "eth9", 0⟩], true, [], [⟨7⟩]⟩, [], [], false⟩) := by
    cbv
  exact ⟨_, _, hperform, rfl, rfl, rfl, rfl⟩

end Takeover

end VSwitch
