import VSwitch.Proofs.Outcome
import VSwitch.Upcall

/-!
# What an upcall port remembers

A vport is pointed at an upcall port by a request, which may fail, and it is forgotten when it has
been deleted. Passes over all vports and events about single ones ask for the same vports again and
again, in any order, and each request that goes well makes the kernel announce the vport once more.
What the port remembers keeps all this from sending more than one request for each life of a vport
that goes well.

* `VSwitch.Upcall.outcome_configure` is what pointing a vport does, and
  `VSwitch.Upcall.outcome_deliver_follow` what an event does: it makes the call that
  `VSwitch.Upcall.Call.ofNotice` reads off it, if any;
* `VSwitch.Upcall.noting` is a setter that notes what it is asked, and
  `VSwitch.Upcall.Call.runAll` makes calls one after the other and notes them;
* `VSwitch.Upcall.Sparing` is what the notes of calls are always like, and
  `VSwitch.Upcall.kept_runAll` that what is remembered agrees with them;
* `VSwitch.Upcall.sparing_calls` is the result on all calls.
-/

namespace VSwitch

namespace Upcall

/-! ### Single calls -/

/-- The line about a vport that has been pointed at the port. -/
def pointedLine (u : Upcall) (id : VportId) : Line :=
  ⟨.debug, some (s!"Misses of vport {id} of datapath {u.datapath.ifindex} " ++
    s!"go to port ID {u.port}")⟩

/-- A use of what points vports, by a pass over all of them or by an event. -/
inductive Call
  /-- A vport is to be pointed at the port. -/
  | configure (id : VportId)
  /-- A vport has been deleted. -/
  | forget (id : VportId)
  deriving DecidableEq, Repr

/-- The call that an event makes for the port of a datapath, if any: only vports that come to the
datapath and vports that go from it matter. -/
def Call.ofNotice (dp : Datapath) (notice : VportNotice) : Option Call :=
  if notice.datapath = dp then
    match (Vocabulary.ofNumber notice.command : ObjectCommand) with
    | .new => some (.configure notice.vport.id)
    | .del => some (.forget notice.vport.id)
    | _ => none
  else none

theorem isConfigured_iff {u : Upcall} {id : VportId} :
    u.isConfigured id = true ↔ id ∈ u.configured := by
  simp [isConfigured]

theorem isConfigured_remember (u : Upcall) (id id' : VportId) :
    (u.remember id).isConfigured id' = (decide (id = id') || u.isConfigured id') := by
  rw [Bool.eq_iff_iff, isConfigured_iff, remember]
  simp [isConfigured, eq_comm (a := id)]

theorem isConfigured_forget (u : Upcall) (id id' : VportId) :
    (u.forget id).isConfigured id' = (!decide (id = id') && u.isConfigured id') := by
  rw [Bool.eq_iff_iff, isConfigured_iff, forget]
  simp [isConfigured, and_comm, eq_comm (a := id)]

section

variable {σ : Type} [Journal σ]

/-- **Pointing a vport**: the setter is asked unless the vport is remembered, and the vport is
remembered if that goes well. -/
theorem outcome_configure (set : Setter σ) (id : VportId) (u : Upcall) (s : σ) :
    Act.outcome (configure set id) (u, s) =
      if u.isConfigured id = true then (.ok false, u, s)
      else match Act.outcome (set u.datapath id u.port) s with
        | (.ok _, s') => (.ok true, u.remember id, Journal.write (u.pointedLine id) s')
        | (.error e, s') => (.error e, u, s') := by
  rw [configure, Act.outcome_bind, Act.outcome_get]
  simp only
  by_cases h : u.isConfigured id = true
  · rw [if_pos h, if_pos h]
    rfl
  · rw [if_neg h, if_neg h, Act.outcome_bind, Act.outcome_onSecond]
    rcases Act.outcome (set u.datapath id u.port) s with ⟨_ | _, s'⟩
    · rfl
    · rfl

/-- **An event** makes the call that is read off it. -/
theorem outcome_deliver_follow (set : Setter σ) (consumer : MissConsumer σ) (notice : VportNotice)
    (u : Upcall) (s : σ) :
    Act.outcome (VportEvents.deliver (follow set consumer) notice) (u, s) =
      match Call.ofNotice u.datapath notice with
      | some (.configure id) =>
        ((Act.outcome (configure set id) (u, s)).1.map fun _ => (),
          (Act.outcome (configure set id) (u, s)).2)
      | some (.forget id) => (.ok (), u.forget id, s)
      | none => (.ok (), u, s) := by
  rw [VportEvents.deliver, Call.ofNotice]
  cases (Vocabulary.ofNumber notice.command : ObjectCommand) with
  | new =>
    simp only [follow]
    rw [Act.outcome_bind, Act.outcome_get]
    by_cases h : notice.datapath = u.datapath
    · simp only [h, if_true]
      rw [Act.outcome_bind]
      rcases Act.outcome (configure set notice.vport.id) (u, s) with ⟨_ | _, _⟩
      · rfl
      · rfl
    · simp only [h, if_false]
      rfl
  | del =>
    simp only [follow]
    rw [Act.outcome_bind, Act.outcome_get]
    by_cases h : notice.datapath = u.datapath
    · simp only [h, if_true]
      rfl
    · simp only [h, if_false]
      rfl
  | _ =>
    by_cases h : notice.datapath = u.datapath
    · simp only [h, if_true]
      rfl
    · simp only [h, if_false]
      rfl

end

/-! ### Notes -/

/-- What has happened. -/
inductive Note
  /-- The setter was asked to point a vport of a datapath at a port, and may have done so. -/
  | asked (datapath : Datapath) (id : VportId) (port : UInt32) (done : Bool)
  /-- A vport was forgotten. -/
  | forgot (id : VportId)
  deriving DecidableEq, Repr

namespace Note

/-- Whether a vport was pointed. -/
def points (id : VportId) : Note → Bool
  | asked _ id' _ done => done && decide (id' = id)
  | forgot _ => false

/-- Whether a vport was forgotten. -/
def forgets (id : VportId) : Note → Bool
  | asked _ _ _ _ => false
  | forgot id' => decide (id' = id)

/-- Whether a vport has been pointed since it was last forgotten. The newest note comes first. -/
def pointed (id : VportId) : List Note → Bool
  | [] => false
  | note :: earlier => note.points id || (!note.forgets id && pointed id earlier)

end Note

/-- Notes, the newest first, in which the setter was asked for vports of one datapath and for one
port only, and never for a vport that was pointed at the time. -/
inductive Sparing (dp : Datapath) (port : UInt32) : List Note → Prop
  /-- Nothing has happened. -/
  | nil : Sparing dp port []
  /-- The setter was asked for a vport that was not pointed. -/
  | asked {notes : List Note} {id : VportId} (h : Sparing dp port notes)
      (hopen : Note.pointed id notes = false) (done : Bool) :
      Sparing dp port (.asked dp id port done :: notes)
  /-- A vport was forgotten. -/
  | forgot {notes : List Note} (h : Sparing dp port notes) (id : VportId) :
      Sparing dp port (.forgot id :: notes)

namespace Sparing

open Note

variable {dp : Datapath} {port : UInt32} {notes : List Note}

theorem of_append {later earlier : List Note} (h : Sparing dp port (later ++ earlier)) :
    Sparing dp port earlier := by
  induction later with
  | nil => exact h
  | cons note later ih =>
    cases h with
    | asked h hopen done => exact ih h
    | forgot h id => exact ih h

theorem own (h : Sparing dp port notes) {dp' : Datapath} {id : VportId} {port' : UInt32}
    {done : Bool} (hmem : .asked dp' id port' done ∈ notes) : dp' = dp ∧ port' = port := by
  induction h with
  | nil => cases hmem
  | asked h hopen done ih =>
    rcases List.mem_cons.1 hmem with heq | hmem
    · cases heq
      exact ⟨rfl, rfl⟩
    · exact ih hmem
  | forgot h id ih =>
    rcases List.mem_cons.1 hmem with heq | hmem
    · cases heq
    · exact ih hmem

/-- In a stretch of notes that does not say that a vport was forgotten, the vport is pointed once if
it is pointed behind the stretch and was not in front of it, and else not at all. -/
theorem countP_points (id : VportId) {stretch earlier : List Note}
    (h : Sparing dp port (stretch ++ earlier)) (hkept : .forgot id ∉ stretch) :
    stretch.countP (points id) + (pointed id earlier).toNat =
      (pointed id (stretch ++ earlier)).toNat := by
  induction stretch with
  | nil => simp
  | cons note stretch ih =>
    rw [List.mem_cons, not_or] at hkept
    rw [List.cons_append] at h ⊢
    rw [List.countP_cons, pointed]
    cases h with
    | @asked _ id' h hopen done =>
      have hrest := ih h hkept.2
      by_cases hpoints : points id (.asked dp id' port done) = true
      · obtain ⟨-, rfl⟩ : done = true ∧ id' = id := by simpa [points] using hpoints
        rw [hopen] at hrest
        simp only [hpoints, if_true, Bool.true_or, Bool.toNat_true, Bool.toNat_false] at hrest ⊢
        omega
      · simpa [hpoints, forgets] using hrest
    | @forgot _ h id' =>
      have hne : id' ≠ id := fun he => hkept.1 (he ▸ rfl)
      simpa [points, forgets, hne] using ih h hkept.2

/-- A vport is not pointed more often than it is forgotten, but for the last time if that holds. -/
theorem countP_points_le (h : Sparing dp port notes) (id : VportId) :
    notes.countP (points id) ≤ notes.countP (forgets id) + (pointed id notes).toNat := by
  induction h with
  | nil => simp
  | @asked notes id' h hopen done ih =>
    rw [List.countP_cons, List.countP_cons, pointed]
    by_cases hpoints : points id (.asked dp id' port done) = true
    · obtain ⟨-, rfl⟩ : done = true ∧ id' = id := by simpa [points] using hpoints
      rw [hopen] at ih
      simpa [hpoints, forgets] using ih
    · simpa [hpoints, forgets] using ih
  | @forgot notes h id' ih =>
    rw [List.countP_cons, List.countP_cons, pointed]
    by_cases he : id' = id
    · have hone := Bool.toNat_le (pointed id notes)
      simp only [points, forgets, he, decide_true, if_true, Bool.false_eq_true, if_false,
        Bool.not_true, Bool.false_and, Bool.or_self, Bool.toNat_false]
      omega
    · simpa [points, forgets, he] using ih

/-- What is pointed was pointed by the setter at some time, and has not been forgotten since. -/
theorem pointed_iff (h : Sparing dp port notes) (id : VportId) :
    pointed id notes = true ↔
      ∃ later earlier, notes = later ++ .asked dp id port true :: earlier ∧
        .forgot id ∉ later := by
  induction h with
  | nil => simp [pointed]
  | @asked notes id' h hopen done ih =>
    by_cases hpoints : done = true ∧ id' = id
    · obtain ⟨rfl, rfl⟩ := hpoints
      refine iff_of_true (by simp [pointed, points]) ⟨[], notes, rfl, List.not_mem_nil⟩
    · have hpointed : pointed id (.asked dp id' port done :: notes) = pointed id notes := by
        have : points id (.asked dp id' port done) = false := by simpa [points] using hpoints
        simp [pointed, this, forgets]
      rw [hpointed, ih]
      constructor
      · rintro ⟨later, earlier, rfl, hkept⟩
        exact ⟨.asked dp id' port done :: later, earlier, rfl, by simpa using hkept⟩
      · rintro ⟨_ | ⟨note, later⟩, earlier, heq, hkept⟩
        · cases heq
          exact absurd ⟨rfl, rfl⟩ hpoints
        · injection heq with _ heq
          exact ⟨later, earlier, heq, fun hmem => hkept (List.mem_cons_of_mem _ hmem)⟩
  | @forgot notes h id' ih =>
    by_cases he : id' = id
    · subst he
      refine iff_of_false (by simp [pointed, points, forgets]) ?_
      rintro ⟨_ | ⟨note, later⟩, earlier, heq, hkept⟩
      · cases heq
      · injection heq with heq _
        exact hkept (heq ▸ List.mem_cons_self)
    · have hpointed : pointed id (.forgot id' :: notes) = pointed id notes := by
        simp [pointed, points, forgets, he]
      rw [hpointed, ih]
      constructor
      · rintro ⟨later, earlier, rfl, hkept⟩
        refine ⟨.forgot id' :: later, earlier, rfl, ?_⟩
        rintro hmem
        rcases List.mem_cons.1 hmem with heq | hmem
        · cases heq
          exact he rfl
        · exact hkept hmem
      · rintro ⟨_ | ⟨note, later⟩, earlier, heq, hkept⟩
        · cases heq
        · injection heq with _ heq
          exact ⟨later, earlier, heq, fun hmem => hkept (List.mem_cons_of_mem _ hmem)⟩

end Sparing

/-! ### Calls one after the other -/

section

variable {σ : Type} [Journal σ]

/-- A setter that notes what it is asked and whether it has done so, the newest note first. -/
def noting (set : Setter σ) : Setter (List Note × σ) := fun dp id port (notes, s) =>
  let (r, s') := Act.outcome (set dp id port) s
  (r, .asked dp id port r.isOk :: notes, s')

namespace Call

/-- Makes a call and notes it. -/
def run (set : Setter σ) : Call → Upcall × List Note × σ → Upcall × List Note × σ
  | configure id, t => (Act.outcome (Upcall.configure (noting set) id) t).2
  | forget id, t => (t.1.forget id, .forgot id :: t.2.1, t.2.2)

/-- Makes calls one after the other and notes them. -/
def runAll (set : Setter σ) : List Call → Upcall × List Note × σ → Upcall × List Note × σ
  | [], t => t
  | call :: rest, t => runAll set rest (call.run set t)

end Call

/-- What is remembered agrees with the notes, which are sparing. -/
structure Kept (dp : Datapath) (port : UInt32) (t : Upcall × List Note × σ) : Prop where
  datapath_eq : t.1.datapath = dp
  port_eq : t.1.port = port
  sparing : Sparing dp port t.2.1
  configured : ∀ id, t.1.isConfigured id = Note.pointed id t.2.1

theorem outcome_configure_noting (set : Setter σ) (id : VportId) (u : Upcall) (notes : List Note)
    (s : σ) :
    Act.outcome (configure (noting set) id) (u, notes, s) =
      if u.isConfigured id = true then (.ok false, u, notes, s)
      else match Act.outcome (set u.datapath id u.port) s with
        | (.ok _, s') => (.ok true, u.remember id, .asked u.datapath id u.port true :: notes,
            Journal.write (u.pointedLine id) s')
        | (.error e, s') => (.error e, u, .asked u.datapath id u.port false :: notes, s') := by
  have hset : Act.outcome (noting set u.datapath id u.port) (notes, s) =
      ((Act.outcome (set u.datapath id u.port) s).1,
        .asked u.datapath id u.port (Act.outcome (set u.datapath id u.port) s).1.isOk :: notes,
        (Act.outcome (set u.datapath id u.port) s).2) := rfl
  rw [outcome_configure, hset]
  rcases Act.outcome (set u.datapath id u.port) s with ⟨_ | _, s'⟩
  · rfl
  · rfl

variable {dp : Datapath} {port : UInt32} {t : Upcall × List Note × σ}

omit [Journal σ] in
theorem kept_start (dp : Datapath) (port : UInt32) (s : σ) :
    Kept dp port (start dp port, [], s) where
  datapath_eq := rfl
  port_eq := rfl
  sparing := .nil
  configured _ := rfl

/-- Each call keeps to the notes. -/
theorem kept_run (set : Setter σ) (call : Call) (h : Kept dp port t) :
    Kept dp port (call.run set t) := by
  obtain ⟨u, notes, s⟩ := t
  obtain ⟨rfl, rfl, hnotes, hconfigured⟩ := h
  dsimp only at hnotes hconfigured
  cases call with
  | configure id =>
    rw [Call.run, outcome_configure_noting]
    by_cases hid : u.isConfigured id = true
    · rw [if_pos hid]
      exact ⟨rfl, rfl, hnotes, hconfigured⟩
    · rw [if_neg hid]
      have hopen : Note.pointed id notes = false := by
        rw [← hconfigured]
        exact Bool.eq_false_iff.2 hid
      rcases Act.outcome (set u.datapath id u.port) s with ⟨e | _, s'⟩
      · refine ⟨rfl, rfl, hnotes.asked hopen false, fun id' => ?_⟩
        simp [Note.pointed, Note.points, Note.forgets, hconfigured]
      · refine ⟨rfl, rfl, hnotes.asked hopen true, fun id' => ?_⟩
        simp [Note.pointed, Note.points, Note.forgets, isConfigured_remember, hconfigured]
  | forget id =>
    refine ⟨rfl, rfl, hnotes.forgot id, fun id' => ?_⟩
    simp [Call.run, Note.pointed, Note.points, Note.forgets, isConfigured_forget, hconfigured]

/-- **Calls keep to the notes**, as many as there are. -/
theorem kept_runAll (set : Setter σ) (calls : List Call) (h : Kept dp port t) :
    Kept dp port (Call.runAll set calls t) := by
  induction calls generalizing t with
  | nil => exact h
  | cons call rest ih => exact ih (kept_run set call h)

/-- A vport that is not remembered is asked for again. -/
theorem exists_asked (set : Setter σ) {id : VportId} (h : Kept dp port t)
    (hopen : t.1.isConfigured id = false) :
    ∃ done, ((Call.configure id).run set t).2.1 = .asked dp id port done :: t.2.1 := by
  obtain ⟨u, notes, s⟩ := t
  obtain ⟨rfl, rfl, -, -⟩ := h
  rw [Call.run, outcome_configure_noting, if_neg (Bool.eq_false_iff.1 hopen)]
  rcases Act.outcome (set u.datapath id u.port) s with ⟨e | _, s'⟩
  · exact ⟨false, rfl⟩
  · exact ⟨true, rfl⟩

/-- Only pointing a vport makes it remembered. -/
theorem isConfigured_runAll_eq_false (set : Setter σ) {id : VportId} {calls : List Call}
    (hcalls : .configure id ∉ calls) (hopen : t.1.isConfigured id = false) :
    (Call.runAll set calls t).1.isConfigured id = false := by
  induction calls generalizing t with
  | nil => exact hopen
  | cons call rest ih =>
    rw [List.mem_cons, not_or] at hcalls
    refine ih hcalls.2 ?_
    obtain ⟨u, notes, s⟩ := t
    cases call with
    | configure id' =>
      have hne : id' ≠ id := fun he => hcalls.1 (he ▸ rfl)
      rw [Call.run, outcome_configure_noting]
      by_cases hid : u.isConfigured id' = true
      · rw [if_pos hid]
        exact hopen
      · rw [if_neg hid]
        rcases Act.outcome (set u.datapath id' u.port) s with ⟨e | _, s'⟩
        · exact hopen
        · rw [isConfigured_remember, decide_eq_false hne]
          exact hopen
    | forget id' =>
      rw [Call.run, isConfigured_forget, hopen, Bool.and_false]

theorem of_outcome_configure_noting (set : Setter σ) {id : VportId} {e : Failure}
    {t' : Upcall × List Note × σ} (h : Act.outcome (configure (noting set) id) t = (.error e, t')) :
    t' = (Call.configure id).run set t ∧ t'.1 = t.1 ∧ t.1.isConfigured id = false := by
  have hrun : (Call.configure id).run set t = t' := by rw [Call.run, h]
  obtain ⟨u, notes, s⟩ := t
  rw [outcome_configure_noting] at h
  by_cases hid : u.isConfigured id = true
  · rw [if_pos hid] at h
    cases h
  · rw [if_neg hid] at h
    rcases hset : Act.outcome (set u.datapath id u.port) s with ⟨_ | _, s'⟩
    · rw [hset] at h
      cases h
      exact ⟨hrun.symm, rfl, Bool.eq_false_iff.2 hid⟩
    · rw [hset] at h
      cases h

/-- **Each vport is pointed at most once in its life.** Let there be any calls on an upcall port that
starts without vports, in any order, and a setter that does what it is asked or fails. Then

* in a stretch of what has happened in which a vport is not forgotten, the setter points it at most
  once, so in all it points it at most once more than it is forgotten;
* a vport is remembered exactly if the setter has pointed it and it has not been forgotten since;
* the setter is only asked for vports of the datapath of the port, and for this port;
* whenever a vport that is not remembered is to be pointed, the setter is asked;
* if pointing a vport fails, what is remembered stays as it is, and the next time that the vport is
  to be pointed, whatever happens before, the setter is asked again. -/
theorem sparing_calls (set : Setter σ) (dp : Datapath) (port : UInt32) (calls : List Call) (s : σ) :
    let t := Call.runAll set calls (start dp port, [], s)
    (∀ id stretch, stretch <:+: t.2.1 → .forgot id ∉ stretch →
        stretch.countP (Note.points id) ≤ 1) ∧
      (∀ id, t.2.1.countP (Note.points id) ≤ t.2.1.countP (Note.forgets id) + 1) ∧
      (∀ id, t.1.isConfigured id = true ↔
        ∃ later earlier, t.2.1 = later ++ .asked dp id port true :: earlier ∧
          .forgot id ∉ later) ∧
      (∀ dp' id port' done, .asked dp' id port' done ∈ t.2.1 → dp' = dp ∧ port' = port) ∧
      (∀ id, t.1.isConfigured id = false →
        ∃ done, ((Call.configure id).run set t).2.1 = .asked dp id port done :: t.2.1) ∧
      ∀ id e t', Act.outcome (configure (noting set) id) t = (.error e, t') →
        t'.1 = t.1 ∧ ∀ between, .configure id ∉ between →
          ∃ done, ((Call.configure id).run set (Call.runAll set between t')).2.1 =
            .asked dp id port done :: (Call.runAll set between t').2.1 := by
  intro t
  have hkept : Kept dp port t := kept_runAll set calls (kept_start dp port s)
  refine ⟨?_, ?_, ?_, ?_, fun id hopen => exists_asked set hkept hopen, ?_⟩
  · rintro id stretch ⟨later, earlier, hnotes⟩ hstretch
    have hsparing : Sparing dp port (later ++ (stretch ++ earlier)) := by
      rw [← List.append_assoc, hnotes]
      exact hkept.sparing
    have hcount := hsparing.of_append.countP_points id hstretch
    have hone := Bool.toNat_le (Note.pointed id (stretch ++ earlier))
    omega
  · intro id
    have hcount := hkept.sparing.countP_points_le id
    have hone := Bool.toNat_le (Note.pointed id t.2.1)
    omega
  · intro id
    rw [hkept.configured id]
    exact hkept.sparing.pointed_iff id
  · intro dp' id port' done hmem
    exact hkept.sparing.own hmem
  · intro id e t' hfails
    obtain ⟨hrun, hsame, hopen⟩ := of_outcome_configure_noting set hfails
    refine ⟨hsame, fun between hbetween => ?_⟩
    have hkept' : Kept dp port t' := hrun ▸ kept_run set (.configure id) hkept
    refine exists_asked set (kept_runAll set between hkept') ?_
    exact isConfigured_runAll_eq_false set hbetween (hsame.symm ▸ hopen)

end

/-- A setter that refuses so many times what it is asked, and then does it. -/
def reluctant : Setter (Nat × Logbook) := fun _ _ _ (refusals, book) =>
  match refusals with
  | 0 => (.ok (), 0, book)
  | later + 1 => (.error .closed, later, book)

/-- What has happened when a vport is to be pointed and the setter refuses. -/
def refusedOnce : Upcall × List Note × Nat × Logbook :=
  ⟨start ⟨9⟩ 77, [.asked ⟨9⟩ ⟨7⟩ 77 false], 0, .empty⟩

/-- A vport whose setting has been refused is not remembered. The next time that it is to be pointed
the setter is asked again, and the time after that it is not. -/
theorem sparing_calls_reluctant :
    Act.outcome (configure (noting reluctant) ⟨7⟩) (start ⟨9⟩ 77, [], 1, .empty) =
        (.error .closed, refusedOnce) ∧
      (∃ done, ((Call.configure ⟨7⟩).run reluctant
          (Call.runAll reluctant [.forget ⟨8⟩] refusedOnce)).2.1 =
        .asked ⟨9⟩ ⟨7⟩ 77 done :: (Call.runAll reluctant [.forget ⟨8⟩] refusedOnce).2.1) ∧
      (Call.runAll reluctant [.configure ⟨7⟩, .configure ⟨7⟩] refusedOnce).2.1 =
        [.asked ⟨9⟩ ⟨7⟩ 77 true, .asked ⟨9⟩ ⟨7⟩ 77 false] := by
  have hrefused : Act.outcome (configure (noting reluctant) ⟨7⟩) (start ⟨9⟩ 77, [], 1, .empty) =
    (.error .closed, refusedOnce) := rfl
  obtain ⟨-, -, -, -, -, hfails⟩ := sparing_calls reluctant ⟨9⟩ 77 [] (1, .empty)
  obtain ⟨-, hagain⟩ := hfails ⟨7⟩ .closed refusedOnce hrefused
  exact ⟨hrefused, hagain [.forget ⟨8⟩] (by decide), by decide⟩

end Upcall

end VSwitch
