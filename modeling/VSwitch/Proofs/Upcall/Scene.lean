import VSwitch.Proofs.Upcall.Calls
import VSwitch.Takeover

/-!
# A datapath that changes meanwhile

While the misses of a datapath are taken over, others add vports to it and delete vports from it,
under numbers that may have been in use before, and the events about this are handled by a listener
of their own. To speak of every order in which all this may happen, what is going to happen is written
down beforehand: what others change around each request, whether the request fails, and what others
do between two steps.

* `VSwitch.Scene` is the datapath in the kernel: its vports, each with the port that its misses go to,
  and the events that wait for whoever has joined their group;
* `VSwitch.Scene.change` is what others do to it, and `VSwitch.Scene.point` what a request to point a
  vport does;
* `VSwitch.Play` is a scene with what is going to happen, `VSwitch.Play.during` a request in it and
  `VSwitch.Move.run` what happens between two steps;
* `VSwitch.Play.surroundings` is what a takeover makes use of, on a play.
-/

namespace VSwitch

/-! ### The kernel's side -/

/-- A vport in the kernel. -/
structure Seat where
  /-- The vport. -/
  vport : Vport
  /-- The port that its misses go to, or zero. -/
  upcall : UInt32
  deriving DecidableEq, Repr

/-- What others change. -/
inductive Change
  /-- A vport is added to the datapath, unless its number is taken. Its misses go nowhere. -/
  | add (vport : Vport)
  /-- A vport is deleted from the datapath. -/
  | delete (id : VportId)
  /-- A vport that is there is announced as new once more. Some kernels do so after they have pointed
  a vport. -/
  | renew (id : VportId)
  /-- Something is announced that is neither: something about another datapath, for example. -/
  | announce (notice : VportNotice)
  deriving DecidableEq, Repr

/-- A datapath in the kernel. -/
structure Scene where
  /-- The datapath. -/
  datapath : Datapath
  /-- The port that a listener for misses gets. -/
  port : UInt32
  /-- The vports. -/
  seats : List Seat
  /-- Whether the group of the events has been joined. -/
  isJoined : Bool
  /-- The events that have not been handled, the oldest first. -/
  events : List VportNotice
  /-- Numbers of vports that misses were taken from when they were deleted without an event, and of
  whose deletion there has been no event since. -/
  lost : List VportId
  deriving DecidableEq

namespace Scene

/-- The vport of a number, if there is one. -/
def find? (s : Scene) (id : VportId) : Option Seat := s.seats.find? fun seat => seat.vport.id = id

/-- What is announced of a vport of the datapath. -/
def notice (s : Scene) (command : ObjectCommand) (vport : Vport) : VportNotice :=
  ⟨Vocabulary.number command, s.datapath, vport⟩

/-- The events that wait after something has been announced to whoever has joined the group. -/
def heard (s : Scene) (notice : VportNotice) : List VportNotice :=
  if s.isJoined then s.events ++ [notice] else s.events

/-- A vport is added, and its misses go nowhere. -/
def add (s : Scene) (vport : Vport) : Scene :=
  { s with
    seats := s.seats ++ [⟨vport, 0⟩]
    events := s.heard (s.notice .new vport) }

/-- A vport is deleted. -/
def delete (s : Scene) (seat : Seat) : Scene :=
  { s with
    seats := s.seats.filter fun other => other.vport.id ≠ seat.vport.id
    events := s.heard (s.notice .del seat.vport)
    lost :=
      if s.isJoined then s.lost.filter (· ≠ seat.vport.id)
      else if seat.upcall = s.port then seat.vport.id :: s.lost else s.lost }

/-- A vport is announced as new. -/
def renew (s : Scene) (seat : Seat) : Scene :=
  { s with events := s.heard (s.notice .new seat.vport) }

/-- Others change something. -/
def change (s : Scene) : Change → Scene
  | .add vport => if (s.find? vport.id).isNone then s.add vport else s
  | .delete id => (s.find? id).elim s s.delete
  | .renew id => (s.find? id).elim s s.renew
  | .announce notice =>
    if Upcall.Call.ofNotice s.datapath notice = none then { s with events := s.heard notice } else s

/-- Others change one thing after the other. -/
def changeAll (s : Scene) (changes : List Change) : Scene := changes.foldl change s

/-- The answer to a request about what is not there. -/
def missing : Failure := .kernel ⟨-Errno.noDevice, ⟨0, 0, 0, 0, 0⟩⟩

/-- The seat of a vport of a number, pointed at a port. -/
def pointed (id : VportId) (port : UInt32) (seat : Seat) : Seat :=
  if seat.vport.id = id then { seat with upcall := port } else seat

/-- A vport is pointed at a port. -/
def redirect (s : Scene) (id : VportId) (port : UInt32) : Scene :=
  { s with seats := s.seats.map (pointed id port) }

/-- A request to point a vport of a datapath at a port. -/
def point (dp : Datapath) (id : VportId) (port : UInt32) (s : Scene) : Except Failure Unit × Scene :=
  if dp = s.datapath ∧ (s.find? id).isSome then (.ok (), s.redirect id port) else (.error missing, s)

end Scene

/-! ### What is going to happen -/

/-- What happens around a request. -/
structure Cue where
  /-- What others change before it. -/
  before : List Change
  /-- What it fails with, if it does for a reason of its own. -/
  fault? : Option Failure
  /-- What others change after it, before the outcome of the request is known. -/
  after : List Change
  deriving DecidableEq

/-- What happens between two steps. -/
inductive Move
  /-- Others change something. -/
  | change (c : Change)
  /-- The listener for vport events handles the oldest event that waits, if there is one. -/
  | handle
  deriving DecidableEq

/-- A scene with what is going to happen. -/
structure Play where
  /-- The scene. -/
  scene : Scene
  /-- What happens around the next requests; nothing happens around those after them. -/
  cues : List Cue
  /-- What happens between the next steps; nothing happens between those after them. -/
  moves : List (List Move)
  /-- Whether a vport that an event announced could not be pointed. -/
  faulted : Bool
  deriving DecidableEq

/-- Nobody reads the journal of a play. -/
instance : Journal Play where
  write _ p := p

namespace Play

/-- The play of a datapath whose events nobody has joined yet. -/
def start (dp : Datapath) (port : UInt32) (seats : List Seat) (cues : List Cue)
    (moves : List (List Move)) : Play :=
  ⟨⟨dp, port, seats, false, [], []⟩, cues, moves, false⟩

/-- A request with the given effect, unless it fails for a reason of its own. -/
def during {α : Type} (effect : Scene → Except Failure α × Scene) : Act Play α := fun p =>
  let cue := p.cues.headD ⟨[], none, []⟩
  let scene := p.scene.changeAll cue.before
  let (r, scene) : Except Failure α × Scene :=
    match cue.fault? with
    | some e => (.error e, scene)
    | none => effect scene
  (r, { p with scene := scene.changeAll cue.after, cues := p.cues.tail })

/-- Points a vport. -/
def setter : Setter (Unit × Play) := fun dp id port => Act.onSecond (during (Scene.point dp id port))

/-- What takes misses; there are none. -/
def idle : MissConsumer (Unit × Play) := ⟨fun _ => pure (), fun _ _ => pure ()⟩

end Play

/-- What happens between two steps. -/
def Move.run (t : Upcall × Unit × Play) : Move → Upcall × Unit × Play
  | .change c => (t.1, (), { t.2.2 with scene := t.2.2.scene.change c })
  | .handle =>
    match t.2.2.scene.events with
    | [] => t
    | notice :: rest =>
      let handling := VportEvents.deliver (Upcall.follow Play.setter Play.idle) notice
      let scene := { t.2.2.scene with events := rest }
      match Act.outcome handling (t.1, (), { t.2.2 with scene }) with
      | (.ok (), t') => t'
      | (.error _, t') => (t'.1, (), { t'.2.2 with faulted := true })

/-- One move after the other. -/
def Move.runAll (moves : List Move) (t : Upcall × Unit × Play) : Upcall × Unit × Play :=
  moves.foldl Move.run t

namespace Play

/-- What happens between the next two steps. -/
def meanwhile : StateM (Upcall × Unit × Play) Unit := fun t =>
  ((), Move.runAll (t.2.2.moves.headD []) (t.1, (), { t.2.2 with moves := t.2.2.moves.tail }))

/-- What a takeover makes use of: a listener is known by its port, and there is one connection and
one subscription. -/
def surroundings : Surroundings Play UInt32 Unit Unit where
  listen := during fun s => (.ok s.port, s)
  portOf port := port
  stopListening _ := pure ()
  connect := during fun s => (.ok (), s)
  disconnect _ := pure ()
  vports := during fun s => (.ok (s.seats.map Seat.vport), s)
  set := setter
  subscribe := during fun s => (.ok (), { s with isJoined := true })
  unsubscribe _ := pure ()
  meanwhile := meanwhile

end Play

end VSwitch
