import VSwitch.Recorder
import VSwitch.Vport

/-!
# Switchboards

A switchboard is a session that keeps upcall ports under names, as programs with several of them
do. An upcall port points vports by way of the session or, to try it out, only notes that it would.

* `VSwitch.Switchboard.use` runs a computation over one of the upcall ports.
-/

namespace VSwitch

/-- An upcall port on a switchboard. -/
structure UpcallSeat where
  /-- The port with the vports that point at it. -/
  upcall : Upcall
  /-- The vports that it is refused, if it only notes what it would do. -/
  refused? : Option (List VportId)
  deriving DecidableEq, Repr

/-- How the upcall port points vports. -/
def UpcallSeat.setter (s : UpcallSeat) : Setter (Noted Session) :=
  match s.refused? with
  | none => fun dp id port => Act.onSecond (Vport.setUpcall dp id port)
  | some refused => Recorder.setter refused

/-- A session that keeps upcall ports under names. -/
structure Switchboard where
  /-- The upcall ports by name, the latest first. -/
  seats : List (String × UpcallSeat)
  /-- The session. -/
  session : Session
  deriving DecidableEq

namespace Switchboard

variable {α : Type}

/-- A switchboard without upcall ports. -/
def start (session : Session) : Switchboard := ⟨[], session⟩

/-- Keeps an upcall port under a name. -/
def keep (name : String) (s : UpcallSeat) : StateM Switchboard Unit :=
  modify fun b => { b with seats := (name, s) :: b.seats.filter fun e => e.1 != name }

/-- Runs a computation over the session. -/
def onSession (act : Act Session α) : Act Switchboard α :=
  Act.within session (fun s b => { b with session := s }) act

/-- Runs a computation over the session and gives what it notes. -/
def noting (act : StateM (Noted Session) α) : StateM Switchboard (α × List Report) := fun b =>
  let (a, notes, session) := Recorder.noting act b.session
  ((a, notes), { b with session := session })

/-- Runs a computation over an upcall port and the session, and gives what it notes. -/
def use (name : String)
    (act : Setter (Noted Session) → StateM (Upcall × Noted Session) α) :
    StateM Switchboard (Option (α × List Report)) := do
  match (← get).seats.lookup name with
  | none => return none
  | some s =>
    let ((a, upcall), notes) ← noting fun state =>
      let (a, upcall, state) := act s.setter (s.upcall, state)
      ((a, upcall), state)
    keep name { s with upcall := upcall }
    return some (a, notes)

end Switchboard

end VSwitch
