import VSwitch.Kernel.Sockets

/-!
# Listeners on sockets

A station is a listener on a socket, together with the signal that stops it and the set of
descriptors that it waits for.

* `VSwitch.Station.spawn` starts a station on a socket, which it takes over: the socket is closed
  if that fails, and when the station ends;
* `VSwitch.Station.resume` lets it handle what has arrived;
* `VSwitch.Station.stop` ends it.
-/

namespace VSwitch

/-- A listener on a socket. -/
structure Station where
  /-- The socket. -/
  socket : Nat
  /-- The listener. -/
  listener : Listener
  /-- The signal that stops it. -/
  signal : Nat
  /-- The duplicate of the signal, by which others stop it. -/
  handle : Nat
  /-- The set of descriptors that it waits for. -/
  poll : Nat
  /-- Whether it has not ended. -/
  isRunning : Bool
  deriving DecidableEq, Repr

namespace Station

open Kernel

/-- Opens a descriptor that is no socket. -/
def openAuxiliary (kind : CallKind) (call : Nat → SystemCall) : Sys Nat := do
  let number := (← get).auxiliaries
  ask kind (call number)
  modify fun k => { k with auxiliaries := number + 1 }
  return number

/-- Opens a descriptor that is no socket, and closes it again if what is done with it fails. -/
def withAuxiliary {α : Type} (kind : CallKind) (call : Nat → SystemCall)
    (body : Nat → Act Kernel α) : Act Kernel α := do
  let number ← (openAuxiliary kind call).act
  Act.undoing (close (.auxiliary number)) (body number)

/-- Makes a station of a socket. -/
def spawn (socket bufferLength : Nat) : Act Kernel Station :=
  Act.undoing (close (.socket socket)) do
    let port ← (portOf socket).act
    withAuxiliary .openSignal .openSignal fun signal =>
      withAuxiliary .duplicate (.duplicate signal) fun handle => do
        (setNonblocking socket).act
        withAuxiliary .openPoll .openPoll fun poll => do
          Sys.act do
            ask .watch (.watch poll (.auxiliary signal))
            ask .watch (.watch poll (.socket socket))
          -- From here on nothing can fail.
          let listener := Listener.start port bufferLength
          (listener.announce : StateM Kernel Unit)
          return ⟨socket, listener, signal, handle, poll, true⟩

/-- Gives back what a station holds, but for the handle that others have. -/
def finish (s : Station) : StateM Kernel Unit := do
  close (.auxiliary s.poll)
  close (.auxiliary s.signal)
  close (.socket s.socket)

/-- Ends a station, unless it has ended. -/
def stop (s : Station) : StateM Kernel Station := do
  if s.isRunning then
    s.listener.farewell
    s.finish
  return { s with isRunning := false }

/-- Ends a station and gives back the handle. -/
def discard (s : Station) : StateM Kernel Unit := do
  let _ ← s.stop
  close (.auxiliary s.handle)

variable {σ : Type} [Hosts σ] [Journal σ] (h : Handler σ)

/-- Lets a station go through wakes. -/
def attend (wakes : List Wake) (s : Station) : StateM σ Station := fun t =>
  let (goesOn, listener, t) := Listener.run h wakes (s.listener, t)
  let s := { s with listener := listener, isRunning := goesOn }
  if goesOn then (s, t) else (s, (Hosts.run s.finish t).2)

/-- What has arrived on a socket, each as one wake. -/
def arrivals (socket : Nat) : StateM Kernel (List Wake) := do
  let pending := ((← get).socket socket).pending
  adjust socket fun s => { s with pending := [] }
  return pending.map fun receipt => .ready [.socket [receipt]]

/-- Lets a station wait, the next waits being refused as `refusals` tell, and handle what has
arrived. -/
def resumeFrom : List (Option Int32) → Station → StateM σ Station
  | refusals, s => do
    if !s.isRunning then return s
    match refusals with
    | [] => attend h (← Hosts.run (arrivals s.socket)) s
    | refusal? :: rest =>
      let _ ← Hosts.run (Kernel.refusal? .wait)
      let wakes ← match refusal? with
        | some errno => pure [.fault errno]
        | none => Hosts.run (arrivals s.socket)
      resumeFrom rest (← attend h wakes s)

/-- Lets a station handle what has arrived. -/
def resume (s : Station) : StateM σ Station := do
  resumeFrom h ((Hosts.kernel (← get)).refusals .wait) s

end Station

end VSwitch
