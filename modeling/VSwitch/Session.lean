import VSwitch.Config
import VSwitch.Family

/-!
# Sessions

A session is an endpoint on the control plane of the switch, with the families that its messages go
to. Once it is closed, every exchange fails; what was exchanged before stays on the link.

* `VSwitch.Session.request`, `VSwitch.Session.collect` and `VSwitch.Session.send` write a request
  and exchange it. A request that cannot be written fails before the session is looked at;
* `VSwitch.Session.unlessKernel` turns one error of the kernel into an outcome.
-/

namespace VSwitch

/-- An endpoint on the control plane of the switch. -/
structure Session where
  /-- The families of the switch. -/
  families : Families
  /-- The settings. -/
  config : Config
  /-- Whether the session has not been closed. -/
  isOpen : Bool
  /-- The endpoint. -/
  endpoint : Endpoint
  deriving DecidableEq

namespace Session

instance : Journal Session where
  write l s := { s with endpoint := Journal.write l s.endpoint }

variable {α : Type}

/-- A session on an endpoint. -/
def start (endpoint : Endpoint) (families : Families) (config : Config) : Session :=
  ⟨families, config, true, endpoint⟩

/-- Runs a computation on the endpoint, unless the session is closed. -/
def onEndpoint (act : Act Endpoint α) : Act Session α := do
  unless (← get).isOpen do throw .closed
  Act.within endpoint (fun e s => { s with endpoint := e }) act

/-- Whether the session is closed. -/
def isClosed (s : Session) : Bool := !s.isOpen

/-- Closes the session. Closing it again does nothing. -/
def close : Act Session Unit := do
  let s ← get
  if s.isOpen then
    debug s!"Closing datapath client on port ID {s.endpoint.port}"
    modify fun s => { s with isOpen := false }

/-- The port of the session. -/
def port : Act Session UInt32 := onEndpoint do return (← get).port

/-- Sends a request and returns the message that answers it. -/
def request (r : Request) : Act Session Bytes := do
  let draft ← Act.ofEncode r.draft
  onEndpoint (Endpoint.request draft)

/-- Sends a request for a dump and returns what its messages say. -/
def collect (r : Request) (decode : Bytes → Except Failure α) : Act Session (List α) := do
  let draft ← Act.ofEncode r.draft
  onEndpoint (Endpoint.collect draft decode)

/-- Sends a request that is not answered. -/
def send (r : Request) : Act Session Unit := do
  let draft ← Act.ofEncode r.draft
  let _ ← onEndpoint (Endpoint.send draft)

/-- Runs a computation, whose outcome is nothing if the kernel answers with the given error. -/
def unlessKernel (errno : Int32) (act : Act Session α) : Act Session (Option α) := do
  match ← Act.attempt act with
  | .ok a => return some a
  | .error e => if ← Act.ofNumber (e.isKernelErrno errno) then return none else throw e

end Session

end VSwitch
