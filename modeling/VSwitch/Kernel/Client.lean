import VSwitch.Kernel.Sockets
import VSwitch.Session

/-!
# Endpoints and sessions on sockets

* `VSwitch.Connection` is an endpoint on a socket and `VSwitch.Client` a session on one;
* `VSwitch.Client.connect` opens a client: it resolves the families, and closes its socket if that
  fails;
* `VSwitch.Client.run` runs a computation over the session of a client. A session that is closed
  gives back its socket.
-/

namespace VSwitch

/-- An endpoint on a socket. -/
structure Connection where
  /-- The socket. -/
  socket : Nat
  /-- The port that it is bound to. -/
  port : UInt32
  /-- The receive buffer. -/
  buffer : Bytes
  deriving DecidableEq, Repr

namespace Connection

variable {σ α : Type} [Hosts σ]

/-- Opens a socket for requests. -/
def connect (groups : Groups) (timeout? : Option Duration) (bufferLength : Nat) :
    Act Kernel Connection := do
  let protocol := Vocabulary.number SocketProtocol.generic
  let number ← Kernel.connect protocol none groups
  Act.undoing (Kernel.close (.socket number)) do
    Kernel.Sys.act (Kernel.limitReceive number timeout?)
    let port ← Kernel.Sys.act (Kernel.portOf number)
    debug s!"Opened netlink socket with port ID {port}"
    return ⟨number, port, Buffer.fresh bufferLength⟩

/-- The endpoint of a connection. -/
def endpoint (c : Connection) (k : Kernel) : Endpoint := ⟨c.port, c.buffer, k.link c.socket⟩

/-- Runs a computation over the endpoint of a connection. -/
def run (act : Act Endpoint α) : Act (Connection × σ) α := fun (c, s) =>
  let k := Hosts.kernel s
  let (r, e) := act (c.endpoint k)
  (r, { c with buffer := e.buffer }, Hosts.put (Kernel.putLink c.socket e.link k) s)

/-- Resolves a family over a connection. -/
def resolve [Journal σ] (autoload : Bool) (name : String) : Act (Connection × σ) Family :=
  Family.resolve (fun name => run (Family.lookup name)) (Hosts.run Kernel.probe) autoload name

end Connection

/-- A session on a socket. -/
structure Client where
  /-- The connection. -/
  connection : Connection
  /-- The families of the switch. -/
  families : Families
  /-- The settings. -/
  config : Config
  /-- Whether the session has not been closed. -/
  isOpen : Bool
  deriving DecidableEq

namespace Client

variable {σ α : Type} [Hosts σ]

/-- Opens a socket with the settings of a client. -/
def dial (config : Config) : Act Kernel Connection :=
  Connection.connect .empty config.receiveTimeout? config.bufferLength

/-- Opens a client. -/
def connect (config : Config) : Act Kernel Client := do
  let connection ← dial config
  Act.undoing (Kernel.close (.socket connection.socket)) do
    Act.starting connection do
      let families ← Families.resolve (Connection.resolve config.autoload)
      return ⟨(← get).1, families, config, true⟩

/-- Opens another client with the families and the settings of a client. -/
def reconnect (c : Client) : Act Kernel Client := do
  return ⟨← dial c.config, c.families, c.config, true⟩

/-- The session of a client. -/
def session (c : Client) (k : Kernel) : Session :=
  ⟨c.families, c.config, c.isOpen, c.connection.endpoint k⟩

/-- Closes the socket of a client, unless that has been done. -/
def discard (c : Client) : StateM Kernel Unit := do
  if c.isOpen then Kernel.close (.socket c.connection.socket)

/-- Runs a computation over the session of a client. -/
def run (act : Act Session α) : Act (Client × σ) α := fun (c, s) =>
  let k := Hosts.kernel s
  let (r, e) := act (c.session k)
  let k := Kernel.putLink c.connection.socket e.endpoint.link k
  -- The computation may have closed the session.
  let k := if c.isOpen && e.isClosed then (c.discard k).2 else k
  (r, { c with
    connection := { c.connection with buffer := e.endpoint.buffer }
    isOpen := e.isOpen }, Hosts.put k s)

end Client

end VSwitch
