import VSwitch.Duration

/-!
# Settings of a session
-/

namespace VSwitch

/-- Settings of a session. -/
structure Config where
  /-- Length of the receive buffer of each socket. -/
  bufferLength : Nat := 65536
  /-- How long a request may wait for each datagram; without a limit it waits for ever. -/
  receiveTimeout? : Option Duration := none
  /-- Whether to try and load the kernel module if a family is missing. -/
  autoload : Bool := true
  deriving DecidableEq, Repr

namespace Config

/-- The settings that a session has if nothing else is said. -/
def standard : Config := {}

/-- Whether nothing differs from the standard. -/
def isStandard (c : Config) : Bool := c == standard

end Config

end VSwitch
