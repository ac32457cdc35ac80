/-!
# Sets of flags

A set of flags is a number; a `VSwitch.FlagTable` lists the flags that have a name. Several names
may share bits, as the meaning of some message flags depends on the command.
-/

namespace VSwitch

/-- The named flags of a number, in the order in which they are told. -/
structure FlagTable where
  /-- Names and bits. -/
  flags : List (String × UInt32)

namespace FlagTable

variable (t : FlagTable)

/-- Every bit that has a name. -/
def known : UInt32 := t.flags.foldl (fun acc f => acc ||| f.2) 0

/-- Whether no bit is without a name. -/
def isValid (bits : UInt32) : Bool := bits &&& ~~~t.known == 0

/-- The bits that have a name. -/
def truncate (bits : UInt32) : UInt32 := bits &&& t.known

/-- Whether every bit that has a name is set. -/
def isAll (bits : UInt32) : Bool := t.known &&& ~~~bits == 0

/-- The names in `flags` of a number of which `left` is not told yet: a flag is told if all its
bits are set and at least one of them is not told yet. -/
def namesFrom (bits : UInt32) : (left : UInt32) → (flags : List (String × UInt32)) → List String
  | _, [] => []
  | left, (name, f) :: rest =>
    if bits &&& f == f && left &&& f != 0 then name :: namesFrom bits (left &&& ~~~f) rest
    else namesFrom bits left rest

/-- The names that tell what is set. -/
def names (bits : UInt32) : List String := namesFrom bits bits t.flags

end FlagTable

/-- Whether every bit of `part` is set. -/
def hasFlags (bits part : UInt16) : Bool := bits &&& part == part

/-- Flags of messages. -/
def messageFlags : FlagTable where
  flags := [("REQUEST", 0x1), ("MULTI", 0x2), ("ACK", 0x4), ("ECHO", 0x8), ("DUMP_INTR", 0x10),
    ("ROOT", 0x100), ("MATCH", 0x200), ("ATOMIC", 0x400), ("DUMP", 0x300), ("REPLACE", 0x100),
    ("EXCL", 0x200), ("CREATE", 0x400), ("APPEND", 0x800)]

/-- Features that a datapath is created with. -/
def datapathFeatures : FlagTable where
  flags := [("UNALIGNED", 0x1), ("VPORT_PIDS", 0x2)]

/-- Flag of a message to the kernel. -/
def requestFlag : UInt16 := 0x1

/-- Flag of a message that is one of several. -/
def multiFlag : UInt16 := 0x2

/-- Flags of a request that takes one answer: the echo makes the kernel answer commands that it
carries out in silence otherwise. -/
def requestFlags : UInt16 := 0x9

/-- Flags of a request that takes a dump. -/
def dumpFlags : UInt16 := 0x301

end VSwitch
