import VSwitch.Failure

/-!
# Datapaths

A datapath is created under a name and known by the index of its interface, which the kernel
assigns. Every message about it or about what is in it carries that index.
-/

namespace VSwitch

/-- A datapath, known by the index of its interface. -/
structure Datapath where
  /-- Index of the interface. -/
  ifindex : Int32
  deriving DecidableEq, Repr

namespace Datapath

/-- What a message names that is about no certain datapath. -/
def unspecified : Datapath := ⟨0⟩

/-- A datapath in words. -/
def describe (dp : Datapath) : String := s!"DatapathHandle \x7b ifindex: {dp.ifindex} \x7d"

/-- Fails if a message is about another datapath. -/
def ensure (dp found : Datapath) : Except Failure Unit :=
  if found = dp then .ok () else .error (.wrongDatapath dp.ifindex found.ifindex)

end Datapath

end VSwitch
