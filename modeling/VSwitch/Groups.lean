/-!
# Multicast groups

A socket that is bound joins groups, whose messages it receives from then on. The number zero
stands for no group.
-/

namespace VSwitch

/-- The multicast groups that a socket joins, in order. -/
structure Groups where
  /-- Their numbers. -/
  numbers : List UInt32
  deriving DecidableEq, Repr

namespace Groups

/-- No groups. -/
def empty : Groups := ⟨[]⟩

/-- The groups of a list of numbers, of which zeros do not count. -/
def ofList (numbers : List UInt32) : Groups := ⟨numbers.filter (· ≠ 0)⟩

/-- Whether there are no groups. -/
def isEmpty (g : Groups) : Bool := g.numbers.isEmpty

end Groups

end VSwitch
