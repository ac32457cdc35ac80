/-!
# Numbers of vports
-/

namespace VSwitch

/-- The number of a vport within its datapath. -/
structure VportId where
  /-- The number. -/
  number : UInt32
  deriving DecidableEq, Repr

instance : ToString VportId where
  toString id := toString id.number

end VSwitch
