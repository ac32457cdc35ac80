/-!
# Durations

How long a blocking call may wait. The system takes a number of seconds and a number of
microseconds, and takes two zeros as waiting for ever.
-/

namespace VSwitch

/-- A span of time. -/
structure Duration where
  /-- Whole seconds. -/
  seconds : UInt64
  /-- Nanoseconds beyond them. -/
  nanoseconds : Fin 1000000000
  deriving DecidableEq, Repr

namespace Duration

/-- A number of nanoseconds; the seconds wrap around beyond 64 bits. -/
def ofNanos (n : Nat) : Duration :=
  ⟨UInt64.ofNat (n / 1000000000), ⟨n % 1000000000, Nat.mod_lt _ (by decide)⟩⟩

/-- A number of microseconds. -/
def ofMicros (n : Nat) : Duration := ofNanos (n * 1000)

/-- A number of milliseconds. -/
def ofMillis (n : Nat) : Duration := ofNanos (n * 1000000)

/-- The span in nanoseconds. -/
def toNanos (d : Duration) : Nat := d.seconds.toNat * 1000000000 + d.nanoseconds.val

/-- The whole milliseconds of the span. -/
def toMillis (d : Duration) : Nat := d.toNanos / 1000000

end Duration

/-- What the system takes as a limit of waiting. -/
structure TimeValue where
  /-- Whole seconds. -/
  seconds : Int64
  /-- Microseconds beyond them. -/
  micros : UInt32
  deriving DecidableEq, Repr

namespace TimeValue

/-- No limit. -/
def unlimited : TimeValue := ⟨0, 0⟩

/-- The limit of a span of time, in whole microseconds, or no limit. The seconds are taken as
signed. -/
def ofDuration : Option Duration → TimeValue
  | none => unlimited
  | some d => ⟨d.seconds.toInt64, UInt32.ofNat (d.nanoseconds.val / 1000)⟩

end TimeValue

end VSwitch
