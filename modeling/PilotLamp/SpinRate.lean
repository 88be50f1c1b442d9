import PilotLamp.Ticks

/-!
# Busy waiting

A core without a timer waits by counting loop iterations. The rate says how many make up a
millisecond; shorter waits are rounded up to whole iterations.
-/

namespace PilotLamp

/-- How fast a core spins. -/
structure SpinRate where
  /-- Loop iterations in a millisecond. -/
  iterationsPerMs : UInt32
deriving DecidableEq, Repr

namespace SpinRate

/-- The rate assumed of a 16 MHz core. -/
def assumed : SpinRate := ⟨16000⟩

/-- Nanoseconds in a millisecond. -/
def nsPerMs : UInt64 := 1000000

/-- Iterations for a wait in milliseconds, exactly. -/
def forMs (rate : SpinRate) (ms : UInt32) : UInt64 :=
  ms.toUInt64 * rate.iterationsPerMs.toUInt64

/-- Iterations for a wait in nanoseconds, rounded up. -/
def forNs (rate : SpinRate) (ns : UInt32) : UInt64 :=
  Ticks.ceilDiv (ns.toUInt64 * rate.iterationsPerMs.toUInt64) nsPerMs

end SpinRate

end PilotLamp
