/-!
# Bounds of fixed width integers

The integers that eight, 32 and 64 bits hold, those that 64 bits hold with a sign, and those that
128 bits hold in either way. Text formats and the command line accept numbers within these bounds
only.
-/

namespace PilotLamp.IntegerBounds

/-- The first natural that eight bits do not hold. -/
def byte : Nat := 0x100

/-- The first natural that 32 bits do not hold. -/
def word : Nat := 0x100000000

/-- The first natural that 64 bits do not hold. -/
def long : Nat := 0x10000000000000000

/-- The first natural that 64 bits do not hold beside a sign. -/
def signedLong : Nat := 0x8000000000000000

/-- Whether 64 bits hold an integer with its sign. -/
def isSignedLong (number : Int) : Bool :=
  decide (-(signedLong : Int) ≤ number ∧ number < signedLong)

/-- The first natural that 128 bits do not hold beside a sign. -/
def signedWide : Nat := 0x80000000000000000000000000000000

/-- Whether 128 bits hold an integer, with a sign or, if it has none, without. -/
def isWide (number : Int) : Bool :=
  decide (-(signedWide : Int) ≤ number ∧ number < 2 * signedWide)

theorem byte_eq_size : byte = UInt8.size := rfl

theorem word_eq_size : word = UInt32.size := rfl

end PilotLamp.IntegerBounds
