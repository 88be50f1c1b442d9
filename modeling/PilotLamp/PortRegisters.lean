import PilotLamp.RegisterBus

/-!
# Registers of an STM32F4 output port

Each of the nine ports has a clock bit in one shared enable register, a mode register with two
bits per line, and a set-reset register whose low half sets lines and whose high half resets
them.
-/

namespace PilotLamp

/-- A port of sixteen lines. -/
inductive Port
  | a | b | c | d | e | f | g | h | i
deriving DecidableEq, Repr

namespace Port

/-- The number of lines of a port. -/
def width : Nat := 16

/-- The position of a port among the nine. -/
def index : Port → Nat
  | a => 0 | b => 1 | c => 2 | d => 3 | e => 4 | f => 5 | g => 6 | h => 7 | i => 8

/-- The register that enables the clock of each port. -/
def clockEnable : Register := .offset 0x40023800 0x30

/-- The bit of a port in the clock enable register. -/
def clockBit (port : Port) : Word := 1#32 <<< port.index

/-- The address at which the registers of a port start. -/
def base (port : Port) : Nat := 0x40020000 + 0x400 * port.index

/-- The register that holds the mode of each line. -/
def mode (port : Port) : Register := .offset port.base 0x00

/-- The register that sets and resets lines. -/
def setReset (port : Port) : Register := .offset port.base 0x18

/-- The position of the mode bits of a line. -/
def modeShift (line : Nat) : Nat := 2 * line

/-- The mode bits of a line, all set. -/
def modeMask (line : Nat) : Word := 3#32 <<< modeShift line

/-- The mode bits of a line that is an output. -/
def outputMode (line : Nat) : Word := 1#32 <<< modeShift line

/-- The word that sets a line. -/
def setWord (line : Nat) : Word := 1#32 <<< line

/-- The word that resets a line. -/
def resetWord (line : Nat) : Word := 1#32 <<< (line + width)

/-- The word that brings a line to a level. -/
def levelWord (line : Nat) (asserted : Bool) : Word :=
  if asserted then setWord line else resetWord line

end Port

end PilotLamp
