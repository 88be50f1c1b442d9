import PilotLamp.RegisterBus

/-!
# A bus that records its accesses

The recorder holds the words of a few registers and logs a limited number of accesses. What does
not fit is lost and the overflow is noted: an access past the log's end is not logged, and a
register past the file's end keeps reading zero.
-/

namespace PilotLamp

/-- One access to a register, with the word read or written. -/
inductive BusAccess
  /-- The register was read. -/
  | read (register : Register) (value : Word)
  /-- The register was written. -/
  | write (register : Register) (value : Word)
deriving DecidableEq, Repr

/-- A bus of a few registers with a log. -/
structure BusRecorder where
  /-- The registers written so far, in the order of their first write. -/
  held : List (Register × Word)
  /-- The accesses since the log was last cleared, oldest first. -/
  log : List BusAccess
  /-- Whether an access or a register did not fit since the log was last cleared. -/
  overflowed : Bool
deriving DecidableEq, Repr

namespace BusRecorder

/-- The number of registers that can be held. -/
def registerCapacity : Nat := 16

/-- The number of accesses that can be logged. -/
def logCapacity : Nat := 64

/-- The recorder on which nothing was done. -/
def empty : BusRecorder := ⟨[], [], false⟩

/-- The word of a register, zero if it is not held. -/
def value (recorder : BusRecorder) (register : Register) : Word :=
  (recorder.held.lookup register).getD 0

/-- Replaces the word of a register in a list that holds it. -/
def replace (register : Register) (value : Word) : List (Register × Word) → List (Register × Word)
  | [] => []
  | (other, old) :: rest =>
    if other = register then (register, value) :: rest
    else (other, old) :: replace register value rest

/-- Holds a word: a register that is held is changed, another takes a free place if there is
one, and else the overflow is noted. -/
def hold (recorder : BusRecorder) (register : Register) (value : Word) : BusRecorder :=
  if (recorder.held.lookup register).isSome then
    { recorder with held := replace register value recorder.held }
  else if recorder.held.length < registerCapacity then
    { recorder with held := recorder.held ++ [(register, value)] }
  else { recorder with overflowed := true }

/-- Logs an access if there is room, and else notes the overflow. -/
def note (recorder : BusRecorder) (access : BusAccess) : BusRecorder :=
  if recorder.log.length < logCapacity then { recorder with log := recorder.log ++ [access] }
  else { recorder with overflowed := true }

/-- Reads a register. -/
def read (register : Register) (recorder : BusRecorder) : Word × BusRecorder :=
  (recorder.value register, recorder.note (.read register (recorder.value register)))

/-- Writes a register. -/
def write (register : Register) (value : Word) (recorder : BusRecorder) : BusRecorder :=
  (recorder.hold register value).note (.write register value)

/-- The recorder as a bus. -/
def bus : RegisterBus BusRecorder := ⟨read, write⟩

/-- Forgets the log and the overflow; the registers stay. -/
def clearLog (recorder : BusRecorder) : BusRecorder :=
  { recorder with log := [], overflowed := false }

/-- The logged writes. -/
def writes (recorder : BusRecorder) : List (Register × Word) :=
  recorder.log.filterMap fun
    | .write register value => some (register, value)
    | .read .. => none

theorem value_note (recorder : BusRecorder) (access : BusAccess) (register : Register) :
    (recorder.note access).value register = recorder.value register := by
  unfold note; split <;> rfl

end BusRecorder

end PilotLamp
