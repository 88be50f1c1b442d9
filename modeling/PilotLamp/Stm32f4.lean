import PilotLamp.Indicator
import PilotLamp.LineTable
import PilotLamp.PortRegisters
import PilotLamp.SpinRate

/-!
# The STM32F4 backend

The lines of one port are driven through its registers. Configuring enables the clock of the
port, makes the line an output and resets it; writing is one store to the set-reset register.
Nothing is stored before the pin has been checked.
-/

namespace PilotLamp

/-- A backend on one port. -/
structure Stm32f4 where
  /-- The port whose lines are driven. -/
  port : Port
  /-- How fast the core spins while it waits. -/
  rate : SpinRate
  /-- The state of the lines. -/
  lines : LineTable
deriving DecidableEq, Repr

namespace Stm32f4

variable {β : Type} (bus : RegisterBus β)

/-- A backend on which no line is configured. -/
def fresh (port : Port) (rate : SpinRate) : Stm32f4 := ⟨port, rate, .empty⟩

/-- Enables the port's clock, clears and sets the mode of a line, and resets the line. -/
def prepareLine (port : Port) (line : Nat) (state : β) : β :=
  let state := bus.modify Port.clockEnable (· ||| port.clockBit) state
  let state := bus.modify port.mode (· &&& ~~~Port.modeMask line) state
  let state := bus.modify port.mode (· ||| Port.outputMode line) state
  bus.write port.setReset (Port.resetWord line) state

/-- Configures a line of the port. -/
def configure (pin : Pin) (state : Stm32f4 × β) : Except PinError Unit × Stm32f4 × β :=
  let (backend, store) := state
  if pin.index < Port.width then
    let store := prepareLine bus backend.port pin.index store
    match backend.lines.configure pin with
    | .ok lines => (.ok (), { backend with lines }, store)
    | .error error => (.error error, backend, store)
  else (.error (.noSuchPin pin.index), state)

/-- Drives a configured line of the port. -/
def write (pin : Pin) (level : Level) (state : Stm32f4 × β) :
    Except PinError Unit × Stm32f4 × β :=
  let (backend, store) := state
  if pin.index < Port.width then
    if backend.lines.isConfigured pin then
      let store :=
        bus.write backend.port.setReset (Port.levelWord pin.index level.isAsserted) store
      match backend.lines.set pin level with
      | .ok (_, lines) => (.ok (), { backend with lines }, store)
      | .error error => (.error error, backend, store)
    else (.error (.notConfigured pin), state)
  else (.error (.noSuchPin pin.index), state)

/-- The port as an indicator backend. Waiting spins and reaches no register; errors are not
reported anywhere. -/
def indicator : Indicator (Stm32f4 × β) where
  configure := configure bus
  write := write bus
  delay _ state := state
  level state := state.1.lines.level
  report _ state := state

end Stm32f4

end PilotLamp
