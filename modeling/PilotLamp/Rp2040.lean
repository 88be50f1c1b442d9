import PilotLamp.DriverTable
import PilotLamp.Indicator
import PilotLamp.PinBank
import PilotLamp.Ticks

/-!
# The RP2040 backend

A pin is taken from a bank when it is first configured, and its output driver is opened low.
These drivers cannot fail. Waiting is handed to a microsecond timer.
-/

namespace PilotLamp

/-- What an RP2040 offers in a world `ω`. -/
structure Rp2040Platform (ω : Type) where
  /-- Opens the output driver of a pin at a level. -/
  openDriver : Pin → Level → ω → ω
  /-- Drives an open pin. -/
  drive : Pin → Level → ω → ω
  /-- Closes the driver of a pin. -/
  close : Pin → ω → ω
  /-- Waits for a number of timer ticks. -/
  delayTicks : UInt64 → ω → ω

/-- The bank that pins are taken from, and the drivers that hold them. -/
structure Rp2040 where
  /-- The pins not taken yet. -/
  bank : PinBank
  /-- The drivers held; the driver of a pin is known by its pin. -/
  drivers : DriverTable Pin PinBank.size

namespace Rp2040

/-- Timer ticks in a second. -/
def tickHz : UInt64 := 1000000

/-- A backend that takes its pins from a bank. -/
def fresh (bank : PinBank) : Rp2040 := ⟨bank, .empty (by decide)⟩

variable {ω : Type} (platform : Rp2040Platform ω)

/-- What the table does with a driver, beside a bank that it leaves alone. -/
def actions : DriverActions Pin Empty (PinBank × ω) where
  drive pin level state := (.ok (), state.1, platform.drive pin level state.2)
  release pin state := (state.1, platform.close pin state.2)

/-- The pin error for a pin that the bank does not hand out. -/
def refusal (pin : Pin) : PinBankError → PinError
  | .noSuchPin => .noSuchPin pin.index
  | .alreadyTaken | .reserved => .unavailable pin

/-- Takes a pin from the bank and opens its driver, low. -/
def claim (pin : Pin) (state : PinBank × ω) : Except (DriveFault Empty) Pin × PinBank × ω :=
  let (bank, world) := state
  match bank.take pin with
  | .error cause => (.error (.refused (refusal pin cause)), bank, world)
  | .ok bank => (.ok pin, bank, platform.openDriver pin .deasserted world)

/-- Configures a pin that the bank hands out or that is configured already. -/
def configure (pin : Pin) (state : Rp2040 × ω) : Except PinError Unit × Rp2040 × ω :=
  let (backend, world) := state
  let (result, drivers, bank, world) :=
    backend.drivers.configure (actions platform) (claim platform) pin (backend.bank, world)
  (result.mapError DriveFault.toPinError, ⟨bank, drivers⟩, world)

/-- Drives a configured pin. -/
def write (pin : Pin) (level : Level) (state : Rp2040 × ω) : Except PinError Unit × Rp2040 × ω :=
  let (backend, world) := state
  let (result, drivers, bank, world) :=
    backend.drivers.write (actions platform) pin level (backend.bank, world)
  ((result.mapError DriveFault.toPinError).map fun _ => (), ⟨bank, drivers⟩, world)

/-- The RP2040 as an indicator backend. Errors are not reported anywhere. -/
def indicator : Indicator (Rp2040 × ω) where
  configure := configure platform
  write := write platform
  delay ms state := (state.1, platform.delayTicks (Ticks.forMs ms tickHz) state.2)
  level state := state.1.drivers.level
  report _ state := state

end Rp2040

end PilotLamp
