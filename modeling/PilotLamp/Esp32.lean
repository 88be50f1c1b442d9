import PilotLamp.DriverTable
import PilotLamp.Indicator
import PilotLamp.LogRecord
import PilotLamp.Ticks

/-!
# The ESP32 backend

Every pin that can be an output gets a vendor driver when it is first configured. Driver failures
carry a code; they are logged with it, and every error is logged once before it is answered.
Waiting is handed to the scheduler in ticks.
-/

namespace PilotLamp

/-- What an ESP32 offers in a world `ω`; failures are codes. -/
structure Esp32Platform (ω : Type) where
  /-- Opens the driver of a pin. -/
  openDriver : Pin → ω → Except String Unit × ω
  /-- Drives an open pin. -/
  drive : Pin → Level → ω → Except String Unit × ω
  /-- Closes the driver of a pin. -/
  close : Pin → ω → ω
  /-- Waits for a number of scheduler ticks. -/
  delayTicks : UInt32 → ω → ω
  /-- Where log records go. -/
  log : LogRecord → ω → ω

namespace Esp32

/-- The number of GPIO numbers. -/
def gpioCount : Nat := 40

/-- Scheduler ticks in a second. -/
def tickHz : UInt32 := 1000

/-- The name under which the backend logs. -/
def logTarget : String := "lumen_hal_esp32::backend"

/-- The GPIO numbers that can be outputs. -/
def outputCapable (pin : Pin) : Bool :=
  let n := pin.index
  n ≤ 5 || (12 ≤ n && n ≤ 19) || (21 ≤ n && n ≤ 23) || (25 ≤ n && n ≤ 27) || n == 32 || n == 33

/-- The drivers held; the driver of a pin is known by its pin. -/
abbrev Drivers := DriverTable Pin gpioCount

/-- A backend that holds no driver. -/
def fresh : Drivers := .empty (by decide)

variable {ω : Type} (platform : Esp32Platform ω)

/-- What the table does with a driver. -/
def actions : DriverActions Pin String ω := ⟨platform.drive, platform.close⟩

/-- Opens the driver of a pin. -/
def claim (pin : Pin) (world : ω) : Except (DriveFault String) Pin × ω :=
  match platform.openDriver pin world with
  | (.ok (), world) => (.ok pin, world)
  | (.error code, world) => (.error (.driver pin code), world)

/-- Logs an error. -/
def report (error : PinError) (world : ω) : ω :=
  platform.log ⟨.warn, logTarget, "indicator config error: " ++ error.message⟩ world

/-- Logs a fault, with the code of the driver if it was a driver that failed. -/
def reportFault (fault : DriveFault String) (world : ω) : ω :=
  report platform fault.toPinError <| match fault with
    | .refused _ => world
    | .driver pin code =>
      platform.log ⟨.error, logTarget, "GPIO" ++ pin.text ++ " driver error: " ++ code⟩ world

/-- Configures a pin that can be an output. -/
def configure (pin : Pin) (state : Drivers × ω) : Except PinError Unit × Drivers × ω :=
  let (drivers, world) := state
  if outputCapable pin then
    match drivers.configure (actions platform) (claim platform) pin world with
    | (.error fault, drivers, world) =>
      (.error fault.toPinError, drivers, reportFault platform fault world)
    | (.ok (), drivers, world) =>
      (.ok (), drivers,
        platform.log ⟨.info, logTarget, "GPIO" ++ pin.text ++ " configured as indicator output"⟩
          world)
  else
    let error := .noSuchPin pin.index
    (.error error, drivers, report platform error world)

/-- Drives a configured pin. -/
def write (pin : Pin) (level : Level) (state : Drivers × ω) :
    Except PinError Unit × Drivers × ω :=
  let (drivers, world) := state
  match drivers.write (actions platform) pin level world with
  | (.error fault, drivers, world) =>
    (.error fault.toPinError, drivers, reportFault platform fault world)
  | (.ok _, drivers, world) => (.ok (), drivers, world)

/-- The ESP32 as an indicator backend. -/
def indicator : Indicator (Drivers × ω) where
  configure := configure platform
  write := write platform
  delay ms state := (state.1, platform.delayTicks (Ticks.forScheduler ms tickHz) state.2)
  level state := state.1.level
  report error state := (state.1, report platform error state.2)

end Esp32

end PilotLamp
