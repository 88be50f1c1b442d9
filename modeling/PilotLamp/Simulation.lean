import PilotLamp.Indicator
import PilotLamp.LineTable
import PilotLamp.LogRecord
import PilotLamp.TraceSink

/-!
# The simulated indicator

The simulation keeps line states and writes a trace line for every configuration, every change
of a level and every error. Its pins are those below a number of slots, at most as many as a
line table holds. A trace line that cannot be written is logged and has no other effect.
-/

namespace PilotLamp

/-- A simulated backend. -/
structure Simulation where
  /-- The state of the simulated lines. -/
  lines : LineTable
  /-- The pins are the numbers below this one. -/
  slots : Nat
deriving DecidableEq, Repr

namespace Simulation

/-- What a simulation acts on in a world `ω`. -/
structure Surroundings (ω : Type) where
  /-- Where trace lines go. -/
  sink : TraceSink ω
  /-- Where log records go. -/
  log : LogRecord → ω → ω
  /-- Lets some milliseconds pass. -/
  sleep : UInt32 → ω → ω

/-- A simulation with a wanted number of slots, of which those that have a line are kept. -/
def withSlots (slots : Nat) : Simulation := ⟨.empty, min slots LineTable.capacity⟩

/-- A simulation with all slots. -/
def full : Simulation := withSlots LineTable.capacity

/-- The name under which a simulation logs. -/
def logTarget : String := "lumen_hal_sim::backend"

section Operations

variable {ω : Type} (around : Surroundings ω)

/-- Writes a trace line; a failure of the sink is only logged. -/
def trace (pieces : List String) (world : ω) : ω :=
  match around.sink.writeLine pieces world with
  | (.ok (), world) => world
  | (.error failure, world) =>
    around.log ⟨.warn, logTarget, "sim trace output failed: " ++ failure⟩ world

/-- Logs and traces an error. -/
def report (error : PinError) (world : ω) : ω :=
  trace around ("[sim] error: " :: error.fragments)
    (around.log ⟨.debug, logTarget, "sim config error: " ++ error.message⟩ world)

/-- Reports the error that an operation ends with. -/
def fail (error : PinError) (state : Simulation × ω) : Except PinError Unit × Simulation × ω :=
  (.error error, state.1, report around error state.2)

/-- Configures a pin below the number of slots. -/
def configure (pin : Pin) (state : Simulation × ω) : Except PinError Unit × Simulation × ω :=
  let (simulation, world) := state
  if pin.index < simulation.slots then
    match simulation.lines.configure pin with
    | .error error => (.error error, simulation, world)
    | .ok lines =>
      (.ok (), { simulation with lines },
        trace around ["[sim] configure(pin=", pin.text, ")"] world)
  else fail around (.noSuchPin pin.index) state

/-- Sets the level of a configured pin; only a change is traced. -/
def write (pin : Pin) (level : Level) (state : Simulation × ω) :
    Except PinError Unit × Simulation × ω :=
  let (simulation, world) := state
  match simulation.lines.set pin level with
  | .error error => fail around error state
  | .ok (changed, lines) =>
    (.ok (), { simulation with lines },
      if changed then trace around ["LED[", pin.text, "] = ", level.text] world else world)

/-- Logs the wait and lets it pass. -/
def delay (ms : UInt32) (world : ω) : ω :=
  around.sleep ms
    (around.log ⟨.trace, logTarget, "sim delay " ++ Nat.repr ms.toNat ++ "ms"⟩ world)

/-- The simulation as an indicator backend. -/
def indicator : Indicator (Simulation × ω) where
  configure := configure around
  write := write around
  delay ms state := (state.1, delay around ms state.2)
  level state := state.1.lines.level
  report error state := (state.1, report around error state.2)

end Operations

/-- The slots of a simulation all have a line. -/
theorem slots_withSlots_le (slots : Nat) : (withSlots slots).slots ≤ LineTable.capacity :=
  Nat.min_le_right _ _

end Simulation

end PilotLamp
