import PilotLamp.HostProgram
import PilotLamp.SharedIndicator

/-!
# Entry points for callers in C

Three entry points share one simulated indicator that prints on a console. They take C integers
and return nothing: a refused operation shows only in the trace.
-/

namespace PilotLamp

/-- What the entry points share. -/
structure EntryPoints where
  /-- The simulated indicator, once there is one. -/
  slot : Slot Simulation
  /-- What was done so far. -/
  console : Console

namespace EntryPoints

/-- The state before any call. -/
def fresh : EntryPoints := ⟨.empty, #[]⟩

/-- The simulation that the first call builds. -/
def build (console : Console) : Simulation × Console := (.full, console)

/-- Carries out a pin operation and drops its answer. -/
def onSlot
    (operation : Slot Simulation → Console → Except PinError Unit × Slot Simulation × Console)
    (state : EntryPoints) : EntryPoints :=
  let (_, slot, console) := operation state.slot state.console
  ⟨slot, console⟩

/-- Configures a pin. -/
def setUp (pin : Int32) : EntryPoints → EntryPoints :=
  onSlot (SharedIndicator.configure HostProgram.indicator build pin)

/-- Drives a pin. -/
def write (pin value : Int32) : EntryPoints → EntryPoints :=
  onSlot (SharedIndicator.write HostProgram.indicator build pin value)

/-- Waits. -/
def sleep (ms : Int32) (state : EntryPoints) : EntryPoints :=
  let (slot, console) := SharedIndicator.delay HostProgram.indicator build
    (fun _ console => console) ms state.slot state.console
  ⟨slot, console⟩

/-- What was printed. -/
def printed (state : EntryPoints) : String := state.console.printed

end EntryPoints

end PilotLamp
