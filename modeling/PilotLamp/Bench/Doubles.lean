import PilotLamp.Bench.World
import PilotLamp.BusRecorder
import PilotLamp.DriverTable
import PilotLamp.Esp32
import PilotLamp.Rp2040
import PilotLamp.Simulation
import PilotLamp.Stm32f4

/-!
# Stand-ins on the test bench

Platforms, buses and drivers whose effects are events of the bench, and a plain backend that is a
line table alone. A rig is a kind of backend ready to be built on the bench.
-/

namespace PilotLamp

namespace Bench

/-! ## Platforms -/

/-- The bench as the surroundings of a simulation. Waiting takes no time. -/
def surroundings : Simulation.Surroundings Bench := ⟨sink, log, fun _ bench => bench⟩

/-- The bench as an ESP32. -/
def esp32 : Esp32Platform Bench where
  openDriver pin := attempt .openDriver (.opened pin) (.openFailed pin)
  drive pin level := attempt .drive (.driven pin level) (.driveFailed pin level)
  close pin := note (.closed pin)
  delayTicks ticks := note (.schedulerTicks ticks)
  log := log

/-- The bench as an RP2040. -/
def rp2040 : Rp2040Platform Bench where
  openDriver pin level := note (.openedAt pin level)
  drive pin level := note (.driven pin level)
  close _ bench := bench
  delayTicks ticks := note (.timerTicks ticks)

/-- A bus whose accesses are events. -/
def tapped {β : Type} (bus : RegisterBus β) : RegisterBus (β × Bench) where
  read register state :=
    let (value, inner) := bus.read register state.1
    (value, inner, state.2.note (.busRead register value))
  write register value state :=
    (bus.write register value state.1, state.2.note (.busWritten register value))

/-! ## Probes -/

/-- What a table does with probes, which are known by their numbers. -/
def probeActions : DriverActions Nat String Bench where
  drive probe level :=
    attempt .drive (.probeDriven probe level) fun _ => .probeFailed probe level
  release probe := note (.dropped probe)

/-- Claims the next probe for a pin, or fails as it is told to. -/
def claimProbe (refusal : Option (DriveFault String)) (pin : Pin) (bench : Bench) :
    Except (DriveFault String) Nat × Bench :=
  let probe := bench.probes + 1
  let bench := { bench with probes := probe }.note (.claimed pin probe)
  match refusal with
  | none => (.ok probe, bench)
  | some fault => (.error fault, bench)

end Bench

/-! ## A plain backend -/

/-- A backend that is a line table with a limit on its pins. -/
structure PlainBackend where
  /-- The state of the lines. -/
  lines : LineTable
  /-- The pins are the numbers below this one. -/
  limit : Nat
deriving DecidableEq, Repr

namespace PlainBackend

/-- A plain backend on the bench. Its writes can be told to fail. -/
def indicator : Indicator (PlainBackend × Bench) where
  configure pin state :=
    let (backend, bench) := state
    let bench := bench.note (.configured pin)
    if pin.index < backend.limit then
      match backend.lines.configure pin with
      | .ok lines => (.ok (), { backend with lines }, bench)
      | .error error => (.error error, backend, bench)
    else (.error (.noSuchPin pin.index), backend, bench)
  write pin level state :=
    let (backend, bench) := state
    let bench := bench.note (.written pin level)
    if (bench.fault? .drive).isSome then (.error (.rejected pin), backend, bench)
    else
      match backend.lines.set pin level with
      | .ok (_, lines) => (.ok (), { backend with lines }, bench)
      | .error error => (.error error, backend, bench)
  delay ms state := (state.1, state.2.note (.waited ms))
  level state := state.1.lines.level
  report _ state := state

end PlainBackend

/-! ## Rigs -/

/-- What a backend shows beside its lines. -/
inductive RigReading
  /-- Nothing. -/
  | nothing
  /-- The number of slots. -/
  | slots (count : Nat)
  /-- How many bus accesses were logged, and whether some did not fit. -/
  | accesses (logged : Nat) (overflowed : Bool)
deriving DecidableEq, Repr

/-- A kind of backend, ready to be built on the bench. -/
structure Rig where
  /-- The state of a backend. -/
  State : Type
  /-- Its operations. -/
  indicator : Indicator (State × Bench)
  /-- A new backend. -/
  fresh : State
  /-- What a backend shows. -/
  reading : State → RigReading
  /-- What happens when a backend is thrown away. -/
  discard : State → Bench → Bench

namespace Rig

/-- A plain backend with a limit on its pins. -/
def plain (limit : Nat) : Rig :=
  ⟨PlainBackend, PlainBackend.indicator, ⟨.empty, limit⟩, fun _ => .nothing, fun _ bench => bench⟩

/-- A simulation. -/
def simulation (slots : Nat) : Rig :=
  ⟨Simulation, Simulation.indicator Bench.surroundings, .withSlots slots,
    fun backend => .slots backend.slots, fun _ bench => bench⟩

/-- An STM32F4 port over a recording bus with some words written beforehand. -/
def stm32f4 (port : Port) (rate : SpinRate) (preset : List (Register × Word)) : Rig where
  State := Stm32f4 × BusRecorder
  indicator := (Stm32f4.indicator (Bench.tapped BusRecorder.bus)).rearranged
    (fun state => (state.1.1, state.1.2, state.2)) (fun state => ((state.1, state.2.1), state.2.2))
  fresh := (.fresh port rate,
    (preset.foldl (fun recorder (register, value) => recorder.write register value)
      BusRecorder.empty).clearLog)
  reading state := .accesses state.2.log.length state.2.overflowed
  discard _ bench := bench

/-- An ESP32, which closes its drivers when it is thrown away. -/
def esp32 : Rig where
  State := Esp32.Drivers
  indicator := Esp32.indicator Bench.esp32
  fresh := Esp32.fresh
  reading _ := .nothing
  discard drivers := drivers.releaseAll (Esp32.actions Bench.esp32)

/-- An RP2040 with some pins reserved. -/
def rp2040 (reserved : List Pin) : Rig :=
  ⟨Rp2040, Rp2040.indicator Bench.rp2040, .fresh (PinBank.full.reserve reserved),
    fun _ => .nothing, fun _ bench => bench⟩

end Rig

end PilotLamp
