import PilotLamp.LogRecord
import PilotLamp.Pin
import PilotLamp.RegisterBus
import PilotLamp.TraceSink

/-!
# The world of the test bench

On the bench every effect of a backend becomes an event, and drivers and sinks fail on demand.
Events are collected until they are taken. Text that is written without another event in between
is one event.
-/

namespace PilotLamp

/-- One thing that happened on the bench. -/
inductive BenchEvent
  /-- A sink took some text. -/
  | output (text : String)
  /-- A record was logged. -/
  | log (record : LogRecord)
  /-- A probe was claimed for a pin; probes are numbered. -/
  | claimed (pin : Pin) (probe : Nat)
  /-- A probe was driven. -/
  | probeDriven (probe : Nat) (level : Level)
  /-- A probe could not be driven. -/
  | probeFailed (probe : Nat) (level : Level)
  /-- A probe was given up, or an instance of a backend was thrown away. -/
  | dropped (number : Nat)
  /-- A plain backend was asked to configure a pin. -/
  | configured (pin : Pin)
  /-- A plain backend was asked to write a pin. -/
  | written (pin : Pin) (level : Level)
  /-- A plain backend was asked to wait. -/
  | waited (ms : UInt32)
  /-- A register was read. -/
  | busRead (register : Register) (value : Word)
  /-- A register was written. -/
  | busWritten (register : Register) (value : Word)
  /-- The driver of a pin was opened. -/
  | opened (pin : Pin)
  /-- The driver of a pin was opened at a level. -/
  | openedAt (pin : Pin) (level : Level)
  /-- The driver of a pin could not be opened. -/
  | openFailed (pin : Pin) (code : String)
  /-- A pin was driven. -/
  | driven (pin : Pin) (level : Level)
  /-- A pin could not be driven. -/
  | driveFailed (pin : Pin) (level : Level) (code : String)
  /-- The driver of a pin was closed. -/
  | closed (pin : Pin)
  /-- A scheduler was asked to wait. -/
  | schedulerTicks (ticks : UInt32)
  /-- A timer was asked to wait. -/
  | timerTicks (ticks : UInt64)
  /-- An instance of a backend was built; instances are numbered. -/
  | built (instanceNumber : Nat)
  /-- An error was reported to an instance. -/
  | reportedTo (instanceNumber : Nat) (message : String)
  /-- An instance was asked to wait. -/
  | delayedOn (instanceNumber : Nat) (ms : UInt32)
deriving DecidableEq, Repr

/-- Where the bench can be told to fail. -/
inductive FaultSite
  /-- When a driver is opened. -/
  | openDriver
  /-- When a pin is driven. -/
  | drive
  /-- When a sink is flushed. -/
  | flush
  /-- When a full sink answers: it takes nothing rather than fail. -/
  | zero
deriving DecidableEq, Repr

/-- The state of the bench. -/
structure Bench where
  /-- The events since they were last taken, oldest first. -/
  events : Array BenchEvent := #[]
  /-- The codes with which the bench fails. -/
  faults : List (FaultSite × String) := []
  /-- How many characters the sink still takes; none for any number. -/
  room : Option Nat := none
  /-- How many characters a new sink takes; none for any number. -/
  initialRoom : Option Nat := none
  /-- The number of probes claimed so far. -/
  probes : Nat := 0
  /-- The number of instances built so far. -/
  instances : Nat := 0
deriving Repr

namespace Bench

/-- Adds an event. Text joins text right before it. -/
def note (event : BenchEvent) (bench : Bench) : Bench :=
  match event, bench.events.back? with
  | .output text, some (.output before) =>
    { bench with events := bench.events.pop.push (.output (before ++ text)) }
  | event, _ => { bench with events := bench.events.push event }

/-- Takes the events. -/
def takeEvents (bench : Bench) : List BenchEvent × Bench :=
  (bench.events.toList, { bench with events := #[] })

/-- The code with which the bench fails at a site. -/
def fault? (bench : Bench) (site : FaultSite) : Option String := bench.faults.lookup site

/-- Makes the bench fail at a site, or not any more. -/
def setFault (site : FaultSite) (code : Option String) (bench : Bench) : Bench :=
  let others := bench.faults.filter fun fault => fault.1 != site
  { bench with faults := (code.toList.map (site, ·)) ++ others }

/-- Logs a record as an event. -/
def log (record : LogRecord) (bench : Bench) : Bench := bench.note (.log record)

/-- Does something that may fail at a site, with an event for each outcome. -/
def attempt (site : FaultSite) (done : BenchEvent) (failed : String → BenchEvent)
    (bench : Bench) : Except String Unit × Bench :=
  match bench.fault? site with
  | none => (.ok (), bench.note done)
  | some code => (.error code, bench.note (failed code))

/-- The failure of a sink without room. -/
def sinkFull : String := "sink full"

/-- Takes as much text as there is room for. -/
def takeText (text : List Char) (bench : Bench) : Except String Nat × Bench :=
  let count := match bench.room with
    | none => text.length
    | some room => min room text.length
  if count = 0 then
    if (bench.fault? .zero).isSome then (.ok 0, bench) else (.error sinkFull, bench)
  else
    (.ok count,
      { bench with room := bench.room.map (· - count) }.note
        (.output (String.ofList (text.take count))))

/-- The sink of the bench. -/
def sink : TraceSink Bench where
  write := takeText
  flush bench := match bench.fault? .flush with
    | none => (.ok (), bench)
    | some failure => (.error failure, bench)

end Bench

end PilotLamp
