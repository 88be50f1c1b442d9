import PilotLamp.Blinker
import PilotLamp.BlinkRun
import PilotLamp.CommandLine
import PilotLamp.FileTree
import PilotLamp.HostSettings
import PilotLamp.LogFilter
import PilotLamp.Simulation

/-!
# The host program

Settings come from the standard ones, then from a configuration file, then from the command line.
The program blinks a simulated indicator, prints its trace and logs what it does. What a run does
to the outside is a list of effects, so that a run can be looked at as well as played.
-/

namespace PilotLamp

/-! ## Effects -/

/-- One thing that the program does to the outside. -/
inductive ConsoleEffect
  /-- Prints a text. -/
  | print (text : String)
  /-- Writes a log line. -/
  | log (record : LogRecord)
  /-- Lets milliseconds pass. -/
  | sleep (ms : UInt32)
deriving DecidableEq, Repr

/-- The effects of a run, oldest first. -/
abbrev Console := Array ConsoleEffect

namespace Console

/-- What was printed. -/
def printed (console : Console) : String :=
  String.join (console.toList.filterMap fun
    | .print text => some text
    | _ => none)

/-- The records that were logged. -/
def logged (console : Console) : List LogRecord :=
  console.toList.filterMap fun
    | .log record => some record
    | _ => none

/-- A console as the surroundings of a simulation: everything is printed, logged and waited for. -/
def surroundings : Simulation.Surroundings Console where
  sink := .accepting fun text console => console.push (.print (String.ofList text))
  log record console := console.push (.log record)
  sleep ms console := console.push (.sleep ms)

end Console

/-! ## Settings -/

/-- Why there are no settings. -/
inductive HostError
  /-- The configuration file cannot be read. -/
  | unreadable (path : String) (cause : ReadFailure)
  /-- The configuration file holds no settings. -/
  | invalid (path : String) (cause : SettingsError)

/-- What is said of an error first. -/
def HostError.headline : HostError → String
  | unreadable path _ => "failed to read " ++ path
  | invalid path _ => "in " ++ path

namespace Invocation

/-- Puts what the command line gives in place of what the settings say. -/
def override (invocation : Invocation) (settings : HostSettings) : HostSettings :=
  { settings with
    blink := ⟨invocation.pin.getD settings.blink.pin,
      invocation.periodMs.getD settings.blink.periodMs⟩ }

/-- The settings of an invocation, with the text of a file found by `load`. -/
def resolve (load : String → Except ReadFailure String) (invocation : Invocation) :
    Except HostError HostSettings :=
  match invocation.config with
  | none => .ok (invocation.override .standard)
  | some path =>
    match load path with
    | .error cause => .error (.unreadable path cause)
    | .ok text =>
      match HostSettings.ofToml text with
      | .error cause => .error (.invalid path cause)
      | .ok settings => .ok (invocation.override settings)

end Invocation

/-! ## Runs -/

namespace HostProgram

/-- The name under which the program logs. -/
def logTarget : String := "lumen_sim"

/-- Something that a run writes beside what it prints. -/
inductive Remark
  /-- A log record. -/
  | record (entry : LogRecord)
  /-- A text. -/
  | text (written : String)
deriving DecidableEq, Repr

/-- Whether a line reports an error. -/
def isErrorLine (line : String) : Bool :=
  "Error: ".toList.isPrefixOf line.toList || "error: ".toList.isPrefixOf line.toList

/-- The lines of a remark that report something: a record, or an error. -/
def Remark.reportLines : Remark → List String
  | record entry => [entry.line]
  | text written => (TextLines.lines written).filter isErrorLine

/-- What a run leaves behind. -/
structure Outcome where
  /-- The exit status. -/
  status : Nat
  /-- What it printed. -/
  stdout : String
  /-- What it wrote beside that, oldest first. -/
  remarks : List Remark
deriving DecidableEq, Repr

/-- The lines in which an outcome reports something. -/
def Outcome.reportLines (outcome : Outcome) : List String :=
  outcome.remarks.flatMap Remark.reportLines

/-- A run that is ready to blink. -/
structure Session where
  /-- What blinks and how fast. -/
  plan : BlinkPlan
  /-- The number of cycles; none for a run without end. -/
  cycles : Option UInt32
  /-- The simulation. -/
  simulation : Simulation
  /-- What was done so far. -/
  console : Console

/-- The simulation on a console, as an indicator backend. -/
def indicator : Indicator (Simulation × Console) := Simulation.indicator Console.surroundings

/-- Says what is going to blink. -/
def announcement (settings : HostSettings) : LogRecord :=
  ⟨.info, logTarget, Board.simulation.name ++ ": blinking pin " ++ settings.blink.pin.text
    ++ " every " ++ Nat.repr settings.blink.periodMs.toNat ++ "ms ("
    ++ Nat.repr settings.simulation.slots.toNat ++ " simulated slots)"⟩

/-- Says how many cycles were gone through. -/
def farewell (cycles : UInt32) : LogRecord :=
  ⟨.info, logTarget, "done after " ++ Nat.repr cycles.toNat ++ " cycles"⟩

/-- The run of some settings. -/
def openSession (invocation : Invocation) (settings : HostSettings) : Session where
  plan := settings.blink
  cycles := invocation.cycles
  simulation := .withSlots settings.simulation.slots.toNat
  console := #[.log (announcement settings)]

/-- What is written of an error that ends a run. -/
def errorText (headline : String) : String := "Error: " ++ headline ++ "\n"

/-- What is written about the text of a log filter. -/
def complaintText (fault : LogFilterFault) : String := fault.complaint ++ "\n"

/-- What a console and an error leave beside the printed text. -/
def remarks (filter : LogFilter) (console : Console) (error : Option String) : List Remark :=
  ((console.logged.filter filter.allows).map .record)
    ++ error.toList.map fun headline => .text (errorText headline)

/-- The outcome of a run that ended. -/
def outcome (filter : LogFilter) (console : Console) (error : Option String) : Outcome :=
  ⟨if error.isSome then 1 else 0, console.printed, remarks filter console error⟩

/-- Blinks for a number of cycles. -/
def blinkCycles (session : Session) (cycles : UInt32) : Except PinError Unit × Console :=
  match Blinker.runCycles indicator session.plan cycles.toNat
      (session.simulation, session.console) with
  | (.ok (), _, console) => (.ok (), console.push (.log (farewell cycles)))
  | (.error error, _, console) => (.error error, console)

/-- The outcome of a session: none if it goes on for ever. A run without end that passes its
first wait never fails, for the simulation refuses no write to a configured pin. -/
def finish? (filter : LogFilter) (session : Session) : Option Outcome :=
  match session.cycles with
  | some cycles =>
    match blinkCycles session cycles with
    | (.ok (), console) => some (outcome filter console none)
    | (.error error, console) => some (outcome filter console (some error.message))
  | none =>
    match BlinkRun.poll indicator session.plan 0
        (.fresh (session.simulation, session.console)) with
    | (.failed error, run) => some (outcome filter run.state.2 (some error.message))
    | _ => none

/-- The outcome of a command line that yields no invocation. -/
def stopped (stop : CommandLineStop) : Outcome :=
  if stop.isFailure then ⟨2, "", [.text stop.report]⟩ else ⟨0, stop.report, []⟩

/-- The outcome of a command line: none if the program goes on for ever. -/
def answer? (load : String → Except ReadFailure String) (filter : LogFilter)
    (arguments : List String) : Option Outcome :=
  match CommandLine.read arguments with
  | .error stop => some (stopped stop)
  | .ok invocation =>
    match invocation.resolve load with
    | .error error => some (outcome filter #[] (some error.headline))
    | .ok settings => finish? filter (openSession invocation settings)

/-- The outcome of the program, which first complains about the text of the log filter. -/
def run? (load : String → Except ReadFailure String) (reading : LogFilter.Reading)
    (arguments : List String) : Option Outcome :=
  (answer? load reading.filter arguments).map fun outcome =>
    { outcome with
      remarks := reading.faults.map (fun fault => .text (complaintText fault))
        ++ outcome.remarks }

end HostProgram

end PilotLamp
