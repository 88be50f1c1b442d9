import PilotLamp.HostProgram

/-!
# The host program on a terminal

Reads the command line, the configuration file and the log filter, and plays the effects of a run
as they come, one cycle at a time. Everything that is decided is decided elsewhere.
-/

namespace PilotLamp.Terminal

/-- Plays effects: prints, logs what the filter shows, and waits. -/
def play (filter : LogFilter) (console : Console) : IO Unit := do
  let stdout ← IO.getStdout
  for effect in console do
    match effect with
    | .print text =>
      stdout.putStr text
      stdout.flush
    | .log record => if filter.allows record then IO.eprintln record.line
    | .sleep ms => IO.sleep ms

/-- Says what an error says first, and answers the exit status of a failed run. -/
def fail (headline : String) : IO UInt32 := do
  IO.eprint (HostProgram.errorText headline)
  return 1

/-- Goes through cycles, for ever if there is no number of them. -/
partial def blink (filter : LogFilter) (plan : BlinkPlan) (remaining : Option Nat)
    (simulation : Simulation) : IO UInt32 := do
  if remaining = some 0 then return 0
  let (result, simulation, console) := Blinker.cycle HostProgram.indicator plan (simulation, #[])
  play filter console
  match result with
  | .ok () => blink filter plan (remaining.map (· - 1)) simulation
  | .error error => fail error.message

/-- Plays a session. -/
def playSession (filter : LogFilter) (session : HostProgram.Session) : IO UInt32 := do
  let (result, simulation, console) :=
    Blinker.start HostProgram.indicator session.plan (session.simulation, session.console)
  play filter console
  match result with
  | .error error => fail error.message
  | .ok () =>
    let status ← blink filter session.plan (session.cycles.map UInt32.toNat) simulation
    if status = 0 then
      if let some cycles := session.cycles then
        play filter #[.log (HostProgram.farewell cycles)]
    return status

/-- Reads a file as text. -/
def load (path : String) : IO (Except ReadFailure String) := do
  try
    let bytes ← IO.FS.readBinFile path
    match String.fromUTF8? bytes with
    | some text => return .ok text
    | none => return .error .notText
  catch _ => return .error .notFound

end PilotLamp.Terminal

open PilotLamp in
/-- Runs the program. -/
def main (arguments : List String) : IO UInt32 := do
  let reading := match ← IO.getEnv "RUST_LOG" with
    | some text => LogFilter.read text
    | none => .standard
  for fault in reading.faults do
    IO.eprint (HostProgram.complaintText fault)
  match CommandLine.read arguments with
  | .error stop =>
    if stop.isFailure then
      IO.eprint stop.report
      return 2
    else
      IO.print stop.report
      return 0
  | .ok invocation =>
    let found ← match invocation.config with
      | some path => Terminal.load path
      | none => pure (.error .notFound)
    match invocation.resolve fun _ => found with
    | .error error => Terminal.fail error.headline
    | .ok settings =>
      Terminal.playSession reading.filter (HostProgram.openSession invocation settings)
