import PilotLamp.Bench.Doubles
import PilotLamp.BlinkRun
import PilotLamp.Blinker
import PilotLamp.SharedIndicator

/-!
# Scripts for the test bench

A script is a list of steps on one backend. Every step is answered with its result, the events
since the answer before and the state of the lines. Steps on a shared indicator may hold a script
of their own, which runs while a wait has the backend.
-/

namespace PilotLamp

/-- A step that changes the bench rather than the backend. -/
inductive Steering
  /-- Makes the bench fail at a site, or not any more. -/
  | fault (site : FaultSite) (code : Option String)
  /-- Changes the room of the sink. -/
  | room (count : Option Nat)
deriving DecidableEq, Repr

/-- Carries out a steering step. -/
def Bench.steer (bench : Bench) : Steering → Bench
  | .fault site code => bench.setFault site code
  | .room count => { bench with room := count }

/-- The result of a step. -/
inductive StepResult
  /-- An operation succeeded or was refused. -/
  | answer (result : Except PinError Unit)
  /-- The level of a pin was asked for. -/
  | level (level : Option Level)

/-- What a step shows. -/
structure StepAnswer where
  /-- Its result. -/
  result : StepResult
  /-- The events since the answer before. -/
  events : List BenchEvent
  /-- The configured lines. -/
  lines : List (Pin × Level)
  /-- What the backend shows beside its lines. -/
  reading : RigReading

/-- A step on a backend. -/
inductive BackendStep
  /-- Calls an operation. -/
  | call (call : Call)
  /-- Asks for a level. -/
  | level (pin : Pin)
  /-- Changes the bench. -/
  | steer (steering : Steering)

/-- A step on a blinker. -/
inductive BlinkerStep
  /-- Configures the pin. -/
  | start
  /-- Goes through one cycle. -/
  | cycle
  /-- Configures the pin and goes through a number of cycles. -/
  | runCycles (count : Nat)
  /-- Changes the bench. -/
  | steer (steering : Steering)

/-- A step on a resumable blink loop. -/
inductive PollStep
  /-- Adds grants and resumes the loop. -/
  | poll (grants : Nat)
  /-- Changes the bench. -/
  | steer (steering : Steering)

/-- A step on a shared indicator. -/
inductive SharedStep
  /-- Configures a pin. -/
  | configure (raw : Int32)
  /-- Drives a pin. -/
  | write (raw rawLevel : Int32)
  /-- Waits. -/
  | delay (raw : Int32)
  /-- Waits while other steps are carried out. -/
  | delayDuring (raw : Int32) (steps : List SharedStep)
  /-- Looks at the backend. -/
  | inspect
  /-- Changes the bench. -/
  | steer (steering : Steering)

/-- The backend in a slot: the number of the instance and its configured lines. -/
structure SlotView where
  /-- The number of the instance. -/
  instanceNumber : Nat
  /-- The configured lines. -/
  lines : List (Pin × Level)

/-- What a step on a shared indicator shows. -/
inductive SharedAnswer
  /-- Its result, the answers of the steps it holds, the events since the answer before, and the
  backend in the slot. -/
  | mk (result : Except PinError Unit) (during : Option (List SharedAnswer))
    (events : List BenchEvent) (slot : Option SlotView)

namespace Rig

variable (rig : Rig)

/-- A backend of the rig with its bench. -/
abbrev Station := rig.State × Bench

/-- The answer of a step, with the events taken. -/
def answer (result : StepResult) (station : rig.Station) : StepAnswer × rig.Station :=
  let lines := rig.indicator.states station
  let (events, bench) := station.2.takeEvents
  (⟨result, events, lines, rig.reading station.1⟩, station.1, bench)

/-- Carries out a step on a backend. -/
def backendStep (station : rig.Station) : BackendStep → StepAnswer × rig.Station
  | .call call =>
    let (result, station) := rig.indicator.apply station call
    rig.answer (.answer result) station
  | .level pin => rig.answer (.level (rig.indicator.level station pin)) station
  | .steer steering => rig.answer (.answer (.ok ())) (station.1, station.2.steer steering)

/-- Carries out a step on a blinker. -/
def blinkerStep (plan : BlinkPlan) (station : rig.Station) :
    BlinkerStep → StepAnswer × rig.Station
  | .start =>
    let (result, station) := Blinker.start rig.indicator plan station
    rig.answer (.answer result) station
  | .cycle =>
    let (result, station) := Blinker.cycle rig.indicator plan station
    rig.answer (.answer result) station
  | .runCycles count =>
    let (result, station) := Blinker.runCycles rig.indicator plan count station
    rig.answer (.answer result) station
  | .steer steering => rig.answer (.answer (.ok ())) (station.1, station.2.steer steering)

/-- Carries out steps one after the other. -/
def steps {σ step answer : Type} (carryOut : σ → step → answer × σ) : List step → σ →
    List answer × σ
  | [], state => ([], state)
  | first :: rest, state =>
    let (answer, state) := carryOut state first
    let (answers, state) := steps carryOut rest state
    (answer :: answers, state)

/-- Runs a script on a new backend. -/
def runBackend (bench : Bench) (script : List BackendStep) : List StepAnswer :=
  (steps rig.backendStep script (rig.fresh, bench)).1

/-- Runs a script on a blinker with a new backend; answers also the lines at the end. -/
def runBlinker (bench : Bench) (plan : BlinkPlan) (script : List BlinkerStep) :
    List StepAnswer × List (Pin × Level) :=
  let (answers, station) := steps (rig.blinkerStep plan) script (rig.fresh, bench)
  (answers, rig.indicator.states station)

/-- What a step on a resumable loop shows: none for the answer of a steering step. -/
abbrev PolledAnswer := Option PollAnswer × List BenchEvent

/-- Carries out a step on a resumable loop. A loop owns its backend and throws it away when it
ends. -/
def pollStep (plan : BlinkPlan) (run : BlinkRun rig.Station) :
    PollStep → PolledAnswer × BlinkRun rig.Station
  | .poll grants =>
    let (answer, run) := BlinkRun.poll rig.indicator plan grants run
    let (backend, bench) := run.state
    let bench := match answer with
      | .failed _ => rig.discard backend bench
      | .pending | .done => bench
    let (events, bench) := bench.takeEvents
    ((some answer, events), { run with state := (backend, bench) })
  | .steer steering =>
    let (events, bench) := (run.state.2.steer steering).takeEvents
    ((none, events), { run with state := (run.state.1, bench) })

/-- Runs a script on a resumable loop with a new backend. -/
def runPolled (bench : Bench) (plan : BlinkPlan) (script : List PollStep) : List PolledAnswer :=
  (steps (rig.pollStep plan) script (.fresh (rig.fresh, bench))).1

/-! ## Shared indicators -/

/-- A backend of the rig with the number of its instance. -/
structure Instance where
  /-- The number. -/
  number : Nat
  /-- The backend. -/
  backend : rig.State

/-- A numbered instance as a backend. Reports and waits are events of their own. -/
def numbered : Indicator (rig.Instance × Bench) where
  configure pin state :=
    let (result, backend, bench) := rig.indicator.configure pin (state.1.backend, state.2)
    (result, { state.1 with backend }, bench)
  write pin level state :=
    let (result, backend, bench) := rig.indicator.write pin level (state.1.backend, state.2)
    (result, { state.1 with backend }, bench)
  delay ms state :=
    let (backend, bench) := rig.indicator.delay ms
      (state.1.backend, state.2.note (.delayedOn state.1.number ms))
    ({ state.1 with backend }, bench)
  level state := rig.indicator.level (state.1.backend, state.2)
  report error state :=
    let (backend, bench) := rig.indicator.report error
      (state.1.backend, state.2.note (.reportedTo state.1.number error.message))
    ({ state.1 with backend }, bench)

/-- Builds the next instance, over a sink that has its initial room again. -/
def build (bench : Bench) : rig.Instance × Bench :=
  let number := bench.instances + 1
  (⟨number, rig.fresh⟩,
    { bench with instances := number, room := bench.initialRoom }.note (.built number))

/-- Throws an instance away. -/
def throwAway (thrown : rig.Instance) (bench : Bench) : Bench :=
  rig.discard thrown.backend (bench.note (.dropped thrown.number))

/-- The backend in a slot. -/
def slotView (slot : Slot rig.Instance) (bench : Bench) : Option SlotView :=
  SharedIndicator.inspect
    (fun held => ⟨held.number, rig.numbered.states (held, bench)⟩) slot

/-- The answer of a step on a shared indicator, with the events taken. -/
def sharedAnswer (result : Except PinError Unit) (during : Option (List SharedAnswer))
    (slot : Slot rig.Instance) (bench : Bench) : SharedAnswer × Slot rig.Instance × Bench :=
  let view := rig.slotView slot bench
  let (events, bench) := bench.takeEvents
  (.mk result during events view, slot, bench)

mutual

/-- Carries out a step on a shared indicator. The steps that a wait holds come after the wait of
its backend and before the backend is given back. -/
def sharedStep (step : SharedStep) (slot : Slot rig.Instance) (bench : Bench) :
    SharedAnswer × Slot rig.Instance × Bench :=
  match step with
  | .configure raw =>
    let (result, slot, bench) := SharedIndicator.configure rig.numbered rig.build raw slot bench
    rig.sharedAnswer result none slot bench
  | .write raw rawLevel =>
    let (result, slot, bench) :=
      SharedIndicator.write rig.numbered rig.build raw rawLevel slot bench
    rig.sharedAnswer result none slot bench
  | .delay raw =>
    let (slot, bench) := SharedIndicator.delay rig.numbered rig.build rig.throwAway raw slot bench
    rig.sharedAnswer (.ok ()) none slot bench
  | .delayDuring raw nested =>
    let (out, slot, bench) := SharedIndicator.checkOut rig.build slot bench
    let (backend, bench) :=
      rig.numbered.delay (SharedIndicator.durationOfRaw raw) (out.backend, bench)
    let (answers, slot, bench) := sharedSteps nested slot bench
    let (slot, bench) := SharedIndicator.giveBack rig.throwAway { out with backend } slot bench
    rig.sharedAnswer (.ok ()) (some answers) slot bench
  | .inspect => rig.sharedAnswer (.ok ()) none slot bench
  | .steer steering => rig.sharedAnswer (.ok ()) none slot (bench.steer steering)

/-- Carries out steps on a shared indicator. -/
def sharedSteps (steps : List SharedStep) (slot : Slot rig.Instance) (bench : Bench) :
    List SharedAnswer × Slot rig.Instance × Bench :=
  match steps with
  | [] => ([], slot, bench)
  | first :: rest =>
    let (answer, slot, bench) := sharedStep first slot bench
    let (answers, slot, bench) := sharedSteps rest slot bench
    (answer :: answers, slot, bench)

end

/-- Runs a script on a shared indicator that is still empty. -/
def runShared (bench : Bench) (script : List SharedStep) : List SharedAnswer :=
  (rig.sharedSteps script .empty bench).1

end Rig

end PilotLamp
