import PilotLamp.BlinkPlan
import PilotLamp.Indicator

/-!
# The endless blink loop, resumed step by step

The loop configures its pin and then blinks until a call fails. Each wait first performs the wait
of the backend and then needs one grant; without a grant the loop stays where it is and can be
resumed later. Grants that a failing loop leaves unused remain.
-/

namespace PilotLamp

/-- Where a resumable loop stands. -/
inductive BlinkPhase
  /-- Nothing was called yet. -/
  | unstarted
  /-- The indicator is lit and the wait needs a grant. -/
  | lit
  /-- The indicator is dark and the wait needs a grant. -/
  | dark
  /-- A call failed. -/
  | ended (error : PinError)
deriving DecidableEq, Repr

/-- A resumable loop over states of type `σ`. -/
structure BlinkRun (σ : Type) where
  /-- Where it stands. -/
  phase : BlinkPhase
  /-- The grants not used yet. -/
  grants : Nat
  /-- The state of its backend. -/
  state : σ

/-- What resuming a loop shows. -/
inductive PollAnswer
  /-- The loop waits for a grant. -/
  | pending
  /-- The loop has just ended with an error. -/
  | failed (error : PinError)
  /-- The loop had ended before. -/
  | done
deriving DecidableEq, Repr

namespace BlinkRun

variable {σ : Type} (indicator : Indicator σ) (plan : BlinkPlan)

/-- A loop that has not begun. -/
def fresh (state : σ) : BlinkRun σ := ⟨.unstarted, 0, state⟩

/-- Drives the indicator and performs the wait that follows. -/
def drive (level : Level) (state : σ) : BlinkPhase × σ :=
  match indicator.write plan.pin level state with
  | (.error error, state) => (.ended error, state)
  | (.ok (), state) =>
    ((match level with | .asserted => .lit | .deasserted => .dark),
      indicator.delay plan.periodMs state)

/-- Begins a loop: configures the pin and turns the indicator on. -/
def begin (state : σ) : BlinkPhase × σ :=
  match indicator.configure plan.pin state with
  | (.error error, state) => (.ended error, state)
  | (.ok (), state) => drive indicator plan .asserted state

/-- Uses grants until they run out or the loop ends. -/
def advance : Nat → BlinkPhase → σ → BlinkRun σ
  | 0, phase, state => ⟨phase, 0, state⟩
  | grants + 1, .lit, state =>
    let (phase, state) := drive indicator plan .deasserted state
    advance grants phase state
  | grants + 1, .dark, state =>
    let (phase, state) := drive indicator plan .asserted state
    advance grants phase state
  | grants + 1, phase, state => ⟨phase, grants + 1, state⟩

/-- Adds grants and resumes the loop. -/
def resume (grants : Nat) (run : BlinkRun σ) : BlinkRun σ :=
  match run.phase with
  | .unstarted =>
    let (phase, state) := begin indicator plan run.state
    advance indicator plan (run.grants + grants) phase state
  | phase => advance indicator plan (run.grants + grants) phase run.state

/-- Adds grants, resumes the loop and tells where that led. -/
def poll (grants : Nat) (run : BlinkRun σ) : PollAnswer × BlinkRun σ :=
  let next := resume indicator plan grants run
  let answer := match run.phase, next.phase with
    | .ended _, _ => .done
    | _, .ended error => .failed error
    | _, _ => .pending
  (answer, next)

end BlinkRun

end PilotLamp
