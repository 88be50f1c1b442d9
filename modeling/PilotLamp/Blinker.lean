import PilotLamp.BlinkPlan
import PilotLamp.Indicator

/-!
# The blink loop

A cycle turns the indicator on, waits, turns it off and waits again; the first call that fails
ends it with its error. A run configures the pin and then goes through a number of cycles. Main
statement: a run makes exactly the calls of its schedule, up to the first that fails.
-/

namespace PilotLamp.Blinker

variable {σ : Type} (indicator : Indicator σ) (plan : BlinkPlan)

/-- Configures the pin of a plan. -/
def start (state : σ) : Except PinError Unit × σ := indicator.configure plan.pin state

/-- Goes through one cycle. -/
def cycle (state : σ) : Except PinError Unit × σ :=
  match indicator.write plan.pin .asserted state with
  | (.error error, state) => (.error error, state)
  | (.ok (), state) =>
    match indicator.write plan.pin .deasserted (indicator.delay plan.periodMs state) with
    | (.error error, state) => (.error error, state)
    | (.ok (), state) => (.ok (), indicator.delay plan.periodMs state)

/-- Goes through a number of cycles. -/
def cycles : Nat → σ → Except PinError Unit × σ
  | 0, state => (.ok (), state)
  | count + 1, state =>
    match cycle indicator plan state with
    | (.error error, state) => (.error error, state)
    | (.ok (), state) => cycles count state

/-- Configures the pin and goes through a number of cycles. -/
def runCycles (count : Nat) (state : σ) : Except PinError Unit × σ :=
  match start indicator plan state with
  | (.error error, state) => (.error error, state)
  | (.ok (), state) => cycles indicator plan count state

/-- The calls of one cycle. -/
def cycleCalls : List Call :=
  [.write plan.pin .asserted, .delay plan.periodMs, .write plan.pin .deasserted,
    .delay plan.periodMs]

/-- The calls of a number of cycles. -/
def cyclesCalls : Nat → List Call
  | 0 => []
  | count + 1 => cycleCalls plan ++ cyclesCalls count

/-- The calls of a run. -/
def schedule (count : Nat) : List Call := .configure plan.pin :: cyclesCalls plan count

/-- A cycle makes its four calls up to the first that fails. -/
theorem cycle_eq_applyUntilError (state : σ) :
    cycle indicator plan state = indicator.applyUntilError (cycleCalls plan) state := by
  unfold cycle cycleCalls
  rw [Indicator.applyUntilError, Indicator.apply]
  rcases indicator.write plan.pin .asserted state with ⟨error | _, next⟩
  · rfl
  · dsimp only
    rw [Indicator.applyUntilError, Indicator.apply]
    dsimp only
    rw [Indicator.applyUntilError, Indicator.apply]
    rcases indicator.write plan.pin .deasserted (indicator.delay plan.periodMs next)
      with ⟨error | _, last⟩
    · rfl
    · rfl

/-- Cycles make their calls up to the first that fails. -/
theorem cycles_eq_applyUntilError (count : Nat) (state : σ) :
    cycles indicator plan count state
      = indicator.applyUntilError (cyclesCalls plan count) state := by
  induction count generalizing state with
  | zero => rfl
  | succ count ih =>
    rw [cycles, cyclesCalls, Indicator.applyUntilError_append, cycle_eq_applyUntilError]
    rcases indicator.applyUntilError (cycleCalls plan) state with ⟨error | _, next⟩
    · rfl
    · exact ih next

/-- A run makes the calls of its schedule up to the first that fails. -/
theorem runCycles_eq_applyUntilError (count : Nat) (state : σ) :
    runCycles indicator plan count state
      = indicator.applyUntilError (schedule plan count) state := by
  unfold runCycles start
  rw [schedule, Indicator.applyUntilError, Indicator.apply]
  rcases indicator.configure plan.pin state with ⟨error | _, next⟩
  · rfl
  · exact cycles_eq_applyUntilError indicator plan count next

end PilotLamp.Blinker
