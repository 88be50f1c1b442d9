import PilotLamp.Blinker
import PilotLamp.Proofs.CallsMade

/-!
# The calls of blink cycles

A run configures its pin and then repeats the four calls of a cycle. On a backend that may refuse
any configuration and any write, whatever happened before, a run makes exactly these calls up to
the first that fails and ends as that call does.
-/

namespace PilotLamp.Blinker

variable {σ : Type} (indicator : Indicator σ) (plan : BlinkPlan)

/-- The calls of some cycles are those of one cycle, that many times. -/
theorem cyclesCalls_eq_flatten (count : Nat) :
    cyclesCalls plan count = (List.replicate count (cycleCalls plan)).flatten := by
  induction count with
  | zero => rfl
  | succ count ih => rw [cyclesCalls, ih, List.replicate_succ, List.flatten_cons]

/-- A run configures the pin and goes through its cycles until a call fails; a note of the calls
it makes changes nothing. -/
theorem run_makes_calls_until_failure (count : Nat) (start : σ) :
    let run := runCycles indicator.noting plan count (start, [])
    runCycles indicator plan count start = (run.1, run.2.1) ∧
    MakesCalls indicator
      (.configure plan.pin :: (List.replicate count
        [.write plan.pin .asserted, .delay plan.periodMs, .write plan.pin .deasserted,
          .delay plan.periodMs]).flatten)
      run.2.2 start run.1 run.2.1 := by
  have hplanned : Call.configure plan.pin :: (List.replicate count (cycleCalls plan)).flatten
      = schedule plan count := by rw [schedule, cyclesCalls_eq_flatten]
  obtain ⟨made, hmade, hnoted⟩ :=
    makesCalls_applyUntilError indicator (schedule plan count) start []
  rw [runCycles_eq_applyUntilError, runCycles_eq_applyUntilError, hnoted]
  refine ⟨rfl, ?_⟩
  rw [cycleCalls] at hplanned
  rw [hplanned]
  exact hmade

end PilotLamp.Blinker
