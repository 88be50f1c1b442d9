import PilotLamp.Pin

/-!
# What every indicator backend offers

A backend is given by its operations on a state that holds the backend itself and everything it
acts on: registers, drivers, an output stream, a log. A failing operation still leaves a state.
A `Call` names one operation with its arguments, so that a run is a list of calls.
-/

namespace PilotLamp

/-- The operations of an indicator backend on states of type `σ`. -/
structure Indicator (σ : Type) where
  /-- Makes a pin an output, driven low. -/
  configure : Pin → σ → Except PinError Unit × σ
  /-- Drives a configured pin. -/
  write : Pin → Level → σ → Except PinError Unit × σ
  /-- Waits for a number of milliseconds. -/
  delay : UInt32 → σ → σ
  /-- The level that a configured pin was last given. -/
  level : σ → Pin → Option Level
  /-- Makes an error known where the backend makes errors known. -/
  report : PinError → σ → σ

/-- One operation with its arguments. -/
inductive Call
  /-- Configures a pin. -/
  | configure (pin : Pin)
  /-- Drives a pin. -/
  | write (pin : Pin) (level : Level)
  /-- Waits. -/
  | delay (ms : UInt32)
  /-- Reports an error. -/
  | report (error : PinError)
deriving DecidableEq, Repr

namespace Indicator

variable {σ τ : Type}

/-- Carries out one call. Waiting and reporting never fail. -/
def apply (indicator : Indicator σ) (state : σ) : Call → Except PinError Unit × σ
  | .configure pin => indicator.configure pin state
  | .write pin level => indicator.write pin level state
  | .delay ms => (.ok (), indicator.delay ms state)
  | .report error => (.ok (), indicator.report error state)

/-- The state after a list of calls, whether they fail or not. -/
def after (indicator : Indicator σ) (state : σ) (calls : List Call) : σ :=
  calls.foldl (fun state call => (indicator.apply state call).2) state

theorem after_append (indicator : Indicator σ) (state : σ) (first second : List Call) :
    indicator.after state (first ++ second)
      = indicator.after (indicator.after state first) second := List.foldl_append

/-- Carries out calls in order and stops at the first that fails. -/
def applyUntilError (indicator : Indicator σ) : List Call → σ → Except PinError Unit × σ
  | [], state => (.ok (), state)
  | call :: rest, state =>
    match indicator.apply state call with
    | (.ok (), state) => indicator.applyUntilError rest state
    | (.error error, state) => (.error error, state)

/-- Calls after others are carried out if none of the others fails. -/
theorem applyUntilError_append (indicator : Indicator σ) (first second : List Call) (state : σ) :
    indicator.applyUntilError (first ++ second) state
      = match indicator.applyUntilError first state with
        | (.ok (), state) => indicator.applyUntilError second state
        | (.error error, state) => (.error error, state) := by
  induction first generalizing state with
  | nil => rfl
  | cons call rest ih =>
    rw [List.cons_append, applyUntilError, applyUntilError]
    rcases indicator.apply state call with ⟨error | _, next⟩
    · rfl
    · exact ih next

/-- The level of every configured pin, ascending. -/
def states (indicator : Indicator σ) (state : σ) : List (Pin × Level) :=
  Pin.all.filterMap fun pin => (indicator.level state pin).map (pin, ·)

/-- The same backend on states that are stored in another arrangement. -/
def rearranged (indicator : Indicator σ) (unpack : τ → σ) (pack : σ → τ) : Indicator τ where
  configure pin state :=
    let (result, inner) := indicator.configure pin (unpack state)
    (result, pack inner)
  write pin level state :=
    let (result, inner) := indicator.write pin level (unpack state)
    (result, pack inner)
  delay ms state := pack (indicator.delay ms (unpack state))
  level state := indicator.level (unpack state)
  report error state := pack (indicator.report error (unpack state))

/-- The same backend with a list of the calls made on it, newest last. -/
def noting (indicator : Indicator σ) : Indicator (σ × List Call) where
  configure pin state :=
    let (result, inner) := indicator.configure pin state.1
    (result, inner, state.2 ++ [.configure pin])
  write pin level state :=
    let (result, inner) := indicator.write pin level state.1
    (result, inner, state.2 ++ [.write pin level])
  delay ms state := (indicator.delay ms state.1, state.2 ++ [.delay ms])
  level state := indicator.level state.1
  report error state := (indicator.report error state.1, state.2 ++ [.report error])

/-- Every call is noted, and answered as without the note. -/
theorem apply_noting (indicator : Indicator σ) (state : σ × List Call) (call : Call) :
    indicator.noting.apply state call
      = ((indicator.apply state.1 call).1, (indicator.apply state.1 call).2,
          state.2 ++ [call]) := by
  cases call <;> rfl

end Indicator

end PilotLamp
