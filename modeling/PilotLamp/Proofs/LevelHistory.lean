import PilotLamp.Esp32
import PilotLamp.Proofs.DriverRules
import PilotLamp.Rp2040
import PilotLamp.Simulation
import PilotLamp.Stm32f4

/-!
# Levels told from answers

A caller that keeps the answers to its calls knows the level of every pin without asking: the
level is what the last successful write since the last successful configuration said. All four
backends keep to this, whatever their worlds do, so it is proved of one step of each and once for
all runs. What the lines carry electrically is out of scope.
-/

namespace PilotLamp

/-- A call with its answer. -/
structure Answered where
  /-- The call. -/
  call : Call
  /-- The answer. -/
  answer : Except PinError Unit

namespace Answered

/-- A pin was configured. -/
def configured (pin : Pin) : Answered := ⟨.configure pin, .ok ()⟩

/-- The level that a pin was given, if the call is a write on it that succeeded. -/
def written? (pin : Pin) : Answered → Option Level
  | ⟨.write other level, .ok ()⟩ => if other = pin then some level else none
  | _ => none

/-- The last level that a pin was given. -/
def lastWritten (pin : Pin) (history : List Answered) : Option Level :=
  (history.filterMap (written? pin)).getLast?

/-- The level of a pin after one more answer. -/
def levelAfter (pin : Pin) (level : Option Level) : Answered → Option Level
  | ⟨.configure other, .ok ()⟩ => if pin = other then some .deasserted else level
  | ⟨.write other written, .ok ()⟩ => if pin = other then level.map fun _ => written else level
  | _ => level

/-- The level of a pin after a history of answers. -/
def levelOf (pin : Pin) (history : List Answered) : Option Level :=
  history.foldl (levelAfter pin) none

end Answered

/-- The pin that a call is about. -/
def Call.pin? : Call → Option Pin
  | .configure pin | .write pin _ => some pin
  | .delay _ | .report _ => none

namespace Answered

/-- A successful configuration leaves its pin deasserted. -/
theorem levelAfter_configured (pin : Pin) (level : Option Level) :
    levelAfter pin level (configured pin) = some .deasserted := if_pos rfl

/-- Nothing but a successful configuration gives a level to a pin that has none, and nothing
takes a level away. -/
theorem levelAfter_eq_none_iff {pin : Pin} {level : Option Level} {answered : Answered} :
    levelAfter pin level answered = none ↔ level = none ∧ answered ≠ configured pin := by
  obtain ⟨call, answer⟩ := answered
  cases answer with
  | error cause => cases call <;> simp [levelAfter, configured]
  | ok =>
    cases call with
    | configure other =>
      by_cases h : pin = other
      · simp [levelAfter, configured, h]
      · simp [levelAfter, configured, h, Ne.symm h]
    | write other written => by_cases h : pin = other <;> simp [levelAfter, configured, h]
    | delay ms => simp [levelAfter, configured]
    | report cause => simp [levelAfter, configured]

/-- A pin that has a level keeps it or gets the one that is written. -/
theorem levelAfter_some {pin : Pin} {level : Level} {answered : Answered}
    (h : answered ≠ configured pin) :
    levelAfter pin (some level) answered = some ((written? pin answered).getD level) := by
  obtain ⟨call, answer⟩ := answered
  cases answer with
  | error cause => cases call <;> rfl
  | ok =>
    cases call with
    | configure other =>
      have hne : pin ≠ other := fun heq => h (heq ▸ rfl)
      simp [levelAfter, written?, hne]
    | write other written =>
      by_cases heq : pin = other
      · simp [levelAfter, written?, heq]
      · simp [levelAfter, written?, heq, Ne.symm heq]
    | delay ms => rfl
    | report cause => rfl

/-- An error, a wait, a report and a call on another pin leave a level alone. -/
theorem levelAfter_of_other {pin : Pin} {level : Option Level} {answered : Answered}
    (h : (∃ cause, answered.answer = .error cause) ∨ answered.call.pin? ≠ some pin) :
    levelAfter pin level answered = level := by
  obtain ⟨call, answer⟩ := answered
  cases answer with
  | error cause => cases call <;> rfl
  | ok =>
    have hother : call.pin? ≠ some pin := by simpa using h
    cases call with
    | configure other =>
      have hne : pin ≠ other := fun heq => hother (heq ▸ rfl)
      simp [levelAfter, hne]
    | write other written =>
      have hne : pin ≠ other := fun heq => hother (heq ▸ rfl)
      simp [levelAfter, hne]
    | delay ms => rfl
    | report cause => rfl

/-- A pin has no level exactly if no configuration of it succeeded. -/
theorem levelOf_eq_none_iff (pin : Pin) (history : List Answered) :
    levelOf pin history = none ↔ configured pin ∉ history := by
  -- The level before the history is generalised for the induction.
  suffices h : ∀ level, history.foldl (levelAfter pin) level = none ↔
      level = none ∧ configured pin ∉ history by
    have hnone := h none
    rw [eq_self, true_and] at hnone
    exact hnone
  induction history with
  | nil => simp
  | cons answered rest ih =>
    intro level
    rw [List.foldl_cons, ih, levelAfter_eq_none_iff, List.mem_cons, not_or, and_assoc, ne_comm]

/-- The last level that a pin was given, of several calls. -/
theorem lastWritten_cons (pin : Pin) (answered : Answered) (rest : List Answered) (level : Level) :
    (lastWritten pin (answered :: rest)).getD level
      = (lastWritten pin rest).getD ((written? pin answered).getD level) := by
  unfold lastWritten
  cases h : written? pin answered with
  | none =>
    rw [List.filterMap_cons_none h]
    rfl
  | some written =>
    rw [List.filterMap_cons_some h, List.getLast?_cons]
    rfl

/-- Since a configuration of it succeeded, a pin has the last level that it was given. -/
theorem levelOf_since_configured {pin : Pin} {later : List Answered}
    (h : configured pin ∉ later) (earlier : List Answered) :
    levelOf pin (earlier ++ configured pin :: later)
      = some ((lastWritten pin later).getD .deasserted) := by
  rw [levelOf, List.foldl_append, List.foldl_cons, levelAfter_configured]
  generalize Level.deasserted = level
  induction later generalizing level with
  | nil => rfl
  | cons answered rest ih =>
    have hne : answered ≠ configured pin := fun heq => h (heq ▸ List.mem_cons_self)
    have hrest : configured pin ∉ rest := fun hmem => h (List.mem_cons_of_mem _ hmem)
    rw [List.foldl_cons, levelAfter_some hne, ih hrest, lastWritten_cons]

end Answered

namespace Indicator

variable {σ : Type}

/-- The calls of a run with their answers. -/
def answered (indicator : Indicator σ) (state : σ) : List Call → List Answered
  | [] => []
  | call :: rest =>
    ⟨call, (indicator.apply state call).1⟩
      :: answered indicator (indicator.apply state call).2 rest

/-- The level of every pin changes as the answer to a call tells, from whatever state. -/
def TellsLevels (indicator : Indicator σ) : Prop :=
  ∀ state call pin, indicator.level (indicator.apply state call).2 pin
    = Answered.levelAfter pin (indicator.level state pin) ⟨call, (indicator.apply state call).1⟩

/-- The level of every pin after a run is what the answers tell. -/
theorem TellsLevels.level_after {indicator : Indicator σ} (h : indicator.TellsLevels) {start : σ}
    (hstart : ∀ pin, indicator.level start pin = none) (calls : List Call) (pin : Pin) :
    indicator.level (indicator.after start calls) pin
      = Answered.levelOf pin (indicator.answered start calls) := by
  rw [Answered.levelOf, ← hstart pin]
  clear hstart
  induction calls generalizing start with
  | nil => rfl
  | cons call rest ih =>
    have hstep := h start call pin
    rw [answered, List.foldl_cons, ← hstep, ← ih]
    rfl

/-- The levels of an indicator after any run are told by the answers since a start. -/
structure LevelsAsAnswered (indicator : Indicator σ) (start : σ) : Prop where
  /-- A pin has no level exactly if no configuration of it succeeded. -/
  none_iff : ∀ calls pin, indicator.level (indicator.after start calls) pin = none ↔
    Answered.configured pin ∉ indicator.answered start calls
  /-- Otherwise it has the level of the last write that succeeded after the last configuration
  that did, and is deasserted if there was no such write. -/
  since : ∀ calls pin earlier later,
    indicator.answered start calls = earlier ++ Answered.configured pin :: later →
    Answered.configured pin ∉ later →
    indicator.level (indicator.after start calls) pin
      = some ((Answered.lastWritten pin later).getD .deasserted)
  /-- An error, a wait, a report and a call on another pin leave the level alone. -/
  unchanged : ∀ calls call pin,
    (∃ cause, (indicator.apply (indicator.after start calls) call).1 = .error cause) ∨
      call.pin? ≠ some pin →
    indicator.level (indicator.apply (indicator.after start calls) call).2 pin
      = indicator.level (indicator.after start calls) pin

/-- If every step tells the levels, and none is there at first, so does every run. -/
theorem TellsLevels.levelsAsAnswered {indicator : Indicator σ} (h : indicator.TellsLevels)
    {start : σ} (hstart : ∀ pin, indicator.level start pin = none) :
    indicator.LevelsAsAnswered start where
  none_iff calls pin := by rw [h.level_after hstart, Answered.levelOf_eq_none_iff]
  since calls pin earlier later hhistory hlater := by
    rw [h.level_after hstart, hhistory, Answered.levelOf_since_configured hlater]
  unchanged calls call pin hother := by rw [h, Answered.levelAfter_of_other hother]

end Indicator

/-! ## The backends -/

/-- The simulation changes levels as it answers. -/
theorem Simulation.tellsLevels {ω : Type} (around : Surroundings ω) :
    (indicator around).TellsLevels := by
  rintro ⟨simulation, world⟩ call line
  cases call with
  | delay ms => rfl
  | report error => rfl
  | configure pin =>
    simp only [Indicator.apply, indicator, configure]
    by_cases hin : pin.index < simulation.slots
    case neg =>
      simp only [if_neg hin]
      rfl
    simp only [if_pos hin]
    cases hlines : simulation.lines.configure pin with
    | error error => rfl
    | ok lines => exact LineTable.level_configure hlines line
  | write pin level =>
    simp only [Indicator.apply, indicator, write]
    cases hlines : simulation.lines.set pin level with
    | error error => rfl
    | ok set => exact LineTable.level_of_set hlines line

/-- The port changes levels as it answers. -/
theorem Stm32f4.tellsLevels {β : Type} (bus : RegisterBus β) : (indicator bus).TellsLevels := by
  rintro ⟨backend, store⟩ call line
  cases call with
  | delay ms => rfl
  | report error => rfl
  | configure pin =>
    simp only [Indicator.apply, indicator, configure]
    by_cases hin : pin.index < Port.width
    case neg =>
      simp only [if_neg hin]
      rfl
    simp only [if_pos hin]
    cases hlines : backend.lines.configure pin with
    | error error => rfl
    | ok lines => exact LineTable.level_configure hlines line
  | write pin level =>
    simp only [Indicator.apply, indicator, write]
    by_cases hin : pin.index < Port.width
    case neg =>
      simp only [if_neg hin]
      rfl
    cases hconfigured : backend.lines.isConfigured pin with
    | false => simp [hin, Answered.levelAfter]
    | true =>
      simp only [if_pos hin, if_true]
      cases hlines : backend.lines.set pin level with
      | error error => rfl
      | ok set => exact LineTable.level_of_set hlines line

/-- The ESP32 changes levels as it answers. -/
theorem Esp32.tellsLevels {ω : Type} (platform : Esp32Platform ω) :
    (indicator platform).TellsLevels := by
  rintro ⟨drivers, world⟩ call line
  cases call with
  | delay ms => rfl
  | report error => rfl
  | configure pin =>
    simp only [Indicator.apply, indicator, configure]
    cases hcapable : outputCapable pin with
    | false => rfl
    | true =>
      have hlevel := (drivers.configure_rule (actions platform) (claim platform) pin
        world).level_eq line
      generalize drivers.configure (actions platform) (claim platform) pin world = outcome
        at hlevel ⊢
      obtain ⟨fault | done, next, after⟩ := outcome
      · exact hlevel
      · exact hlevel
  | write pin level =>
    simp only [Indicator.apply, indicator, write]
    have hlevel := (drivers.write_rule (actions platform) pin level world).level_eq line
    generalize drivers.write (actions platform) pin level world = outcome at hlevel ⊢
    obtain ⟨fault | changed, next, after⟩ := outcome
    · exact hlevel
    · exact hlevel

/-- The RP2040 changes levels as it answers. -/
theorem Rp2040.tellsLevels {ω : Type} (platform : Rp2040Platform ω) :
    (indicator platform).TellsLevels := by
  rintro ⟨⟨bank, drivers⟩, world⟩ call line
  cases call with
  | delay ms => rfl
  | report error => rfl
  | configure pin =>
    simp only [Indicator.apply, indicator, configure]
    have hlevel := (drivers.configure_rule (actions platform) (claim platform) pin
      (bank, world)).level_eq line
    generalize drivers.configure (actions platform) (claim platform) pin (bank, world) = outcome
      at hlevel ⊢
    obtain ⟨fault | done, next, after⟩ := outcome
    · exact hlevel
    · exact hlevel
  | write pin level =>
    simp only [Indicator.apply, indicator, write]
    have hlevel := (drivers.write_rule (actions platform) pin level (bank, world)).level_eq line
    generalize drivers.write (actions platform) pin level (bank, world) = outcome at hlevel ⊢
    obtain ⟨fault | changed, next, after⟩ := outcome
    · exact hlevel
    · exact hlevel

/-- On all four backends the levels are told by the answers, in whatever world. -/
theorem levels_as_answered_on_every_backend :
    (∀ {ω : Type} (around : Simulation.Surroundings ω) (slots : Nat) (world : ω),
      (Simulation.indicator around).LevelsAsAnswered (.withSlots slots, world)) ∧
    (∀ {β : Type} (bus : RegisterBus β) (port : Port) (rate : SpinRate) (store : β),
      (Stm32f4.indicator bus).LevelsAsAnswered (.fresh port rate, store)) ∧
    (∀ {ω : Type} (platform : Esp32Platform ω) (world : ω),
      (Esp32.indicator platform).LevelsAsAnswered (Esp32.fresh, world)) ∧
    (∀ {ω : Type} (platform : Rp2040Platform ω) (bank : PinBank) (world : ω),
      (Rp2040.indicator platform).LevelsAsAnswered (.fresh bank, world)) := by
  refine ⟨?_, ?_, ?_, ?_⟩
  · intro ω around slots world
    exact (Simulation.tellsLevels around).levelsAsAnswered LineTable.level_empty
  · intro β bus port rate store
    exact (Stm32f4.tellsLevels bus).levelsAsAnswered LineTable.level_empty
  · intro ω platform world
    exact (Esp32.tellsLevels platform).levelsAsAnswered LineTable.level_empty
  · intro ω platform bank world
    exact (Rp2040.tellsLevels platform).levelsAsAnswered LineTable.level_empty

end PilotLamp
