import PilotLamp.Proofs.Acceptance

/-!
# Writes to pins that were not configured

A write to a pin that no configuration made an output fails on every target. Nothing is driven or
stored and no level changes; only the error is made known, by the targets that do so. Which error
it is depends on the target: one that has no line of that number says so, while a target with a
driver for each pin finds any number not configured. Writes to configured pins are out of scope.
-/

namespace PilotLamp

namespace Target

/-- Whether a target finds a pin of that number not configured, rather than missing. The lines of
a simulation and of a port are numbered; drivers are looked up by any number. -/
def looksUp : Target → Pin → Bool
  | simulation .., pin => pin.index < LineTable.capacity
  | stm32f4 .., pin => pin.index < Port.width
  | esp32 .., _ | rp2040 .., _ => true

/-- The error for a write to a pin that was not configured. -/
def unconfigured (target : Target) (pin : Pin) : PinError :=
  if target.looksUp pin then .notConfigured pin else .noSuchPin pin.index

/-- One state of a target comes from another by making an error known, and by nothing else: lines,
registers, drivers and the bank are as they were. A simulation logs and traces the error, an ESP32
logs it, and the others have nowhere to tell it. -/
def Announced : (target : Target) → PinError → target.State → target.State → Prop
  | simulation around _ _, error, before, after =>
    after = (before.1, Simulation.trace around ("[sim] error: " :: error.fragments)
      (around.log ⟨.debug, Simulation.logTarget, "sim config error: " ++ error.message⟩ before.2))
  | stm32f4 .., _, before, after => after = before
  | esp32 platform _, error, before, after =>
    after = (before.1, platform.log
      ⟨.warn, Esp32.logTarget, "indicator config error: " ++ error.message⟩ before.2)
  | rp2040 .., _, before, after => after = before

/-- What a write to a pin that was not configured comes to. -/
structure WrittenInVain (target : Target) (state : target.State) (pin : Pin) (level : Level) :
    Prop where
  /-- The write fails. -/
  answer_eq : (target.indicator.write pin level state).1 = .error (target.unconfigured pin)
  /-- It makes its error known and does nothing else. -/
  announced : target.Announced (target.unconfigured pin) state
    (target.indicator.write pin level state).2
  /-- No pin changes its level. -/
  level_eq : ∀ other, target.indicator.level (target.indicator.write pin level state).2 other
    = target.indicator.level state other

/-- On every target a pin without a level is written in vain. -/
theorem writtenInVain_of_no_level (target : Target) {state : target.State} {pin : Pin}
    (h : target.indicator.level state pin = none) (level : Level) :
    target.WrittenInVain state pin level := by
  cases target with
  | simulation around slots world =>
    have hwrite : (indicator (.simulation around slots world)).write pin level state = _ :=
      Simulation.write_eq_of_no_level around state h level
    have herror : unconfigured (.simulation around slots world) pin
        = if pin.index < LineTable.capacity then .notConfigured pin else .noSuchPin pin.index := by
      simp only [unconfigured, looksUp, decide_eq_true_eq]
    refine ⟨?_, ?_, fun other => ?_⟩
    · rw [hwrite, herror]
      rfl
    · rw [hwrite, herror]
      rfl
    · rw [hwrite]
      rfl
  | stm32f4 bus port rate store =>
    have hwrite : (indicator (.stm32f4 bus port rate store)).write pin level state = _ :=
      Stm32f4.write_eq_of_no_level bus state h level
    have herror : unconfigured (.stm32f4 bus port rate store) pin
        = if pin.index < Port.width then .notConfigured pin else .noSuchPin pin.index := by
      simp only [unconfigured, looksUp, decide_eq_true_eq]
    refine ⟨?_, ?_, fun other => ?_⟩
    · rw [hwrite, herror]
    · rw [hwrite]
      rfl
    · rw [hwrite]
  | esp32 platform world =>
    have hwrite : (indicator (.esp32 platform world)).write pin level state = _ :=
      Esp32.write_eq_of_no_level platform h level
    refine ⟨?_, ?_, fun other => ?_⟩
    · rw [hwrite]
      rfl
    · rw [hwrite]
      rfl
    · rw [hwrite]
      rfl
  | rp2040 platform reserved world =>
    have hwrite : (indicator (.rp2040 platform reserved world)).write pin level state = _ :=
      Rp2040.write_eq_of_no_level platform h level
    refine ⟨?_, ?_, fun other => ?_⟩
    · rw [hwrite]
      rfl
    · rw [hwrite]
      rfl
    · rw [hwrite]

/-- After any calls, a write to a pin that none of them configured fails, with the error that the
target has for it, and does nothing but make it known. -/
theorem unconfigured_pins_are_written_in_vain (target : Target) (calls : List Call) (pin : Pin)
    (level : Level)
    (never : Answered.configured pin ∉ target.indicator.answered target.start calls) :
    target.WrittenInVain (target.indicator.after target.start calls) pin level := by
  have hlevel : target.indicator.level (target.indicator.after target.start calls) pin = none := by
    rw [target.tellsLevels.level_after target.level_start, Answered.levelOf_eq_none_iff]
    exact never
  exact target.writtenInVain_of_no_level hlevel level

/-- GPIO4 of an ESP32 that cannot open its driver is written in vain after it was to be
configured, while GPIO5 is configured. -/
theorem gpio4_is_written_in_vain :
    let calls := [.configure (.ofNat 4), .configure (.ofNat 5), .write (.ofNat 5) .asserted]
    Answered.configured (.ofNat 4)
        ∉ esp32WithoutGpio4.indicator.answered esp32WithoutGpio4.start calls ∧
      esp32WithoutGpio4.WrittenInVain
        (esp32WithoutGpio4.indicator.after esp32WithoutGpio4.start calls) (.ofNat 4) .asserted := by
  intro calls
  have hnever : Answered.configured (.ofNat 4)
      ∉ esp32WithoutGpio4.indicator.answered esp32WithoutGpio4.start calls := by
    rw [← Answered.levelOf_eq_none_iff,
      ← esp32WithoutGpio4.tellsLevels.level_after esp32WithoutGpio4.level_start]
    decide +kernel
  exact ⟨hnever, unconfigured_pins_are_written_in_vain _ calls _ _ hnever⟩

/-- The error is not the same on every target: a port finds no line of number 16, which was not
configured. -/
theorem line16_is_missing_when_unconfigured :
    ¬ ∀ (target : Target) (calls : List Call) (pin : Pin) (level : Level),
      Answered.configured pin ∉ target.indicator.answered target.start calls →
      (target.indicator.write pin level (target.indicator.after target.start calls)).1
        = .error (.notConfigured pin) := by
  intro h
  have hline := h (.stm32f4 FlatMemory.bus .d ⟨1⟩ fun _ => 0) [] (.ofNat 16) .asserted
    List.not_mem_nil
  have hanswer : (Except.error (.noSuchPin 16) : Except PinError Unit)
      = .error (.notConfigured (.ofNat 16)) := hline
  cases hanswer

end Target

end PilotLamp
