import PilotLamp.Proofs.LevelHistory
import PilotLamp.Proofs.PortHardware

/-!
# Lines and hardware of a port agree

What a call can do to an STM32F4 port is said once by rules, over any bus. Over the hardware of
the ports the levels that the backend tracks are what the port puts on its lines, and everything
that no successful configuration was about is as it was at first. What other programs do to the
same registers is out of scope.
-/

namespace PilotLamp

/-- What holds at first and is kept by every call holds after every run. -/
theorem Indicator.after_induction {σ : Type} {indicator : Indicator σ} {motive : σ → Prop}
    {start : σ} (first : motive start)
    (next : ∀ state call, motive state → motive (indicator.apply state call).2)
    (calls : List Call) : motive (indicator.after start calls) := by
  induction calls generalizing start with
  | nil => exact first
  | cons call rest ih => exact ih (next start call first)

namespace Stm32f4

/-- What a call can do to a port, with its answer. -/
inductive Does {β : Type} (bus : RegisterBus β) (backend : Stm32f4) (store : β) :
    Call → Except PinError Unit → Stm32f4 → β → Prop
  /-- A line of the port is configured. -/
  | configured {pin : Pin} {lines : LineTable} (inside : pin.index < Port.width)
      (configured : backend.lines.configure pin = .ok lines) :
      Does bus backend store (.configure pin) (.ok ()) { backend with lines }
        (prepareLine bus backend.port pin.index store)
  /-- A configured line of the port is driven. -/
  | written {pin : Pin} {level : Level} {changed : Bool} {lines : LineTable}
      (inside : pin.index < Port.width) (set : backend.lines.set pin level = .ok (changed, lines)) :
      Does bus backend store (.write pin level) (.ok ()) { backend with lines }
        (bus.write backend.port.setReset (Port.levelWord pin.index level.isAsserted) store)
  /-- The port has no such line. -/
  | outside {call : Call} {pin : Pin} (about : call.pin? = some pin)
      (outside : Port.width ≤ pin.index) :
      Does bus backend store call (.error (.noSuchPin pin.index)) backend store
  /-- The line is not configured. -/
  | notConfigured {pin : Pin} {level : Level} (inside : pin.index < Port.width)
      (notConfigured : backend.lines.isConfigured pin = false) :
      Does bus backend store (.write pin level) (.error (.notConfigured pin)) backend store
  /-- The call is about no pin. -/
  | idle {call : Call} (about : call.pin? = none) :
      Does bus backend store call (.ok ()) backend store

/-- Every call follows a rule. -/
theorem apply_does {β : Type} (bus : RegisterBus β) (backend : Stm32f4) (store : β) (call : Call) :
    Does bus backend store call ((indicator bus).apply (backend, store) call).1
      ((indicator bus).apply (backend, store) call).2.1
      ((indicator bus).apply (backend, store) call).2.2 := by
  cases call with
  | delay ms => exact .idle rfl
  | report error => exact .idle rfl
  | configure pin =>
    simp only [Indicator.apply, indicator, configure]
    by_cases hin : pin.index < Port.width
    · have hline : pin.index < LineTable.capacity := Nat.lt_trans hin (by decide)
      obtain ⟨lines, hlines⟩ := backend.lines.configure_isOk hline
      simp only [if_pos hin, hlines]
      exact .configured hin hlines
    · simp only [if_neg hin]
      exact .outside rfl (Nat.le_of_not_lt hin)
  | write pin level =>
    simp only [Indicator.apply, indicator, write]
    by_cases hin : pin.index < Port.width
    · cases hconfigured : backend.lines.isConfigured pin with
      | false =>
        simp only [if_pos hin, Bool.false_eq_true, if_false]
        exact .notConfigured hin hconfigured
      | true =>
        obtain ⟨changed, lines, hset⟩ := LineTable.set_isOk hconfigured level
        simp only [if_pos hin, if_true, hset]
        exact .written hin hset
    · simp only [if_neg hin]
      exact .outside rfl (Nat.le_of_not_lt hin)

/-! ## Over the hardware of the ports -/

open Port (clockEnable hardware modeOf withOutput outputAfter levelWord)

/-- Preparing a line enables the clock of its port, makes the line an output and resets it, from
whatever was in the registers. -/
theorem prepareLine_hardware (port : Port) (line : Nat) (memory : FlatMemory) :
    prepareLine hardware port line memory
      = ((memory.store clockEnable (memory clockEnable ||| port.clockBit)).store port.mode
          (withOutput line (memory port.mode))).store port.output
          (outputAfter (levelWord line false) (memory port.output)) := by
  simp only [prepareLine, Port.modify_clockEnable]
  have hclock := port.clocked_store_clockEnable memory (memory clockEnable)
  have hmode := memory.store_other (memory clockEnable ||| port.clockBit) port.mode_ne_clockEnable
  have houtput :=
    memory.store_other (memory clockEnable ||| port.clockBit) port.output_ne_clockEnable
  generalize memory.store clockEnable (memory clockEnable ||| port.clockBit) = enabled at *
  -- The clock still runs after each of the two changes of the mode word.
  have hcleared (value : Word) : port.clocked (enabled.store port.mode value) = true :=
    (Port.clocked_store_other port.mode_ne_clockEnable value).trans hclock
  rw [Port.modify_mode hclock, Port.modify_mode (hcleared _), FlatMemory.store_store,
    Port.write_setReset (hcleared _), FlatMemory.store_same,
    FlatMemory.store_other _ _ port.mode_ne_output.symm, hmode, houtput]
  rfl

/-- What the hardware of a port shows of the levels that are tracked for its lines, when some pins
were configured since the registers held their first words. -/
structure Carries (port : Port) (initial : FlatMemory) (level : Pin → Option Level)
    (configured : Pin → Prop) (now : FlatMemory) : Prop where
  /-- A line that has a level is a line of the port, an output, and carries the level. -/
  carried : ∀ pin lvl, level pin = some lvl → pin.index < Port.width ∧
    modeOf pin.index (now port.mode) = 0b01#2 ∧
    (now port.output).getLsbD pin.index = lvl.isAsserted
  /-- A line that was not configured has the mode and the output that it had at first. -/
  untouched : ∀ pin, ¬ configured pin →
    modeOf pin.index (now port.mode) = modeOf pin.index (initial port.mode) ∧
    (now port.output).getLsbD pin.index = (initial port.output).getLsbD pin.index
  /-- Once a pin was configured the clock of the port is enabled, beside those that were. -/
  enabled : (∃ pin, configured pin) → now clockEnable = initial clockEnable ||| port.clockBit
  /-- Until then the clocks are as at first. -/
  asleep : (¬ ∃ pin, configured pin) → now clockEnable = initial clockEnable
  /-- No other register changes. -/
  others : ∀ register, register ≠ clockEnable → register ≠ port.mode → register ≠ port.output →
    now register = initial register

/-- The hardware carries what a line table tracks. -/
def CarriesLines (port : Port) (initial : FlatMemory) (lines : LineTable) (now : FlatMemory) :
    Prop :=
  Carries port initial lines.level (fun pin => lines.isConfigured pin = true) now

section

variable {port : Port} {initial now : FlatMemory} {lines next : LineTable} {pin : Pin}

theorem CarriesLines.start (port : Port) (initial : FlatMemory) :
    CarriesLines port initial .empty initial where
  carried pin level hlevel := by rw [LineTable.level_empty] at hlevel; cases hlevel
  untouched _ _ := ⟨rfl, rfl⟩
  enabled := by
    rintro ⟨pin, hpin⟩
    rw [← LineTable.isSome_level, LineTable.level_empty] at hpin
    cases hpin
  asleep _ := rfl
  others _ _ _ _ := rfl

/-- The clock of a port runs once a line of it is configured. -/
theorem CarriesLines.clocked (h : CarriesLines port initial lines now)
    (hpin : lines.isConfigured pin = true) : port.clocked now = true := by
  rw [Port.clocked, h.enabled ⟨pin, hpin⟩, BitVec.getLsbD_or, port.getLsbD_clockBit, Bool.or_true]

/-- Enabling the clock of a port leads to the same clocks, whether it was enabled or not. -/
theorem CarriesLines.enable (h : CarriesLines port initial lines now) :
    now clockEnable ||| port.clockBit = initial clockEnable ||| port.clockBit := by
  by_cases hany : ∃ pin, lines.isConfigured pin = true
  · rw [h.enabled hany, BitVec.or_assoc, BitVec.or_self]
  · rw [h.asleep hany]

/-- Bringing one line to a level, with the clock enabled, leaves the other lines as they are. -/
theorem CarriesLines.brought (h : CarriesLines port initial lines now)
    (inside : pin.index < Port.width) {level : Level} {after : FlatMemory}
    (hlevels : ∀ other, next.level other = if other = pin then some level else lines.level other)
    (hclock : after clockEnable = initial clockEnable ||| port.clockBit)
    (hmode : ∀ line, modeOf line (after port.mode)
      = if line = pin.index then 0b01#2 else modeOf line (now port.mode))
    (houtput : ∀ line, (after port.output).getLsbD line
      = if line = pin.index then level.isAsserted else (now port.output).getLsbD line)
    (hothers : ∀ register, register ≠ clockEnable → register ≠ port.mode →
      register ≠ port.output → after register = now register) :
    CarriesLines port initial next after := by
  have hpin : next.isConfigured pin = true := by
    rw [← LineTable.isSome_level, hlevels, if_pos rfl]
    rfl
  have hconfigured {other : Pin} (hne : other ≠ pin) :
      next.isConfigured other = lines.isConfigured other := by
    rw [← LineTable.isSome_level, hlevels, if_neg hne, LineTable.isSome_level]
  have hindex {other : Pin} (hne : other ≠ pin) : other.index ≠ pin.index :=
    fun heq => hne (Pin.ext_index heq)
  constructor
  case carried =>
    intro other lvl hother
    rw [hlevels] at hother
    by_cases heq : other = pin
    · subst heq
      rw [if_pos rfl] at hother
      cases hother
      exact ⟨inside, by rw [hmode, if_pos rfl], by rw [houtput, if_pos rfl]⟩
    · rw [if_neg heq] at hother
      rw [hmode, houtput, if_neg (hindex heq), if_neg (hindex heq)]
      exact h.carried other lvl hother
  case untouched =>
    intro other hother
    have hne : other ≠ pin := fun heq => hother (heq ▸ hpin)
    rw [hconfigured hne] at hother
    rw [hmode, houtput, if_neg (hindex hne), if_neg (hindex hne)]
    exact h.untouched other hother
  case enabled => exact fun _ => hclock
  case asleep => exact fun hnone => absurd ⟨pin, hpin⟩ hnone
  case others =>
    intro register hclk hmd hout
    rw [hothers register hclk hmd hout, h.others register hclk hmd hout]

/-- Configuring a line makes it an output that carries its new level. -/
theorem CarriesLines.configured (h : CarriesLines port initial lines now)
    (inside : pin.index < Port.width) (configured : lines.configure pin = .ok next) :
    CarriesLines port initial next (prepareLine hardware port pin.index now) := by
  rw [prepareLine_hardware]
  refine h.brought inside (LineTable.level_configure configured) ?_ ?_ ?_ ?_
  · rw [FlatMemory.store_other _ _ port.output_ne_clockEnable.symm,
      FlatMemory.store_other _ _ port.mode_ne_clockEnable.symm, FlatMemory.store_same, h.enable]
  · intro line
    rw [FlatMemory.store_other _ _ port.mode_ne_output, FlatMemory.store_same,
      Port.modeOf_withOutput inside]
  · intro line
    rw [FlatMemory.store_same, Port.getLsbD_outputAfter_levelWord inside]
    rfl
  · intro register hclk hmode hout
    rw [FlatMemory.store_other _ _ hout, FlatMemory.store_other _ _ hmode,
      FlatMemory.store_other _ _ hclk]

/-- Driving a configured line, which is an output already, makes it carry the level. -/
theorem CarriesLines.written (h : CarriesLines port initial lines now)
    (inside : pin.index < Port.width) {level : Level} {changed : Bool}
    (set : lines.set pin level = .ok (changed, next)) :
    CarriesLines port initial next
      (hardware.write port.setReset (levelWord pin.index level.isAsserted) now) := by
  have hpin := LineTable.isConfigured_of_set set
  have houtput : modeOf pin.index (now port.mode) = 0b01#2 := by
    have hsome := lines.isSome_level pin
    rw [hpin] at hsome
    obtain ⟨before, hbefore⟩ := Option.isSome_iff_exists.mp hsome
    exact (h.carried pin before hbefore).2.1
  rw [Port.write_setReset (h.clocked hpin)]
  refine h.brought inside (LineTable.level_set set).2 ?_ ?_ ?_ ?_
  · rw [FlatMemory.store_other _ _ port.output_ne_clockEnable.symm, h.enabled ⟨pin, hpin⟩]
  · intro line
    rw [FlatMemory.store_other _ _ port.mode_ne_output]
    by_cases heq : line = pin.index
    · rw [if_pos heq, heq, houtput]
    · rw [if_neg heq]
  · intro line
    rw [FlatMemory.store_same, Port.getLsbD_outputAfter_levelWord inside]
  · intro register hclk hmode hout
    rw [FlatMemory.store_other _ _ hout]

/-- Every call keeps the hardware and the lines together. -/
theorem CarriesLines.of_does {backend after : Stm32f4} {call : Call}
    {answer : Except PinError Unit} {later : FlatMemory}
    (h : CarriesLines backend.port initial backend.lines now)
    (does : Does hardware backend now call answer after later) :
    after.port = backend.port ∧ CarriesLines backend.port initial after.lines later := by
  cases does with
  | configured inside configured => exact ⟨rfl, h.configured inside configured⟩
  | written inside set => exact ⟨rfl, h.written inside set⟩
  | outside about outside => exact ⟨rfl, h⟩
  | notConfigured inside notConfigured => exact ⟨rfl, h⟩
  | idle about => exact ⟨rfl, h⟩

/-- The hardware and the lines are together after every run. -/
theorem CarriesLines.after_fresh (port : Port) (rate : SpinRate) (initial : FlatMemory)
    (calls : List Call) :
    let now := (indicator hardware).after (.fresh port rate, initial) calls
    CarriesLines port initial now.1.lines now.2 := by
  refine (Indicator.after_induction (motive := fun state : Stm32f4 × FlatMemory =>
    state.1.port = port ∧ CarriesLines port initial state.1.lines state.2) ?_ ?_ calls).2
  · exact ⟨rfl, .start port initial⟩
  · rintro ⟨backend, store⟩ call ⟨rfl, hcarries⟩
    exact hcarries.of_does (apply_does hardware backend store call)

end

/-- On the hardware of the ports, with whatever its registers hold at first, the hardware carries
the levels that a backend tracks, after every run of calls on a backend without configured lines. -/
theorem hardware_carries_levels (port : Port) (rate : SpinRate) (initial : FlatMemory)
    (calls : List Call) :
    let history := (indicator hardware).answered (.fresh port rate, initial) calls
    let now := (indicator hardware).after (.fresh port rate, initial) calls
    Carries port initial ((indicator hardware).level now)
      (fun pin => Answered.configured pin ∈ history) now.2 := by
  intro history now
  have hlines : CarriesLines port initial now.1.lines now.2 := .after_fresh port rate initial calls
  have hstart (pin : Pin) : (indicator hardware).level (.fresh port rate, initial) pin = none :=
    LineTable.level_empty pin
  have hconfigured : (fun pin => Answered.configured pin ∈ history)
      = fun pin => now.1.lines.isConfigured pin = true := by
    funext pin
    have hnone : now.1.lines.level pin = none ↔ Answered.configured pin ∉ history :=
      ((tellsLevels hardware).levelsAsAnswered hstart).none_iff calls pin
    rw [← LineTable.isSome_level, ← Option.ne_none_iff_isSome, ne_eq, hnone, not_not]
  rw [hconfigured]
  exact hlines

end Stm32f4

end PilotLamp
