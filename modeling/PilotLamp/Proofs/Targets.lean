import PilotLamp.Proofs.DriverFaults
import PilotLamp.Proofs.HardwareAgreement
import PilotLamp.Proofs.PinStock

/-!
# The four backends as one kind of thing

A target is one of the four backends with all that it acts on, so that a statement about any
backend, or about any two, is one statement. What every state of a target that calls can reach has
in common is kept here. Targets that share a world are out of scope.
-/

namespace PilotLamp

/-- One of the four backends, with what it acts on. -/
inductive Target : Type 1
  /-- A simulation with a wanted number of slots. -/
  | simulation {ω : Type} (around : Simulation.Surroundings ω) (slots : Nat) (world : ω)
  /-- A port of an STM32F4. -/
  | stm32f4 {β : Type} (bus : RegisterBus β) (port : Port) (rate : SpinRate) (store : β)
  /-- An ESP32. -/
  | esp32 {ω : Type} (platform : Esp32Platform ω) (world : ω)
  /-- An RP2040 with a full bank, of which some pins are reserved. -/
  | rp2040 {ω : Type} (platform : Rp2040Platform ω) (reserved : List Pin) (world : ω)

namespace Target

/-- The states of a target. -/
def State : Target → Type
  | @simulation ω _ _ _ => Simulation × ω
  | @stm32f4 β _ _ _ _ => Stm32f4 × β
  | @esp32 ω _ _ => Esp32.Drivers × ω
  | @rp2040 ω _ _ _ => Rp2040 × ω

/-- The operations of a target. -/
def indicator : (target : Target) → Indicator target.State
  | simulation around _ _ => Simulation.indicator around
  | stm32f4 bus _ _ _ => Stm32f4.indicator bus
  | esp32 platform _ => Esp32.indicator platform
  | rp2040 platform _ _ => Rp2040.indicator platform

/-- The state before any call. -/
def start : (target : Target) → target.State
  | simulation _ slots world => (.withSlots slots, world)
  | stm32f4 _ port rate store => (.fresh port rate, store)
  | esp32 _ world => (Esp32.fresh, world)
  | rp2040 _ reserved world => (.fresh (PinBank.full.reserve reserved), world)

/-- Whether a pin is one that a target can configure. -/
def has : Target → Pin → Bool
  | simulation _ slots _, pin => pin.index < min slots LineTable.capacity
  | stm32f4 .., pin => pin.index < Port.width
  | esp32 .., pin => Esp32.outputCapable pin
  | rp2040 _ reserved _, pin => pin.index < PinBank.size && decide (pin ∉ reserved)

/-- Whether a driver fails during a call. Only those of the ESP32 can. -/
def meetsFault : (target : Target) → target.State → Call → Bool
  | simulation .., _, _ | stm32f4 .., _, _ | rp2040 .., _, _ => false
  | esp32 platform _, state, call => Esp32.meetsFault platform state call

/-- What holds of every state that calls can reach. -/
def Sound : (target : Target) → target.State → Prop
  | simulation _ slots _, state => state.1.slots = min slots LineTable.capacity
  | stm32f4 .., state => ∀ pin, state.1.lines.level pin ≠ none → pin.index < Port.width
  | esp32 .., state => state.1.Paired
  | rp2040 _ reserved _, state => Rp2040.Stocked reserved state.1.bank state.1.drivers

/-- Before any call the state is sound. -/
theorem sound_start (target : Target) : target.Sound target.start := by
  cases target with
  | simulation around slots world => rfl
  | stm32f4 bus port rate store => exact fun pin hlevel => absurd (LineTable.level_empty pin) hlevel
  | esp32 platform world => exact DriverTable.Paired.empty _
  | rp2040 platform reserved world => exact Rp2040.Stocked.fresh reserved

end Target

/-- A pin that has a level after a call had one before, or the call configured it. -/
theorem Indicator.TellsLevels.level_ne_none {σ : Type} {indicator : Indicator σ}
    (h : indicator.TellsLevels) {state : σ} {call : Call} {pin : Pin}
    (hlevel : indicator.level (indicator.apply state call).2 pin ≠ none) :
    indicator.level state pin ≠ none ∨
      call = .configure pin ∧ (indicator.apply state call).1 = .ok () := by
  rw [h state call pin, Ne, Answered.levelAfter_eq_none_iff] at hlevel
  by_cases hbefore : indicator.level state pin = none
  · have hconfigured : (⟨call, (indicator.apply state call).1⟩ : Answered) = .configured pin := by
      by_contra hne
      exact hlevel ⟨hbefore, hne⟩
    exact .inr (Answered.mk.inj hconfigured)
  · exact .inl hbefore

/-- A port configures its lines and no others. -/
theorem Stm32f4.Does.isOk_iff_of_configure {β : Type} {bus : RegisterBus β}
    {backend next : Stm32f4} {store after : β} {pin : Pin} {answer : Except PinError Unit}
    (rule : Does bus backend store (.configure pin) answer next after) :
    answer = .ok () ↔ pin.index < Port.width := by
  cases rule with
  | configured inside configured => exact iff_of_true rfl inside
  | idle about => cases about
  | outside about outside =>
    obtain rfl := Option.some.inj about
    exact iff_of_false nofun (Nat.not_lt.mpr outside)

/-- Every call leaves levels to lines of the port only. -/
theorem Stm32f4.inside_apply {β : Type} (bus : RegisterBus β) {state : Stm32f4 × β}
    (h : ∀ pin, state.1.lines.level pin ≠ none → pin.index < Port.width) (call : Call) :
    ∀ pin, ((indicator bus).apply state call).2.1.lines.level pin ≠ none →
      pin.index < Port.width := by
  intro pin hlevel
  rcases (tellsLevels bus).level_ne_none hlevel with hbefore | ⟨rfl, hanswer⟩
  · exact h pin hbefore
  · exact (apply_does bus state.1 state.2 (.configure pin)).isOk_iff_of_configure.mp hanswer

/-- Every call leaves a driver for exactly the pins that have a level. -/
theorem Esp32.paired_apply {ω : Type} (platform : Esp32Platform ω) {state : Drivers × ω}
    (h : state.1.Paired) (call : Call) : ((indicator platform).apply state call).2.1.Paired := by
  obtain ⟨drivers, world⟩ := state
  cases call with
  | delay ms => exact h
  | report error => exact h
  | configure pin =>
    change (configure platform pin (drivers, world)).2.1.Paired
    cases hcapable : outputCapable pin with
    | false =>
      simp only [configure, hcapable, Bool.false_eq_true, if_false]
      exact h
    | true =>
      rw [(configure_of_capable hcapable).2]
      exact h.of_configures (drivers.configure_rule (actions platform) (claim platform) pin world)
  | write pin level =>
    change (write platform pin level (drivers, world)).2.1.Paired
    rw [write_eq_table.2]
    exact h.of_writes (drivers.write_rule (actions platform) pin level world)

/-- Every call keeps the stock of the bank. -/
theorem Rp2040.stocked_apply {ω : Type} (platform : Rp2040Platform ω) {reserved : List Pin}
    {state : Rp2040 × ω} (h : Stocked reserved state.1.bank state.1.drivers) (call : Call) :
    Stocked reserved ((indicator platform).apply state call).2.1.bank
      ((indicator platform).apply state call).2.1.drivers := by
  obtain ⟨⟨bank, drivers⟩, world⟩ := state
  cases call with
  | delay ms => exact h
  | report error => exact h
  | configure pin =>
    exact Stocked.of_configures h
      (drivers.configure_rule (actions platform) (claim platform) pin (bank, world))
  | write pin level =>
    exact Stocked.of_writes h (drivers.write_rule (actions platform) pin level (bank, world))

namespace Target

/-- Every call leaves the state sound. -/
theorem sound_apply (target : Target) (state : target.State) (call : Call)
    (h : target.Sound state) : target.Sound (target.indicator.apply state call).2 := by
  cases target with
  | simulation around slots world => exact (Simulation.slots_apply around state call).trans h
  | stm32f4 bus port rate store => exact Stm32f4.inside_apply bus h call
  | esp32 platform world => exact Esp32.paired_apply platform h call
  | rp2040 platform reserved world => exact Rp2040.stocked_apply platform h call

/-- After any calls the state is sound. -/
theorem sound_after (target : Target) (calls : List Call) :
    target.Sound (target.indicator.after target.start calls) :=
  Indicator.after_induction target.sound_start target.sound_apply calls

/-- Every target changes levels as it answers. -/
theorem tellsLevels (target : Target) : target.indicator.TellsLevels := by
  cases target with
  | simulation around slots world => exact Simulation.tellsLevels around
  | stm32f4 bus port rate store => exact Stm32f4.tellsLevels bus
  | esp32 platform world => exact Esp32.tellsLevels platform
  | rp2040 platform reserved world => exact Rp2040.tellsLevels platform

/-- Before any call no pin has a level. -/
theorem level_start (target : Target) (pin : Pin) :
    target.indicator.level target.start pin = none := by
  cases target <;> exact LineTable.level_empty pin

end Target

end PilotLamp
