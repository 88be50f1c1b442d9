import PilotLamp.Proofs.Acceptance
import PilotLamp.Proofs.GpioOwnership
import PilotLamp.Proofs.PinConservation
import PilotLamp.Proofs.SettledRegisters

/-!
# Pins that are configured twice

The first configuration of a pin may claim a driver, the second finds it held and drives it low
again. Unless a driver fails, the second has the answer of the first and leaves the backend as the
first did: the same levels, the same drivers, driven to the same levels, the same pins in the bank,
and the same words in the registers of a recorder, which may have dropped some of them. What is
logged or traced, and what the registers of other buses do, is out of scope.
-/

namespace PilotLamp

open DriverEvent

/-! ## Tables -/

/-- A line that was configured is configured again without a change. -/
theorem LineTable.configure_configure {table next : LineTable} {pin : Pin}
    (h : table.configure pin = .ok next) : next.configure pin = .ok next := by
  unfold configure at h ⊢
  by_cases inside : pin.index < capacity
  · rw [if_pos inside] at h ⊢
    obtain rfl := Except.ok.inj h
    rw [BitVec.or_assoc, BitVec.or_self, BitVec.and_assoc, BitVec.and_self]
  · rw [if_neg inside] at h
    cases h

namespace DriverTable

variable {δ ε ω : Type} {n : Nat} {actions : DriverActions δ ε ω}
  {claim : Pin → ω → Except (DriveFault ε) δ × ω} {pin : Pin} {table next : DriverTable δ n}
  {world after : ω}

/-- A table in which a pin is as its configuration leaves it. -/
structure Configured (table : DriverTable δ n) (pin : Pin) (driver : δ) : Prop where
  /-- A driver is held for the pin. -/
  held : table.driver? pin = some driver
  /-- The line of the pin is configured and deasserted. -/
  lines_eq : table.lines.configure pin = .ok table.lines

/-- A configuration that succeeds leaves its pin configured, and has driven its driver low last. -/
theorem Configures.configured
    (rule : Configures actions claim pin table world (.ok ()) next after) :
    ∃ driver before, next.Configured pin driver ∧
      actions.drive driver .deasserted before = (.ok (), after) := by
  cases rule with
  | drivenAgain held driven configured =>
    exact ⟨_, world, ⟨held, LineTable.configure_configure configured⟩, driven⟩
  | @kept driver lines between _ inside free claimed driven configured =>
    have hheld := driver?_set table inside driver lines pin
    rw [if_pos rfl] at hheld
    exact ⟨driver, between, ⟨hheld, LineTable.configure_configure configured⟩, driven⟩

/-- Another configuration of that pin drives the driver low again, and keeps the table. -/
theorem Configured.again {driver : δ} {result : Except (DriveFault ε) Unit}
    (h : table.Configured pin driver)
    (rule : Configures actions claim pin table world result next after) :
    next = table ∧
      ((result = .ok () ∧ actions.drive driver .deasserted world = (.ok (), after)) ∨
        ∃ cause, result = .error (.driver pin cause) ∧
          actions.drive driver .deasserted world = (.error cause, after)) := by
  have hinside := index_lt_of_driver? h.held
  -- A driver is held, so it is not claimed again.
  have hfree : table.driver? pin ≠ none := by
    rw [h.held]
    exact Option.some_ne_none driver
  cases rule with
  | outside outside => omega
  | drivenAgain held driven configured =>
    obtain rfl := Option.some.inj (held.symm.trans h.held)
    obtain rfl := Except.ok.inj (configured.symm.trans h.lines_eq)
    exact ⟨rfl, .inl ⟨rfl, driven⟩⟩
  | failedAgain held failed =>
    obtain rfl := Option.some.inj (held.symm.trans h.held)
    exact ⟨rfl, .inr ⟨_, rfl, failed⟩⟩
  | unclaimed inside free failed => exact absurd free hfree
  | kept inside free claimed driven configured => exact absurd free hfree
  | givenUp inside free claimed failed => exact absurd free hfree

end DriverTable

/-! ## Drivers -/

namespace DriverEvent

/-- The level that the live driver of a pin was driven to last, told from the one before an
event. -/
def levelAfter (pin : Pin) (before : Option Level) : DriverEvent → Option Level
  | driven other level => if other = pin then some level else before
  | opened other | closed other => if other = pin then none else before
  | unopened _ | failed .. => before

/-- The level that the live driver of a pin was driven to last, if it was driven since it was
opened. -/
def drivenTo (pin : Pin) (events : List DriverEvent) : Option Level :=
  events.foldl (levelAfter pin) none

/-- Events that leave all drivers as fewer events did. -/
structure LeavesDrivers (once twice : List DriverEvent) : Prop where
  /-- No other driver was asked for. -/
  asked_eq : twice.filterMap asked? = once.filterMap asked?
  /-- The same drivers are live. -/
  live_eq : ∀ pin, live pin twice = live pin once
  /-- They were driven to the same levels. -/
  drivenTo_eq : ∀ pin, drivenTo pin twice = drivenTo pin once

theorem LeavesDrivers.refl (events : List DriverEvent) : LeavesDrivers events events :=
  ⟨rfl, fun _ => rfl, fun _ => rfl⟩

/-- A driver that is driven to a level again is left as it was. -/
theorem leavesDrivers_of_driven {before once twice : List DriverEvent} {driver : Pin}
    {level : Level} (honce : once = before ++ [.driven driver level])
    (htwice : twice = once ++ [.driven driver level]) : LeavesDrivers once twice where
  asked_eq := by
    rw [htwice, List.filterMap_append]
    exact List.append_nil _
  live_eq pin := by
    rw [htwice, live_concat]
    exact Int.add_zero _
  drivenTo_eq pin := by
    rw [htwice, honce]
    simp only [drivenTo, List.foldl_append, List.foldl_cons, List.foldl_nil, levelAfter]
    split <;> rfl

end DriverEvent

/-! ## Each backend -/

/-- A simulation that configures a pin twice has configured it once. -/
theorem Simulation.configure_configure {ω : Type} (around : Surroundings ω) (pin : Pin)
    (state : Simulation × ω) :
    let once := configure around pin state
    (configure around pin once.2).1 = once.1 ∧ (configure around pin once.2).2.1 = once.2.1 := by
  obtain ⟨simulation, world⟩ := state
  intro once
  by_cases hslot : pin.index < simulation.slots
  · cases hlines : simulation.lines.configure pin with
    | error error => simp [once, configure, hslot, hlines]
    | ok lines => simp [once, configure, hslot, hlines, LineTable.configure_configure hlines]
  · simp [once, configure, hslot, fail]

namespace Stm32f4

/-- So has a port. -/
theorem configure_configure {β : Type} (bus : RegisterBus β) (pin : Pin)
    (state : Stm32f4 × β) :
    let once := configure bus pin state
    (configure bus pin once.2).1 = once.1 ∧ (configure bus pin once.2).2.1 = once.2.1 := by
  obtain ⟨backend, store⟩ := state
  intro once
  by_cases hline : pin.index < Port.width
  · cases hlines : backend.lines.configure pin with
    | error error => simp [once, configure, hline, hlines]
    | ok lines => simp [once, configure, hline, hlines, LineTable.configure_configure hlines]
  · simp [once, configure, hline]

/-- A configuration prepares the line, if it is one, and touches no other register. -/
theorem held_configure (backend : Stm32f4) (recorder : BusRecorder) (pin : Pin) :
    (configure BusRecorder.bus pin (backend, recorder)).2.1.port = backend.port ∧
      (configure BusRecorder.bus pin (backend, recorder)).2.2.held
        = if pin.index < Port.width then preparedFile backend.port pin.index recorder.held
          else recorder.held := by
  by_cases hline : pin.index < Port.width
  · rw [if_pos hline, ← held_prepareLine]
    cases hlines : backend.lines.configure pin <;> simp [configure, hline, hlines]
  · simp [configure, hline]

/-- The registers of a recorder hold after two configurations what they held after one. -/
theorem held_configure_configure (backend : Stm32f4) (recorder : BusRecorder) (pin : Pin) :
    let once := (configure BusRecorder.bus pin (backend, recorder)).2
    (configure BusRecorder.bus pin once).2.2.held = once.2.held := by
  intro once
  obtain ⟨hport, hheld⟩ := held_configure backend recorder pin
  have htwice := (held_configure once.1 once.2 pin).2
  rw [htwice, hport, hheld]
  split
  · exact preparedFile_preparedFile _ _ _
  · rfl

end Stm32f4

namespace Esp32

variable {ω : Type} {platform : Esp32Platform ω} {drivers : Drivers} {world : ω} {pin : Pin}

/-- Logs that a pin was configured. -/
def reportDone (platform : Esp32Platform ω) (pin : Pin) (world : ω) : ω :=
  platform.log ⟨.info, logTarget, "GPIO" ++ pin.text ++ " configured as indicator output"⟩ world

/-- A pin that cannot be an output is refused and the error logged. -/
theorem configure_of_incapable (h : outputCapable pin = false) (drivers : Drivers) (world : ω) :
    configure platform pin (drivers, world)
      = (.error (.noSuchPin pin.index), drivers,
          report platform (.noSuchPin pin.index) world) := by
  simp only [configure, h, Bool.false_eq_true, if_false]

/-- A configuration of another pin that meets no fault is carried out by the table. -/
theorem configures_of_quiet (hcapable : outputCapable pin = true)
    (quiet : meetsFault platform (drivers, world) (.configure pin) = false) :
    ∃ next after, configure platform pin (drivers, world)
        = (.ok (), next, reportDone platform pin after) ∧
      DriverTable.Configures (actions platform) (claim platform) pin drivers world (.ok ()) next
        after := by
  have hrule := drivers.configure_rule (actions platform) (claim platform) pin world
  have hok := (configure_isOk_iff quiet).mpr hcapable
  rw [(configure_of_capable hcapable).1, mapError_eq_ok_iff] at hok
  rcases houtcome : drivers.configure (actions platform) (claim platform) pin world
    with ⟨result, next, after⟩
  rw [houtcome] at hrule hok
  obtain rfl : result = .ok () := hok
  refine ⟨next, after, ?_, hrule⟩
  simp only [configure, hcapable, if_true, houtcome, reportDone]

/-- Of two configurations that meet no fault, the second drives the driver that the first drove. -/
theorem configure_configure (hcapable : outputCapable pin = true)
    (quiet : meetsFault platform (drivers, world) (.configure pin) = false)
    (quietAgain : meetsFault platform (configure platform pin (drivers, world)).2
      (.configure pin) = false) :
    ∃ driver next before between after,
      configure platform pin (drivers, world) = (.ok (), next, reportDone platform pin between) ∧
      platform.drive driver .deasserted before = (.ok (), between) ∧
      configure platform pin (next, reportDone platform pin between)
        = (.ok (), next, reportDone platform pin after) ∧
      platform.drive driver .deasserted (reportDone platform pin between) = (.ok (), after) := by
  obtain ⟨next, between, honce, rule⟩ := configures_of_quiet hcapable quiet
  rw [honce] at quietAgain
  obtain ⟨last, after, htwice, ruleAgain⟩ := configures_of_quiet hcapable quietAgain
  obtain ⟨driver, before, hconfigured, driven⟩ := rule.configured
  obtain ⟨rfl, ⟨-, drivenAgain⟩ | ⟨cause, herror, -⟩⟩ := hconfigured.again ruleAgain
  · exact ⟨driver, last, before, between, after, honce, driven, htwice, drivenAgain⟩
  · cases herror

end Esp32

namespace Rp2040

variable {ω : Type} (platform : Rp2040Platform ω) (pin : Pin)

/-- A configuration is refused and changes nothing, or another one drives the driver that it drove
and keeps the bank and the drivers. -/
theorem configure_configure (state : Rp2040 × ω) :
    (∃ error, configure platform pin state = (.error error, state)) ∨
      ∃ driver backend before,
        configure platform pin state = (.ok (), backend, platform.drive driver .deasserted before) ∧
        configure platform pin (backend, platform.drive driver .deasserted before)
          = (.ok (), backend, platform.drive driver .deasserted
              (platform.drive driver .deasserted before)) := by
  obtain ⟨backend, world⟩ := state
  have rule := backend.drivers.configure_rule (actions platform) (claim platform) pin
    (backend.bank, world)
  rcases houtcome : backend.drivers.configure (actions platform) (claim platform) pin
    (backend.bank, world) with ⟨fault | done, next, bank, between⟩
  · have hanswer : ((indicator platform).apply (backend, world) (.configure pin)).1
        = .error fault.toPinError := by
      simp only [Indicator.apply, indicator, configure, houtcome]
      rfl
    have hsame := unchanged_of_error hanswer
    exact .inl ⟨fault.toPinError, Prod.ext hanswer hsame⟩
  · rw [houtcome] at rule
    obtain ⟨driver, before, hconfigured, driven⟩ := rule.configured
    have ruleAgain := next.configure_rule (actions platform) (claim platform) pin (bank, between)
    rcases hagain : next.configure (actions platform) (claim platform) pin (bank, between)
      with ⟨answer, last, final⟩
    rw [hagain] at ruleAgain
    obtain ⟨hlast, ⟨hanswer, drivenAgain⟩ | ⟨cause, -, failed⟩⟩ := hconfigured.again ruleAgain
    · cases driven
      cases drivenAgain
      obtain rfl : last = next := hlast
      obtain rfl : answer = .ok () := hanswer
      refine .inr ⟨driver, ⟨before.1, last⟩, before.2, ?_, ?_⟩
      · simp only [configure, houtcome]
        rfl
      · simp only [configure, hagain]
        rfl
    · cases failed

end Rp2040

namespace Target

/-- The state of a target without what it acts on. -/
def Backend : Target → Type
  | simulation .. => Simulation
  | stm32f4 .. => Stm32f4
  | esp32 .. => Esp32.Drivers
  | rp2040 .. => Rp2040

/-- The backend in a state. -/
def backend : (target : Target) → target.State → target.Backend
  | simulation .., state => state.1
  | stm32f4 .., state => state.1
  | esp32 .., state => state.1
  | rp2040 .., state => state.1

/-- The state after a pin was configured. -/
def configured (target : Target) (pin : Pin) (state : target.State) : target.State :=
  (target.indicator.configure pin state).2

/-- What it takes for a second configuration of a pin to make no difference. -/
structure ConfiguresOnce (target : Target) (pin : Pin) (state : target.State) : Prop where
  /-- It has the answer of the first. -/
  answer_eq : (target.indicator.configure pin (target.configured pin state)).1
    = (target.indicator.configure pin state).1
  /-- Every pin has the level that it had after the first. -/
  level_eq : ∀ other,
    target.indicator.level (target.configured pin (target.configured pin state)) other
      = target.indicator.level (target.configured pin state) other
  /-- So are the lines, the drivers that are held and the bank. -/
  backend_eq : target.backend (target.configured pin (target.configured pin state))
    = target.backend (target.configured pin state)

/-- The levels are those of the backend. -/
theorem level_eq_of_backend_eq {target : Target} {first second : target.State}
    (h : target.backend first = target.backend second) :
    target.indicator.level first = target.indicator.level second := by
  cases target with
  | simulation around slots world => exact congrArg (fun backend => backend.lines.level) h
  | stm32f4 bus port rate store => exact congrArg (fun backend => backend.lines.level) h
  | esp32 platform world => exact congrArg DriverTable.level h
  | rp2040 platform reserved world => exact congrArg (fun backend => backend.drivers.level) h

/-- Answer and backend decide whether a second configuration makes a difference. -/
theorem ConfiguresOnce.of_backend {target : Target} {pin : Pin} {state : target.State}
    (answer_eq : (target.indicator.configure pin (target.configured pin state)).1
      = (target.indicator.configure pin state).1)
    (backend_eq : target.backend (target.configured pin (target.configured pin state))
      = target.backend (target.configured pin state)) : target.ConfiguresOnce pin state :=
  ⟨answer_eq, congrFun (level_eq_of_backend_eq backend_eq), backend_eq⟩

/-- Unless a driver fails, a second configuration makes no difference. -/
theorem configuresOnce {target : Target} {pin : Pin} {state : target.State}
    (h : target.Undisturbed state [.configure pin, .configure pin]) :
    target.ConfiguresOnce pin state := by
  cases target with
  | simulation around slots world =>
    have hagain := Simulation.configure_configure around pin state
    exact .of_backend hagain.1 hagain.2
  | stm32f4 bus port rate store =>
    have hagain := Stm32f4.configure_configure bus pin state
    exact .of_backend hagain.1 hagain.2
  | esp32 platform world =>
    obtain ⟨drivers, now⟩ := state
    cases hcapable : Esp32.outputCapable pin with
    | false =>
      have hrefused := @Esp32.configure_of_incapable _ platform _ hcapable drivers
      refine .of_backend ?_ ?_
      · simp only [configured, indicator, Esp32.indicator, hrefused]
      · simp only [configured, indicator, Esp32.indicator, hrefused]
        rfl
    | true =>
      obtain ⟨driver, next, before, between, after, honce, -, htwice, -⟩ :=
        Esp32.configure_configure hcapable h.1 h.2.1
      refine .of_backend ?_ ?_
      · simp only [configured, indicator, Esp32.indicator, honce, htwice]
      · simp only [configured, indicator, Esp32.indicator, honce, htwice]
        rfl
  | rp2040 platform reserved world =>
    rcases Rp2040.configure_configure platform pin state with
      ⟨error, hrefused⟩ | ⟨driver, next, before, honce, htwice⟩
    · refine .of_backend ?_ ?_
      · simp only [configured, indicator, Rp2040.indicator, hrefused]
      · simp only [configured, indicator, Rp2040.indicator, hrefused]
    · refine .of_backend ?_ ?_
      · simp only [configured, indicator, Rp2040.indicator, honce, htwice]
      · simp only [configured, indicator, Rp2040.indicator, honce, htwice]
        rfl

end Target

/-! ## The drivers after a second configuration -/

/-- The second of two configurations that meet no fault leaves the drivers of an ESP32 as the first
left them. -/
theorem Esp32.leavesDrivers {ω : Type} {platform : Esp32Platform ω} {drivers : Drivers} {world : ω}
    {events : List DriverEvent} {pin : Pin}
    (quiet : meetsFault platform.listed (drivers, world, events) (.configure pin) = false)
    (quietAgain : meetsFault platform.listed
      (configure platform.listed pin (drivers, world, events)).2 (.configure pin) = false) :
    let once := (configure platform.listed pin (drivers, world, events)).2
    LeavesDrivers once.2.2 (configure platform.listed pin once).2.2.2 := by
  intro once
  cases hcapable : outputCapable pin with
  | false =>
    simp only [once, configure_of_incapable hcapable]
    exact .refl events
  | true =>
    obtain ⟨driver, next, before, between, after, honce, driven, htwice, drivenAgain⟩ :=
      configure_configure hcapable quiet quietAgain
    have hbetween : between.2 = before.2 ++ [.driven driver .deasserted] :=
      (listsEvents platform).driven driven
    -- The report between the two is no event.
    have hreport : (reportDone platform.listed pin between).2 = between.2 := rfl
    have hafter : after.2
        = (reportDone platform.listed pin between).2 ++ [.driven driver .deasserted] :=
      (listsEvents platform).driven drivenAgain
    simp only [once, honce, htwice]
    exact leavesDrivers_of_driven (hreport.trans hbetween) hafter

/-- So it is with an RP2040. -/
theorem Rp2040.leavesDrivers {ω : Type} (platform : Rp2040Platform ω)
    (state : Rp2040 × ω × List DriverEvent) (pin : Pin) :
    let once := (configure platform.listed pin state).2
    LeavesDrivers once.2.2 (configure platform.listed pin once).2.2.2 := by
  intro once
  rcases configure_configure platform.listed pin state with
    ⟨error, hrefused⟩ | ⟨driver, next, before, honce, htwice⟩
  · simp only [once, hrefused]
    exact .refl _
  · simp only [once, honce, htwice]
    exact leavesDrivers_of_driven rfl rfl

/-- An ESP32 of which no driver fails. -/
def Esp32Platform.faultless : Esp32Platform Unit where
  openDriver _ world := (.ok (), world)
  drive _ _ world := (.ok (), world)
  close _ world := world
  delayTicks _ world := world
  log _ world := world

/-- Unless a driver fails, configuring a pin twice is configuring it once, on every backend and
from every state, be it reached by calls or not: for the answers, levels, drivers and pins of the
bank, for the registers of a recorder, whatever it holds, and for what was asked of the drivers and
what they were driven to. -/
theorem configured_twice_as_once :
    (∀ (target : Target) (pin : Pin) (state : target.State),
      target.Undisturbed state [.configure pin, .configure pin] →
      target.ConfiguresOnce pin state) ∧
    (∀ (backend : Stm32f4) (recorder : BusRecorder) (pin : Pin),
      let once := (Stm32f4.configure BusRecorder.bus pin (backend, recorder)).2
      (Stm32f4.configure BusRecorder.bus pin once).2.2.held = once.2.held) ∧
    (∀ {ω : Type} (platform : Esp32Platform ω) (pin : Pin) (world : ω) (events : List DriverEvent)
      (state : Esp32.Drivers × ω × List DriverEvent),
      (Target.esp32 platform.listed (world, events)).Undisturbed state
        [.configure pin, .configure pin] →
      let once := (Esp32.configure platform.listed pin state).2
      LeavesDrivers once.2.2 (Esp32.configure platform.listed pin once).2.2.2) ∧
    ∀ {ω : Type} (platform : Rp2040Platform ω) (pin : Pin) (state : Rp2040 × ω × List DriverEvent),
      let once := (Rp2040.configure platform.listed pin state).2
      LeavesDrivers once.2.2 (Rp2040.configure platform.listed pin once).2.2.2 :=
  ⟨fun _ _ _ => Target.configuresOnce, Stm32f4.held_configure_configure,
    fun _ _ _ _ _ undisturbed => Esp32.leavesDrivers undisturbed.1 undisturbed.2.1,
    fun platform pin state => Rp2040.leavesDrivers platform state pin⟩

/-- A configuration deasserts GPIO2 of an ESP32 without faults, which is asserted, and a second one
makes no difference to the backend or to its driver. -/
theorem gpio2_configured_twice_as_once :
    let pin := Pin.ofNat 2
    let target := Target.esp32 Esp32Platform.faultless.listed ((), [])
    let state := target.indicator.after target.start [.configure pin, .write pin .asserted]
    target.indicator.level state pin = some .asserted ∧
      target.Undisturbed state [.configure pin, .configure pin] ∧
      target.ConfiguresOnce pin state ∧
      let once := (Esp32.configure Esp32Platform.faultless.listed pin state).2
      LeavesDrivers once.2.2
        (Esp32.configure Esp32Platform.faultless.listed pin once).2.2.2 := by
  intro pin target state
  have hlevel : target.indicator.level state pin = some .asserted := by decide
  have hquiet : target.Undisturbed state [.configure pin, .configure pin] :=
    ⟨by decide, by decide, trivial⟩
  have honce : target.ConfiguresOnce pin state :=
    configured_twice_as_once.1 target pin state hquiet
  have hdrivers := configured_twice_as_once.2.2.1 Esp32Platform.faultless pin () [] state hquiet
  exact ⟨hlevel, hquiet, honce, hdrivers⟩

end PilotLamp
