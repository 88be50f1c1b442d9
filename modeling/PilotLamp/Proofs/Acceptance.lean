import PilotLamp.Proofs.Targets

/-!
# Which calls a backend accepts

Unless a driver fails, a target configures exactly the pins that it has, whatever happened before,
and writes exactly the pins that have a level. So two targets that are asked the same, about pins
that both have, answer the same and show the same levels. Which error a target answers for a pin
that it does not have is out of scope.
-/

namespace PilotLamp

namespace Target

/-- What a target accepts in a state. -/
structure AcceptsAt (target : Target) (state : target.State) : Prop where
  /-- A configuration that meets no fault succeeds exactly on the pins of the target. -/
  configure_iff : ∀ pin, target.meetsFault state (.configure pin) = false →
    ((target.indicator.configure pin state).1 = .ok () ↔ target.has pin = true)
  /-- A write that meets no fault succeeds exactly on the pins that have a level. -/
  write_iff : ∀ pin level, target.meetsFault state (.write pin level) = false →
    ((target.indicator.write pin level state).1 = .ok () ↔
      ∃ before, target.indicator.level state pin = some before)
  /-- A write to a pin of the target that has no level finds it not configured. -/
  unconfigured : ∀ pin level, target.has pin = true →
    target.indicator.level state pin = none →
    (target.indicator.write pin level state).1 = .error (.notConfigured pin)

end Target

/-! ## Each backend -/

namespace LineTable

/-- A line that has a level can be set. -/
theorem exists_set_iff (table : LineTable) (pin : Pin) (level : Level) :
    (∃ outcome, table.set pin level = .ok outcome) ↔ ∃ before, table.level pin = some before := by
  rw [← Option.isSome_iff_exists, isSome_level]
  constructor
  · rintro ⟨⟨changed, next⟩, hset⟩
    exact isConfigured_of_set hset
  · intro hconfigured
    obtain ⟨changed, next, hset⟩ := set_isOk hconfigured level
    exact ⟨_, hset⟩

/-- A line of the table that has no level is not configured, and other numbers have no line. -/
theorem set_eq_error_of_no_level {table : LineTable} {pin : Pin} (h : table.level pin = none)
    (level : Level) :
    table.set pin level = .error
      (if pin.index < capacity then .notConfigured pin else .noSuchPin pin.index) := by
  by_cases inside : pin.index < capacity
  · rw [set_of_no_level inside h, if_pos inside]
  · rw [if_neg inside]
    exact if_neg inside

end LineTable

namespace Simulation

variable {ω : Type} {around : Surroundings ω} {state : Simulation × ω} {pin : Pin}

/-- A simulation configures the pins below its slots, if they all have a line. -/
theorem configure_isOk_iff (hslots : state.1.slots ≤ LineTable.capacity) (pin : Pin) :
    (configure around pin state).1 = .ok () ↔ pin.index < state.1.slots := by
  obtain ⟨simulation, world⟩ := state
  unfold configure
  by_cases hin : pin.index < simulation.slots
  · obtain ⟨lines, hlines⟩ := simulation.lines.configure_isOk (Nat.lt_of_lt_of_le hin hslots)
    simp [hin, hlines]
  · simp [hin, fail]

/-- A simulation writes the pins that have a level. -/
theorem write_isOk_iff (pin : Pin) (level : Level) :
    (write around pin level state).1 = .ok () ↔
      ∃ before, state.1.lines.level pin = some before := by
  obtain ⟨simulation, world⟩ := state
  rw [← LineTable.exists_set_iff simulation.lines pin level]
  simp only [write]
  rcases simulation.lines.set pin level with error | outcome
  · simp [fail]
  · simp

/-- A simulation answers with the error of its table for a pin without a level, and makes the error
known. -/
theorem write_eq_of_no_level (around : Surroundings ω) (state : Simulation × ω) {pin : Pin}
    (h : state.1.lines.level pin = none) (level : Level) :
    write around pin level state = fail around
      (if pin.index < LineTable.capacity then .notConfigured pin else .noSuchPin pin.index)
      state := by
  simp only [write, LineTable.set_eq_error_of_no_level h]

end Simulation

namespace Stm32f4

variable {β : Type} {bus : RegisterBus β} {backend next : Stm32f4} {store after : β} {pin : Pin}
  {level : Level} {answer : Except PinError Unit}

/-- A port of which only lines have levels writes the pins that have one. -/
theorem Does.isOk_iff_of_write (rule : Does bus backend store (.write pin level) answer next after)
    (inside : backend.lines.level pin ≠ none → pin.index < Port.width) :
    answer = .ok () ↔ ∃ before, backend.lines.level pin = some before := by
  rw [← Option.isSome_iff_exists, LineTable.isSome_level]
  cases rule with
  | written inside set => exact iff_of_true rfl (LineTable.isConfigured_of_set set)
  | notConfigured inside notConfigured => simp [notConfigured]
  | idle about => cases about
  | outside about outside =>
    obtain rfl := Option.some.inj about
    refine iff_of_false nofun fun hconfigured => ?_
    have hlevel : backend.lines.level pin ≠ none := by
      rw [← Option.isSome_iff_ne_none, LineTable.isSome_level, hconfigured]
    exact absurd (inside hlevel) (Nat.not_lt.mpr outside)

/-- A port finds a line not configured that has no level, has no line of other numbers, and stores
nothing. -/
theorem write_eq_of_no_level {β : Type} (bus : RegisterBus β) (state : Stm32f4 × β) {pin : Pin}
    (h : state.1.lines.level pin = none) (level : Level) :
    write bus pin level state
      = (.error (if pin.index < Port.width then .notConfigured pin else .noSuchPin pin.index),
          state) := by
  have hnot : state.1.lines.isConfigured pin = false := by
    rw [← LineTable.isSome_level, h]
    rfl
  simp only [write, hnot, Bool.false_eq_true, if_false]
  split <;> rfl

end Stm32f4

namespace Esp32

/-- An ESP32 finds a pin not configured that has no level. It drives nothing and logs the error. -/
theorem write_eq_of_no_level {ω : Type} (platform : Esp32Platform ω) {state : Drivers × ω}
    {pin : Pin} (h : state.1.level pin = none) (level : Level) :
    write platform pin level state
      = (.error (.notConfigured pin), state.1, report platform (.notConfigured pin) state.2) := by
  simp only [write, DriverTable.write_of_no_level h]
  rfl

end Esp32

namespace Rp2040

variable {ω : Type} {platform : Rp2040Platform ω} {backend : Rp2040} {world : ω} {pin : Pin}

/-- An RP2040 configures the pins of its bank that are not reserved. -/
theorem configure_isOk_iff {reserved : List Pin} (h : Stocked reserved backend.bank backend.drivers)
    (pin : Pin) :
    (configure platform pin (backend, world)).1 = .ok () ↔
      pin.index < PinBank.size ∧ pin ∉ reserved := by
  exact mapError_eq_ok_iff.trans (h.configures_isOk_iff
    (backend.drivers.configure_rule (actions platform) (claim platform) pin (backend.bank, world)))

/-- An RP2040 writes the pins that have a level. -/
theorem write_isOk_iff (h : backend.drivers.Paired) (level : Level) :
    (write platform pin level (backend, world)).1 = .ok () ↔
      ∃ before, backend.drivers.level pin = some before := by
  have htable : (write platform pin level (backend, world)).1
      = ((backend.drivers.write (actions platform) pin level (backend.bank, world)).1.mapError
          DriveFault.toPinError).map fun _ => () := rfl
  rw [htable, mapError_map_eq_ok_iff]
  constructor
  · rintro ⟨changed, hchanged⟩
    exact DriverTable.exists_level_of_write hchanged
  · intro hlevel
    rw [← Option.isSome_iff_exists, DriverTable.level, LineTable.isSome_level] at hlevel
    obtain ⟨driver, held⟩ := h.driver_of_isConfigured hlevel
    obtain ⟨changed, lines, set⟩ := LineTable.set_isOk hlevel level
    have driven : (actions platform).drive driver level (backend.bank, world) = (.ok (), _) := rfl
    rw [(DriverTable.Writes.driven hlevel held driven set).eq]
    exact ⟨changed, rfl⟩

/-- An RP2040 finds a pin not configured that has no level, and drives nothing. -/
theorem write_eq_of_no_level (platform : Rp2040Platform ω) {state : Rp2040 × ω} {pin : Pin}
    (h : state.1.drivers.level pin = none) (level : Level) :
    write platform pin level state = (.error (.notConfigured pin), state) := by
  simp only [write, DriverTable.write_of_no_level h]
  rfl

end Rp2040

namespace Target

/-- A sound target configures the pins that it has and writes those that have a level. -/
theorem acceptsAt {target : Target} {state : target.State} (h : target.Sound state) :
    target.AcceptsAt state := by
  cases target with
  | simulation around slots world =>
    have hslots : state.1.slots = min slots LineTable.capacity := h
    refine ⟨fun pin _ => ?_, fun pin level _ => Simulation.write_isOk_iff pin level, ?_⟩
    · have hfits : state.1.slots ≤ LineTable.capacity := hslots ▸ Nat.min_le_right _ _
      refine (Simulation.configure_isOk_iff hfits pin).trans ?_
      rw [hslots]
      exact decide_eq_true_iff.symm
    · intro pin level hpin hlevel
      have hinside : pin.index < min slots LineTable.capacity := of_decide_eq_true hpin
      have hline : pin.index < LineTable.capacity :=
        Nat.lt_of_lt_of_le hinside (Nat.min_le_right _ _)
      have hwrite := Simulation.write_eq_of_no_level around state hlevel level
      rw [if_pos hline] at hwrite
      exact congrArg Prod.fst hwrite
  | stm32f4 bus port rate store =>
    obtain ⟨backend, registers⟩ := state
    refine ⟨fun pin _ => ?_, fun pin level _ => ?_, fun pin level hpin hlevel => ?_⟩
    · have rule := Stm32f4.apply_does bus backend registers (.configure pin)
      exact rule.isOk_iff_of_configure.trans decide_eq_true_iff.symm
    · exact (Stm32f4.apply_does bus backend registers (.write pin level)).isOk_iff_of_write (h pin)
    · have hwrite := Stm32f4.write_eq_of_no_level bus (backend, registers) hlevel level
      rw [if_pos (of_decide_eq_true hpin)] at hwrite
      exact congrArg Prod.fst hwrite
  | esp32 platform world =>
    exact ⟨fun pin quiet => Esp32.configure_isOk_iff quiet,
      fun pin level quiet => Esp32.write_isOk_iff h quiet,
      fun pin level _ hlevel =>
        congrArg Prod.fst (Esp32.write_eq_of_no_level platform hlevel level)⟩
  | rp2040 platform reserved world =>
    refine ⟨fun pin _ => ?_, fun pin level _ => Rp2040.write_isOk_iff h.paired level,
      fun pin level _ hlevel =>
        congrArg Prod.fst (Rp2040.write_eq_of_no_level platform hlevel level)⟩
    rw [has, Bool.and_eq_true, decide_eq_true_eq, decide_eq_true_eq]
    exact Rp2040.configure_isOk_iff h pin

/-! ## Two targets -/

/-- No driver fails in a run. -/
def Undisturbed (target : Target) : target.State → List Call → Prop
  | _, [] => True
  | state, call :: rest =>
    target.meetsFault state call = false ∧
      target.Undisturbed (target.indicator.apply state call).2 rest

/-- What two targets have in common over a run of calls. -/
structure AgreesWith (first second : Target) (calls : List Call) : Prop where
  /-- Every call has the same answer on both. -/
  answers : first.indicator.answered first.start calls
    = second.indicator.answered second.start calls
  /-- After every call both show the same levels. -/
  levels : ∀ earlier, earlier <+: calls → ∀ pin,
    first.indicator.level (first.indicator.after first.start earlier) pin
      = second.indicator.level (second.indicator.after second.start earlier) pin

section

variable {first second : Target} {state : first.State} {other : second.State} {call : Call}

/-- Two sound targets with equal levels answer a call on a pin of both alike. -/
theorem AcceptsAt.answer_eq (accepts : first.AcceptsAt state) (acceptsOther : second.AcceptsAt other)
    (levels : ∀ pin, first.indicator.level state pin = second.indicator.level other pin)
    (common : ∀ pin, call.pin? = some pin → first.has pin = true ∧ second.has pin = true)
    (quiet : first.meetsFault state call = false)
    (quietOther : second.meetsFault other call = false) :
    (first.indicator.apply state call).1 = (second.indicator.apply other call).1 := by
  cases call with
  | delay ms => rfl
  | report error => rfl
  | configure pin =>
    obtain ⟨hfirst, hsecond⟩ := common pin rfl
    exact ((accepts.configure_iff pin quiet).mpr hfirst).trans
      ((acceptsOther.configure_iff pin quietOther).mpr hsecond).symm
  | write pin level =>
    obtain ⟨hfirst, hsecond⟩ := common pin rfl
    cases hlevel : first.indicator.level state pin with
    | none =>
      exact (accepts.unconfigured pin level hfirst hlevel).trans
        (acceptsOther.unconfigured pin level hsecond (levels pin ▸ hlevel)).symm
    | some before =>
      exact ((accepts.write_iff pin level quiet).mpr ⟨before, hlevel⟩).trans
        ((acceptsOther.write_iff pin level quietOther).mpr ⟨before, levels pin ▸ hlevel⟩).symm

/-- Two sound targets with equal levels answer a run on pins of both alike. -/
theorem answered_eq {calls : List Call} (sound : first.Sound state) (soundOther : second.Sound other)
    (levels : ∀ pin, first.indicator.level state pin = second.indicator.level other pin)
    (common : ∀ call ∈ calls, ∀ pin, call.pin? = some pin →
      first.has pin = true ∧ second.has pin = true)
    (undisturbed : first.Undisturbed state calls)
    (undisturbedOther : second.Undisturbed other calls) :
    first.indicator.answered state calls = second.indicator.answered other calls := by
  induction calls generalizing state other with
  | nil => rfl
  | cons call rest ih =>
    have hanswer := (acceptsAt sound).answer_eq (acceptsAt soundOther) levels
      (common call List.mem_cons_self) undisturbed.1 undisturbedOther.1
    have hrest := ih (first.sound_apply state call sound) (second.sound_apply other call soundOther)
      (fun pin => by rw [first.tellsLevels, second.tellsLevels, levels, hanswer])
      (fun later hlater => common later (List.mem_cons_of_mem _ hlater)) undisturbed.2
      undisturbedOther.2
    rw [Indicator.answered, Indicator.answered, hanswer, hrest]

/-- A run without failures has none at its beginning. -/
theorem Undisturbed.of_prefix {target : Target} {state : target.State} {earlier calls : List Call}
    (h : earlier <+: calls) (undisturbed : target.Undisturbed state calls) :
    target.Undisturbed state earlier := by
  obtain ⟨later, rfl⟩ := h
  induction earlier generalizing state with
  | nil => exact trivial
  | cons call rest ih => exact ⟨undisturbed.1, ih undisturbed.2⟩

end

/-- A target accepts what it has and what has a level, whatever happened before. So two targets
that are asked the same about pins of both, and whose drivers do not fail, agree. -/
theorem accept_alike :
    (∀ (target : Target) (calls : List Call),
      target.AcceptsAt (target.indicator.after target.start calls)) ∧
    ∀ (first second : Target) (calls : List Call),
      (∀ call ∈ calls, ∀ pin, call.pin? = some pin →
        first.has pin = true ∧ second.has pin = true) →
      first.Undisturbed first.start calls → second.Undisturbed second.start calls →
      first.AgreesWith second calls := by
  refine ⟨fun target calls => acceptsAt (target.sound_after calls), ?_⟩
  intro first second calls common undisturbed undisturbedOther
  have hanswered (earlier : List Call) (h : earlier <+: calls) :
      first.indicator.answered first.start earlier
        = second.indicator.answered second.start earlier :=
    answered_eq first.sound_start second.sound_start
      (fun pin => (first.level_start pin).trans (second.level_start pin).symm)
      (fun call hcall => common call (h.subset hcall)) (undisturbed.of_prefix h)
      (undisturbedOther.of_prefix h)
  refine ⟨hanswered calls (List.prefix_refl calls), fun earlier h pin => ?_⟩
  rw [first.tellsLevels.level_after first.level_start, hanswered earlier h,
    second.tellsLevels.level_after second.level_start]

/-- An ESP32 of which the driver of GPIO4 cannot be opened. -/
def esp32WithoutGpio4 : Target := .esp32 (ω := Unit)
  { openDriver := fun pin world => (if pin.index = 4 then .error "0x103" else .ok (), world)
    drive := fun _ _ world => (.ok (), world)
    close := fun _ world => world
    delayTicks := fun _ world => world
    log := fun _ world => world } ()

/-- An RP2040 on which GPIO3 is reserved. -/
def rp2040WithoutGpio3 : Target := .rp2040 (ω := Unit)
  { openDriver := fun _ _ world => world
    drive := fun _ _ world => world
    close := fun _ world => world
    delayTicks := fun _ world => world } [.ofNat 3] ()

/-- An ESP32 and an RP2040 agree on GPIO2, which is written before and after its configurations. -/
theorem gpio2_alike_on_esp32_and_rp2040 :
    let pin := Pin.ofNat 2
    let calls := [.write pin .asserted, .configure pin, .write pin .asserted, .configure pin]
    (esp32WithoutGpio4.meetsFault esp32WithoutGpio4.start (.configure pin) = false ∧
      (esp32WithoutGpio4.indicator.configure pin esp32WithoutGpio4.start).1 = .ok ()) ∧
    (∀ call ∈ calls, ∀ pin, call.pin? = some pin →
      esp32WithoutGpio4.has pin = true ∧ rp2040WithoutGpio3.has pin = true) ∧
    esp32WithoutGpio4.Undisturbed esp32WithoutGpio4.start calls ∧
    rp2040WithoutGpio3.Undisturbed rp2040WithoutGpio3.start calls ∧
    esp32WithoutGpio4.AgreesWith rp2040WithoutGpio3 calls := by
  intro pin calls
  have hquiet : esp32WithoutGpio4.meetsFault esp32WithoutGpio4.start (.configure pin) = false := by
    decide
  have hcommon : ∀ call ∈ calls, ∀ pin, call.pin? = some pin →
      esp32WithoutGpio4.has pin = true ∧ rp2040WithoutGpio3.has pin = true := by
    simp only [calls, pin, List.forall_mem_cons, Call.pin?, Option.some.injEq, forall_eq']
    decide
  have hfirst : esp32WithoutGpio4.Undisturbed esp32WithoutGpio4.start calls :=
    ⟨by decide, by decide, by decide, by decide, trivial⟩
  have hsecond : rp2040WithoutGpio3.Undisturbed rp2040WithoutGpio3.start calls :=
    ⟨rfl, rfl, rfl, rfl, trivial⟩
  refine ⟨⟨hquiet, ?_⟩, hcommon, hfirst, hsecond, ?_⟩
  · exact ((accept_alike.1 esp32WithoutGpio4 []).configure_iff pin hquiet).mpr (by decide)
  · exact accept_alike.2 esp32WithoutGpio4 rp2040WithoutGpio3 calls hcommon hfirst hsecond

end Target

end PilotLamp
