import PilotLamp.Proofs.JournaledBackends

/-!
# Calls that meet no driver fault

A mark beside the world is set once a driver cannot be opened or driven, so it tells whether a call
has met a fault, without a look at what the call answers. A request to a driver table that meets no
fault succeeds wherever the table allows it. Faults of the hardware behind a driver that answers
with success are out of scope.
-/

namespace PilotLamp

section

variable {α ε ω : Type} {operation : ω → Except ε α × ω} {world after : ω}

/-- Carries out an operation and sets a mark if it fails. -/
def marking (operation : ω → Except ε α × ω) (state : ω × Bool) : Except ε α × ω × Bool :=
  match operation state.1 with
  | (.ok value, world) => (.ok value, world, state.2)
  | (.error cause, world) => (.error cause, world, true)

theorem marking_ok {value : α} (h : operation world = (.ok value, after)) (mark : Bool) :
    marking operation (world, mark) = (.ok value, after, mark) := by simp only [marking, h]

theorem marking_error {cause : ε} (h : operation world = (.error cause, after)) (mark : Bool) :
    marking operation (world, mark) = (.error cause, after, true) := by simp only [marking, h]

end

section

variable {α ε φ : Type} {result : Except ε α} {translate : ε → φ}

/-- A result is a success in whatever words its errors are put. -/
theorem mapError_eq_ok_iff {value : α} :
    result.mapError translate = .ok value ↔ result = .ok value := by
  cases result <;> simp [Except.mapError]

/-- So it is without its value. -/
theorem mapError_map_eq_ok_iff :
    ((result.mapError translate).map fun _ => ()) = .ok () ↔ ∃ value, result = .ok value := by
  cases result <;> simp [Except.mapError, Except.map]

end

namespace DriverTable

variable {δ ε ω : Type} {n : Nat}

/-- What can be done with drivers, with a mark for a drive that fails. -/
def markedActions (actions : DriverActions δ ε ω) : DriverActions δ ε (ω × Bool) where
  drive driver level := marking (actions.drive driver level)
  release driver := effectBeside (actions.release driver)

section

variable {actions : DriverActions δ ε ω} {claim : Pin → ω → Except (DriveFault ε) δ × ω}
  {pin : Pin} {level : Level} {table : DriverTable δ n} {world : ω}

/-- A pin of the table is configured if no driver fails to be claimed or driven. -/
theorem configure_isOk_of_unmarked (inside : pin.index < n)
    (unmarked : (table.configure (markedActions actions) (fun pin => marking (claim pin)) pin
      (world, false)).2.2.2 = false) :
    (table.configure actions claim pin world).1 = .ok () := by
  have hrule := table.configure_rule actions claim pin world
  generalize table.configure actions claim pin world = outcome at hrule ⊢
  obtain ⟨result, next, after⟩ := outcome
  cases hrule with
  | outside outside => omega
  | drivenAgain held driven configured => rfl
  | failedAgain held failed =>
    rw [(Configures.failedAgain held (marking_error failed false)).eq] at unmarked
    cases unmarked
  | unclaimed inside free failed =>
    rw [(Configures.unclaimed inside free (marking_error failed false)).eq] at unmarked
    cases unmarked
  | kept inside free claimed driven configured => rfl
  | @givenUp driver cause between _ inside free claimed failed =>
    have hfailed : (markedActions actions).drive driver .deasserted (between, false)
        = (.error cause, _, true) := marking_error failed false
    rw [(Configures.givenUp inside free (marking_ok claimed false) hfailed).eq] at unmarked
    cases unmarked

/-- A pin that is configured and has a driver is written if the driver does not fail. -/
theorem write_isOk_of_unmarked {driver : δ} (configured : table.lines.isConfigured pin = true)
    (held : table.driver? pin = some driver)
    (unmarked : (table.write (markedActions actions) pin level (world, false)).2.2.2 = false) :
    ∃ changed, (table.write actions pin level world).1 = .ok changed := by
  have hrule := table.write_rule actions pin level world
  generalize table.write actions pin level world = outcome at hrule ⊢
  obtain ⟨result, next, after⟩ := outcome
  cases hrule with
  | notConfigured notConfigured => simp [configured] at notConfigured
  | missing configured free => simp [held] at free
  | failed configured held failed =>
    rw [(Writes.failed configured held (marking_error failed false)).eq] at unmarked
    cases unmarked
  | @driven driver changed lines _ configured held driven set => exact ⟨changed, rfl⟩

/-- A write succeeds only on a pin that has a level. -/
theorem exists_level_of_write {changed : Bool}
    (h : (table.write actions pin level world).1 = .ok changed) :
    ∃ before, table.level pin = some before := by
  have hrule := table.write_rule actions pin level world
  rw [h] at hrule
  generalize (table.write actions pin level world).2.1 = next at hrule
  cases hrule with
  | driven configured held driven set =>
    rwa [← Option.isSome_iff_exists, DriverTable.level, LineTable.isSome_level]

/-- A write to a pin that has no level finds it not configured. -/
theorem write_of_no_level (h : table.level pin = none) :
    table.write actions pin level world
      = (.error (.refused (.notConfigured pin)), table, world) := by
  apply Writes.eq
  apply Writes.notConfigured
  rw [← LineTable.isSome_level, ← DriverTable.level, h]
  rfl

end

end DriverTable

/-- The platform with a mark that is set once a driver cannot be opened or driven. -/
def Esp32Platform.watched {ω : Type} (platform : Esp32Platform ω) : Esp32Platform (ω × Bool) where
  openDriver pin := marking (platform.openDriver pin)
  drive pin level := marking (platform.drive pin level)
  close pin := effectBeside (platform.close pin)
  delayTicks ticks := effectBeside (platform.delayTicks ticks)
  log record := effectBeside (platform.log record)

namespace Esp32

variable {ω : Type} (platform : Esp32Platform ω)

/-- Whether a driver cannot be opened or driven during a call. -/
def meetsFault (state : Drivers × ω) (call : Call) : Bool :=
  ((indicator platform.watched).apply (state.1, state.2, false) call).2.2.2

/-- Drivers are driven with a mark for those that fail. -/
theorem actions_watched :
    actions platform.watched = DriverTable.markedActions (actions platform) := rfl

/-- They are claimed with a mark for those that cannot be opened. -/
theorem claim_watched : claim platform.watched = fun pin => marking (claim platform pin) := by
  funext pin ⟨world, mark⟩
  rcases hopen : platform.openDriver pin world with ⟨code | _, next⟩
  · have hwatched :
        platform.watched.openDriver pin (world, mark) = (.error code, next, true) :=
      marking_error hopen mark
    simp only [claim, hwatched, marking, hopen]
  · have hwatched : platform.watched.openDriver pin (world, mark) = (.ok (), next, mark) :=
      marking_ok hopen mark
    simp only [claim, hwatched, marking, hopen]

/-- Reporting a fault leaves the mark as it is. -/
theorem reportFault_watched (fault : DriveFault String) (state : ω × Bool) :
    (reportFault platform.watched fault state).2 = state.2 := by
  cases fault <;> rfl

variable {platform} {drivers : Drivers} {world : ω} {pin : Pin} {level : Level}

/-- For a pin that can be an output the table decides what is answered and kept. -/
theorem configure_of_capable (h : outputCapable pin = true) :
    (configure platform pin (drivers, world)).1
        = (drivers.configure (actions platform) (claim platform) pin world).1.mapError
            DriveFault.toPinError ∧
      (configure platform pin (drivers, world)).2.1
        = (drivers.configure (actions platform) (claim platform) pin world).2.1 := by
  simp only [configure, h, if_true]
  rcases drivers.configure (actions platform) (claim platform) pin world
    with ⟨fault | done, next, after⟩
  · exact ⟨rfl, rfl⟩
  · exact ⟨rfl, rfl⟩

/-- The table decides what a write answers and what is kept. -/
theorem write_eq_table :
    (write platform pin level (drivers, world)).1
        = ((drivers.write (actions platform) pin level world).1.mapError
            DriveFault.toPinError).map (fun _ => ()) ∧
      (write platform pin level (drivers, world)).2.1
        = (drivers.write (actions platform) pin level world).2.1 := by
  simp only [write]
  rcases drivers.write (actions platform) pin level world with ⟨fault | changed, next, after⟩
  · exact ⟨rfl, rfl⟩
  · exact ⟨rfl, rfl⟩

/-- A configuration meets a fault exactly if the table does. -/
theorem meetsFault_configure (h : outputCapable pin = true) :
    meetsFault platform (drivers, world) (.configure pin)
      = (drivers.configure (DriverTable.markedActions (actions platform))
          (fun pin => marking (claim platform pin)) pin (world, false)).2.2.2 := by
  rw [← actions_watched, ← claim_watched]
  simp only [meetsFault, Indicator.apply, indicator, configure, h, if_true]
  rcases drivers.configure (actions platform.watched) (claim platform.watched) pin (world, false)
    with ⟨fault | done, next, after⟩
  · exact reportFault_watched platform fault after
  · rfl

/-- So does a write. -/
theorem meetsFault_write :
    meetsFault platform (drivers, world) (.write pin level)
      = (drivers.write (DriverTable.markedActions (actions platform)) pin level
          (world, false)).2.2.2 := by
  rw [← actions_watched]
  simp only [meetsFault, Indicator.apply, indicator, write]
  rcases drivers.write (actions platform.watched) pin level (world, false)
    with ⟨fault | changed, next, after⟩
  · exact reportFault_watched platform fault after
  · rfl

/-- Every GPIO number that can be an output is one of the table. -/
theorem index_lt_of_outputCapable (h : outputCapable pin = true) : pin.index < gpioCount := by
  simp only [outputCapable, Bool.or_eq_true, Bool.and_eq_true, decide_eq_true_eq,
    beq_iff_eq] at h
  simp only [gpioCount]
  omega

/-- A configuration that meets no fault succeeds exactly on the pins that can be outputs. -/
theorem configure_isOk_iff
    (quiet : meetsFault platform (drivers, world) (.configure pin) = false) :
    (configure platform pin (drivers, world)).1 = .ok () ↔ outputCapable pin = true := by
  cases hcapable : outputCapable pin with
  | false => simp [configure, hcapable]
  | true =>
    rw [meetsFault_configure hcapable] at quiet
    rw [(configure_of_capable hcapable).1, mapError_eq_ok_iff]
    exact iff_of_true (DriverTable.configure_isOk_of_unmarked (index_lt_of_outputCapable hcapable)
      quiet) rfl

/-- A write that meets no fault succeeds exactly on the pins that have a level. -/
theorem write_isOk_iff (h : drivers.Paired)
    (quiet : meetsFault platform (drivers, world) (.write pin level) = false) :
    (write platform pin level (drivers, world)).1 = .ok () ↔
      ∃ before, drivers.level pin = some before := by
  rw [meetsFault_write] at quiet
  rw [write_eq_table.1, mapError_map_eq_ok_iff]
  constructor
  · rintro ⟨changed, hchanged⟩
    exact DriverTable.exists_level_of_write hchanged
  · intro hlevel
    rw [← Option.isSome_iff_exists, DriverTable.level, LineTable.isSome_level] at hlevel
    obtain ⟨driver, held⟩ := h.driver_of_isConfigured hlevel
    exact DriverTable.write_isOk_of_unmarked hlevel held quiet

end Esp32

end PilotLamp
