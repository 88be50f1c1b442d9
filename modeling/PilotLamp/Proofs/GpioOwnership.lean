import PilotLamp.Proofs.DriverEvents
import PilotLamp.Proofs.Targets

/-!
# Who owns the GPIOs of an ESP32

Opening the driver of a GPIO is sound only while nothing else drives it. Whatever calls are made
and wherever a driver cannot be opened or driven, a driver is asked for only if the GPIO can be an
output and has no live driver; the live drivers are those of the pins with a level, and a pin that
was given up is tried anew when it is configured again. Drivers that other programs open are out of
scope.
-/

namespace PilotLamp

open DriverEvent DriverTable

/-- The platform with a list of what happens to its drivers, oldest event first. -/
def Esp32Platform.listed {ω : Type} (platform : Esp32Platform ω) :
    Esp32Platform (ω × List DriverEvent) where
  openDriver pin := listing (platform.openDriver pin) (.opened pin) (.unopened pin)
  drive pin level := listing (platform.drive pin level) (.driven pin level) (.failed pin level)
  close pin state := (platform.close pin state.1, state.2 ++ [.closed pin])
  delayTicks ticks := effectBeside (platform.delayTicks ticks)
  log record := effectBeside (platform.log record)

/-- A platform in a world that shows another world does there what another platform does. -/
structure Esp32Platform.Shows {ω τ : Type} (rich : Esp32Platform τ) (plain : Esp32Platform ω)
    (view : τ → ω) : Prop where
  /-- Drivers are opened with the same result. -/
  openDriver : ∀ pin world, plain.openDriver pin (view world)
    = ((rich.openDriver pin world).1, view (rich.openDriver pin world).2)
  /-- They are driven with the same result. -/
  drive : ∀ pin level world, plain.drive pin level (view world)
    = ((rich.drive pin level world).1, view (rich.drive pin level world).2)
  /-- They are closed alike. -/
  close : ∀ pin world, plain.close pin (view world) = view (rich.close pin world)
  /-- Waits are alike. -/
  delayTicks : ∀ ticks world,
    plain.delayTicks ticks (view world) = view (rich.delayTicks ticks world)
  /-- Records are logged alike. -/
  log : ∀ record world, plain.log record (view world) = view (rich.log record world)

namespace Esp32

/-! ## What a richer world leaves as it is -/

section

variable {ω τ : Type} {rich : Esp32Platform τ} {plain : Esp32Platform ω} {view : τ → ω}
  (h : rich.Shows plain view)

include h

/-- Drivers are driven and given up as in the world that is shown. -/
theorem actions_shown : (actions rich).Shows (actions plain) view := ⟨h.drive, h.close⟩

/-- So are they claimed. -/
theorem claim_shown (pin : Pin) (world : τ) :
    claim plain pin (view world) = ((claim rich pin world).1, view (claim rich pin world).2) := by
  simp only [claim, h.openDriver]
  rcases rich.openDriver pin world with ⟨code | done, next⟩
  · rfl
  · rfl

/-- So are errors reported. -/
theorem report_shown (error : PinError) (world : τ) :
    report plain error (view world) = view (report rich error world) := h.log _ world

/-- So are faults. -/
theorem reportFault_shown (fault : DriveFault String) (world : τ) :
    reportFault plain fault (view world) = view (reportFault rich fault world) := by
  cases fault with
  | refused cause => exact report_shown h cause world
  | driver pin code => simp only [reportFault, h.log, report_shown h]

/-- So is every call made. -/
theorem indicator_shown :
    (indicator rich).Shows (indicator plain) fun state => (state.1, view state.2) := by
  rintro ⟨drivers, world⟩ call
  cases call with
  | delay ms => exact congrArg (fun world => (Except.ok (), drivers, world)) (h.delayTicks _ world)
  | report error =>
    exact congrArg (fun world => (Except.ok (), drivers, world)) (report_shown h error world)
  | configure pin =>
    have htable := (actions_shown h).configure_eq (claim_shown h) pin drivers world
    simp only [Indicator.apply, indicator, configure, htable]
    by_cases hcapable : outputCapable pin
    · simp only [if_pos hcapable]
      rcases drivers.configure (actions rich) (claim rich) pin world
        with ⟨fault | done, next, after⟩
      · simp only [reportFault_shown h]
      · simp only [h.log]
    · simp only [if_neg hcapable, report_shown h]
  | write pin level =>
    have htable := (actions_shown h).write_eq pin level drivers world
    simp only [Indicator.apply, indicator, write, htable]
    rcases drivers.write (actions rich) pin level world with ⟨fault | changed, next, after⟩
    · simp only [reportFault_shown h]
    · rfl

end

variable {ω : Type} (platform : Esp32Platform ω)

/-- The list makes no difference to the platform. -/
theorem listed_shows : platform.listed.Shows platform Prod.fst where
  openDriver _ state := listing_fst state
  drive _ _ state := listing_fst state
  close _ _ := rfl
  delayTicks _ _ := rfl
  log _ _ := rfl

/-- A fault is reported beside the list. -/
theorem reportFault_listed (fault : DriveFault String) (state : ω × List DriverEvent) :
    reportFault platform.listed fault state = (reportFault platform fault state.1, state.2) := by
  cases fault <;> rfl

/-! ## What is listed -/

/-- The table of drivers acts in a world that lists what happens. -/
theorem listsEvents :
    ListsEvents (actions platform.listed) (claim platform.listed) Prod.snd where
  driven := of_listing_ok
  failed := of_listing_error
  closed _ _ := rfl
  opened {pin world driver after} h := by
    rcases hopen : platform.listed.openDriver pin world with ⟨code | done, next⟩
    · simp [claim, hopen] at h
    · simp only [claim, hopen] at h
      cases h
      exact ⟨rfl, of_listing_ok hopen⟩
  unopened {pin world fault after} h := by
    rcases hopen : platform.listed.openDriver pin world with ⟨code | done, next⟩
    · simp only [claim, hopen] at h
      cases h
      exact .inl (of_listing_error hopen)
    · simp [claim, hopen] at h

variable {platform} {drivers : Drivers} {world : ω} {events : List DriverEvent} {pin : Pin}
  {level : Level}

/-- What the configuration of a pin lists is what the table lists. -/
theorem events_configure (h : outputCapable pin = true) :
    (configure platform.listed pin (drivers, world, events)).2.2.2
      = (drivers.configure (actions platform.listed) (claim platform.listed) pin
          (world, events)).2.2.2 := by
  simp only [configure, h, if_true]
  rcases drivers.configure (actions platform.listed) (claim platform.listed) pin (world, events)
    with ⟨fault | done, next, after⟩
  · simp only [reportFault_listed]
  · rfl

/-- So it is with a write. -/
theorem events_write :
    (write platform.listed pin level (drivers, world, events)).2.2.2
      = (drivers.write (actions platform.listed) pin level (world, events)).2.2.2 := by
  simp only [write]
  rcases drivers.write (actions platform.listed) pin level (world, events)
    with ⟨fault | changed, next, after⟩
  · simp only [reportFault_listed]
  · rfl

/-- Every call keeps the live drivers of the pins that can be outputs. -/
theorem keeps_apply (h : Keeps outputCapable drivers events) (call : Call) :
    let outcome := (indicator platform.listed).apply (drivers, world, events) call
    Keeps outputCapable outcome.2.1 outcome.2.2.2 := by
  cases call with
  | delay ms => exact h
  | report error => exact h
  | configure pin =>
    change Keeps outputCapable (configure platform.listed pin (drivers, world, events)).2.1
      (configure platform.listed pin (drivers, world, events)).2.2.2
    cases hcapable : outputCapable pin with
    | false =>
      simp only [configure, hcapable, Bool.false_eq_true, if_false]
      exact h
    | true =>
      rw [(configure_of_capable hcapable).2, events_configure hcapable]
      exact h.of_configures (listsEvents platform) hcapable (configure_rule _ _ _ _ _)
  | write pin level =>
    change Keeps outputCapable (write platform.listed pin level (drivers, world, events)).2.1
      (write platform.listed pin level (drivers, world, events)).2.2.2
    rw [write_eq_table.2, events_write]
    exact h.of_writes (listsEvents platform) (write_rule _ _ _ _ _)

/-- So does every run, and it leaves a driver for exactly the pins that have a level. -/
theorem keeps_after (platform : Esp32Platform ω) (world : ω) (calls : List Call) :
    let listed := (indicator platform.listed).after (fresh, world, []) calls
    listed.1.Paired ∧ Keeps outputCapable listed.1 listed.2.2 := by
  refine Indicator.after_induction (motive := fun state : Drivers × ω × List DriverEvent =>
    state.1.Paired ∧ Keeps outputCapable state.1 state.2.2) ?_ ?_ calls
  · exact ⟨.empty _, .empty outputCapable _⟩
  · rintro ⟨drivers, world, events⟩ call ⟨hpaired, hkeeps⟩
    exact ⟨paired_apply platform.listed hpaired call, keeps_apply hkeeps call⟩

/-- The driver that is held for a pin after a run is the driver of that pin. -/
theorem named_after (platform : Esp32Platform ω) (world : ω) (calls : List Call) {pin driver : Pin}
    (held : ((indicator platform).after (fresh, world) calls).1.driver? pin = some driver) :
    driver = pin := by
  have hshown := (indicator_shown (listed_shows platform)).after_eq (fresh, world, []) calls
  rw [hshown] at held
  exact (keeps_after platform world calls).2.named pin driver held

/-! ## Pins that are tried again -/

/-- How the configuration of a pin that has no driver goes: what is answered, the level that the
pin has then, and what happens to its driver. -/
inductive FirstTry (platform : Esp32Platform ω) (pin : Pin) (world : ω) :
    Except PinError Unit → Option Level → List DriverEvent → Prop
  /-- The driver cannot be opened. -/
  | unopened {code : String} {after : ω}
      (failed : platform.openDriver pin world = (.error code, after)) :
      FirstTry platform pin world (.error (.rejected pin)) none [.unopened pin]
  /-- The driver is opened, but cannot be driven low and is closed. -/
  | givenUp {code : String} {between after : ω}
      (opened : platform.openDriver pin world = (.ok (), between))
      (failed : platform.drive pin .deasserted between = (.error code, after)) :
      FirstTry platform pin world (.error (.rejected pin)) none
        [.opened pin, .failed pin .deasserted, .closed pin]
  /-- The driver is opened and driven low. -/
  | kept {between after : ω} (opened : platform.openDriver pin world = (.ok (), between))
      (driven : platform.drive pin .deasserted between = (.ok (), after)) :
      FirstTry platform pin world (.ok ()) (some .deasserted)
        [.opened pin, .driven pin .deasserted]

/-- A configuration fails as the table does. -/
theorem configure_of_fault {state : ω × List DriverEvent} {fault : DriveFault String}
    {next : Drivers} {after : ω × List DriverEvent} (hcapable : outputCapable pin = true)
    (htable : drivers.configure (actions platform.listed) (claim platform.listed) pin state
      = (.error fault, next, after)) :
    configure platform.listed pin (drivers, state)
      = (.error fault.toPinError, next, reportFault platform fault after.1, after.2) := by
  simp only [configure, hcapable, if_true, htable, reportFault_listed]

/-- A configuration that the table carries out is logged. -/
theorem configure_of_done {state : ω × List DriverEvent} {next : Drivers}
    {after : ω × List DriverEvent} (hcapable : outputCapable pin = true)
    (htable : drivers.configure (actions platform.listed) (claim platform.listed) pin state
      = (.ok (), next, after)) :
    ∃ logged, configure platform.listed pin (drivers, state) = (.ok (), next, logged, after.2) := by
  simp only [configure, hcapable, if_true, htable]
  exact ⟨_, rfl⟩

/-- A pin that can be an output and has no driver is tried. -/
theorem firstTry (hcapable : outputCapable pin = true) (free : drivers.driver? pin = none)
    (noLevel : drivers.level pin = none) :
    let outcome := configure platform.listed pin (drivers, world, events)
    ∃ new, outcome.2.2.2 = events ++ new ∧
      FirstTry platform pin world outcome.1 (outcome.2.1.level pin) new := by
  intro outcome
  have hin := index_lt_of_outputCapable hcapable
  rcases hopen : platform.openDriver pin world with ⟨code | done, between⟩
  · have hlisted : platform.listed.openDriver pin (world, events)
        = (.error code, between, events ++ [.unopened pin]) := listing_error hopen events
    have hclaim : claim platform.listed pin (world, events)
        = (.error (.driver pin code), between, events ++ [.unopened pin]) := by
      simp only [claim, hlisted]
    have hrule : Configures (actions platform.listed) _ _ _ _ _ _ _ :=
      .unclaimed hin free hclaim
    refine ⟨[.unopened pin], ?_, ?_⟩
    · simp only [outcome, configure_of_fault hcapable hrule.eq]
    · simp only [outcome, configure_of_fault hcapable hrule.eq, noLevel]
      exact .unopened hopen
  have hlisted : platform.listed.openDriver pin (world, events)
      = (.ok (), between, events ++ [.opened pin]) := listing_ok hopen events
  have hclaim : claim platform.listed pin (world, events)
      = (.ok pin, between, events ++ [.opened pin]) := by simp only [claim, hlisted]
  rcases hdrive : platform.drive pin .deasserted between with ⟨code | done, after⟩
  · have hfailed : (actions platform.listed).drive pin .deasserted
        (between, events ++ [.opened pin]) = (.error code, after,
          events ++ [.opened pin] ++ [.failed pin .deasserted]) := listing_error hdrive _
    have hrule := Configures.givenUp hin free hclaim hfailed
    refine ⟨[.opened pin, .failed pin .deasserted, .closed pin], ?_, ?_⟩
    · simp only [outcome, configure_of_fault hcapable hrule.eq]
      simp [actions, Esp32Platform.listed]
    · simp only [outcome, configure_of_fault hcapable hrule.eq, noLevel]
      exact .givenUp hopen hdrive
  · have hdriven : (actions platform.listed).drive pin .deasserted
        (between, events ++ [.opened pin]) = (.ok (), after,
          events ++ [.opened pin] ++ [.driven pin .deasserted]) := listing_ok hdrive _
    obtain ⟨lines, hlines⟩ := drivers.lines.configure_isOk (Nat.lt_of_lt_of_le hin drivers.fits)
    have hrule := Configures.kept hin free hclaim hdriven hlines
    have hlevel := hrule.level_eq pin
    rw [if_pos rfl] at hlevel
    obtain ⟨logged, houtcome⟩ := configure_of_done hcapable hrule.eq
    refine ⟨[.opened pin, .driven pin .deasserted], ?_, ?_⟩
    · simp [outcome, houtcome]
    · simp only [outcome, houtcome, hlevel]
      exact .kept hopen hdrive

/-! ## The law -/

/-- How an ESP32 backend owns GPIOs, as what happened to the drivers shows. -/
structure OwnsGpios (platform : Esp32Platform ω) (drivers : Drivers) (world : ω)
    (events : List DriverEvent) : Prop where
  /-- A driver was asked for only if its GPIO can be an output and had no live driver, and only
  live drivers of such GPIOs were driven or closed. -/
  inOrder : ∀ earlier event later, events = earlier ++ event :: later →
    InOrder outputCapable earlier event
  /-- At any time a GPIO had at most one live driver. -/
  alone : ∀ earlier later, events = earlier ++ later →
    ∀ pin, live pin earlier = 0 ∨ live pin earlier = 1
  /-- The GPIOs with a live driver are the pins with a level. -/
  live_iff : ∀ pin, live pin events = 1 ↔ ∃ level, drivers.level pin = some level
  /-- A pin that can be an output and has no level is tried with one new driver, wherever earlier
  tries have ended. -/
  retry : ∀ pin, outputCapable pin = true → drivers.level pin = none →
    let outcome := configure platform.listed pin (drivers, world, events)
    ∃ new, outcome.2.2.2 = events ++ new ∧
      FirstTry platform pin world outcome.1 (outcome.2.1.level pin) new

/-- A backend with a driver for each pin that has a level, all live, owns its GPIOs. -/
theorem ownsGpios (paired : drivers.Paired) (keeps : Keeps outputCapable drivers events)
    (world : ω) : OwnsGpios platform drivers world events where
  inOrder := keeps.supervised.inOrder
  alone earlier later hsplit := keeps.supervised.alone hsplit
  live_iff pin := by
    rw [keeps.supervised.live_eq, paired pin, ← Option.isSome_iff_exists]
    cases (drivers.level pin).isSome <;> simp
  retry pin hcapable noLevel := by
    have free := paired pin
    rw [noLevel, Option.isSome_none, Option.isSome_eq_false_iff, Option.isNone_iff_eq_none] at free
    exact firstTry hcapable free noLevel

/-- Listing what happens to the drivers makes no difference to a run, and after every run the
backend owns the GPIOs of the pins that have a level, and no others. -/
theorem run_owns_gpios (platform : Esp32Platform ω) (world : ω) (calls : List Call) :
    let listed := (indicator platform.listed).after (fresh, world, []) calls
    (indicator platform).after (fresh, world) calls = (listed.1, listed.2.1) ∧
      (indicator platform).answered (fresh, world) calls
        = (indicator platform.listed).answered (fresh, world, []) calls ∧
      OwnsGpios platform listed.1 listed.2.1 listed.2.2 := by
  intro listed
  have hshows := indicator_shown (listed_shows platform)
  have hkept := keeps_after platform world calls
  exact ⟨hshows.after_eq (fresh, world, []) calls, hshows.answered_eq (fresh, world, []) calls,
    ownsGpios hkept.1 hkept.2 listed.2.1⟩

end Esp32

end PilotLamp
