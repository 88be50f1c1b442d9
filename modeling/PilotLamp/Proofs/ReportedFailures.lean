import PilotLamp.Proofs.GpioOwnership
import PilotLamp.Proofs.TraceTranscripts

/-!
# Failures that are reported once

A transcript of everything that a call does to the world shows what it reports. On the simulation
an error is logged once and its line is attempted once, also where the sink fails; on the ESP32 it
is logged once, after the code of the driver if it was a driver that failed. The error is the one
that the call answers, and a call that succeeds reports nothing. Calls on an indicator that a wait
has taken are out of scope.
-/

namespace PilotLamp

open SharedIndicator (ReportStyle)

/-! ## The simulation -/

namespace Simulation

variable {ω : Type} {around : Surroundings ω} {line : String} {world after : ω}
  {events : List TraceEvent}

/-- What a pin call reports, as what happens in it shows: its answer, the events, and the worlds
before and after. -/
inductive ReportsOnce (around : Surroundings ω) (world : ω) :
    Except PinError Unit → List TraceEvent → ω → Prop
  /-- An error is logged, and the line that tells it is attempted. -/
  | failed {error : PinError} {attempt : List TraceEvent} {after : ω}
      (attempted : Attempts around (errorLine error) (around.log (reportStyle.wording error) world)
        attempt after) :
      ReportsOnce around world (.error error) (.logged (reportStyle.wording error) :: attempt) after
  /-- A success does nothing. -/
  | silent : ReportsOnce around world (.ok ()) [] world
  /-- Or it attempts a line that tells no error. -/
  | traced {line : String} {events : List TraceEvent} {after : ω}
      (noError : ∀ error, line ≠ errorLine error)
      (attempted : Attempts around line world events after) :
      ReportsOnce around world (.ok ()) events after

/-- How a simulation reports what fails in a state. -/
structure ReportsFailures (around : Surroundings ω) (state : Simulation × ω) : Prop where
  /-- Every pin below the slots has a line that can be configured, so its configuration cannot fail
  without a report. -/
  tracked : ∀ pin, pin.index < state.1.slots → ∃ lines, state.1.lines.configure pin = .ok lines
  /-- The transcript of a call makes no difference to it. -/
  transcript_eq : ∀ call, (indicator around.transcribed).apply (state.1, state.2, []) call
    = (((indicator around).apply state call).1, ((indicator around).apply state call).2.1,
        ((indicator around).apply state call).2.2, happened around (state, call))
  /-- A pin call reports the error that it answers, and a success is not reported. -/
  reports : ∀ call, call.pin? ≠ none → ReportsOnce around state.2
    ((indicator around).apply state call).1 (happened around (state, call))
    ((indicator around).apply state call).2.2
  /-- So the records of an error are one for that error, and those of a success none. -/
  reports_eq : ∀ call, call.pin? ≠ none →
    reportStyle.reportsIn ((happened around (state, call)).filterMap TraceEvent.record?)
      = reportStyle.due ((indicator around).apply state call).1

/-- A pin call tells what it reports. -/
theorem Tells.reports {simulation : Simulation} {call : Call} {answer : Except PinError Unit}
    (h : Tells around simulation world call answer events after) (pinCall : call.pin? ≠ none) :
    ReportsOnce around world answer events after := by
  cases h with
  | waited => exact absurd rfl pinCall
  | unchanged silent => exact .silent
  | traced told noError attempt => exact .traced noError attempt
  | failed result told attempted =>
    cases call with
    | delay ms => exact absurd rfl pinCall
    | report error => exact absurd rfl pinCall
    | configure pin =>
      obtain rfl : answer = .error _ := result
      exact .failed attempted
    | write pin level =>
      obtain rfl : answer = .error _ := result
      exact .failed attempted

/-- The records of what is reported are those that are due. -/
theorem ReportsOnce.reportsIn_eq {answer : Except PinError Unit}
    (h : ReportsOnce around world answer events after) :
    reportStyle.reportsIn (events.filterMap TraceEvent.record?) = reportStyle.due answer := by
  cases h with
  | silent => rfl
  | traced noError attempted => exact attempted.reportsIn_eq_nil
  | failed attempted => exact congrArg (List.cons _) attempted.reportsIn_eq_nil

/-- With at most as many slots as a line table has lines, failures are reported. -/
theorem reportsFailures {state : Simulation × ω} (hslots : state.1.slots ≤ LineTable.capacity) :
    ReportsFailures around state where
  tracked _ inside := state.1.lines.configure_isOk (Nat.lt_of_lt_of_le inside hslots)
  transcript_eq call := (apply_happened around hslots call).1 []
  reports call pinCall := (apply_happened around hslots call).2.reports pinCall
  reports_eq call pinCall := ((apply_happened around hslots call).2.reports pinCall).reportsIn_eq

end Simulation

/-! ## The ESP32 -/

/-- Something that an ESP32 backend does to its platform. -/
inductive PlatformEvent
  /-- The driver of a pin is opened, or cannot be. -/
  | opened (pin : Pin) (answer : Except String Unit)
  /-- A pin is driven, or cannot be. -/
  | driven (pin : Pin) (level : Level) (answer : Except String Unit)
  /-- The driver of a pin is closed. -/
  | closed (pin : Pin)
  /-- The scheduler is asked to wait. -/
  | waited (ticks : UInt32)
  /-- A record is logged. -/
  | logged (record : LogRecord)

namespace PlatformEvent

/-- The pin whose driver fails, if one does, with the code. -/
def fault? : PlatformEvent → Option (Pin × String)
  | opened pin (.error code) | driven pin _ (.error code) => some (pin, code)
  | opened _ (.ok ()) | driven _ _ (.ok ()) | closed _ | waited _ | logged _ => none

/-- The record that is logged, if any. -/
def record? : PlatformEvent → Option LogRecord
  | logged record => some record
  | opened .. | driven .. | closed _ | waited _ => none

variable (events : List PlatformEvent) (records : List LogRecord)

/-- Records are no faults. -/
theorem faults_append_logged :
    (events ++ records.map logged).filterMap fault? = events.filterMap fault? := by
  simp [List.filterMap_map, Function.comp_def, fault?]

/-- They come after the records before them. -/
theorem records_append_logged :
    (events ++ records.map logged).filterMap record? = events.filterMap record? ++ records := by
  simp [List.filterMap_map, Function.comp_def, record?]

end PlatformEvent

/-- The platform with a transcript. -/
def Esp32Platform.transcribed {ω : Type} (platform : Esp32Platform ω) :
    Esp32Platform (ω × List PlatformEvent) where
  openDriver pin := transcribing (platform.openDriver pin) (.opened pin)
  drive pin level := transcribing (platform.drive pin level) (.driven pin level)
  close pin state := (platform.close pin state.1, state.2 ++ [.closed pin])
  delayTicks ticks state := (platform.delayTicks ticks state.1, state.2 ++ [.waited ticks])
  log record state := (platform.log record state.1, state.2 ++ [.logged record])

namespace Esp32

open DriverTable PlatformEvent

variable {ω : Type}

/-- The record of a driver that fails. -/
def driverRecord (pin : Pin) (code : String) : LogRecord :=
  ⟨.error, logTarget, "GPIO" ++ pin.text ++ " driver error: " ++ code⟩

/-- What happens in a call that is made in a state. -/
def happened (platform : Esp32Platform ω) (step : (Drivers × ω) × Call) : List PlatformEvent :=
  ((indicator platform.transcribed).apply (step.1.1, step.1.2, []) step.2).2.2.2

/-- What a call on a pin reports, as what happens in it shows. -/
inductive ReportsOnce (pin : Pin) (events : List PlatformEvent) : Except PinError Unit → Prop
  /-- It fails without a driver that fails, and its error is logged. -/
  | refused {error : PinError} (unfaulted : events.filterMap fault? = [])
      (logged : events.filterMap record? = [reportStyle.wording error]) :
      ReportsOnce pin events (.error error)
  /-- The driver of the pin fails, and its code is logged before the error of the call. -/
  | rejected {code : String} (faulted : events.filterMap fault? = [(pin, code)])
      (logged : events.filterMap record?
        = [driverRecord pin code, reportStyle.wording (.rejected pin)]) :
      ReportsOnce pin events (.error (.rejected pin))
  /-- It succeeds, no driver fails, and whatever is logged is no report. -/
  | done (unfaulted : events.filterMap fault? = [])
      (unreported : ∀ record ∈ events.filterMap record?, record.severity = .info) :
      ReportsOnce pin events (.ok ())

/-- How an ESP32 backend reports what fails in a state. -/
structure ReportsFailures (platform : Esp32Platform ω) (state : Drivers × ω) : Prop where
  /-- The transcript of a call makes no difference to it. -/
  transcript_eq : ∀ call, (indicator platform.transcribed).apply (state.1, state.2, []) call
    = (((indicator platform).apply state call).1, ((indicator platform).apply state call).2.1,
        ((indicator platform).apply state call).2.2, happened platform (state, call))
  /-- A call on a pin reports the error that it answers, and a success is not reported. -/
  reports : ∀ call pin, call.pin? = some pin →
    ReportsOnce pin (happened platform (state, call)) ((indicator platform).apply state call).1

/-- Whose driver a request to the driver table has found to fail, as what happens shows. -/
inductive Blames {α : Type} (pin : Pin) (events : List PlatformEvent) :
    Except (DriveFault String) α → Prop
  /-- The request is refused, and no driver has failed. -/
  | refused {cause : PinError} (unfaulted : events.filterMap fault? = []) :
      Blames pin events (.error (.refused cause))
  /-- The driver of the pin has failed. -/
  | faulted {code : String} (faulted : events.filterMap fault? = [(pin, code)]) :
      Blames pin events (.error (.driver pin code))
  /-- The request succeeds, and no driver has failed. -/
  | done {value : α} (unfaulted : events.filterMap fault? = []) : Blames pin events (.ok value)

variable {platform : Esp32Platform ω} {drivers : Drivers} {pin : Pin} {world : ω}
  {state next : ω × List PlatformEvent}

/-- The transcript makes no difference to the platform. -/
theorem transcribed_shows (platform : Esp32Platform ω) :
    platform.transcribed.Shows platform Prod.fst where
  openDriver _ _ := rfl
  drive _ _ _ := rfl
  close _ _ := rfl
  delayTicks _ _ := rfl
  log _ _ := rfl

/-- A driver that is claimed is that of the pin, and was opened. -/
theorem of_claim_ok {driver : Pin} (h : claim platform.transcribed pin state = (.ok driver, next)) :
    driver = pin ∧ next.2 = state.2 ++ [.opened pin (.ok ())] := by
  rcases hopen : platform.transcribed.openDriver pin state with ⟨code | done, after⟩
  · simp [claim, hopen] at h
  · simp only [claim, hopen] at h
    cases h
    exact ⟨rfl, of_transcribing hopen⟩

/-- A driver that is not claimed could not be opened. -/
theorem of_claim_error {fault : DriveFault String}
    (h : claim platform.transcribed pin state = (.error fault, next)) :
    ∃ code, fault = .driver pin code ∧ next.2 = state.2 ++ [.opened pin (.error code)] := by
  rcases hopen : platform.transcribed.openDriver pin state with ⟨code | done, after⟩
  · simp only [claim, hopen] at h
    cases h
    exact ⟨code, rfl, of_transcribing hopen⟩
  · simp [claim, hopen] at h

/-- A drive is in the transcript. -/
theorem of_drive {driver : Pin} {level : Level} {answer : Except String Unit}
    (h : (actions platform.transcribed).drive driver level state = (answer, next)) :
    next.2 = state.2 ++ [.driven driver level answer] := of_transcribing h

/-- When a pin is configured, the table blames the driver that fails, and logs nothing itself. -/
theorem configures_blames {result : Except (DriveFault String) Unit} {later : Drivers}
    (named : ∀ driver, drivers.driver? pin = some driver → driver = pin)
    (rule : Configures (actions platform.transcribed) (claim platform.transcribed) pin drivers
      (world, []) result later next) :
    next.2.filterMap record? = [] ∧ Blames pin next.2 result := by
  cases rule with
  | outside outside => exact ⟨rfl, .refused rfl⟩
  | drivenAgain held driven configured =>
    simp only [of_drive driven]
    exact ⟨rfl, .done rfl⟩
  | failedAgain held failed =>
    obtain rfl := named _ held
    simp only [of_drive failed]
    exact ⟨rfl, .faulted rfl⟩
  | unclaimed inside free failed =>
    obtain ⟨code, rfl, hevents⟩ := of_claim_error failed
    simp only [hevents]
    exact ⟨rfl, .faulted rfl⟩
  | kept inside free claimed driven configured =>
    obtain ⟨rfl, hevents⟩ := of_claim_ok claimed
    simp only [of_drive driven, hevents]
    exact ⟨rfl, .done rfl⟩
  | givenUp inside free claimed failed =>
    obtain ⟨rfl, hevents⟩ := of_claim_ok claimed
    simp only [actions, Esp32Platform.transcribed, of_drive failed, hevents]
    exact ⟨rfl, .faulted rfl⟩

/-- So it does when a level is written. -/
theorem writes_blames {level : Level} {result : Except (DriveFault String) Bool} {later : Drivers}
    (named : ∀ driver, drivers.driver? pin = some driver → driver = pin)
    (rule : Writes (actions platform.transcribed) pin level drivers (world, []) result later next) :
    next.2.filterMap record? = [] ∧ Blames pin next.2 result := by
  cases rule with
  | notConfigured notConfigured => exact ⟨rfl, .refused rfl⟩
  | missing configured free => exact ⟨rfl, .refused rfl⟩
  | failed configured held failed =>
    obtain rfl := named _ held
    simp only [of_drive failed]
    exact ⟨rfl, .faulted rfl⟩
  | driven configured held driven set =>
    simp only [of_drive driven]
    exact ⟨rfl, .done rfl⟩

/-- The records of a fault: that of its error, after that of its code if a driver has failed. -/
def faultRecords (fault : DriveFault String) : List LogRecord :=
  match fault with
  | .refused cause => [reportStyle.wording cause]
  | .driver pin code => [driverRecord pin code, reportStyle.wording (.rejected pin)]

/-- They are what is logged of a fault. -/
theorem reportFault_transcribed (fault : DriveFault String) (state : ω × List PlatformEvent) :
    (reportFault platform.transcribed fault state).2
      = state.2 ++ (faultRecords fault).map .logged := by
  cases fault with
  | refused cause => rfl
  | driver pin code => exact List.append_assoc ..

/-- A fault is reported once, after its code if it is a fault of a driver. -/
theorem reportFault_reports {α : Type} {fault : DriveFault String}
    (unlogged : state.2.filterMap record? = [])
    (blames : Blames pin state.2 (.error fault : Except (DriveFault String) α)) :
    ReportsOnce pin (reportFault platform.transcribed fault state).2 (.error fault.toPinError) := by
  rw [reportFault_transcribed]
  cases blames with
  | refused unfaulted =>
    refine .refused ?_ ?_
    · rw [faults_append_logged, unfaulted]
    · rw [records_append_logged, unlogged]
      rfl
  | @faulted code faulted =>
    have hfaults := faults_append_logged state.2 (faultRecords (.driver pin code))
    have hrecords := records_append_logged state.2 (faultRecords (.driver pin code))
    rw [faulted] at hfaults
    rw [unlogged] at hrecords
    exact .rejected hfaults hrecords

/-- Configuring a pin reports what fails. -/
theorem configure_reports (named : ∀ driver, drivers.driver? pin = some driver → driver = pin) :
    ReportsOnce pin (configure platform.transcribed pin (drivers, world, [])).2.2.2
      (configure platform.transcribed pin (drivers, world, [])).1 := by
  unfold configure
  by_cases hcapable : outputCapable pin
  · simp only [if_pos hcapable]
    have hblames := configures_blames named
      (drivers.configure_rule (actions platform.transcribed) (claim platform.transcribed) pin
        (world, []))
    generalize drivers.configure (actions platform.transcribed) (claim platform.transcribed) pin
      (world, []) = outcome at hblames ⊢
    obtain ⟨fault | done, later, after⟩ := outcome
    · exact reportFault_reports hblames.1 hblames.2
    · obtain ⟨hunlogged, hdone⟩ := hblames
      cases hdone with
      | done unfaulted =>
        refine .done ?_ ?_
        · simp only [Esp32Platform.transcribed, List.filterMap_append, unfaulted]
          rfl
        · simp only [Esp32Platform.transcribed, List.filterMap_append, hunlogged]
          simp [record?]
  · simp only [if_neg hcapable]
    exact .refused rfl rfl

/-- So does writing one. -/
theorem write_reports (level : Level)
    (named : ∀ driver, drivers.driver? pin = some driver → driver = pin) :
    ReportsOnce pin (write platform.transcribed pin level (drivers, world, [])).2.2.2
      (write platform.transcribed pin level (drivers, world, [])).1 := by
  unfold write
  have hblames := writes_blames named
    (drivers.write_rule (actions platform.transcribed) pin level (world, []))
  simp only []
  generalize drivers.write (actions platform.transcribed) pin level (world, []) = outcome
    at hblames ⊢
  obtain ⟨fault | done, later, after⟩ := outcome
  · exact reportFault_reports hblames.1 hblames.2
  · obtain ⟨hunlogged, hdone⟩ := hblames
    cases hdone with
    | done unfaulted => exact .done unfaulted (by simp [hunlogged])

/-- Where the driver that is held for a pin is the driver of that pin, failures are reported. -/
theorem reportsFailures {state : Drivers × ω}
    (named : ∀ pin driver, state.1.driver? pin = some driver → driver = pin) :
    ReportsFailures platform state where
  transcript_eq call := by
    have hshown := indicator_shown (transcribed_shows platform) (state.1, state.2, []) call
    rw [hshown]
    rfl
  reports call pin about := by
    have hshown := indicator_shown (transcribed_shows platform) (state.1, state.2, []) call
    rw [hshown]
    cases call with
    | delay ms => cases about
    | report error => cases about
    | configure other =>
      cases about
      exact configure_reports (named pin)
    | write other level =>
      cases about
      exact write_reports level (named pin)

end Esp32

/-! ## The law -/

/-- After any run, on a simulation or an ESP32, the next call that fails has the error that it
answers reported once, and one that succeeds has nothing reported. -/
theorem failures_are_reported_once :
    (∀ {ω : Type} (around : Simulation.Surroundings ω) (slots : Nat) (world : ω)
      (calls : List Call), Simulation.ReportsFailures around
        ((Simulation.indicator around).after (.withSlots slots, world) calls)) ∧
    (∀ {ω : Type} (platform : Esp32Platform ω) (world : ω) (calls : List Call),
      Esp32.ReportsFailures platform
        ((Esp32.indicator platform).after (Esp32.fresh, world) calls)) := by
  refine ⟨fun around slots world calls => ?_, fun platform world calls => ?_⟩
  · have hslots : ((Simulation.indicator around).after (.withSlots slots, world) calls).1.slots
        = min slots LineTable.capacity := (Target.simulation around slots world).sound_after calls
    have hfits : min slots LineTable.capacity ≤ LineTable.capacity := Nat.min_le_right _ _
    exact Simulation.reportsFailures (Nat.le_trans (Nat.le_of_eq hslots) hfits)
  · exact Esp32.reportsFailures fun pin driver => Esp32.named_after platform world calls

end PilotLamp
