import PilotLamp.Esp32
import PilotLamp.HostProgram
import PilotLamp.Proofs.DriverRules
import PilotLamp.Proofs.FailureReports
import PilotLamp.Simulation

/-!
# Backends with a journal

The simulation and the ESP32 backend with everything that they log in a journal beside the world.
Sinks, drivers and sleeping act on the world and leave the journal alone. Main statement: shared
by callers in any interleaving, both report each pin call that fails once, and no other, except
that a pin call made while a wait has the backend fails without a report.
-/

namespace PilotLamp

section

variable {α ω κ : Type}

/-- Carries out an operation on a world beside something that it leaves alone. -/
def beside (operation : ω → α × ω) (state : ω × κ) : α × ω × κ :=
  let (answer, world) := operation state.1
  (answer, world, state.2)

theorem beside_eq {operation : ω → α × ω} {world next : ω} {answer : α}
    (h : operation world = (answer, next)) (kept : κ) :
    beside operation (world, kept) = (answer, next, kept) := by rw [beside, h]

/-- Lets an effect happen to a world beside something that it leaves alone. -/
def effectBeside (effect : ω → ω) (state : ω × κ) : ω × κ := (effect state.1, state.2)

end

namespace TraceSink

variable {ω κ : Type} (sink : TraceSink ω)

/-- The sink in a world with something beside it. -/
def besides : TraceSink (ω × κ) where
  write text := beside (sink.write text)
  flush := beside sink.flush

/-- Repeated offers leave alone what is beside the world. -/
theorem writeAll_besides (text : List Char) (state : ω × κ) :
    sink.besides.writeAll text state = beside (sink.writeAll text) state := by
  obtain ⟨world, kept⟩ := state
  fun_induction sink.writeAll text world with
  | case1 world => rw [writeAll, beside, writeAll]
  | case2 world first rest failure next hwrite =>
    have hbesides :
        sink.besides.write (first :: rest) (world, kept) = (.error failure, next, kept) :=
      beside_eq hwrite kept
    rw [writeAll, hbesides, beside, writeAll, hwrite]
  | case3 world first rest next hwrite =>
    have hbesides : sink.besides.write (first :: rest) (world, kept) = (.ok 0, next, kept) :=
      beside_eq hwrite kept
    rw [writeAll, hbesides, beside, writeAll, hwrite]
  | case4 world first rest taken next hwrite ih =>
    have hbesides :
        sink.besides.write (first :: rest) (world, kept) = (.ok (taken + 1), next, kept) :=
      beside_eq hwrite kept
    rw [writeAll, hbesides, beside, writeAll, hwrite]
    exact ih

/-- So does writing pieces. -/
theorem writePieces_besides (pieces : List String) (state : ω × κ) :
    sink.besides.writePieces pieces state = beside (sink.writePieces pieces) state := by
  induction pieces generalizing state with
  | nil => rfl
  | cons piece rest ih =>
    rw [writePieces, writeAll_besides, beside, beside, writePieces]
    rcases sink.writeAll piece.toList state.1 with ⟨failure | _, next⟩
    · rfl
    · exact ih (next, state.2)

/-- So does writing a line. -/
theorem writeLine_besides (pieces : List String) (state : ω × κ) :
    sink.besides.writeLine pieces state = beside (sink.writeLine pieces) state := by
  rw [writeLine, writePieces_besides, beside, beside, writeLine]
  rcases sink.writePieces (pieces ++ ["\n"]) state.1 with ⟨failure | _, next⟩
  · rfl
  · rfl

end TraceSink

namespace DriverTable

variable {δ ε ω κ : Type} {n : Nat}

/-- The actions in a world with something beside it. -/
def actionsBeside (actions : DriverActions δ ε ω) : DriverActions δ ε (ω × κ) where
  drive driver level := beside (actions.drive driver level)
  release driver := effectBeside (actions.release driver)

variable (actions : DriverActions δ ε ω) (claim : Pin → ω → Except (DriveFault ε) δ × ω)
  (pin : Pin) (level : Level) (table : DriverTable δ n) (world : ω) (kept : κ)

/-- Configuring a pin leaves alone what is beside the world. -/
theorem configure_beside :
    table.configure (actionsBeside actions) (fun pin => beside (claim pin)) pin (world, kept)
      = let outcome := table.configure actions claim pin world
        (outcome.1, outcome.2.1, outcome.2.2, kept) := by
  have hrule := table.configure_rule actions claim pin world
  generalize table.configure actions claim pin world = outcome at hrule ⊢
  obtain ⟨result, next, after⟩ := outcome
  apply Configures.eq
  cases hrule with
  | outside outside => exact .outside outside
  | drivenAgain held driven configured =>
    exact .drivenAgain held (beside_eq driven kept) configured
  | failedAgain held failed => exact .failedAgain held (beside_eq failed kept)
  | unclaimed inside free failed => exact .unclaimed inside free (beside_eq failed kept)
  | kept inside free claimed driven configured =>
    exact .kept inside free (beside_eq claimed kept) (beside_eq driven kept) configured
  | givenUp inside free claimed failed =>
    have hfailed : (actionsBeside actions).drive _ .deasserted (_, kept) = (.error _, _, kept) :=
      beside_eq failed kept
    exact .givenUp inside free (beside_eq claimed kept) hfailed

/-- So does writing a level. -/
theorem write_beside :
    table.write (actionsBeside actions) pin level (world, kept)
      = let outcome := table.write actions pin level world
        (outcome.1, outcome.2.1, outcome.2.2, kept) := by
  have hrule := table.write_rule actions pin level world
  generalize table.write actions pin level world = outcome at hrule ⊢
  obtain ⟨result, next, after⟩ := outcome
  apply Writes.eq
  cases hrule with
  | notConfigured notConfigured => exact .notConfigured notConfigured
  | missing configured free => exact .missing configured free
  | failed configured held failed =>
    exact .failed configured held (beside_eq failed kept)
  | driven configured held driven set =>
    exact .driven configured held (beside_eq driven kept) set

/-- So does giving up every driver. -/
theorem releaseAll_beside :
    table.releaseAll (actionsBeside actions) (world, kept)
      = (table.releaseAll actions world, kept) := by
  unfold releaseAll
  induction table.drivers.toList generalizing world with
  | nil => rfl
  | cons slot rest ih => cases slot <;> exact ih _

end DriverTable

open SharedIndicator (BackendKind Journaled ReportStyle ReportsOwnFailures)

/-! ## The simulation -/

namespace Simulation

/-- The surroundings with a journal of what is logged. -/
def Surroundings.journaled {ω : Type} (around : Surroundings ω) :
    Surroundings (Journaled ω) where
  sink := around.sink.besides
  log record state := (around.log record state.1, state.2 ++ [record])
  sleep ms := effectBeside (around.sleep ms)

/-- Simulations with a wanted number of slots; one that is thrown away leaves nothing behind. -/
def kind {ω : Type} (around : Surroundings ω) (slots : Nat) : BackendKind Simulation ω where
  indicator := indicator around
  build world := (withSlots slots, world)
  discard _ world := world

/-- A simulation reports errors in records for authors. -/
def reportStyle : ReportStyle where
  severity := .debug
  wording error := ⟨.debug, logTarget, "sim config error: " ++ error.message⟩

variable {ω : Type} (around : Surroundings ω)

/-- A trace line is no report, even if it cannot be written. -/
theorem trace_journaled (pieces : List String) (world : ω) (journal : List LogRecord) :
    ∃ records, trace around.journaled pieces (world, journal)
      = (trace around pieces world, journal ++ records) ∧ reportStyle.reportsIn records = [] := by
  have hline := around.sink.writeLine_besides pieces (world, journal)
  rw [beside] at hline
  unfold trace Surroundings.journaled
  rw [hline]
  rcases around.sink.writeLine pieces world with ⟨failure | _, next⟩
  · exact ⟨[⟨.warn, logTarget, "sim trace output failed: " ++ failure⟩], rfl, rfl⟩
  · exact ⟨[], by rw [List.append_nil], rfl⟩

/-- Reporting an error is one report. -/
theorem report_journaled (error : PinError) (world : ω) (journal : List LogRecord) :
    ∃ records, report around.journaled error (world, journal)
      = (report around error world, journal ++ records) ∧
        reportStyle.reportsIn records = [reportStyle.wording error] := by
  obtain ⟨records, htrace, hnone⟩ := trace_journaled around ("[sim] error: " :: error.fragments)
    (around.log (reportStyle.wording error) world) (journal ++ [reportStyle.wording error])
  refine ⟨[reportStyle.wording error] ++ records, ?_, ?_⟩
  · rw [← List.append_assoc]
    exact htrace
  · rw [ReportStyle.reportsIn_append, hnone]
    rfl

/-- An operation that fails logs the report of its error. -/
theorem fail_journaled (error : PinError) (simulation : Simulation) (world : ω)
    (journal : List LogRecord) :
    reportStyle.LogsDue (.error error) (fail around error (simulation, world)) journal
      (fail around.journaled error (simulation, world, journal)) := by
  obtain ⟨records, hreport, hone⟩ := report_journaled around error world journal
  exact ⟨records, by rw [fail, hreport]; rfl, hone⟩

/-- Configuring logs what is due. With more slots than a line table has it would not: the table
would refuse a pin without a report. -/
theorem configure_journaled (pin : Pin) {simulation : Simulation}
    (hslots : simulation.slots ≤ LineTable.capacity) (world : ω) (journal : List LogRecord) :
    reportStyle.LogsDue (configure around pin (simulation, world)).1
      (configure around pin (simulation, world)) journal
      (configure around.journaled pin (simulation, world, journal)) := by
  unfold configure
  by_cases hpin : pin.index < simulation.slots
  · obtain ⟨lines, hlines⟩ := simulation.lines.configure_isOk (Nat.lt_of_lt_of_le hpin hslots)
    obtain ⟨records, htrace, hnone⟩ :=
      trace_journaled around ["[sim] configure(pin=", pin.text, ")"] world journal
    simp only [if_pos hpin, hlines, htrace]
    exact ⟨records, rfl, hnone⟩
  · simp only [if_neg hpin]
    exact fail_journaled around (.noSuchPin pin.index) simulation world journal

/-- Writing logs what is due. -/
theorem write_journaled (pin : Pin) (level : Level) (simulation : Simulation) (world : ω)
    (journal : List LogRecord) :
    reportStyle.LogsDue (write around pin level (simulation, world)).1
      (write around pin level (simulation, world)) journal
      (write around.journaled pin level (simulation, world, journal)) := by
  simp only [write]
  rcases simulation.lines.set pin level with error | ⟨changed, lines⟩
  · exact fail_journaled around error simulation world journal
  · cases changed with
    | false => exact ⟨[], by rw [List.append_nil]; rfl, rfl⟩
    | true =>
      obtain ⟨records, htrace, hnone⟩ :=
        trace_journaled around ["LED[", pin.text, "] = ", level.text] world journal
      simp only [if_true, htrace]
      exact ⟨records, rfl, hnone⟩

/-- No call changes the number of slots. -/
theorem slots_apply (state : Simulation × ω) (call : Call) :
    ((indicator around).apply state call).2.1.slots = state.1.slots := by
  obtain ⟨simulation, world⟩ := state
  cases call with
  | configure pin =>
    change (configure around pin (simulation, world)).2.1.slots = simulation.slots
    unfold configure
    by_cases hpin : pin.index < simulation.slots
    · simp only [if_pos hpin]
      cases simulation.lines.configure pin <;> rfl
    · simp only [if_neg hpin]
      rfl
  | write pin level =>
    change (write around pin level (simulation, world)).2.1.slots = simulation.slots
    simp only [write]
    rcases simulation.lines.set pin level with error | ⟨changed, lines⟩
    · rfl
    · rfl
  | delay ms => rfl
  | report error => rfl

/-- So slots that all have a line still have one each. -/
theorem slots_apply_le {state : Simulation × ω} (hslots : state.1.slots ≤ LineTable.capacity)
    (call : Call) :
    ((indicator around).apply state call).2.1.slots ≤ LineTable.capacity :=
  Nat.le_trans (Nat.le_of_eq (slots_apply around state call)) hslots

/-- Simulations report their own failures. -/
theorem reportsOwnFailures (slots : Nat) :
    ReportsOwnFailures (kind around slots) (kind around.journaled slots) reportStyle
      fun simulation => simulation.slots ≤ LineTable.capacity where
  built world := ⟨slots_withSlots_le slots, fun journal => rfl⟩
  applied state hslots call := by
    refine ⟨slots_apply_le around hslots call, fun journal => ?_⟩
    cases call with
    | configure pin => exact configure_journaled around pin hslots state.2 journal
    | write pin level => exact write_journaled around pin level state.1 state.2 journal
    | delay ms => exact ⟨[_], rfl, rfl⟩
    | report error =>
      obtain ⟨records, hreport, hone⟩ := report_journaled around error state.2 journal
      exact ⟨records, congrArg (fun world => (Except.ok (), state.1, world)) hreport, hone⟩
  discarded simulation world journal := rfl

end Simulation

/-! ## The ESP32 backend -/

/-- The platform with a journal of what is logged. -/
def Esp32Platform.journaled {ω : Type} (platform : Esp32Platform ω) :
    Esp32Platform (Journaled ω) where
  openDriver pin := beside (platform.openDriver pin)
  drive pin level := beside (platform.drive pin level)
  close pin := effectBeside (platform.close pin)
  delayTicks ticks := effectBeside (platform.delayTicks ticks)
  log record state := (platform.log record state.1, state.2 ++ [record])

namespace Esp32

variable {ω : Type} (platform : Esp32Platform ω)

/-- ESP32 backends; one that is thrown away closes its drivers. -/
def kind : BackendKind Drivers ω where
  indicator := indicator platform
  build world := (fresh, world)
  discard drivers world := drivers.releaseAll (actions platform) world

/-- The backend reports errors as warnings. -/
def reportStyle : ReportStyle where
  severity := .warn
  wording error := ⟨.warn, logTarget, "indicator config error: " ++ error.message⟩

/-- Drivers are driven and closed with a journal as without. -/
theorem actions_journaled :
    actions platform.journaled = DriverTable.actionsBeside (actions platform) := rfl

/-- So are they claimed. -/
theorem claim_journaled : claim platform.journaled = fun pin => beside (claim platform pin) := by
  funext pin ⟨world, journal⟩
  cases hopen : platform.openDriver pin world with
  | mk answer next =>
    have hjournaled :
        platform.journaled.openDriver pin (world, journal) = (answer, next, journal) :=
      beside_eq hopen journal
    rw [claim, hjournaled, beside, claim, hopen]
    cases answer <;> rfl

/-- An operation that fails logs the report of the error that its fault amounts to. -/
theorem reportFault_journaled (fault : DriveFault String) (world : ω)
    (journal : List LogRecord) :
    ∃ records, reportFault platform.journaled fault (world, journal)
      = (reportFault platform fault world, journal ++ records) ∧
        reportStyle.reportsIn records = [reportStyle.wording fault.toPinError] := by
  cases fault with
  | refused cause => exact ⟨[reportStyle.wording cause], rfl, rfl⟩
  | driver pin code =>
    refine ⟨[⟨.error, logTarget, "GPIO" ++ pin.text ++ " driver error: " ++ code⟩,
      reportStyle.wording (.rejected pin)], ?_, rfl⟩
    exact congrArg (Prod.mk _) (List.append_assoc journal [_] [_])

/-- Configuring logs what is due. -/
theorem configure_journaled (pin : Pin) (drivers : Drivers) (world : ω)
    (journal : List LogRecord) :
    reportStyle.LogsDue (configure platform pin (drivers, world)).1
      (configure platform pin (drivers, world)) journal
      (configure platform.journaled pin (drivers, world, journal)) := by
  unfold configure
  by_cases hpin : outputCapable pin = true
  · simp only [if_pos hpin, actions_journaled, claim_journaled, DriverTable.configure_beside]
    rcases drivers.configure (actions platform) (claim platform) pin world
      with ⟨fault | _, next, after⟩
    · obtain ⟨records, hreport, hone⟩ := reportFault_journaled platform fault after journal
      exact ⟨records, by simp only [hreport], hone⟩
    · exact ⟨[_], rfl, rfl⟩
  · simp only [if_neg hpin]
    exact ⟨[_], rfl, rfl⟩

/-- Writing logs what is due. -/
theorem write_journaled (pin : Pin) (level : Level) (drivers : Drivers) (world : ω)
    (journal : List LogRecord) :
    reportStyle.LogsDue (write platform pin level (drivers, world)).1
      (write platform pin level (drivers, world)) journal
      (write platform.journaled pin level (drivers, world, journal)) := by
  unfold write
  simp only [actions_journaled, DriverTable.write_beside]
  rcases drivers.write (actions platform) pin level world with ⟨fault | _, next, after⟩
  · obtain ⟨records, hreport, hone⟩ := reportFault_journaled platform fault after journal
    exact ⟨records, by simp only [hreport], hone⟩
  · exact ⟨[], by rw [List.append_nil], rfl⟩

/-- ESP32 backends report their own failures. -/
theorem reportsOwnFailures :
    ReportsOwnFailures (kind platform) (kind platform.journaled) reportStyle fun _ => True where
  built world := ⟨trivial, fun journal => rfl⟩
  applied state _ call := by
    refine ⟨trivial, fun journal => ?_⟩
    cases call with
    | configure pin => exact configure_journaled platform pin state.1 state.2 journal
    | write pin level => exact write_journaled platform pin level state.1 state.2 journal
    | delay ms => exact ⟨[], by rw [List.append_nil]; rfl, rfl⟩
    | report error => exact ⟨[reportStyle.wording error], rfl, rfl⟩
  discarded drivers world journal :=
    drivers.releaseAll_beside (actions platform) world journal

end Esp32

/-! ## The law -/

namespace SharedIndicator

/-- Shared by callers in any interleaving, simulations and ESP32 backends report what they serve:
a pin call that fails once, and nothing else. A pin call made while a wait has the backend fails
without a report. The journal changes nothing. -/
theorem served_pin_calls_report_failures {ω : Type} (around : Simulation.Surroundings ω)
    (slots : Nat) (platform : Esp32Platform ω) (world : ω) (moves : List Move) :
    let simulated := (Simulation.kind around.journaled slots).turns (.fresh (world, [])) moves
    let driven := (Esp32.kind platform.journaled).turns (.fresh (world, [])) moves
    simulated.map Turn.plain = (Simulation.kind around slots).turns (.fresh world) moves ∧
    driven.map Turn.plain = (Esp32.kind platform).turns (.fresh world) moves ∧
    (∀ turn ∈ simulated, turn.ReportsIfServed Simulation.reportStyle) ∧
    ∀ turn ∈ driven, turn.ReportsIfServed Esp32.reportStyle := by
  obtain ⟨hsimulated, hreports⟩ :=
    (Simulation.reportsOwnFailures around slots).turns_fresh world moves
  obtain ⟨hdriven, hwarns⟩ := (Esp32.reportsOwnFailures platform).turns_fresh world moves
  exact ⟨hsimulated, hdriven, hreports, hwarns⟩

/-- A wait has the simulation while a pin is configured: the call fails and is not reported. -/
theorem failure_during_wait_goes_unreported :
    let turns := (Simulation.kind Console.surroundings.journaled 64).turns (.fresh (#[], []))
      [.checkOut 0, .configure 5]
    ¬ ∀ turn ∈ turns, ∀ result, turn.reply = .pin result →
      turn.Reports Simulation.reportStyle (Simulation.reportStyle.due result) := by
  intro turns hreports
  have hsecond : turns.get ⟨1, by decide⟩ ∈ turns := List.get_mem turns _
  obtain ⟨records, hjournal, hreport⟩ :=
    hreports _ hsecond (.error (.unavailable (.ofNat 5))) rfl
  -- The call is refused, so it leaves the journal as it was.
  obtain rfl : records = [] := List.self_eq_append_right.mp hjournal
  cases hreport

end SharedIndicator

end PilotLamp
