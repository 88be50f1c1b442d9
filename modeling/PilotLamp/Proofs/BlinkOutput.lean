import PilotLamp.Proofs.EntryTrace

/-!
# What a run of the program prints

A run with a number of cycles prints the configuration of its pin and, for each cycle, that the
indicator is turned on and off again: every cycle begins with a dark indicator, so that each of its
writes is a change. A pin that the simulation does not have is told in a single line and ends the
run as a failure. The period shows in the log only. Runs without end are out of scope, and so is a
stream that fails.
-/

namespace PilotLamp

/-- A text of lines, each with its end. -/
def TextLines.ofLines (lines : List String) : String := String.join (lines.map (· ++ "\n"))

theorem TextLines.ofLines_append (first second : List String) :
    ofLines (first ++ second) = ofLines first ++ ofLines second := by
  simp [ofLines, String.join_append]

theorem TextLines.ofLines_singleton (line : String) : ofLines [line] = line ++ "\n" := by
  simp [ofLines]

namespace Simulation

open TextLines (ofLines ofLines_append ofLines_singleton)

/-! ## Lines -/

/-- The lines of one cycle. -/
def cycleLines (pin : Pin) : List String :=
  ["LED[" ++ pin.text ++ "] = ON", "LED[" ++ pin.text ++ "] = OFF"]

/-- The lines of a run of some cycles on a simulation with a wanted number of slots. -/
def blinkLines (pin : Pin) (slots cycles : Nat) : List String :=
  if pin.index < min slots 64 then
    ("[sim] configure(pin=" ++ pin.text ++ ")")
      :: (List.replicate cycles (cycleLines pin)).flatten
  else ["[sim] error: pin " ++ pin.text ++ " does not exist on this target"]

/-- What such a run comes to. -/
def blinkResult (pin : Pin) (slots : Nat) : Except PinError Unit :=
  if pin.index < min slots 64 then .ok () else .error (.noSuchPin pin.index)

/-! ## Cycles -/

/-- Between two cycles the pin is configured and dark. -/
structure Dark (pin : Pin) (simulation : Simulation) : Prop where
  /-- All slots have a line. -/
  slots : simulation.slots ≤ LineTable.capacity
  /-- The pin is off. -/
  level : simulation.lines.level pin = some .deasserted

section

variable {ω : Type} {around : Surroundings ω} {printed : ω → String} {state : Simulation × ω}
  {pin : Pin} {plan : BlinkPlan}

/-- A write to a pin that has another level succeeds, and prints that the pin is turned. -/
theorem Surroundings.Prints.write_turns (h : around.Prints printed) (state : Simulation × ω)
    (hslots : state.1.slots ≤ LineTable.capacity) {before level : Level}
    (hbefore : state.1.lines.level pin = some before) (hne : before ≠ level) :
    ∃ next, (indicator around).write pin level state = (.ok (), next) ∧
      next.1.slots = state.1.slots ∧ next.1.lines.level pin = some level ∧
      printed next.2 = printed state.2 ++ ofLines ["LED[" ++ pin.text ++ "] = " ++ level.text] := by
  have hprinted := h.apply hslots state.2 (.write pin level)
  rw [line?_turned hbefore hne] at hprinted
  have hlevel : (Simulation.write around pin level state).2.1.lines.level pin = some level := by
    rw [level_write, hbefore]
    rfl
  refine ⟨(Simulation.write around pin level state).2, ?_,
    slots_apply around state (.write pin level), hlevel, ?_⟩
  · exact Prod.ext ((write_isOk_iff pin level).mpr ⟨before, hbefore⟩) rfl
  · rw [ofLines_singleton]
    exact hprinted

/-- Waiting prints nothing. -/
theorem Surroundings.Prints.delay (h : around.Prints printed) (ms : UInt32) (world : ω) :
    printed (Simulation.delay around ms world) = printed world := by
  rw [Simulation.delay, h.sleep, h.log]

/-- A cycle that begins in the dark prints its two lines and ends in the dark. -/
theorem Surroundings.Prints.cycle (h : around.Prints printed) (dark : Dark plan.pin state.1) :
    ∃ next, Blinker.cycle (indicator around) plan state = (.ok (), next) ∧ Dark plan.pin next.1 ∧
      printed next.2 = printed state.2 ++ ofLines (cycleLines plan.pin) := by
  obtain ⟨lit, hon, hlitSlots, hlitLevel, hlitPrinted⟩ :=
    h.write_turns state dark.slots dark.level (by decide : Level.deasserted ≠ .asserted)
  have hslots : lit.1.slots ≤ LineTable.capacity := hlitSlots ▸ dark.slots
  -- The wait in between changes no level and prints nothing.
  obtain ⟨last, hoff, hlastSlots, hlastLevel, hlastPrinted⟩ :=
    h.write_turns ((indicator around).delay plan.periodMs lit) hslots hlitLevel
      (by decide : Level.asserted ≠ .deasserted)
  refine ⟨(indicator around).delay plan.periodMs last, ?_, ⟨?_, hlastLevel⟩, ?_⟩
  · simp only [Blinker.cycle, hon, hoff]
  · exact Nat.le_trans (Nat.le_of_eq hlastSlots) hslots
  · have hlines : cycleLines plan.pin
        = ["LED[" ++ plan.pin.text ++ "] = " ++ Level.text .asserted]
          ++ ["LED[" ++ plan.pin.text ++ "] = " ++ Level.text .deasserted] := by
      simp [cycleLines, Level.text, String.append_assoc]
    rw [hlines, ofLines_append, ← String.append_assoc, ← hlitPrinted,
      ← h.delay plan.periodMs lit.2]
    exact (h.delay plan.periodMs last.2).trans hlastPrinted

/-- So do cycles one after another. -/
theorem Surroundings.Prints.cycles (h : around.Prints printed) (count : Nat)
    (dark : Dark plan.pin state.1) :
    ∃ next, Blinker.cycles (indicator around) plan count state = (.ok (), next) ∧
      Dark plan.pin next.1 ∧ printed next.2
        = printed state.2 ++ ofLines (List.replicate count (cycleLines plan.pin)).flatten := by
  induction count generalizing state with
  | zero => exact ⟨state, rfl, dark, String.append_empty.symm⟩
  | succ count ih =>
    obtain ⟨between, hcycle, hbetween, hfirst⟩ := h.cycle dark
    obtain ⟨next, hrest, hnext, hprinted⟩ := ih hbetween
    refine ⟨next, ?_, hnext, ?_⟩
    · simp only [Blinker.cycles, hcycle, hrest]
    · rw [hprinted, hfirst, List.replicate_succ, List.flatten_cons, ofLines_append,
        String.append_assoc]

end

/-! ## Runs -/

section

variable {ω : Type} {around : Surroundings ω} {printed : ω → String}

/-- A run prints its lines, on any stream that works, and ends as it should. -/
theorem Surroundings.Prints.runCycles (h : around.Prints printed) (plan : BlinkPlan)
    (slots cycles : Nat) (world : ω) :
    let run := Blinker.runCycles (indicator around) plan cycles (withSlots slots, world)
    run.1 = blinkResult plan.pin slots ∧
      printed run.2.2 = printed world ++ ofLines (blinkLines plan.pin slots cycles) := by
  have hslots := slots_withSlots_le slots
  have hprinted : printed (configure around plan.pin (withSlots slots, world)).2.2
      = printed world ++ ended ((withSlots slots).line? (.configure plan.pin)) :=
    h.apply hslots world (.configure plan.pin)
  have hstart : Blinker.start (indicator around) plan (withSlots slots, world)
      = configure around plan.pin (withSlots slots, world) := rfl
  by_cases hin : plan.pin.index < min slots 64
  · have hok : configure around plan.pin (withSlots slots, world)
        = (.ok (), (configure around plan.pin (withSlots slots, world)).2) :=
      Prod.ext ((configure_isOk_iff hslots plan.pin).mpr hin) rfl
    have hkept := slots_apply around (withSlots slots, world) (.configure plan.pin)
    have hdark : Dark plan.pin (configure around plan.pin (withSlots slots, world)).2.1 :=
      ⟨Nat.le_trans (Nat.le_of_eq hkept) hslots, level_configure hslots hin⟩
    obtain ⟨next, hcycles, -, hnext⟩ := h.cycles cycles hdark
    have hline : (withSlots slots).line? (.configure plan.pin)
        = some ("[sim] configure(pin=" ++ plan.pin.text ++ ")") := congrArg some (if_pos hin)
    have hfirst : printed (configure around plan.pin (withSlots slots, world)).2.2
        = printed world ++ ofLines ["[sim] configure(pin=" ++ plan.pin.text ++ ")"] := by
      rw [hprinted, hline, ofLines_singleton, ended]
    have hlines : blinkLines plan.pin slots cycles
        = ["[sim] configure(pin=" ++ plan.pin.text ++ ")"]
          ++ (List.replicate cycles (cycleLines plan.pin)).flatten := if_pos hin
    rw [Blinker.runCycles, hstart, hok]
    simp only [hcycles]
    rw [blinkResult, if_pos hin, hnext, hfirst, hlines, ofLines_append, String.append_assoc]
    exact ⟨rfl, rfl⟩
  · have hfailed : configure around plan.pin (withSlots slots, world)
        = fail around (.noSuchPin plan.pin.index) (withSlots slots, world) := if_neg hin
    have hline : (withSlots slots).line? (.configure plan.pin)
        = some ("[sim] error: pin " ++ plan.pin.text ++ " does not exist on this target") :=
      congrArg some ((if_neg hin).trans (errorLine_noSuchPin plan.pin.index))
    rw [hfailed, hline] at hprinted
    rw [Blinker.runCycles, hstart, hfailed]
    simp only [blinkResult, blinkLines, if_neg hin, ofLines_singleton]
    exact ⟨rfl, hprinted⟩

end

end Simulation

namespace HostProgram

open Simulation (blinkLines blinkResult)
open TextLines (ofLines)

/-- What a run of the program with a number of cycles leaves behind. -/
structure Blinked (settings : HostSettings) (cycles : UInt32) (outcome : Outcome) : Prop where
  /-- It printed the lines of the run and nothing else. -/
  stdout_eq : outcome.stdout
    = ofLines (blinkLines settings.blink.pin settings.simulation.slots.toNat cycles.toNat)
  /-- It succeeded if the simulation has the pin. -/
  succeeded : settings.blink.pin.index < min settings.simulation.slots.toNat 64 →
    outcome.status = 0
  /-- Otherwise it failed, and said last that there is no such pin. -/
  failed : ¬ settings.blink.pin.index < min settings.simulation.slots.toNat 64 →
    outcome.status = 1 ∧ outcome.remarks.getLast?
      = some (.text (errorText (PinError.noSuchPin settings.blink.pin.index).message))

section

variable {load : String → Except ReadFailure String}
  {arguments : List String} {invocation : Invocation} {settings : HostSettings} {cycles : UInt32}

/-- What is blinked comes to its result, and a console has its lines. -/
theorem blinkCycles_of_openSession (invocation : Invocation) (settings : HostSettings)
    (cycles : UInt32) :
    let session := openSession invocation settings
    (blinkCycles session cycles).1
        = blinkResult settings.blink.pin settings.simulation.slots.toNat ∧
      (blinkCycles session cycles).2.printed
        = ofLines (blinkLines settings.blink.pin settings.simulation.slots.toNat cycles.toNat) := by
  obtain ⟨hresult, hprinted⟩ := Console.prints.runCycles settings.blink
    settings.simulation.slots.toNat cycles.toNat #[.log (announcement settings)]
  have hnothing : Console.printed #[.log (announcement settings)] = "" := by
    simp [Console.printed]
  rw [hnothing, String.empty_append] at hprinted
  simp only [blinkCycles, openSession, indicator]
  generalize Blinker.runCycles (Simulation.indicator Console.surroundings) settings.blink
    cycles.toNat _ = run at hresult hprinted ⊢
  obtain ⟨error | done, simulation, console⟩ := run
  · exact ⟨hresult, hprinted⟩
  · exact ⟨hresult, (Console.prints.log (farewell cycles) console).trans hprinted⟩

/-- A session with a number of cycles comes to an end. -/
theorem finish?_of_openSession (filter : LogFilter) (settings : HostSettings)
    (counted : invocation.cycles = some cycles) :
    ∃ outcome, finish? filter (openSession invocation settings) = some outcome ∧
      Blinked settings cycles outcome := by
  obtain ⟨hresult, hprinted⟩ := blinkCycles_of_openSession invocation settings cycles
  have hcycles : (openSession invocation settings).cycles = some cycles := counted
  simp only [finish?, hcycles]
  generalize blinkCycles (openSession invocation settings) cycles = ending
    at hresult hprinted ⊢
  obtain ⟨result, console⟩ := ending
  rw [blinkResult] at hresult
  by_cases hin : settings.blink.pin.index < min settings.simulation.slots.toNat 64
  · rw [if_pos hin] at hresult
    obtain rfl : result = .ok () := hresult
    exact ⟨_, rfl, hprinted, fun _ => rfl, fun hout => absurd hin hout⟩
  · rw [if_neg hin] at hresult
    obtain rfl : result = .error (.noSuchPin settings.blink.pin.index) := hresult
    refine ⟨_, rfl, hprinted, fun hsome => absurd hsome hin, fun _ => ⟨rfl, ?_⟩⟩
    simp [outcome, remarks]

/-- What is written before the other remarks changes nothing of that. -/
theorem Blinked.of_remarks {outcome : Outcome} (h : Blinked settings cycles outcome)
    (first : List Remark) :
    Blinked settings cycles { outcome with remarks := first ++ outcome.remarks } where
  stdout_eq := h.stdout_eq
  succeeded := h.succeeded
  failed hout := by
    obtain ⟨hstatus, hlast⟩ := h.failed hout
    refine ⟨hstatus, ?_⟩
    rw [List.getLast?_append, hlast, Option.some_or]

/-- A command line with a number of cycles, once its settings are found, leaves behind what it
should. -/
theorem run?_blinks (reading : LogFilter.Reading)
    (read : CommandLine.read arguments = .ok invocation)
    (resolved : invocation.resolve load = .ok settings)
    (counted : invocation.cycles = some cycles) :
    ∃ outcome, run? load reading arguments = some outcome ∧ Blinked settings cycles outcome := by
  obtain ⟨outcome, hfinish, hblinked⟩ := finish?_of_openSession reading.filter settings counted
  refine ⟨_, ?_, hblinked.of_remarks (reading.faults.map fun fault => .text (complaintText fault))⟩
  simp only [run?, answer?, read, resolved, hfinish, Option.map_some]

/-- A run of the program with a number of cycles prints its pin and the cycles, or that there is no
such pin, and succeeds or fails accordingly. Two runs that differ in the period print the same, and
so does the run on any stream that works. -/
theorem run_prints_cycles (reading : LogFilter.Reading)
    (read : CommandLine.read arguments = .ok invocation)
    (resolved : invocation.resolve load = .ok settings)
    (counted : invocation.cycles = some cycles) :
    (blinkCycles (openSession invocation settings) cycles).1
        = blinkResult settings.blink.pin settings.simulation.slots.toNat ∧
      (∃ outcome, run? load reading arguments = some outcome ∧
        Blinked settings cycles outcome) ∧
      (∀ otherLoad otherReading otherArguments otherInvocation periodMs,
        CommandLine.read otherArguments = .ok otherInvocation →
        otherInvocation.resolve otherLoad
          = .ok { settings with blink := { settings.blink with periodMs } } →
        otherInvocation.cycles = some cycles →
        (run? otherLoad otherReading otherArguments).map (·.stdout)
          = (run? load reading arguments).map (·.stdout)) ∧
      ∀ {ω : Type} (around : Simulation.Surroundings ω) (printed : ω → String),
        around.Prints printed → ∀ world,
        let run := Blinker.runCycles (Simulation.indicator around) settings.blink cycles.toNat
          (.withSlots settings.simulation.slots.toNat, world)
        run.1 = blinkResult settings.blink.pin settings.simulation.slots.toNat ∧
          printed run.2.2 = printed world
            ++ ofLines (blinkLines settings.blink.pin settings.simulation.slots.toNat
              cycles.toNat) := by
  obtain ⟨outcome, hrun, hblinked⟩ := run?_blinks reading read resolved counted
  refine ⟨(blinkCycles_of_openSession invocation settings cycles).1, ⟨outcome, hrun, hblinked⟩,
    ?_, fun around printed hprints => hprints.runCycles settings.blink _ cycles.toNat⟩
  intro otherLoad otherReading otherArguments otherInvocation periodMs hread hresolved hcounted
  obtain ⟨other, hother, hsame⟩ := run?_blinks otherReading hread hresolved hcounted
  rw [hother, hrun, Option.map_some, Option.map_some, hsame.stdout_eq, hblinked.stdout_eq]

end

/-- The last of eight pins blinks twice; a file says how many there are. -/
theorem pin7_of_8_prints_cycles :
    let load := fun _ : String => (.ok "[simulation]\nslots = 8\n" : Except ReadFailure String)
    let arguments := ["250", "--config", "lamp.toml", "--pin", "7", "--cycles", "2"]
    let invocation : Invocation := ⟨some 250, some (.ofNat 7), some "lamp.toml", some 2⟩
    let settings : HostSettings := ⟨⟨.ofNat 7, 250⟩, ⟨8⟩⟩
    CommandLine.read arguments = .ok invocation ∧ invocation.resolve load = .ok settings ∧
      invocation.cycles = some 2 ∧
      ∃ outcome, run? load .standard arguments = some outcome ∧ outcome.status = 0 ∧
        outcome.stdout = "[sim] configure(pin=7)\n" ++ "LED[7] = ON\n" ++ "LED[7] = OFF\n"
          ++ "LED[7] = ON\n" ++ "LED[7] = OFF\n" := by
  intro load arguments invocation settings
  have hread : CommandLine.read arguments = .ok invocation := by decide +kernel
  have hfound : (invocation.resolve load).toOption = some settings := by decide +kernel
  have hresolved : invocation.resolve load = .ok settings := by
    cases hresult : invocation.resolve load with
    | error cause => simp [hresult, Except.toOption] at hfound
    | ok found => simpa [hresult, Except.toOption] using hfound
  obtain ⟨-, ⟨outcome, hrun, hblinked⟩, -, -⟩ :=
    run_prints_cycles .standard hread hresolved rfl
  refine ⟨hread, hresolved, rfl, outcome, hrun, hblinked.succeeded (by decide), ?_⟩
  rw [hblinked.stdout_eq]
  decide

end HostProgram

end PilotLamp
