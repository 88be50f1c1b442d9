import PilotLamp.Proofs.Acceptance
import PilotLamp.Proofs.BlinkCycles

/-!
# What a run of blink cycles leaves behind

A run that succeeds leaves its pin off, whatever the pin was before, and has waited for two periods
in each cycle. A run that fails on its way leaves the pin at the level that it was given last, by
this run or before it, and has waited once after each write that succeeded. Either way the other
pins keep their levels. This holds on all four backends, after any calls and whatever fails. How
long a wait lasts is out of scope.
-/

namespace PilotLamp

/-- The time that a call waits, if it is a wait. -/
def Call.delay? : Call → Option UInt32
  | .delay ms => some ms
  | .configure _ | .write _ _ | .report _ => none

namespace Answered

/-- A call that succeeded. -/
def succeeded (call : Call) : Answered := ⟨call, .ok ()⟩

/-- Whether a call is a write that succeeded. -/
def isWritten : Answered → Bool
  | ⟨.write _ _, .ok ()⟩ => true
  | _ => false

/-- The level that a call gave a pin, if it succeeded. A configuration turns its pin off. -/
def given? (pin : Pin) : Answered → Option Level
  | ⟨.configure other, .ok ()⟩ => if other = pin then some .deasserted else none
  | ⟨.write other level, .ok ()⟩ => if other = pin then some level else none
  | _ => none

/-- The level that a pin was given last. -/
def lastGiven (pin : Pin) (history : List Answered) : Option Level :=
  (history.filterMap (given? pin)).getLast?

theorem lastGiven_append (pin : Pin) (earlier later : List Answered) :
    lastGiven pin (earlier ++ later) = (lastGiven pin later).or (lastGiven pin earlier) := by
  rw [lastGiven, List.filterMap_append, List.getLast?_append]
  rfl

/-- Only calls on a pin give it a level. -/
theorem given?_of_other {pin : Pin} {answered : Answered} (h : answered.call.pin? ≠ some pin) :
    given? pin answered = none := by
  obtain ⟨call, answer⟩ := answered
  cases call with
  | configure other =>
    have hne : other ≠ pin := fun heq => h (congrArg some heq)
    cases answer <;> simp [given?, hne]
  | write other level =>
    have hne : other ≠ pin := fun heq => h (congrArg some heq)
    cases answer <;> simp [given?, hne]
  | delay ms => rfl
  | report cause => rfl

/-- A call makes the level of a pin the one that it gave the pin, if a write gives none to a pin
that had none. -/
theorem levelAfter_eq_or {pin : Pin} {level : Option Level} {answered : Answered}
    (h : ∀ written, answered = succeeded (.write pin written) → level ≠ none) :
    levelAfter pin level answered = (given? pin answered).or level := by
  by_cases hpin : answered.call.pin? = some pin
  case neg =>
    rw [levelAfter_of_other (.inr hpin), given?_of_other hpin, Option.none_or]
  obtain ⟨call, answer⟩ := answered
  cases answer with
  | error cause => cases call <;> rfl
  | ok =>
    cases call with
    | configure other =>
      obtain rfl : other = pin := Option.some.inj hpin
      simp [levelAfter, given?]
    | write other written =>
      obtain rfl : other = pin := Option.some.inj hpin
      obtain ⟨before, rfl⟩ := Option.ne_none_iff_exists'.mp (h written rfl)
      simp [levelAfter, given?]
    | delay ms => cases hpin
    | report cause => cases hpin

end Answered

namespace Indicator

open Answered (succeeded lastGiven)

variable {σ : Type} {indicator : Indicator σ}

/-- The answers to calls, told from the answer to the first. -/
theorem answered_cons {start next : σ} {call : Call} {answer : Except PinError Unit}
    (applied : indicator.apply start call = (answer, next)) (rest : List Call) :
    indicator.answered start (call :: rest) = ⟨call, answer⟩ :: indicator.answered next rest := by
  rw [answered, applied]

/-- Only pins that have a level are written. -/
def WritesConfigured (indicator : Indicator σ) : Prop :=
  ∀ state pin level, indicator.level state pin = none →
    (indicator.write pin level state).1 ≠ .ok ()

/-- After any calls a pin has the level that it was given last, or else the one that it had. -/
theorem level_after_eq_or (tells : indicator.TellsLevels) (writes : indicator.WritesConfigured)
    (start : σ) (calls : List Call) (pin : Pin) :
    indicator.level (indicator.after start calls) pin
      = (lastGiven pin (indicator.answered start calls)).or (indicator.level start pin) := by
  induction calls generalizing start with
  | nil => rfl
  | cons call rest ih =>
    have hstep : indicator.level (indicator.apply start call).2 pin
        = (Answered.given? pin ⟨call, (indicator.apply start call).1⟩).or
            (indicator.level start pin) := by
      rw [tells]
      refine Answered.levelAfter_eq_or fun written hwrite hnone => ?_
      obtain ⟨rfl, hanswer⟩ := Answered.mk.inj hwrite
      exact writes start pin written hnone hanswer
    have hsplit : indicator.answered start (call :: rest)
        = [⟨call, (indicator.apply start call).1⟩]
          ++ indicator.answered (indicator.apply start call).2 rest := rfl
    have hfirst (answered : Answered) :
        lastGiven pin [answered] = Answered.given? pin answered := by
      rw [lastGiven, List.filterMap_cons]
      cases Answered.given? pin answered <;> rfl
    rw [after, List.foldl_cons, ← after, ih, hstep, hsplit, Answered.lastGiven_append, hfirst,
      Option.or_assoc]

/-- Calls on other pins leave a level alone. -/
theorem level_after_of_other (tells : indicator.TellsLevels) (start : σ) {calls : List Call}
    {pin : Pin} (h : ∀ call ∈ calls, call.pin? ≠ some pin) :
    indicator.level (indicator.after start calls) pin = indicator.level start pin := by
  induction calls generalizing start with
  | nil => rfl
  | cons call rest ih =>
    rw [List.forall_mem_cons] at h
    rw [after, List.foldl_cons, ← after, ih _ h.2, tells, Answered.levelAfter_of_other (.inr h.1)]

/-- If every call succeeded then the answers are told by the calls. -/
theorem answered_eq_map {start : σ} {calls : List Call}
    (h : ∀ answered ∈ indicator.answered start calls, answered.answer = .ok ()) :
    indicator.answered start calls = calls.map succeeded := by
  induction calls generalizing start with
  | nil => rfl
  | cons call rest ih =>
    rw [answered, List.forall_mem_cons] at h
    rw [answered, List.map_cons, ih h.2, succeeded, ← h.1]

end Indicator

/-! ## Waits after writes -/

/-- Calls of which each write is followed by a wait, and nothing else is called. -/
inductive Paced : List Call → Prop
  /-- No calls. -/
  | nil : Paced []
  /-- A write and a wait before other calls. -/
  | cons (pin : Pin) (level : Level) (ms : UInt32) {rest : List Call} (h : Paced rest) :
      Paced (.write pin level :: .delay ms :: rest)

section

open Answered (succeeded isWritten)

variable {σ : Type} (indicator : Indicator σ)

/-- Calls that are made until one fails have waited once after each write that succeeded. -/
theorem Paced.waits_eq {calls : List Call} (h : Paced calls) (start : σ) (noted : List Call) :
    ∃ made, (indicator.noting.applyUntilError calls (start, noted)).2.2 = noted ++ made ∧
      (made.filterMap Call.delay?).length
        = (indicator.answered start made).countP Answered.isWritten := by
  induction h generalizing start noted with
  | nil => exact ⟨[], (List.append_nil noted).symm, rfl⟩
  | cons pin level ms _ ih =>
    rw [Indicator.applyUntilError, Indicator.apply_noting]
    cases hwrite : indicator.apply start (.write pin level) with
    | mk answer next =>
      cases answer with
      | error error =>
        refine ⟨[.write pin level], rfl, ?_⟩
        rw [Indicator.answered_cons hwrite]
        rfl
      | ok done =>
        cases done
        obtain ⟨made, hmade, hcount⟩ :=
          ih (indicator.delay ms next) (noted ++ [.write pin level] ++ [.delay ms])
        refine ⟨.write pin level :: .delay ms :: made, hmade.trans ?_, ?_⟩
        · rw [List.append_assoc, List.append_assoc]
          rfl
        · have hanswered : indicator.answered start (.write pin level :: .delay ms :: made)
              = succeeded (.write pin level) :: succeeded (.delay ms)
                :: indicator.answered (indicator.delay ms next) made :=
            Indicator.answered_cons hwrite (.delay ms :: made)
          have hwritten : isWritten (succeeded (.write pin level)) = true := rfl
          have hwaited : ¬ isWritten (succeeded (.delay ms)) = true := Bool.false_ne_true
          rw [hanswered, List.countP_cons_of_pos hwritten, List.countP_cons_of_neg hwaited,
            ← hcount]
          rfl

end

namespace Blinker

open Answered (succeeded lastGiven)

variable {σ : Type} (plan : BlinkPlan)

/-- Cycles wait after each of their writes. -/
theorem paced_cyclesCalls (count : Nat) : Paced (cyclesCalls plan count) := by
  induction count with
  | zero => exact .nil
  | succ count ih =>
    exact .cons plan.pin .asserted plan.periodMs (.cons plan.pin .deasserted plan.periodMs ih)

/-- A run waits for two periods in each cycle. -/
theorem delays_schedule (count : Nat) :
    (schedule plan count).filterMap Call.delay? = List.replicate (2 * count) plan.periodMs := by
  have hcycles : (cyclesCalls plan count).filterMap Call.delay?
      = List.replicate (2 * count) plan.periodMs := by
    induction count with
    | zero => rfl
    | succ count ih =>
      have hcycle : (cycleCalls plan).filterMap Call.delay?
          = List.replicate 2 plan.periodMs := rfl
      rw [cyclesCalls, List.filterMap_append, ih, hcycle, List.replicate_append_replicate,
        Nat.mul_succ, Nat.add_comm]
  exact hcycles

/-- The calls of a run are about its pin, or about none. -/
theorem pin?_ne_of_mem_schedule {count : Nat} {call : Call} (h : call ∈ schedule plan count)
    {pin : Pin} (other : pin ≠ plan.pin) : call.pin? ≠ some pin := by
  have hne : some plan.pin ≠ some pin := fun heq => other (Option.some.inj heq).symm
  have hcycle : ∀ call ∈ cycleCalls plan, call.pin? ≠ some pin := by
    simp [cycleCalls, Call.pin?, other.symm]
  rcases List.mem_cons.mp h with rfl | hmem
  · exact hne
  · rw [cyclesCalls_eq_flatten, List.mem_flatten] at hmem
    obtain ⟨calls, hcalls, hcall⟩ := hmem
    obtain rfl := List.eq_of_mem_replicate hcalls
    exact hcycle call hcall

/-- The last of the calls of a run that gives its pin a level turns it off. -/
theorem lastGiven_schedule (count : Nat) :
    lastGiven plan.pin ((schedule plan count).map succeeded) = some .deasserted := by
  have hcycle : lastGiven plan.pin ((cycleCalls plan).map succeeded) = some .deasserted := by
    simp [lastGiven, cycleCalls, succeeded, Answered.given?, List.filterMap_cons]
  have hcycles : (lastGiven plan.pin ((cyclesCalls plan count).map succeeded)).or
      (some .deasserted) = some .deasserted := by
    induction count with
    | zero => rfl
    | succ count ih =>
      rw [cyclesCalls, List.map_append, Answered.lastGiven_append, hcycle, Option.or_assoc,
        Option.some_or, ih]
  have hstart : lastGiven plan.pin [succeeded (.configure plan.pin)] = some .deasserted := by
    simp [lastGiven, succeeded, Answered.given?]
  rw [schedule, List.map_cons, ← List.singleton_append, Answered.lastGiven_append, hstart, hcycles]

/-- A run has waited once after each write that succeeded. -/
theorem waits_eq_schedule (indicator : Indicator σ) (count : Nat) (start : σ) :
    let made := (indicator.noting.applyUntilError (schedule plan count) (start, [])).2.2
    (made.filterMap Call.delay?).length
      = (indicator.answered start made).countP Answered.isWritten := by
  rw [schedule, Indicator.applyUntilError, Indicator.apply_noting]
  cases hconfigure : indicator.apply start (.configure plan.pin) with
  | mk answer next =>
    cases answer with
    | error error =>
      have hanswered : indicator.answered start [.configure plan.pin]
          = [⟨.configure plan.pin, .error error⟩] := Indicator.answered_cons hconfigure []
      exact (congrArg (List.countP Answered.isWritten) hanswered).symm
    | ok done =>
      cases done
      obtain ⟨made, hmade, hcount⟩ :=
        (paced_cyclesCalls plan count).waits_eq indicator next [.configure plan.pin]
      have hanswered : indicator.answered start (.configure plan.pin :: made)
          = succeeded (.configure plan.pin) :: indicator.answered next made :=
        Indicator.answered_cons hconfigure made
      have hwritten : ¬ Answered.isWritten (succeeded (.configure plan.pin)) = true :=
        Bool.false_ne_true
      simp only [List.nil_append, hmade]
      rw [List.singleton_append, hanswered, List.countP_cons_of_neg hwritten, ← hcount]
      rfl

/-- What a run leaves behind that was made after other calls: its result, the calls it made and
its final state. -/
structure Aftermath (indicator : Indicator σ) (plan : BlinkPlan) (count : Nat) (start : σ)
    (earlier made : List Call) (result : Except PinError Unit) (final : σ) : Prop where
  /-- A run that succeeds leaves its pin off, -/
  off : result = .ok () → indicator.level final plan.pin = some .deasserted
  /-- has waited for two periods in each cycle, -/
  waits : result = .ok () → made.filterMap Call.delay? = List.replicate (2 * count) plan.periodMs
  /-- and so for as long as its cycles take. -/
  total : result = .ok () →
    ((made.filterMap Call.delay?).map UInt32.toNat).sum = count * plan.cycleMs.toNat
  /-- However it ends, the pin has the level that it was given last, by this run or before. -/
  level_eq : indicator.level final plan.pin
    = lastGiven plan.pin (indicator.answered start (earlier ++ made))
  /-- The run has waited as often as its writes succeeded. -/
  paced : (made.filterMap Call.delay?).length
    = (indicator.answered (indicator.after start earlier) made).countP Answered.isWritten
  /-- The other pins have the levels that they had. -/
  others : ∀ pin, pin ≠ plan.pin →
    indicator.level final pin = indicator.level (indicator.after start earlier) pin

end Blinker

namespace Indicator

open Blinker (schedule runCycles)

variable {σ : Type} {indicator : Indicator σ} {start : σ}

/-- Every run on an indicator, after any calls since a start, has its aftermath, and noting the
calls makes no difference to it. -/
def BlinksAndSettles (indicator : Indicator σ) (start : σ) : Prop :=
  ∀ (earlier : List Call) (plan : BlinkPlan) (count : Nat),
    let run := runCycles indicator.noting plan count (indicator.after start earlier, [])
    runCycles indicator plan count (indicator.after start earlier) = (run.1, run.2.1) ∧
      Blinker.Aftermath indicator plan count start earlier run.2.2 run.1 run.2.1

/-- If every step tells the levels, only pins that have a level are written and none has one at
first, then every run has its aftermath. -/
theorem TellsLevels.blinksAndSettles (tells : indicator.TellsLevels)
    (writes : indicator.WritesConfigured) (hstart : ∀ pin, indicator.level start pin = none) :
    indicator.BlinksAndSettles start := by
  intro earlier plan count
  obtain ⟨made, hmakes, hnoted⟩ :=
    makesCalls_applyUntilError indicator (schedule plan count) (indicator.after start earlier) []
  have hwaits := Blinker.waits_eq_schedule plan indicator count (indicator.after start earlier)
  rw [Blinker.runCycles_eq_applyUntilError, Blinker.runCycles_eq_applyUntilError]
  rw [hnoted] at hwaits ⊢
  generalize indicator.applyUntilError (schedule plan count) (indicator.after start earlier) = run
    at hmakes ⊢
  obtain ⟨result, final⟩ := run
  obtain rfl : final = indicator.after (indicator.after start earlier) made := hmakes.state
  have hdelays (hresult : result = .ok ()) :
      made.filterMap Call.delay? = List.replicate (2 * count) plan.periodMs := by
    rw [hmakes.complete (hmakes.ok_iff.mp hresult), Blinker.delays_schedule]
  refine ⟨rfl, ?_⟩
  constructor
  case off =>
    intro hresult
    have hok := hmakes.ok_iff.mp hresult
    rw [level_after_eq_or tells writes, answered_eq_map hok,
      hmakes.complete hok, Blinker.lastGiven_schedule, Option.some_or]
  case waits => exact hdelays
  case total =>
    intro hresult
    rw [List.nil_append, hdelays hresult, List.map_replicate, List.sum_replicate_nat,
      BlinkPlan.toNat_cycleMs, Nat.mul_comm 2 count, Nat.mul_assoc]
  case level_eq =>
    rw [← after_append, level_after_eq_or tells writes, hstart, Option.or_none]
    rfl
  case paced => exact hwaits
  case others =>
    intro pin hother
    refine level_after_of_other tells _ fun call hcall => ?_
    exact Blinker.pin?_ne_of_mem_schedule plan (hmakes.first.subset hcall) hother

end Indicator

/-! ## The backends -/

/-- A simulation writes only pins that have a level. -/
theorem Simulation.writesConfigured {ω : Type} (around : Surroundings ω) :
    (indicator around).WritesConfigured := by
  intro state pin level hlevel hwrite
  have hfailed := congrArg Prod.fst (write_eq_of_no_level around state hlevel level)
  cases hwrite.symm.trans hfailed

/-- So does a port. -/
theorem Stm32f4.writesConfigured {β : Type} (bus : RegisterBus β) :
    (indicator bus).WritesConfigured := by
  intro state pin level hlevel hwrite
  have hfailed := congrArg Prod.fst (write_eq_of_no_level bus state hlevel level)
  cases hwrite.symm.trans hfailed

/-- So does an ESP32. -/
theorem Esp32.writesConfigured {ω : Type} (platform : Esp32Platform ω) :
    (indicator platform).WritesConfigured := by
  intro state pin level hlevel hwrite
  have hfailed := congrArg Prod.fst (write_eq_of_no_level platform hlevel level)
  cases hwrite.symm.trans hfailed

/-- So does an RP2040. -/
theorem Rp2040.writesConfigured {ω : Type} (platform : Rp2040Platform ω) :
    (indicator platform).WritesConfigured := by
  intro state pin level hlevel hwrite
  have hfailed := congrArg Prod.fst (write_eq_of_no_level platform hlevel level)
  cases hwrite.symm.trans hfailed

/-- On all four backends a run leaves its pin off if it succeeds, at the level that the pin was
given last if it fails, and the other pins alone. -/
theorem runs_leave_indicator_off :
    (∀ {ω : Type} (around : Simulation.Surroundings ω) (slots : Nat) (world : ω),
      (Simulation.indicator around).BlinksAndSettles (.withSlots slots, world)) ∧
    (∀ {β : Type} (bus : RegisterBus β) (port : Port) (rate : SpinRate) (store : β),
      (Stm32f4.indicator bus).BlinksAndSettles (.fresh port rate, store)) ∧
    (∀ {ω : Type} (platform : Esp32Platform ω) (world : ω),
      (Esp32.indicator platform).BlinksAndSettles (Esp32.fresh, world)) ∧
    (∀ {ω : Type} (platform : Rp2040Platform ω) (bank : PinBank) (world : ω),
      (Rp2040.indicator platform).BlinksAndSettles (.fresh bank, world)) := by
  refine ⟨?_, ?_, ?_, ?_⟩
  · intro ω around slots world
    exact (Simulation.tellsLevels around).blinksAndSettles (Simulation.writesConfigured around)
      LineTable.level_empty
  · intro β bus port rate store
    exact (Stm32f4.tellsLevels bus).blinksAndSettles (Stm32f4.writesConfigured bus)
      LineTable.level_empty
  · intro ω platform world
    exact (Esp32.tellsLevels platform).blinksAndSettles (Esp32.writesConfigured platform)
      LineTable.level_empty
  · intro ω platform bank world
    exact (Rp2040.tellsLevels platform).blinksAndSettles (Rp2040.writesConfigured platform)
      LineTable.level_empty

end PilotLamp
