import PilotLamp.BlinkRun
import PilotLamp.Proofs.BlinkCycles
import PilotLamp.Proofs.PortHardware
import PilotLamp.Stm32f4

/-!
# Polls of the endless blink loop

A suspended loop stands at a place in the endless list of its calls, and grants move it on. Main
statement: what the loop calls and how it ends depend on the sum of the grants only, not on how
they are spread over polls. When polls happen, and what wakes them, is out of scope.
-/

namespace PilotLamp

/-- The first calls of a list, up to and with the given number of waits. -/
def throughWaits : Nat → List Call → List Call
  | 0, _ => []
  | _ + 1, [] => []
  | waits + 1, .delay ms :: rest => .delay ms :: throughWaits waits rest
  | waits + 1, call :: rest => call :: throughWaits (waits + 1) rest

/-- The level that an indicator is brought to after a level. -/
def Level.next : Level → Level
  | .asserted => .deasserted
  | .deasserted => .asserted

/-- The phase of a loop that brought the indicator to a level and waits for a grant. -/
def BlinkPhase.waiting : Level → BlinkPhase
  | .asserted => .lit
  | .deasserted => .dark

/-- The error that ended a loop, if it ended. -/
def BlinkPhase.outcome : BlinkPhase → Except PinError Unit
  | .ended error => .error error
  | .unstarted | .lit | .dark => .ok ()

namespace Blinker

/-- The calls that bring the indicator to a level and wait, and to the other level and wait, and
so on, for a number of waits. -/
def halfCycles (plan : BlinkPlan) : Level → Nat → List Call
  | _, 0 => []
  | level, waits + 1 =>
    .write plan.pin level :: .delay plan.periodMs :: halfCycles plan level.next waits

/-- The half cycles are what whole cycles begin with. -/
theorem throughWaits_cyclesCalls (plan : BlinkPlan) {waits cycles : Nat}
    (h : waits ≤ 2 * cycles) :
    throughWaits waits (cyclesCalls plan cycles) = halfCycles plan .asserted waits := by
  induction cycles generalizing waits with
  | zero =>
    obtain rfl : waits = 0 := by omega
    rfl
  | succ cycles ih =>
    -- A cycle has two waits, so the first two are taken off together.
    rcases waits with _ | _ | waits
    · rfl
    · rfl
    · have hrest : throughWaits waits (cyclesCalls plan cycles) = halfCycles plan .asserted waits :=
        ih (by omega)
      simp only [cyclesCalls, cycleCalls, List.cons_append, List.nil_append, throughWaits, hrest,
        halfCycles, Level.next]

/-- A schedule begins by configuring the pin, which is no wait. -/
theorem throughWaits_schedule (plan : BlinkPlan) {waits cycles : Nat} (h : waits < 2 * cycles) :
    throughWaits (waits + 1) (schedule plan cycles)
      = .configure plan.pin :: halfCycles plan .asserted (waits + 1) :=
  congrArg (Call.configure plan.pin :: ·) (throughWaits_cyclesCalls plan h)

end Blinker

namespace BlinkRun

open Blinker (halfCycles)

variable {σ : Type} (indicator : Indicator σ) (plan : BlinkPlan)

/-- Polls a loop once for each number of grants. -/
def pollAll : List Nat → BlinkRun σ → List PollAnswer × BlinkRun σ
  | [], run => ([], run)
  | grants :: rest, run =>
    let (answer, next) := poll indicator plan grants run
    let (answers, last) := pollAll rest next
    (answer :: answers, last)

/-! ## Place in the list of calls -/

/-- A loop that ended stays where it is and keeps its grants. -/
theorem advance_ended (grants : Nat) (error : PinError) (state : σ) :
    advance indicator plan grants (.ended error) state = ⟨.ended error, grants, state⟩ := by
  cases grants <;> rfl

/-- A grant lets a waiting loop drive the indicator to the next level. -/
theorem advance_waiting (grants : Nat) (level : Level) (state : σ) :
    advance indicator plan (grants + 1) (.waiting level) state
      = advance indicator plan grants (drive indicator plan level.next state).1
          (drive indicator plan level.next state).2 := by
  cases level <;> rfl

/-- Driving the indicator ends the loop, or makes it wait at the level. -/
theorem drive_eq (level : Level) (state : σ) :
    drive indicator plan level state
      = match indicator.write plan.pin level state with
        | (.error error, state) => (.ended error, state)
        | (.ok (), state) => (.waiting level, indicator.delay plan.periodMs state) := by
  cases level <;> rfl

/-- A loop that drives the indicator and has some grants makes the calls of one half cycle more
than it has grants, up to the first that fails. -/
theorem applyUntilError_halfCycles (grants : Nat) (level : Level) (state : σ) :
    let after := drive indicator plan level state
    let run := advance indicator plan grants after.1 after.2
    indicator.applyUntilError (halfCycles plan level (grants + 1)) state
      = (run.phase.outcome, run.state) := by
  induction grants generalizing level state with
  | zero =>
    rw [drive_eq, halfCycles, Indicator.applyUntilError, Indicator.apply]
    rcases indicator.write plan.pin level state with ⟨error | _, next⟩
    · rfl
    · cases level <;> rfl
  | succ grants ih =>
    rw [drive_eq, halfCycles, Indicator.applyUntilError, Indicator.apply]
    rcases indicator.write plan.pin level state with ⟨error | _, next⟩
    · simp only [advance_ended]
      rfl
    · simp only [advance_waiting]
      exact ih level.next (indicator.delay plan.periodMs next)

/-- So does a fresh loop, once it has configured its pin. -/
theorem applyUntilError_fresh (grants : Nat) (state : σ) :
    let run := resume indicator plan grants (.fresh state)
    indicator.applyUntilError (.configure plan.pin :: halfCycles plan .asserted (grants + 1)) state
      = (run.phase.outcome, run.state) := by
  rw [Indicator.applyUntilError, Indicator.apply]
  simp only [resume, fresh, begin, Nat.zero_add]
  rcases indicator.configure plan.pin state with ⟨error | _, next⟩
  · simp only [advance_ended]
    rfl
  · exact applyUntilError_halfCycles indicator plan grants .asserted next

/-! ## Polls in a row -/

/-- A loop between two polls: it began, and it waits only if it has no grant. -/
structure Settled (run : BlinkRun σ) : Prop where
  /-- The loop began. -/
  began : run.phase ≠ .unstarted
  /-- Unless it ended it has used its grants. -/
  used : run.phase.outcome = .ok () → run.grants = 0

section

variable {indicator plan}

theorem drive_ne_unstarted (level : Level) (state : σ) :
    (drive indicator plan level state).1 ≠ .unstarted := by
  rw [drive_eq]
  rcases indicator.write plan.pin level state with ⟨error | _, next⟩
  · exact nofun
  · cases level <;> exact nofun

theorem begin_ne_unstarted (state : σ) : (begin indicator plan state).1 ≠ .unstarted := by
  unfold begin
  rcases indicator.configure plan.pin state with ⟨error | _, next⟩
  · exact nofun
  · exact drive_ne_unstarted .asserted next

theorem settled_advance (grants : Nat) {phase : BlinkPhase} (h : phase ≠ .unstarted) (state : σ) :
    Settled (advance indicator plan grants phase state) := by
  induction grants generalizing phase state with
  | zero => exact ⟨h, fun _ => rfl⟩
  | succ grants ih =>
    cases phase with
    | unstarted => exact absurd rfl h
    | lit => exact ih (drive_ne_unstarted .deasserted state) _
    | dark => exact ih (drive_ne_unstarted .asserted state) _
    | ended error => exact ⟨nofun, nofun⟩

theorem resume_of_ne_unstarted {run : BlinkRun σ} (h : run.phase ≠ .unstarted) (grants : Nat) :
    resume indicator plan grants run
      = advance indicator plan (run.grants + grants) run.phase run.state := by
  obtain ⟨phase, kept, state⟩ := run
  cases phase with
  | unstarted => exact absurd rfl h
  | lit => rfl
  | dark => rfl
  | ended error => rfl

theorem settled_resume (grants : Nat) (run : BlinkRun σ) :
    Settled (resume indicator plan grants run) := by
  by_cases h : run.phase = .unstarted
  · rw [resume, h]
    exact settled_advance _ (begin_ne_unstarted run.state) _
  · rw [resume_of_ne_unstarted h]
    exact settled_advance _ h _

/-- Using grants in two portions is using them at once. -/
theorem advance_advance (first second : Nat) (phase : BlinkPhase) (state : σ) :
    let middle := advance indicator plan first phase state
    advance indicator plan (middle.grants + second) middle.phase middle.state
      = advance indicator plan (first + second) phase state := by
  induction first generalizing phase state with
  | zero => rfl
  | succ first ih =>
    rw [Nat.add_right_comm]
    cases phase with
    | unstarted => simp only [advance, Nat.add_right_comm]
    | lit => exact ih _ _
    | dark => exact ih _ _
    | ended error => simp only [advance, Nat.add_right_comm]

/-- Resuming a loop twice is resuming it once with the grants of both. -/
theorem resume_resume (first second : Nat) (run : BlinkRun σ) :
    resume indicator plan second (resume indicator plan first run)
      = resume indicator plan (first + second) run := by
  rw [resume_of_ne_unstarted (settled_resume first run).began]
  by_cases h : run.phase = .unstarted
  · simp only [resume, h]
    rw [advance_advance, Nat.add_assoc]
  · rw [resume_of_ne_unstarted h, resume_of_ne_unstarted h, advance_advance, Nat.add_assoc]

/-- Polling a loop is resuming it with all grants at once. -/
theorem pollAll_eq_resume {grants : List Nat} (h : grants ≠ []) (run : BlinkRun σ) :
    (pollAll indicator plan grants run).2 = resume indicator plan grants.sum run := by
  induction grants generalizing run with
  | nil => exact absurd rfl h
  | cons first rest ih =>
    cases rest with
    | nil => rw [List.sum_singleton]; rfl
    | cons second rest =>
      rw [List.sum_cons, ← resume_resume, ← ih nofun]
      rfl

/-! ## Answers to polls -/

/-- A poll of a loop that goes on tells whether it still does. -/
theorem poll_of_going {run : BlinkRun σ} (h : run.phase.outcome = .ok ()) (grants : Nat) :
    (poll indicator plan grants run).1
      = match (resume indicator plan grants run).phase.outcome with
        | .ok () => .pending
        | .error error => .failed error := by
  obtain ⟨phase, kept, state⟩ := run
  cases phase with
  | ended error => cases h
  | unstarted | lit | dark =>
    simp only [poll]
    cases (resume indicator plan grants _).phase <;> rfl

/-- Polls of a loop that ended change nothing but the grants left over. -/
theorem pollAll_of_ended {run : BlinkRun σ} {error : PinError} (h : run.phase = .ended error)
    (grants : List Nat) :
    pollAll indicator plan grants run
      = (List.replicate grants.length .done,
          ⟨.ended error, run.grants + grants.sum, run.state⟩) := by
  induction grants generalizing run with
  | nil =>
    obtain ⟨phase, kept, state⟩ := run
    cases h
    rfl
  | cons first rest ih =>
    have hnext : resume indicator plan first run
        = ⟨.ended error, run.grants + first, run.state⟩ := by
      rw [resume_of_ne_unstarted (by rw [h]; exact nofun), h, advance_ended]
    have hpoll : poll indicator plan first run
        = (.done, ⟨.ended error, run.grants + first, run.state⟩) := by
      rw [poll, hnext, h]
    have hrest := @ih ⟨.ended error, run.grants + first, run.state⟩ rfl
    rw [pollAll, hpoll]
    simp only [hrest, List.length_cons, List.replicate_succ, List.sum_cons, Nat.add_assoc]

/-- The first of several polls resumes the loop for the others. -/
theorem pollAll_cons (first : Nat) (rest : List Nat) (run : BlinkRun σ) :
    pollAll indicator plan (first :: rest) run
      = ((poll indicator plan first run).1
            :: (pollAll indicator plan rest (resume indicator plan first run)).1,
          (pollAll indicator plan rest (resume indicator plan first run)).2) := rfl

/-- The answers to polls of a loop: it waits until it fails, fails once, and is done after. -/
theorem answers_of_pollAll {run : BlinkRun σ} (h : run.phase.outcome = .ok ())
    (grants : List Nat) :
    match (pollAll indicator plan grants run).2.phase.outcome with
    | .ok () => (pollAll indicator plan grants run).1 = List.replicate grants.length .pending
    | .error error => ∃ before after, (pollAll indicator plan grants run).1
        = List.replicate before .pending ++ .failed error :: List.replicate after .done := by
  induction grants generalizing run with
  | nil =>
    rw [pollAll, h]
    rfl
  | cons first rest ih =>
    rw [pollAll_cons, poll_of_going h first]
    generalize resume indicator plan first run = next at *
    cases hphase : next.phase with
    | ended error =>
      rw [pollAll_of_ended hphase]
      exact ⟨0, rest.length, rfl⟩
    | unstarted | lit | dark =>
      have hnext : next.phase.outcome = .ok () := by rw [hphase]; rfl
      have hrest := ih hnext
      generalize pollAll indicator plan rest next = outcome at hrest ⊢
      cases hlast : outcome.2.phase.outcome with
      | ok =>
        rw [hlast] at hrest
        rw [hrest]
        rfl
      | error error =>
        rw [hlast] at hrest
        obtain ⟨before, after, hanswers⟩ := hrest
        refine ⟨before + 1, after, ?_⟩
        rw [hanswers]
        rfl

end

/-! ## The law -/

/-- What polls of a fresh loop with some grants come to, when the calls it makes are noted. -/
structure BlinksAsGranted (start : σ) (grants : List Nat) (answers : List PollAnswer)
    (last : BlinkRun (σ × List Call)) : Prop where
  /-- The calls made are those of endless blinking, up to and with the wait that finds no grant or
  up to the first call that fails; the loop ended exactly if one failed, with its error. -/
  calls : ∀ cycles, grants.sum < 2 * cycles →
    MakesCalls indicator (throughWaits (grants.sum + 1) (Blinker.schedule plan cycles))
      last.state.2 start last.phase.outcome last.state.1
  /-- As long as no call failed every poll finds the loop waiting. -/
  pending : (∀ answered ∈ indicator.answered start last.state.2, answered.answer = .ok ()) →
    answers = List.replicate grants.length .pending
  /-- If a call failed one poll says so, those before find the loop waiting, and those after
  find it done. -/
  ended : ∀ call error, ⟨call, .error error⟩ ∈ indicator.answered start last.state.2 →
    ∃ before after, answers
      = List.replicate before .pending ++ .failed error :: List.replicate after .done
  /-- Polling a waiting loop again without a grant makes no call and changes nothing. -/
  again : last.phase.outcome = .ok () → poll indicator.noting plan 0 last = (.pending, last)
  /-- Polling a loop that ended makes no call, whatever is granted. -/
  finished : ∀ error, last.phase = .ended error → ∀ more,
    (pollAll indicator.noting plan more last).1 = List.replicate more.length .done ∧
    (pollAll indicator.noting plan more last).2.state = last.state

/-- A waiting loop that is polled without a grant stays as it is. -/
theorem poll_zero_of_settled {indicator : Indicator σ} {plan : BlinkPlan} {run : BlinkRun σ}
    (settled : Settled run) (h : run.phase.outcome = .ok ()) :
    poll indicator plan 0 run = (.pending, run) := by
  have hresume : resume indicator plan 0 run = run := by
    rw [resume_of_ne_unstarted settled.began, settled.used h]
    obtain ⟨phase, kept, state⟩ := run
    obtain rfl : kept = 0 := settled.used h
    rfl
  refine Prod.ext ?_ hresume
  rw [poll_of_going h, hresume, h]

/-- Polls with grants blink as granted. -/
theorem blinksAsGranted_pollAll (start : σ) {grants : List Nat} (h : grants ≠ []) :
    BlinksAsGranted indicator plan start grants
      (pollAll indicator.noting plan grants (.fresh (start, []))).1
      (pollAll indicator.noting plan grants (.fresh (start, []))).2 := by
  have hlast : (pollAll indicator.noting plan grants (.fresh (start, []))).2
      = resume indicator.noting plan grants.sum (.fresh (start, [])) := pollAll_eq_resume h _
  have hanswers := @answers_of_pollAll _ indicator.noting plan (.fresh (start, [])) rfl grants
  have hsettled := @settled_resume _ indicator.noting plan grants.sum (.fresh (start, []))
  have hcalls := applyUntilError_fresh indicator.noting plan grants.sum (start, [])
  rw [hlast] at hanswers
  rw [hlast]
  generalize (pollAll indicator.noting plan grants (.fresh (start, []))).1 = answers at *
  generalize resume indicator.noting plan grants.sum (.fresh (start, [])) = last at *
  obtain ⟨made, hmade, hnoted⟩ := makesCalls_applyUntilError indicator
    (.configure plan.pin :: halfCycles plan .asserted (grants.sum + 1)) start []
  -- The loop ended as those calls do, and in its state is their note.
  obtain ⟨houtcome, hstate⟩ := Prod.ext_iff.mp (hcalls.symm.trans hnoted)
  simp only [List.nil_append] at houtcome hstate
  rw [← houtcome] at hmade
  have hfinal : last.state = (_, made) := hstate
  constructor
  case calls =>
    intro cycles hcycles
    rw [Blinker.throughWaits_schedule plan hcycles, hfinal]
    exact hmade
  case pending =>
    intro hok
    rw [hfinal] at hok
    rw [hmade.ok_iff.mpr hok] at hanswers
    exact hanswers
  case ended =>
    intro call error hmem
    rw [hfinal] at hmem
    rw [(hmade.error_iff error).mpr ⟨call, hmem⟩] at hanswers
    exact hanswers
  case again => exact poll_zero_of_settled hsettled
  case finished =>
    intro error hphase more
    rw [pollAll_of_ended hphase]
    exact ⟨rfl, rfl⟩

/-- The calls of a loop, its answers and how it ends depend on the sum of the grants only. -/
theorem polls_depend_on_sum_of_grants (start : σ) {first second : List Nat}
    (hfirst : first ≠ []) (hsecond : second ≠ []) (hsum : first.sum = second.sum) :
    let one := pollAll indicator.noting plan first (.fresh (start, []))
    let other := pollAll indicator.noting plan second (.fresh (start, []))
    one.2 = other.2 ∧ BlinksAsGranted indicator plan start first one.1 one.2 ∧
      BlinksAsGranted indicator plan start second other.1 other.2 := by
  refine ⟨?_, blinksAsGranted_pollAll indicator plan start hfirst,
    blinksAsGranted_pollAll indicator plan start hsecond⟩
  rw [pollAll_eq_resume hfirst, pollAll_eq_resume hsecond, hsum]

/-- Two grants in two polls and in three, on a line of a port: the indicator is lit, dark and lit
again. -/
theorem two_grants_in_two_or_three_polls :
    let indicator := Stm32f4.indicator Port.hardware
    let plan := BlinkPlan.forBoard .stm32f4Discovery
    let start := (Stm32f4.fresh .d .assumed, fun _ => 0)
    let one := pollAll indicator.noting plan [0, 2] (.fresh (start, []))
    let other := pollAll indicator.noting plan [1, 1, 0] (.fresh (start, []))
    [0, 2] ≠ [] ∧ [1, 1, 0] ≠ [] ∧ [0, 2].sum = [1, 1, 0].sum ∧
    one.2.phase = .lit ∧ one.2.state.2.length = 7 ∧ one.2 = other.2 ∧
    BlinksAsGranted indicator plan start [0, 2] one.1 one.2 ∧
    BlinksAsGranted indicator plan start [1, 1, 0] other.1 other.2 :=
  ⟨nofun, nofun, rfl, rfl, rfl, polls_depend_on_sum_of_grants _ _ _ nofun nofun rfl⟩

end BlinkRun

end PilotLamp
