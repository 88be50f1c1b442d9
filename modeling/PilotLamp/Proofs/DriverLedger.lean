import PilotLamp.Proofs.DriverRules

/-!
# A ledger of the drivers of a table

Every driver that is claimed gets a number, and a ledger beside the world notes each claim, each
drive and each driver that is given up. The table does with numbered drivers what it does with
plain ones, so what the ledger tells of numbered drivers holds of any. Claims may differ from one
request to the next, and any claim or drive may fail.
-/

namespace PilotLamp.DriverTable

/-- A driver with the number under which it was claimed. -/
structure Tagged (δ : Type) where
  /-- The number. -/
  number : Nat
  /-- The driver. -/
  driver : δ

/-- Something that is done with a driver. -/
inductive LedgerEntry
  /-- It is claimed for a pin. -/
  | claimed (number : Nat) (pin : Pin)
  /-- It is asked for in vain. -/
  | unclaimed (pin : Pin)
  /-- It is driven to a level. -/
  | driven (number : Nat) (level : Level)
  /-- It fails to be driven to a level. -/
  | failed (number : Nat) (level : Level)
  /-- It is given up. -/
  | released (number : Nat)
deriving DecidableEq, Repr

namespace LedgerEntry

/-- Whether a driver was claimed. -/
def isClaim : LedgerEntry → Bool
  | claimed .. => true
  | unclaimed _ | driven .. | failed .. | released _ => false

/-- How many drivers were claimed. -/
def claims (entries : List LedgerEntry) : Nat := entries.countP isClaim

/-- The level that a numbered driver was driven to. -/
def levelOn (number : Nat) : LedgerEntry → Option Level
  | driven other level => if other = number then some level else none
  | claimed .. | unclaimed _ | failed .. | released _ => none

/-- The level that a numbered driver was last driven to. -/
def lastDriven (number : Nat) (entries : List LedgerEntry) : Option Level :=
  (entries.filterMap (levelOn number)).getLast?

/-- A last entry counts if it is a claim. -/
theorem claims_concat (entries : List LedgerEntry) (entry : LedgerEntry) :
    claims (entries ++ [entry]) = claims entries + if isClaim entry then 1 else 0 := by
  rw [claims, List.countP_append, List.countP_singleton]
  rfl

/-- A drive that is a last entry is the last drive of its driver. -/
theorem lastDriven_concat (number : Nat) (entries : List LedgerEntry) (entry : LedgerEntry) :
    lastDriven number (entries ++ [entry])
      = (levelOn number entry).or (lastDriven number entries) := by
  rw [lastDriven, List.filterMap_append, List.getLast?_append]
  cases h : levelOn number entry with
  | none =>
    rw [List.filterMap_cons_none h]
    rfl
  | some level =>
    rw [List.filterMap_cons_some h]
    rfl

/-- One more drive of a driver is its last. -/
theorem lastDriven_driven (number : Nat) (entries : List LedgerEntry) (level : Level) :
    lastDriven number (entries ++ [driven number level]) = some level := by
  rw [lastDriven_concat, levelOn, if_pos rfl]
  rfl

/-- An entry that drives no such driver leaves its last drive as it is. -/
theorem lastDriven_of_levelOn {number : Nat} {entry : LedgerEntry}
    (h : levelOn number entry = none) (entries : List LedgerEntry) :
    lastDriven number (entries ++ [entry]) = lastDriven number entries := by
  rw [lastDriven_concat, h]
  rfl

/-- A drive of a driver leaves the last drives of the others. -/
theorem lastDriven_driven_of_ne {number other : Nat} (h : other ≠ number)
    (entries : List LedgerEntry) (level : Level) :
    lastDriven number (entries ++ [driven other level]) = lastDriven number entries := by
  have hother : levelOn number (driven other level) = none := if_neg h
  exact lastDriven_of_levelOn hother entries

end LedgerEntry

/-- A world with a ledger, oldest entry first. -/
structure Ledger (ω : Type) where
  /-- The world. -/
  world : ω
  /-- The entries. -/
  entries : List LedgerEntry

variable {δ ε ω : Type} {n : Nat}

/-- What can be done with numbered drivers, which the ledger notes. -/
def taggedActions (actions : DriverActions δ ε ω) :
    DriverActions (Tagged δ) ε (Ledger ω) where
  drive tagged level ledger :=
    match actions.drive tagged.driver level ledger.world with
    | (.ok (), world) => (.ok (), ⟨world, ledger.entries ++ [.driven tagged.number level]⟩)
    | (.error cause, world) =>
      (.error cause, ⟨world, ledger.entries ++ [.failed tagged.number level]⟩)
  release tagged ledger :=
    ⟨actions.release tagged.driver ledger.world, ledger.entries ++ [.released tagged.number]⟩

/-- A claim of a numbered driver, which the ledger notes. -/
def taggedClaim (claim : Pin → ω → Except (DriveFault ε) δ × ω) (pin : Pin) (ledger : Ledger ω) :
    Except (DriveFault ε) (Tagged δ) × Ledger ω :=
  match claim pin ledger.world with
  | (.ok driver, world) =>
    let number := LedgerEntry.claims ledger.entries
    (.ok ⟨number, driver⟩, ⟨world, ledger.entries ++ [.claimed number pin]⟩)
  | (.error fault, world) => (.error fault, ⟨world, ledger.entries ++ [.unclaimed pin]⟩)

/-- A request to a table. -/
inductive Request (δ ε ω : Type)
  /-- Configures a pin, with a way to claim its driver. -/
  | configure (pin : Pin) (claim : Pin → ω → Except (DriveFault ε) δ × ω)
  /-- Drives a pin. -/
  | write (pin : Pin) (level : Level)

/-- The answer to a request. -/
inductive Answer (ε : Type)
  /-- To the configuration of a pin. -/
  | configured (result : Except (DriveFault ε) Unit)
  /-- To a write. -/
  | written (result : Except (DriveFault ε) Bool)

/-- The fault that an answer tells of, if any. -/
def Answer.fault? : Answer ε → Option (DriveFault ε)
  | configured (.error fault) | written (.error fault) => some fault
  | configured (.ok ()) | written (.ok _) => none

/-- The same request of numbered drivers. -/
def Request.tagged : Request δ ε ω → Request (Tagged δ) ε (Ledger ω)
  | configure pin claim => configure pin (taggedClaim claim)
  | write pin level => write pin level

/-- Carries out a request. -/
def step (actions : DriverActions δ ε ω) (state : DriverTable δ n × ω) :
    Request δ ε ω → Answer ε × DriverTable δ n × ω
  | .configure pin claim =>
    let (result, state) := state.1.configure actions claim pin state.2
    (.configured result, state)
  | .write pin level =>
    let (result, state) := state.1.write actions pin level state.2
    (.written result, state)

section

variable {actions : DriverActions δ ε ω} {claim : Pin → ω → Except (DriveFault ε) δ × ω}
  {pin : Pin} {level : Level} {table next : DriverTable δ n} {world after : ω}
  {fault : DriveFault ε}

/-- A request to configure is carried out as the rule says that it follows. -/
theorem Configures.step_eq {result : Except (DriveFault ε) Unit}
    (rule : Configures actions claim pin table world result next after) :
    step actions (table, world) (.configure pin claim) = (.configured result, next, after) := by
  simp only [step, rule.eq]

/-- So is a request to write. -/
theorem Writes.step_eq {result : Except (DriveFault ε) Bool}
    (rule : Writes actions pin level table world result next after) :
    step actions (table, world) (.write pin level) = (.written result, next, after) := by
  simp only [step, rule.eq]

/-- A configuration that fails follows a rule for a fault. -/
theorem configure_rule_of_fault
    (h : (step actions (table, world) (.configure pin claim)).1.fault? = some fault) :
    Configures actions claim pin table world (.error fault)
      (step actions (table, world) (.configure pin claim)).2.1
      (step actions (table, world) (.configure pin claim)).2.2 := by
  have hrule := table.configure_rule actions claim pin world
  simp only [step] at h ⊢
  rcases hresult : table.configure actions claim pin world with ⟨other | done, next, after⟩
  · rw [hresult] at hrule h
    cases h
    exact hrule
  · rw [hresult] at h
    cases h

/-- So does a write that fails. -/
theorem write_rule_of_fault
    (h : (step actions (table, world) (.write pin level)).1.fault? = some fault) :
    Writes actions pin level table world (.error fault)
      (step actions (table, world) (.write pin level)).2.1
      (step actions (table, world) (.write pin level)).2.2 := by
  have hrule := table.write_rule actions pin level world
  simp only [step] at h ⊢
  rcases hresult : table.write actions pin level world with ⟨other | changed, next, after⟩
  · rw [hresult] at hrule h
    cases h
    exact hrule
  · rw [hresult] at h
    cases h

end

/-- Carries out requests one after another. -/
def run (actions : DriverActions δ ε ω) (state : DriverTable δ n × ω) :
    List (Request δ ε ω) → List (Answer ε) × DriverTable δ n × ω
  | [] => ([], state)
  | request :: rest =>
    let (answer, state) := step actions state request
    let (answers, state) := run actions state rest
    (answer :: answers, state)

/-! ## Numbers change nothing -/

/-- A table without the numbers of its drivers. -/
def forget (table : DriverTable (Tagged δ) n) : DriverTable δ n :=
  ⟨table.drivers.map (Option.map (·.driver)), table.lines, table.fits⟩

/-- A table that holds no driver holds no numbered one. -/
theorem forget_empty (fits : n ≤ LineTable.capacity) :
    (empty (δ := Tagged δ) fits).forget = empty fits := by
  simp [forget, empty]

/-- Without its number the same driver is held. -/
theorem forget_driver? (table : DriverTable (Tagged δ) n) (pin : Pin) :
    table.forget.driver? pin = (table.driver? pin).map (·.driver) := by
  unfold driver?
  by_cases hin : pin.index < n
  · simp [hin, forget]
  · simp [hin]

/-- A driver is kept with its number as it is kept without. -/
theorem forget_set (table : DriverTable (Tagged δ) n) {pin : Pin} (inside : pin.index < n)
    (tagged : Tagged δ) (lines : LineTable) :
    { table with drivers := table.drivers.set pin.index (some tagged), lines }.forget
      = { table.forget with
          drivers := table.forget.drivers.set pin.index (some tagged.driver), lines } := by
  simp [forget]

section

variable {actions : DriverActions δ ε ω} {claim : Pin → ω → Except (DriveFault ε) δ × ω}
  {pin : Pin} {level : Level} {table next : DriverTable (Tagged δ) n} {tagged : Tagged δ}
  {ledger after : Ledger ω}

/-- A drive that succeeds is noted as such. -/
theorem of_tagged_driven
    (h : (taggedActions actions).drive tagged level ledger = (.ok (), after)) :
    actions.drive tagged.driver level ledger.world = (.ok (), after.world) ∧
      after.entries = ledger.entries ++ [.driven tagged.number level] := by
  rcases hdrive : actions.drive tagged.driver level ledger.world with ⟨cause | _, world⟩
  · simp [taggedActions, hdrive] at h
  · simp only [taggedActions, hdrive] at h
    cases h
    exact ⟨rfl, rfl⟩

/-- A drive that fails is noted as such. -/
theorem of_tagged_failed {cause : ε}
    (h : (taggedActions actions).drive tagged level ledger = (.error cause, after)) :
    actions.drive tagged.driver level ledger.world = (.error cause, after.world) ∧
      after.entries = ledger.entries ++ [.failed tagged.number level] := by
  rcases hdrive : actions.drive tagged.driver level ledger.world with ⟨other | _, world⟩
  · simp only [taggedActions, hdrive] at h
    cases h
    exact ⟨rfl, rfl⟩
  · simp [taggedActions, hdrive] at h

/-- A driver that is claimed gets the next number. -/
theorem of_tagged_claimed (h : taggedClaim claim pin ledger = (.ok tagged, after)) :
    claim pin ledger.world = (.ok tagged.driver, after.world) ∧
      tagged.number = LedgerEntry.claims ledger.entries ∧
      after.entries = ledger.entries ++ [.claimed tagged.number pin] := by
  rcases hclaim : claim pin ledger.world with ⟨fault | driver, world⟩
  · simp [taggedClaim, hclaim] at h
  · simp only [taggedClaim, hclaim] at h
    cases h
    exact ⟨rfl, rfl, rfl⟩

/-- A claim that fails is noted as such. -/
theorem of_tagged_unclaimed {fault : DriveFault ε}
    (h : taggedClaim claim pin ledger = (.error fault, after)) :
    claim pin ledger.world = (.error fault, after.world) ∧
      after.entries = ledger.entries ++ [.unclaimed pin] := by
  rcases hclaim : claim pin ledger.world with ⟨other | driver, world⟩
  · simp only [taggedClaim, hclaim] at h
    cases h
    exact ⟨rfl, rfl⟩
  · simp [taggedClaim, hclaim] at h

/-- Configuring follows the same rule with numbers as without. -/
theorem Configures.forget {result : Except (DriveFault ε) Unit}
    (rule : Configures (taggedActions actions) (taggedClaim claim) pin table ledger result next
      after) :
    Configures actions claim pin table.forget ledger.world result next.forget after.world := by
  cases rule with
  | outside outside => exact .outside outside
  | drivenAgain held driven configured =>
    have hheld := forget_driver? table pin
    rw [held] at hheld
    exact .drivenAgain hheld (of_tagged_driven driven).1 configured
  | failedAgain held failed =>
    have hheld := forget_driver? table pin
    rw [held] at hheld
    exact .failedAgain hheld (of_tagged_failed failed).1
  | unclaimed inside free failed =>
    have hfree := forget_driver? table pin
    rw [free] at hfree
    exact .unclaimed inside hfree (of_tagged_unclaimed failed).1
  | @kept tagged lines between _ inside free claimed driven configured =>
    have hfree := forget_driver? table pin
    rw [free] at hfree
    rw [forget_set table inside tagged lines]
    exact .kept inside hfree (of_tagged_claimed claimed).1 (of_tagged_driven driven).1 configured
  | givenUp inside free claimed failed =>
    have hfree := forget_driver? table pin
    rw [free] at hfree
    exact .givenUp inside hfree (of_tagged_claimed claimed).1 (of_tagged_failed failed).1

/-- Writing follows the same rule with numbers as without. -/
theorem Writes.forget {result : Except (DriveFault ε) Bool}
    (rule : Writes (taggedActions actions) pin level table ledger result next after) :
    Writes actions pin level table.forget ledger.world result next.forget after.world := by
  have hdriver := forget_driver? table pin
  cases rule with
  | notConfigured notConfigured => exact .notConfigured notConfigured
  | missing configured free =>
    rw [free] at hdriver
    exact .missing configured hdriver
  | failed configured held failed =>
    rw [held] at hdriver
    exact .failed configured hdriver (of_tagged_failed failed).1
  | driven configured held driven set =>
    rw [held] at hdriver
    exact .driven configured hdriver (of_tagged_driven driven).1 set

end

/-- A request is answered, and changes the table, with numbers as without. -/
theorem forget_step (actions : DriverActions δ ε ω) (state : DriverTable (Tagged δ) n × Ledger ω)
    (request : Request δ ε ω) :
    step actions (state.1.forget, state.2.world) request
      = let outcome := step (taggedActions actions) state request.tagged
        (outcome.1, outcome.2.1.forget, outcome.2.2.world) := by
  cases request with
  | configure pin claim =>
    exact (state.1.configure_rule (taggedActions actions) (taggedClaim claim) pin
      state.2).forget.step_eq
  | write pin level =>
    exact (state.1.write_rule (taggedActions actions) pin level state.2).forget.step_eq

/-- Requests are answered, and change the table, with numbers as without. -/
theorem forget_run (actions : DriverActions δ ε ω) (state : DriverTable (Tagged δ) n × Ledger ω)
    (requests : List (Request δ ε ω)) :
    run actions (state.1.forget, state.2.world) requests
      = let outcome := run (taggedActions actions) state (requests.map Request.tagged)
        (outcome.1, outcome.2.1.forget, outcome.2.2.world) := by
  induction requests generalizing state with
  | nil => rfl
  | cons request rest ih =>
    have hstep := forget_step actions state request
    have hrest := ih (step (taggedActions actions) state request.tagged).2
    rw [run, hstep, List.map_cons, run]
    simp only [hrest]

end PilotLamp.DriverTable
