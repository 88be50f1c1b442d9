import PilotLamp.Proofs.DriverCustody

/-!
# Failed requests leave a driver table as it was

Why a request to a driver table fails, said once, and what it leaves: the drivers held and the lines
are as before, whichever of the causes it was. A request that is refused has driven no driver, as
the ledger shows. What a driver that fails does to its line is out of scope.
-/

namespace PilotLamp.DriverTable

open LedgerEntry

variable {δ ε ω : Type} {n : Nat}

/-- The driver that a request drives, and the world in which it drives it. -/
inductive Drives (table : DriverTable δ n) (world : ω) : Request δ ε ω → δ → ω → Prop
  /-- The driver that is held for its pin. -/
  | held {request : Request δ ε ω} {driver : δ}
      (held : table.driver? request.pin = some driver) : Drives table world request driver world
  /-- A driver that is claimed, as none is held. -/
  | claimed {pin : Pin} {claim : Pin → ω → Except (DriveFault ε) δ × ω} {driver : δ} {between : ω}
      (inside : pin.index < n) (free : table.driver? pin = none)
      (claimed : claim pin world = (.ok driver, between)) :
      Drives table world (.configure pin claim) driver between

/-- Why a request fails. -/
inductive FailsBecause (actions : DriverActions δ ε ω) (table : DriverTable δ n) (world : ω) :
    Request δ ε ω → DriveFault ε → Prop
  /-- A pin outside of the table is configured. -/
  | outside {pin : Pin} {claim : Pin → ω → Except (DriveFault ε) δ × ω}
      (outside : n ≤ pin.index) :
      FailsBecause actions table world (.configure pin claim) (.refused (.noSuchPin pin.index))
  /-- No driver can be claimed. -/
  | unclaimed {pin : Pin} {claim : Pin → ω → Except (DriveFault ε) δ × ω} {fault : DriveFault ε}
      {after : ω} (inside : pin.index < n) (free : table.driver? pin = none)
      (failed : claim pin world = (.error fault, after)) :
      FailsBecause actions table world (.configure pin claim) fault
  /-- A pin without a level is written. -/
  | notConfigured {pin : Pin} {level : Level} (noLevel : table.level pin = none) :
      FailsBecause actions table world (.write pin level) (.refused (.notConfigured pin))
  /-- The driver fails. -/
  | driver {request : Request δ ε ω} {driver : δ} {cause : ε} {between after : ω}
      (drives : Drives table world request driver between)
      (failed : actions.drive driver request.level between = (.error cause, after)) :
      FailsBecause actions table world request (.driver request.pin cause)

section

variable {actions : DriverActions δ ε ω} {claim : Pin → ω → Except (DriveFault ε) δ × ω}
  {pin : Pin} {level : Level} {table next : DriverTable δ n} {world after : ω}

/-- Requests one after another leave a driver for exactly the pins that have a level. -/
theorem Paired.of_run (actions : DriverActions δ ε ω) (requests : List (Request δ ε ω))
    (state : DriverTable δ n × ω) (h : state.1.Paired) : (run actions state requests).2.1.Paired := by
  induction requests generalizing state with
  | nil => exact h
  | cons request rest ih =>
    apply ih
    cases request with
    | configure pin claim => exact h.of_configures (configure_rule _ _ _ _ _)
    | write pin level => exact h.of_writes (write_rule _ _ _ _ _)

/-- A line has no level exactly if it is not configured. -/
theorem level_eq_none_iff : table.level pin = none ↔ table.lines.isConfigured pin = false := by
  rw [level, ← LineTable.isSome_level, Option.isSome_eq_false_iff, Option.isNone_iff_eq_none]

/-- A configuration that fails leaves the table as it was, and has a cause. -/
theorem Configures.failsBecause {fault : DriveFault ε}
    (rule : Configures actions claim pin table world (.error fault) next after) :
    next = table ∧ FailsBecause actions table world (.configure pin claim) fault := by
  cases rule with
  | outside outside => exact ⟨rfl, .outside outside⟩
  | failedAgain held failed => exact ⟨rfl, .driver (.held held) failed⟩
  | unclaimed inside free failed => exact ⟨rfl, .unclaimed inside free failed⟩
  | givenUp inside free claimed failed =>
    exact ⟨rfl, .driver (.claimed inside free claimed) failed⟩

/-- A write that fails leaves the table as it was, and has a cause. -/
theorem Writes.failsBecause (h : table.Paired) {fault : DriveFault ε}
    (rule : Writes actions pin level table world (.error fault) next after) :
    next = table ∧ FailsBecause actions table world (.write pin level) fault := by
  cases rule with
  | notConfigured notConfigured =>
    exact ⟨rfl, .notConfigured (level_eq_none_iff.mpr notConfigured)⟩
  | missing configured free =>
    -- A pin that is configured has a driver.
    obtain ⟨driver, hdriver⟩ := h.driver_of_isConfigured configured
    rw [free] at hdriver
    cases hdriver
  | failed configured held failed => exact ⟨rfl, .driver (.held held) failed⟩

/-- A request that fails leaves the table as it was, and has a cause. -/
theorem failsBecause_of_fault (h : table.Paired) {request : Request δ ε ω} {fault : DriveFault ε}
    (hfault : (step actions (table, world) request).1.fault? = some fault) :
    (step actions (table, world) request).2.1 = table ∧
      FailsBecause actions table world request fault := by
  cases request with
  | configure pin claim => exact (configure_rule_of_fault hfault).failsBecause
  | write pin level => exact (write_rule_of_fault hfault).failsBecause h

/-- Wherever there is a cause the request fails for it. -/
theorem FailsBecause.fault_eq (h : table.Paired) {request : Request δ ε ω} {fault : DriveFault ε}
    (because : FailsBecause actions table world request fault) :
    (step actions (table, world) request).1.fault? = some fault := by
  cases because with
  | outside outside => rw [(Configures.outside outside).step_eq]; rfl
  | unclaimed inside free failed => rw [(Configures.unclaimed inside free failed).step_eq]; rfl
  | notConfigured noLevel =>
    rw [(Writes.notConfigured (level_eq_none_iff.mp noLevel)).step_eq]
    rfl
  | driver drives failed =>
    cases drives with
    | claimed inside free claimed =>
      rw [(Configures.givenUp inside free claimed failed).step_eq]
      rfl
    | held held =>
      cases request with
      | configure pin claim =>
        have hstep : step actions (table, world) (.configure pin claim) = _ :=
          (Configures.failedAgain held failed).step_eq
        rw [hstep]
        rfl
      | write pin level =>
        have hstep : step actions (table, world) (.write pin level) = _ :=
          (Writes.failed (h.isConfigured_of_driver held) held failed).step_eq
        rw [hstep]
        rfl

end

/-! ## Refusals in the ledger -/

section

variable {actions : DriverActions δ ε ω} {claim : Pin → ω → Except (DriveFault ε) δ × ω}
  {pin : Pin} {level : Level} {table next : DriverTable (Tagged δ) n} {ledger after : Ledger ω}
  {cause : PinError}

/-- A configuration that is refused has driven no driver, not even in vain. -/
theorem Configures.undriven_of_refused
    (rule : Configures (taggedActions actions) (taggedClaim claim) pin table ledger
      (.error (.refused cause)) next after) :
    ∃ new, after.entries = ledger.entries ++ new ∧ new.filterMap drive? = [] := by
  cases rule with
  | outside outside => exact ⟨[], (List.append_nil _).symm, rfl⟩
  | unclaimed inside free failed => exact ⟨_, (of_tagged_unclaimed failed).2, rfl⟩

/-- Nor has a write that is refused. -/
theorem Writes.undriven_of_refused
    (rule : Writes (taggedActions actions) pin level table ledger (.error (.refused cause)) next
      after) :
    ∃ new, after.entries = ledger.entries ++ new ∧ new.filterMap drive? = [] := by
  cases rule with
  | notConfigured notConfigured => exact ⟨[], (List.append_nil _).symm, rfl⟩
  | missing configured free => exact ⟨[], (List.append_nil _).symm, rfl⟩

/-- A configuration for which no driver was asked finds no such pin only outside of the table. -/
theorem Configures.le_of_unasked
    (rule : Configures (taggedActions actions) (taggedClaim claim) pin table ledger
      (.error (.refused cause)) next after)
    (unasked : ∃ new, after.entries = ledger.entries ++ new ∧ new.filterMap asked? = []) :
    n ≤ pin.index := by
  cases rule with
  | outside outside => exact outside
  | unclaimed inside free failed =>
    obtain ⟨new, hentries, hnone⟩ := unasked
    rw [(of_tagged_unclaimed failed).2] at hentries
    obtain rfl : [.unclaimed pin] = new := List.append_cancel_left hentries
    cases hnone

/-- A request that is refused has driven no driver. -/
theorem undriven_of_refused {request : Request δ ε ω}
    (h : (step (taggedActions actions) (table, ledger) request.tagged).1.fault?
      = some (.refused cause)) :
    ∃ new, (step (taggedActions actions) (table, ledger) request.tagged).2.2.entries
        = ledger.entries ++ new ∧ new.filterMap drive? = [] := by
  cases request with
  | configure pin claim => exact (configure_rule_of_fault h).undriven_of_refused
  | write pin level => exact (write_rule_of_fault h).undriven_of_refused

end

/-! ## The law -/

/-- How requests to a table fail. -/
structure FailsCleanly (actions : DriverActions δ ε ω) (table : DriverTable δ n) (world : ω) :
    Prop where
  /-- A request that fails leaves the drivers that are held, and the lines, as they were. -/
  unchanged : ∀ request fault, (step actions (table, world) request).1.fault? = some fault →
    (step actions (table, world) request).2.1 = table
  /-- A request fails with a fault exactly if there is that cause for it. -/
  fault_iff : ∀ request fault, (step actions (table, world) request).1.fault? = some fault ↔
    FailsBecause actions table world request fault
  /-- What a driver answers that fails is kept, and amounts to a rejection of the pin. -/
  rejected : ∀ request driver between cause after, Drives table world request driver between →
    actions.drive driver request.level between = (.error cause, after) →
    ∃ fault, (step actions (table, world) request).1.fault? = some fault ∧
      fault = .driver request.pin cause ∧ fault.toPinError = .rejected request.pin
  /-- A write finds its pin not configured exactly if the pin has no level. -/
  notConfigured_iff : ∀ pin level,
    (table.write actions pin level world).1 = .error (.refused (.notConfigured pin)) ↔
      table.level pin = none

/-- What the ledger shows of requests that are refused. -/
structure RefusesUntouched (actions : DriverActions δ ε ω) (table : DriverTable (Tagged δ) n)
    (ledger : Ledger ω) : Prop where
  /-- A request that is refused has driven no driver, not even in vain. -/
  undriven : ∀ (request : Request δ ε ω) cause,
    (step actions (table.forget, ledger.world) request).1.fault? = some (.refused cause) →
    ∃ new, (step (taggedActions actions) (table, ledger) request.tagged).2.2.entries
        = ledger.entries ++ new ∧ new.filterMap drive? = []
  /-- A configuration finds no such pin, without asking for a driver, exactly if the pin is outside
  of the table. -/
  outside_iff : ∀ (pin : Pin) claim,
    (table.forget.configure actions claim pin ledger.world).1
          = .error (.refused (.noSuchPin pin.index)) ∧
        (∃ new, (table.configure (taggedActions actions) (taggedClaim claim) pin ledger).2.2.entries
          = ledger.entries ++ new ∧ new.filterMap asked? = []) ↔
      n ≤ pin.index

/-- A table that has a driver for exactly the pins with a level fails cleanly. -/
theorem Paired.failsCleanly {table : DriverTable δ n} (h : table.Paired)
    (actions : DriverActions δ ε ω) (world : ω) : FailsCleanly actions table world where
  unchanged request fault hfault := (failsBecause_of_fault h hfault).1
  fault_iff request fault :=
    ⟨fun hfault => (failsBecause_of_fault h hfault).2, fun because => because.fault_eq h⟩
  rejected request driver between cause after drives failed :=
    ⟨_, (FailsBecause.driver drives failed).fault_eq h, rfl, rfl⟩
  notConfigured_iff pin level := by
    have hrule := table.write_rule actions pin level world
    constructor
    · intro hresult
      rw [hresult] at hrule
      cases (hrule.failsBecause h).2 with
      | notConfigured noLevel => exact noLevel
    · intro noLevel
      rw [(Writes.notConfigured (level_eq_none_iff.mp noLevel)).eq]

/-- Refusals touch no driver. -/
theorem refusesUntouched (actions : DriverActions δ ε ω) (table : DriverTable (Tagged δ) n)
    (ledger : Ledger ω) : RefusesUntouched actions table ledger where
  undriven request cause hfault := by
    rw [forget_step actions (table, ledger) request] at hfault
    exact undriven_of_refused hfault
  outside_iff pin claim := by
    have hrule := table.configure_rule (taggedActions actions) (taggedClaim claim) pin ledger
    rw [hrule.forget.eq]
    constructor
    · rintro ⟨hresult, unasked⟩
      rw [hresult] at hrule
      exact hrule.le_of_unasked unasked
    · intro outside
      rw [(Configures.outside outside).eq]
      exact ⟨rfl, [], (List.append_nil _).symm, rfl⟩

/-- After requests to an empty table, and with numbered drivers as without, a request that fails
leaves the table as it was, for a cause that is told from the fault; one that is refused has
touched no driver. -/
theorem failed_requests_leave_table (fits : n ≤ LineTable.capacity)
    (actions : DriverActions δ ε ω) (world : ω) (requests : List (Request δ ε ω)) :
    let plain := run actions (DriverTable.empty fits, world) requests
    let noted := run (taggedActions actions) (DriverTable.empty (δ := Tagged δ) fits, ⟨world, []⟩)
      (requests.map Request.tagged)
    plain = (noted.1, noted.2.1.forget, noted.2.2.world) ∧
      FailsCleanly actions plain.2.1 plain.2.2 ∧ RefusesUntouched actions noted.2.1 noted.2.2 := by
  intro plain noted
  have hforget := forget_run actions (DriverTable.empty (δ := Tagged δ) fits, ⟨world, []⟩) requests
  rw [forget_empty] at hforget
  have hpaired := Paired.of_run actions requests (DriverTable.empty fits, world) (.empty fits)
  exact ⟨hforget, hpaired.failsCleanly actions _, refusesUntouched actions _ _⟩

/-- The last pin of the largest table is configured and written in vain, which leaves it off. -/
theorem last_pin_stays_off_when_written_in_vain :
    64 ≤ LineTable.capacity ∧
    let pin := Pin.ofNat 63
    let requests := [.configure pin fun pin faults => (.ok pin, faults), .write pin .asserted]
    let world := [false, true]
    let plain := run scripted (DriverTable.empty (n := 64) (by decide), world) requests
    let noted := run (taggedActions scripted)
      (DriverTable.empty (δ := Tagged Pin) (n := 64) (by decide), ⟨world, []⟩)
      (requests.map Request.tagged)
    plain.2.1.level pin = some .deasserted ∧
      plain = (noted.1, noted.2.1.forget, noted.2.2.world) ∧
      FailsCleanly scripted plain.2.1 plain.2.2 ∧ RefusesUntouched scripted noted.2.1 noted.2.2 :=
  ⟨by decide, by decide, failed_requests_leave_table (by decide) scripted _ _⟩

end PilotLamp.DriverTable
