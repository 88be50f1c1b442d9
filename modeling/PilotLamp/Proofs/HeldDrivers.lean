import PilotLamp.Proofs.DriverLedger

/-!
# Held drivers and levels agree

A table keeps drivers and levels side by side, and claims and drives can fail between the two
updates. After any requests a driver is held for exactly the pins that have a level, and the level
is what that very driver was last driven to. So a request whose drive has succeeded does not fail
any more. What becomes of drivers that are given up is not looked at here.
-/

namespace PilotLamp.DriverTable

open LedgerEntry

variable {δ ε ω : Type} {n : Nat}

/-- How the drivers held are entered in a ledger. -/
structure Held (table : DriverTable (Tagged δ) n) (entries : List LedgerEntry) : Prop where
  /-- The pins with a driver are those with a level. -/
  configured : ∀ pin, (table.driver? pin).isSome = (table.level pin).isSome
  /-- The level is what the driver was last driven to. -/
  told : ∀ pin tagged, table.driver? pin = some tagged →
    table.level pin = lastDriven tagged.number entries
  /-- The driver was claimed. -/
  known : ∀ pin tagged, table.driver? pin = some tagged → tagged.number < claims entries
  /-- No driver is held for two pins. -/
  distinct : ∀ pin other tagged same, table.driver? pin = some tagged →
    table.driver? other = some same → tagged.number = same.number → pin = other
  /-- No driver was driven before it was claimed. -/
  undriven : ∀ number, claims entries ≤ number → lastDriven number entries = none

section

variable {table next : DriverTable (Tagged δ) n} {entries : List LedgerEntry}

theorem Held.empty (fits : n ≤ LineTable.capacity) :
    Held (DriverTable.empty (δ := Tagged δ) fits) [] where
  configured pin := by
    rw [driver?_empty, level, DriverTable.empty, LineTable.level_empty]
    rfl
  told pin tagged held := by
    rw [driver?_empty] at held
    cases held
  known pin tagged held := by
    rw [driver?_empty] at held
    cases held
  distinct pin other tagged same held := by
    rw [driver?_empty] at held
    cases held
  undriven number _ := rfl

/-- An entry other than a drive leaves all as it was. -/
theorem Held.note (h : Held table entries) {entry : LedgerEntry}
    (quiet : ∀ number, levelOn number entry = none) : Held table (entries ++ [entry]) := by
  have hclaims : claims entries ≤ claims (entries ++ [entry]) := by
    rw [claims_concat]
    omega
  refine ⟨h.configured, ?_, ?_, h.distinct, ?_⟩
  · intro pin tagged held
    rw [lastDriven_of_levelOn (quiet _)]
    exact h.told pin tagged held
  · intro pin tagged held
    have hknown := h.known pin tagged held
    omega
  · intro number hnumber
    rw [lastDriven_of_levelOn (quiet _)]
    exact h.undriven number (by omega)

/-- A drive of the driver that is held for a pin gives its level to that pin. -/
theorem Held.driven (h : Held table entries) {pin : Pin} {tagged : Tagged δ}
    (held : table.driver? pin = some tagged) {level : Level}
    (hdrivers : ∀ other, next.driver? other = table.driver? other)
    (hlevels : ∀ other, next.level other
      = if other = pin then some level else table.level other) :
    Held next (entries ++ [.driven tagged.number level]) := by
  have hclaims : claims (entries ++ [.driven tagged.number level]) = claims entries :=
    claims_concat entries _
  have hknown := h.known pin tagged held
  refine ⟨?_, ?_, ?_, ?_, ?_⟩
  · intro other
    rw [hdrivers, hlevels]
    by_cases heq : other = pin
    · rw [if_pos heq, heq, held]
      rfl
    · rw [if_neg heq]
      exact h.configured other
  · intro other same hsame
    rw [hdrivers] at hsame
    rw [hlevels]
    by_cases heq : other = pin
    · rw [heq, held] at hsame
      cases hsame
      rw [if_pos heq, lastDriven_driven]
    · have hne : tagged.number ≠ same.number := fun hnumber =>
        heq (h.distinct pin other tagged same held hsame hnumber).symm
      rw [if_neg heq, lastDriven_driven_of_ne hne]
      exact h.told other same hsame
  · intro other same hsame
    rw [hdrivers] at hsame
    rw [hclaims]
    exact h.known other same hsame
  · intro one other first second hfirst hsecond
    rw [hdrivers] at hfirst hsecond
    exact h.distinct one other first second hfirst hsecond
  · intro number hnumber
    rw [hclaims] at hnumber
    have hne : tagged.number ≠ number := by omega
    rw [lastDriven_driven_of_ne hne]
    exact h.undriven number hnumber

/-- A driver that is claimed for a pin, and driven low, is held from then on. -/
theorem Held.kept (h : Held table entries) {pin : Pin} {tagged : Tagged δ}
    (hnumber : tagged.number = claims entries)
    (hdrivers : ∀ other, next.driver? other
      = if other = pin then some tagged else table.driver? other)
    (hlevels : ∀ other, next.level other
      = if other = pin then some .deasserted else table.level other) :
    Held next (entries ++ [.claimed tagged.number pin] ++ [.driven tagged.number .deasserted]) := by
  have hclaims : claims (entries ++ [.claimed tagged.number pin]
      ++ [.driven tagged.number .deasserted]) = claims entries + 1 := by
    rw [claims_concat, claims_concat]
    rfl
  have hclaimed : ∀ number, lastDriven number (entries ++ [.claimed tagged.number pin])
      = lastDriven number entries := fun number => lastDriven_of_levelOn rfl entries
  -- The new driver has a number of its own, as those that are held were claimed earlier.
  have hnew : ∀ other same, table.driver? other = some same → tagged.number ≠ same.number := by
    intro other same hsame
    have hknown := h.known other same hsame
    omega
  refine ⟨?_, ?_, ?_, ?_, ?_⟩
  · intro other
    rw [hdrivers, hlevels]
    by_cases heq : other = pin
    · rw [if_pos heq, if_pos heq]
      rfl
    · rw [if_neg heq, if_neg heq]
      exact h.configured other
  · intro other same hsame
    rw [hdrivers] at hsame
    rw [hlevels]
    by_cases heq : other = pin
    · rw [if_pos heq] at hsame
      cases hsame
      rw [if_pos heq, lastDriven_driven]
    · rw [if_neg heq] at hsame
      rw [if_neg heq, lastDriven_driven_of_ne (hnew other same hsame), hclaimed]
      exact h.told other same hsame
  · intro other same hsame
    rw [hdrivers] at hsame
    rw [hclaims]
    by_cases heq : other = pin
    · rw [if_pos heq] at hsame
      cases hsame
      omega
    · rw [if_neg heq] at hsame
      have hknown := h.known other same hsame
      omega
  · intro one other first second hfirst hsecond heq
    rw [hdrivers] at hfirst hsecond
    by_cases hone : one = pin
    · by_cases hother : other = pin
      · rw [hone, hother]
      · rw [if_pos hone] at hfirst
        rw [if_neg hother] at hsecond
        cases hfirst
        exact absurd heq (hnew other second hsecond)
    · rw [if_neg hone] at hfirst
      by_cases hother : other = pin
      · rw [if_pos hother] at hsecond
        cases hsecond
        exact absurd heq.symm (hnew one first hfirst)
      · rw [if_neg hother] at hsecond
        exact h.distinct one other first second hfirst hsecond heq
  · intro number hle
    rw [hclaims] at hle
    have hne : tagged.number ≠ number := by omega
    rw [lastDriven_driven_of_ne hne, hclaimed]
    exact h.undriven number (by omega)

end

section

variable {actions : DriverActions δ ε ω} {claim : Pin → ω → Except (DriveFault ε) δ × ω}
  {pin : Pin} {level : Level} {table next : DriverTable (Tagged δ) n} {ledger after : Ledger ω}

/-- Configuring keeps the drivers held as they are entered. -/
theorem Held.of_configures {result : Except (DriveFault ε) Unit}
    (h : Held table ledger.entries)
    (rule : Configures (taggedActions actions) (taggedClaim claim) pin table ledger result next
      after) : Held next after.entries := by
  cases rule with
  | outside outside => exact h
  | drivenAgain held driven configured =>
    rw [(of_tagged_driven driven).2]
    exact h.driven held (fun _ => rfl) (LineTable.level_configure configured)
  | failedAgain held failed =>
    rw [(of_tagged_failed failed).2]
    exact h.note fun _ => rfl
  | unclaimed inside free failed =>
    rw [(of_tagged_unclaimed failed).2]
    exact h.note fun _ => rfl
  | kept inside free claimed driven configured =>
    obtain ⟨-, hnumber, hentries⟩ := of_tagged_claimed claimed
    rw [(of_tagged_driven driven).2, hentries]
    exact h.kept hnumber (driver?_set table inside _ _) (LineTable.level_configure configured)
  | givenUp inside free claimed failed =>
    obtain ⟨-, -, hentries⟩ := of_tagged_claimed claimed
    simp only [taggedActions]
    rw [(of_tagged_failed failed).2, hentries]
    exact ((h.note fun _ => rfl).note fun _ => rfl).note fun _ => rfl

/-- Writing keeps the drivers held as they are entered. -/
theorem Held.of_writes {result : Except (DriveFault ε) Bool} (h : Held table ledger.entries)
    (rule : Writes (taggedActions actions) pin level table ledger result next after) :
    Held next after.entries := by
  cases rule with
  | notConfigured notConfigured => exact h
  | missing configured free => exact h
  | failed configured held failed =>
    rw [(of_tagged_failed failed).2]
    exact h.note fun _ => rfl
  | driven configured held driven set =>
    rw [(of_tagged_driven driven).2]
    exact h.driven held (fun _ => rfl) (LineTable.level_set set).2

/-- A request keeps the drivers held as they are entered. -/
theorem Held.of_step {state : DriverTable (Tagged δ) n × Ledger ω}
    (h : Held state.1 state.2.entries) (actions : DriverActions δ ε ω)
    (request : Request δ ε ω) :
    let outcome := step (taggedActions actions) state request.tagged
    Held outcome.2.1 outcome.2.2.entries := by
  cases request with
  | configure pin claim => exact h.of_configures (configure_rule _ _ _ _ _)
  | write pin level => exact h.of_writes (write_rule _ _ _ _ _)

/-- So do requests one after another. -/
theorem Held.of_run (actions : DriverActions δ ε ω) (requests : List (Request δ ε ω))
    (state : DriverTable (Tagged δ) n × Ledger ω) (h : Held state.1 state.2.entries) :
    let outcome := run (taggedActions actions) state (requests.map Request.tagged)
    Held outcome.2.1 outcome.2.2.entries := by
  induction requests generalizing state with
  | nil => exact h
  | cons request rest ih => exact ih _ (h.of_step actions request)

/-- A configured pin has a driver. -/
theorem Held.driver_of_isConfigured {entries : List LedgerEntry} (h : Held table entries)
    (hconfigured : table.lines.isConfigured pin = true) :
    ∃ tagged, table.driver? pin = some tagged := by
  have hsome := h.configured pin
  rw [DriverTable.level, LineTable.isSome_level, hconfigured] at hsome
  exact Option.isSome_iff_exists.mp hsome

/-- A configuration that fails has driven no driver. -/
theorem Configures.undriven {fault : DriveFault ε}
    (rule : Configures (taggedActions actions) (taggedClaim claim) pin table ledger
      (.error fault) next after) :
    ∃ new, after.entries = ledger.entries ++ new ∧ ∀ number level, .driven number level ∉ new := by
  cases rule with
  | outside outside => exact ⟨[], by simp⟩
  | failedAgain held failed => exact ⟨_, (of_tagged_failed failed).2, by simp⟩
  | unclaimed inside free failed => exact ⟨_, (of_tagged_unclaimed failed).2, by simp⟩
  | @givenUp tagged cause between last inside free claimed failed =>
    obtain ⟨-, -, hentries⟩ := of_tagged_claimed claimed
    refine ⟨[.claimed tagged.number pin, .failed tagged.number .deasserted,
      .released tagged.number], ?_, by simp⟩
    simp only [taggedActions]
    rw [(of_tagged_failed failed).2, hentries]
    simp

/-- A write that fails has driven no driver. -/
theorem Writes.undriven {fault : DriveFault ε}
    (rule : Writes (taggedActions actions) pin level table ledger (.error fault) next after) :
    ∃ new, after.entries = ledger.entries ++ new ∧ ∀ number level, .driven number level ∉ new := by
  cases rule with
  | notConfigured notConfigured => exact ⟨[], by simp⟩
  | missing configured free => exact ⟨[], by simp⟩
  | failed configured held failed => exact ⟨_, (of_tagged_failed failed).2, by simp⟩

/-- A write that succeeds tells whether the level differs from the one before. -/
theorem Writes.changed_eq {changed : Bool} {actions : DriverActions δ ε ω}
    {table next : DriverTable δ n} {world after : ω}
    (rule : Writes actions pin level table world (.ok changed) next after) :
    changed = (table.level pin != some level) := by
  cases rule with
  | driven configured held driven set => exact (LineTable.level_set set).1

end

/-! ## The law -/

/-- What holds of a table of numbered drivers and its ledger after some requests. -/
structure Agreement (actions : DriverActions δ ε ω) (table : DriverTable (Tagged δ) n)
    (ledger : Ledger ω) : Prop where
  /-- A driver is held for exactly the pins that have a level. -/
  held_iff : ∀ pin,
    (∃ tagged, table.driver? pin = some tagged) ↔ ∃ level, table.level pin = some level
  /-- No pin outside of the table is ever configured. -/
  outside : ∀ pin, n ≤ pin.index → table.level pin = none
  /-- The level is what the driver that is held was last driven to. -/
  last : ∀ pin tagged, table.driver? pin = some tagged →
    table.level pin = lastDriven tagged.number ledger.entries
  /-- A write tells of a change exactly if it succeeds and the level was another. -/
  changed : ∀ pin level,
    (table.write (taggedActions actions) pin level ledger).1 = .ok true ↔
      (∃ changed, (table.write (taggedActions actions) pin level ledger).1 = .ok changed) ∧
        table.level pin ≠ some level
  /-- A write tells of no change exactly if it succeeds and the level was the same. -/
  same : ∀ pin level,
    (table.write (taggedActions actions) pin level ledger).1 = .ok false ↔
      (∃ changed, (table.write (taggedActions actions) pin level ledger).1 = .ok changed) ∧
        table.level pin = some level
  /-- The line of a pin that is inside of the table can be configured. -/
  configurable : ∀ pin : Pin, pin.index < n → ∃ lines, table.lines.configure pin = .ok lines
  /-- The line of a configured pin can be set. -/
  settable : ∀ pin level, table.lines.isConfigured pin = true →
    ∃ changed lines, table.lines.set pin level = .ok (changed, lines)
  /-- The driver of a configured pin is there. -/
  present : ∀ pin, table.lines.isConfigured pin = true →
    ∃ tagged, table.driver? pin = some tagged
  /-- A request that fails has driven no driver. -/
  undriven : ∀ (request : Request δ ε ω) fault,
    (step (taggedActions actions) (table, ledger) request.tagged).1.fault? = some fault →
    ∃ new, (step (taggedActions actions) (table, ledger) request.tagged).2.2.entries
        = ledger.entries ++ new ∧
      ∀ number level, .driven number level ∉ new

section

variable {table : DriverTable (Tagged δ) n} {ledger : Ledger ω}

/-- A request that fails has driven no driver. -/
theorem undriven_of_fault {actions : DriverActions δ ε ω} {request : Request δ ε ω}
    {fault : DriveFault ε}
    (h : (step (taggedActions actions) (table, ledger) request.tagged).1.fault? = some fault) :
    ∃ new, (step (taggedActions actions) (table, ledger) request.tagged).2.2.entries
        = ledger.entries ++ new ∧
      ∀ number level, .driven number level ∉ new := by
  cases request with
  | configure pin claim => exact (configure_rule_of_fault h).undriven
  | write pin level => exact (write_rule_of_fault h).undriven

/-- What a write that succeeds tells is whether the level was another. -/
theorem write_eq_ok_iff {actions : DriverActions δ ε ω} {table : DriverTable δ n} {world : ω}
    {pin : Pin} {level : Level} {changed : Bool} :
    (table.write actions pin level world).1 = .ok changed ↔
      (∃ told, (table.write actions pin level world).1 = .ok told) ∧
        (table.level pin != some level) = changed := by
  have hrule := table.write_rule actions pin level world
  cases hresult : (table.write actions pin level world).1 with
  | error fault => simp
  | ok told =>
    rw [hresult] at hrule
    rw [hrule.changed_eq]
    simp

/-- Drivers that are held as a ledger says agree with the levels. -/
theorem Held.agreement (h : Held table ledger.entries) (actions : DriverActions δ ε ω) :
    Agreement actions table ledger where
  held_iff pin := by
    rw [← Option.isSome_iff_exists, ← Option.isSome_iff_exists, h.configured pin]
  outside pin hout := by
    have hsome := h.configured pin
    rw [table.driver?_of_le hout] at hsome
    cases hlevel : table.level pin with
    | none => rfl
    | some level =>
      rw [hlevel] at hsome
      cases hsome
  last := h.told
  changed pin level := by rw [write_eq_ok_iff, bne_iff_ne]
  same pin level := by rw [write_eq_ok_iff, bne_eq_false_iff_eq]
  configurable pin hin := table.lines.configure_isOk (Nat.lt_of_lt_of_le hin table.fits)
  settable pin level hconfigured := LineTable.set_isOk hconfigured level
  present pin hconfigured := h.driver_of_isConfigured hconfigured
  undriven request fault hfault := undriven_of_fault hfault

end

/-- Numbering the drivers leaves requests from an empty table as they are, and after them the
drivers held and the levels agree. -/
theorem drivers_agree_with_levels (fits : n ≤ LineTable.capacity) (actions : DriverActions δ ε ω)
    (world : ω) (requests : List (Request δ ε ω)) :
    let outcome := run (taggedActions actions) (DriverTable.empty (δ := Tagged δ) fits, ⟨world, []⟩)
      (requests.map Request.tagged)
    run actions (DriverTable.empty fits, world) requests
        = (outcome.1, outcome.2.1.forget, outcome.2.2.world) ∧
      Agreement actions outcome.2.1 outcome.2.2 := by
  have hheld := Held.of_run actions requests (DriverTable.empty fits, ⟨world, []⟩) (.empty fits)
  have hforget := forget_run actions (DriverTable.empty (δ := Tagged δ) fits, ⟨world, []⟩) requests
  rw [forget_empty] at hforget
  exact ⟨hforget, hheld.agreement actions⟩

/-- Drivers that fail whenever a list of faults says so. -/
def scripted : DriverActions Pin Unit (List Bool) where
  drive _ _ faults := (if faults.headD false then .error () else .ok (), faults.tail)
  release _ faults := faults

/-- The last pin of the largest table is configured in vain, configured, and written twice, of
which the last in vain. -/
theorem largest_table_agrees_with_levels :
    64 ≤ LineTable.capacity ∧
    let pin := Pin.ofNat 63
    let claim := fun pin faults => (.ok pin, faults)
    let requests := [.configure pin claim, .configure pin claim, .write pin .asserted,
      .write pin .deasserted]
    let outcome := run (taggedActions scripted)
      (DriverTable.empty (δ := Tagged Pin) (n := 64) (by decide), ⟨[true, false, false, true], []⟩)
      (requests.map Request.tagged)
    outcome.2.1.level pin = some .asserted ∧
      run scripted (DriverTable.empty (n := 64) (by decide), [true, false, false, true]) requests
        = (outcome.1, outcome.2.1.forget, outcome.2.2.world) ∧
      Agreement scripted outcome.2.1 outcome.2.2 :=
  ⟨by decide, by decide, drivers_agree_with_levels (by decide) scripted _ _⟩

end PilotLamp.DriverTable
