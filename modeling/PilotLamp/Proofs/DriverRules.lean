import PilotLamp.DriverTable

/-!
# Rules of a driver table

What configuring and writing can do to a driver table, said once by rules, and what they leave of
the drivers held and of the levels. The rules hold of every table, reached or not: a line that was
checked before its driver was driven never fails to be tracked after.
-/

namespace PilotLamp

namespace LineTable

/-- Configuring succeeds on every line that a table can hold. -/
theorem configure_isOk (table : LineTable) {pin : Pin} (h : pin.index < capacity) :
    ∃ lines, table.configure pin = .ok lines := by
  rw [configure, if_pos h]
  exact ⟨_, rfl⟩

/-- A line that is configured is one that a table can hold. -/
theorem index_lt_of_isConfigured {table : LineTable} {pin : Pin}
    (h : table.isConfigured pin = true) : pin.index < capacity := BitVec.lt_of_getLsbD h

/-- A line that has a level is configured. -/
theorem isConfigured_of_level {table : LineTable} {pin : Pin} {level : Level}
    (h : table.level pin = some level) : table.isConfigured pin = true := by
  rw [← isSome_level, h]
  rfl

/-- So it is one that a table can hold. -/
theorem index_lt_of_level {table : LineTable} {pin : Pin} {level : Level}
    (h : table.level pin = some level) : pin.index < capacity :=
  index_lt_of_isConfigured (isConfigured_of_level h)

/-- Setting succeeds on every configured line. -/
theorem set_isOk {table : LineTable} {pin : Pin} (h : table.isConfigured pin = true)
    (level : Level) : ∃ changed lines, table.set pin level = .ok (changed, lines) := by
  rw [set, if_pos (index_lt_of_isConfigured h), if_pos h]
  exact ⟨_, _, rfl⟩

/-- Setting succeeds on no other line. -/
theorem isConfigured_of_set {table next : LineTable} {pin : Pin} {level : Level} {changed : Bool}
    (h : table.set pin level = .ok (changed, next)) : table.isConfigured pin = true := by
  unfold set at h
  split at h
  case isFalse => cases h
  case isTrue =>
    split at h
    case isTrue hconfigured => exact hconfigured
    case isFalse => cases h

/-- A line of the table that has no level cannot be set. -/
theorem set_of_no_level {table : LineTable} {pin : Pin} (inside : pin.index < capacity)
    (h : table.level pin = none) (level : Level) :
    table.set pin level = .error (.notConfigured pin) := by
  have hnot : table.isConfigured pin = false := by
    rw [← isSome_level, h]
    rfl
  simp [set, inside, hnot]

/-- A line that has a level can be set, which changes it if the level is another. -/
theorem set_of_level {table : LineTable} {pin : Pin} {before : Level}
    (h : table.level pin = some before) (level : Level) :
    ∃ lines, table.set pin level = .ok (before != level, lines) := by
  obtain ⟨changed, lines, hset⟩ := set_isOk (isConfigured_of_level h) level
  have hchanged : changed = (before != level) := by
    rw [(level_set hset).1, h]
    rfl
  exact ⟨lines, hchanged ▸ hset⟩

/-- Setting replaces the level of its line, which it has. -/
theorem level_of_set {table next : LineTable} {pin : Pin} {level : Level} {changed : Bool}
    (h : table.set pin level = .ok (changed, next)) (other : Pin) :
    next.level other
      = if other = pin then (table.level other).map fun _ => level else table.level other := by
  rw [(level_set h).2 other]
  by_cases heq : other = pin
  · have hsome := table.isSome_level pin
    rw [isConfigured_of_set h] at hsome
    obtain ⟨before, hbefore⟩ := Option.isSome_iff_exists.mp hsome
    rw [heq, hbefore]
    rfl
  · simp only [heq, if_false]

end LineTable

namespace DriverTable

variable {δ ε ω : Type} {n : Nat}

/-- What configuring a pin can do to a table and a world. -/
inductive Configures (actions : DriverActions δ ε ω)
    (claim : Pin → ω → Except (DriveFault ε) δ × ω) (pin : Pin) (table : DriverTable δ n)
    (world : ω) : Except (DriveFault ε) Unit → DriverTable δ n → ω → Prop
  /-- The pin is outside of the table. -/
  | outside (outside : n ≤ pin.index) :
      Configures actions claim pin table world (.error (.refused (.noSuchPin pin.index))) table
        world
  /-- A driver that is held is driven low again. -/
  | drivenAgain {driver : δ} {lines : LineTable} {after : ω}
      (held : table.driver? pin = some driver)
      (driven : actions.drive driver .deasserted world = (.ok (), after))
      (configured : table.lines.configure pin = .ok lines) :
      Configures actions claim pin table world (.ok ()) { table with lines } after
  /-- A driver that is held fails. -/
  | failedAgain {driver : δ} {cause : ε} {after : ω}
      (held : table.driver? pin = some driver)
      (failed : actions.drive driver .deasserted world = (.error cause, after)) :
      Configures actions claim pin table world (.error (.driver pin cause)) table after
  /-- No driver can be claimed. -/
  | unclaimed {fault : DriveFault ε} {after : ω} (inside : pin.index < n)
      (free : table.driver? pin = none) (failed : claim pin world = (.error fault, after)) :
      Configures actions claim pin table world (.error fault) table after
  /-- A claimed driver is driven low and kept. -/
  | kept {driver : δ} {lines : LineTable} {between after : ω} (inside : pin.index < n)
      (free : table.driver? pin = none) (claimed : claim pin world = (.ok driver, between))
      (driven : actions.drive driver .deasserted between = (.ok (), after))
      (configured : table.lines.configure pin = .ok lines) :
      Configures actions claim pin table world (.ok ())
        { table with drivers := table.drivers.set pin.index (some driver), lines } after
  /-- A claimed driver fails and is given up. -/
  | givenUp {driver : δ} {cause : ε} {between after : ω} (inside : pin.index < n)
      (free : table.driver? pin = none) (claimed : claim pin world = (.ok driver, between))
      (failed : actions.drive driver .deasserted between = (.error cause, after)) :
      Configures actions claim pin table world (.error (.driver pin cause)) table
        (actions.release driver after)

/-- What writing a level to a pin can do to a table and a world. -/
inductive Writes (actions : DriverActions δ ε ω) (pin : Pin) (level : Level)
    (table : DriverTable δ n) (world : ω) :
    Except (DriveFault ε) Bool → DriverTable δ n → ω → Prop
  /-- The pin is not configured. -/
  | notConfigured (notConfigured : table.lines.isConfigured pin = false) :
      Writes actions pin level table world (.error (.refused (.notConfigured pin))) table world
  /-- The pin is configured, but no driver is held for it. -/
  | missing (configured : table.lines.isConfigured pin = true)
      (free : table.driver? pin = none) :
      Writes actions pin level table world (.error (.refused (.notConfigured pin))) table world
  /-- The driver that is held fails. -/
  | failed {driver : δ} {cause : ε} {after : ω} (configured : table.lines.isConfigured pin = true)
      (held : table.driver? pin = some driver)
      (failed : actions.drive driver level world = (.error cause, after)) :
      Writes actions pin level table world (.error (.driver pin cause)) table after
  /-- The driver that is held is driven. -/
  | driven {driver : δ} {changed : Bool} {lines : LineTable} {after : ω}
      (configured : table.lines.isConfigured pin = true)
      (held : table.driver? pin = some driver)
      (driven : actions.drive driver level world = (.ok (), after))
      (set : table.lines.set pin level = .ok (changed, lines)) :
      Writes actions pin level table world (.ok changed) { table with lines } after

section

variable (actions : DriverActions δ ε ω) (claim : Pin → ω → Except (DriveFault ε) δ × ω)
  (pin : Pin) (level : Level) (table : DriverTable δ n) (world : ω)

/-- Configuring follows a rule. -/
theorem configure_rule :
    Configures actions claim pin table world (table.configure actions claim pin world).1
      (table.configure actions claim pin world).2.1
      (table.configure actions claim pin world).2.2 := by
  unfold configure
  by_cases hin : pin.index < n
  case neg =>
    simp only [dif_neg hin]
    exact .outside (by omega)
  simp only [dif_pos hin]
  -- Every pin of the table has a line, so its configuration can be tracked.
  obtain ⟨lines, hlines⟩ := table.lines.configure_isOk (Nat.lt_of_lt_of_le hin table.fits)
  have hslot : table.driver? pin = table.drivers[pin.index] := by rw [driver?, dif_pos hin]
  cases hheld : table.drivers[pin.index] with
  | some driver =>
    rw [hheld] at hslot
    rcases hdrive : actions.drive driver .deasserted world with ⟨cause | _, after⟩
    · simp only [hdrive]
      exact .failedAgain hslot hdrive
    · simp only [hdrive, markConfigured, hlines]
      exact .drivenAgain hslot hdrive hlines
  | none =>
    rw [hheld] at hslot
    rcases hclaim : claim pin world with ⟨fault | driver, between⟩
    · exact .unclaimed hin hslot hclaim
    · rcases hdrive : actions.drive driver .deasserted between with ⟨cause | _, after⟩
      · simp only [hdrive]
        exact .givenUp hin hslot hclaim hdrive
      · simp only [hdrive, markConfigured, hlines]
        exact .kept hin hslot hclaim hdrive hlines

/-- Writing follows a rule. -/
theorem write_rule :
    Writes actions pin level table world (table.write actions pin level world).1
      (table.write actions pin level world).2.1 (table.write actions pin level world).2.2 := by
  unfold write
  cases hconfigured : table.lines.isConfigured pin with
  | false => exact .notConfigured hconfigured
  | true =>
    obtain ⟨changed, lines, hset⟩ := LineTable.set_isOk hconfigured level
    cases hheld : table.driver? pin with
    | none => exact .missing hconfigured hheld
    | some driver =>
      rcases hdrive : actions.drive driver level world with ⟨cause | _, after⟩
      · simp only [hdrive, if_true]
        exact .failed hconfigured hheld hdrive
      · simp only [hdrive, hset, if_true]
        exact .driven hconfigured hheld hdrive hset

end

section

variable {actions : DriverActions δ ε ω} {claim : Pin → ω → Except (DriveFault ε) δ × ω}
  {pin : Pin} {level : Level} {table next : DriverTable δ n} {world after : ω}

/-- A pin outside of a table has no driver. -/
theorem driver?_of_le (table : DriverTable δ n) (h : n ≤ pin.index) : table.driver? pin = none := by
  rw [driver?, dif_neg (by omega)]

/-- A pin for which a driver is held is inside of the table. -/
theorem index_lt_of_driver? {driver : δ} (h : table.driver? pin = some driver) :
    pin.index < n := by
  by_cases hin : pin.index < n
  · exact hin
  · rw [table.driver?_of_le (by omega)] at h
    cases h

/-- A driver that is put in a table is held for its pin, and the other drivers as before. -/
theorem driver?_set (table : DriverTable δ n) (inside : pin.index < n) (driver : δ)
    (lines : LineTable) (other : Pin) :
    { table with drivers := table.drivers.set pin.index (some driver), lines }.driver? other
      = if other = pin then some driver else table.driver? other := by
  unfold driver?
  by_cases hother : other.index < n
  · simp only [dif_pos hother, Vector.getElem_set]
    by_cases heq : other = pin
    · subst heq
      simp
    · have hne : pin.index ≠ other.index := fun h => heq (Pin.ext_index h.symm)
      simp [heq, hne]
  · have hne : other ≠ pin := fun h => hother (h ▸ inside)
    simp [hother, hne]

/-- Where a driver is held, it is what the table has in its slot. -/
theorem getElem_of_driver? {slot : Option δ} (inside : pin.index < n)
    (h : table.driver? pin = slot) : table.drivers[pin.index] = slot := by
  rw [← h, driver?, dif_pos inside]

/-- The rules say all that configuring does. -/
theorem Configures.eq {result : Except (DriveFault ε) Unit}
    (rule : Configures actions claim pin table world result next after) :
    table.configure actions claim pin world = (result, next, after) := by
  unfold configure
  cases rule with
  | outside outside =>
    have hout : ¬ pin.index < n := by omega
    simp only [dif_neg hout]
  | drivenAgain held driven configured =>
    have hin := index_lt_of_driver? held
    simp only [dif_pos hin, getElem_of_driver? hin held, driven, markConfigured, configured]
  | failedAgain held failed =>
    have hin := index_lt_of_driver? held
    simp only [dif_pos hin, getElem_of_driver? hin held, failed]
  | unclaimed inside free failed =>
    simp only [dif_pos inside, getElem_of_driver? inside free, failed]
  | kept inside free claimed driven configured =>
    simp only [dif_pos inside, getElem_of_driver? inside free, claimed, driven, markConfigured,
      configured]
  | givenUp inside free claimed failed =>
    simp only [dif_pos inside, getElem_of_driver? inside free, claimed, failed]

/-- The rules say all that writing does. -/
theorem Writes.eq {result : Except (DriveFault ε) Bool}
    (rule : Writes actions pin level table world result next after) :
    table.write actions pin level world = (result, next, after) := by
  unfold write
  cases rule with
  | notConfigured notConfigured => simp only [notConfigured, Bool.false_eq_true, if_false]
  | missing configured free => simp only [configured, if_true, free]
  | failed configured held failed => simp only [configured, if_true, held, failed]
  | driven configured held driven set => simp only [configured, if_true, held, driven, set]

/-- Configuring changes a level only if it succeeds, and then that of its pin alone. -/
theorem Configures.level_eq {result : Except (DriveFault ε) Unit} (other : Pin) :
    Configures actions claim pin table world result next after →
    next.level other = match result with
      | .ok () => if other = pin then some .deasserted else table.level other
      | .error _ => table.level other := by
  intro rule
  cases rule with
  | outside outside => rfl
  | drivenAgain held driven configured => exact LineTable.level_configure configured other
  | failedAgain held failed => rfl
  | unclaimed inside free failed => rfl
  | kept inside free claimed driven configured =>
    exact LineTable.level_configure configured other
  | givenUp inside free claimed failed => rfl

/-- Writing changes a level only if it succeeds, and then that of its pin alone. -/
theorem Writes.level_eq {result : Except (DriveFault ε) Bool} (other : Pin) :
    Writes actions pin level table world result next after →
    next.level other = match result with
      | .ok _ => if other = pin then (table.level other).map fun _ => level else table.level other
      | .error _ => table.level other := by
  intro rule
  cases rule with
  | notConfigured notConfigured => rfl
  | missing configured free => rfl
  | failed configured held failed => rfl
  | driven configured held driven set => exact LineTable.level_of_set set other

/-! ## Drivers and levels -/

/-- A driver is held for exactly the pins that have a level. -/
def Paired (table : DriverTable δ n) : Prop :=
  ∀ pin, (table.driver? pin).isSome = (table.level pin).isSome

theorem Paired.empty (fits : n ≤ LineTable.capacity) : (DriverTable.empty (δ := δ) fits).Paired := by
  intro pin
  rw [driver?_empty, level, DriverTable.empty, LineTable.level_empty]
  rfl

/-- A pin that has a level has a driver. -/
theorem Paired.driver_of_isConfigured (h : table.Paired)
    (hconfigured : table.lines.isConfigured pin = true) :
    ∃ driver, table.driver? pin = some driver := by
  have hsome := h pin
  rw [DriverTable.level, LineTable.isSome_level, hconfigured] at hsome
  exact Option.isSome_iff_exists.mp hsome

/-- A pin that has a driver is configured. -/
theorem Paired.isConfigured_of_driver {driver : δ} (h : table.Paired)
    (held : table.driver? pin = some driver) : table.lines.isConfigured pin = true := by
  rw [← LineTable.isSome_level]
  have hsome := h pin
  rw [held] at hsome
  exact hsome.symm

/-- Configuring leaves a driver for exactly the pins that have a level. -/
theorem Paired.of_configures {result : Except (DriveFault ε) Unit} (h : table.Paired)
    (rule : Configures actions claim pin table world result next after) : next.Paired := by
  intro other
  have hlevel := rule.level_eq other
  cases rule with
  | outside outside => exact h other
  | failedAgain held failed => exact h other
  | unclaimed inside free failed => exact h other
  | givenUp inside free claimed failed => exact h other
  | drivenAgain held driven configured =>
    rw [hlevel]
    by_cases heq : other = pin
    · rw [if_pos heq, heq]
      exact congrArg Option.isSome held
    · rw [if_neg heq]
      exact h other
  | kept inside free claimed driven configured =>
    rw [hlevel, driver?_set table inside]
    by_cases heq : other = pin
    · rw [if_pos heq, if_pos heq]
      rfl
    · rw [if_neg heq, if_neg heq]
      exact h other

/-- So does writing. -/
theorem Paired.of_writes {result : Except (DriveFault ε) Bool} (h : table.Paired)
    (rule : Writes actions pin level table world result next after) : next.Paired := by
  intro other
  have hlevel := rule.level_eq other
  cases rule with
  | notConfigured notConfigured => exact h other
  | missing configured free => exact h other
  | failed configured held failed => exact h other
  | driven configured held driven set =>
    rw [hlevel]
    by_cases heq : other = pin
    · rw [if_pos heq, Option.isSome_map]
      exact h other
    · rw [if_neg heq]
      exact h other

end

end DriverTable

end PilotLamp
