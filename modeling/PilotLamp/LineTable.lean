import PilotLamp.Pin

/-!
# The logical state of configured lines

Two words of 64 bits hold, for every line, whether it is configured and whether it is asserted.
Configuring a line leaves it deasserted; setting it tells whether its level changed. An operation
that is refused yields no table, so its caller keeps the one it had.
-/

namespace PilotLamp

/-- Which lines are configured, and which of those are asserted. -/
structure LineTable where
  /-- Bit `n` is set once line `n` is configured. -/
  configured : BitVec 64
  /-- Bit `n` is set while line `n` is asserted. -/
  asserted : BitVec 64
deriving DecidableEq, Repr

namespace LineTable

/-- The number of lines that a table can hold. -/
def capacity : Nat := 64

/-- The table in which no line is configured. -/
def empty : LineTable := ⟨0, 0⟩

/-- The mask that selects one line. -/
def bit (pin : Pin) : BitVec 64 := BitVec.twoPow 64 pin.index

/-- Whether a line is configured. -/
def isConfigured (table : LineTable) (pin : Pin) : Bool := table.configured.getLsbD pin.index

/-- The level of a configured line. -/
def level (table : LineTable) (pin : Pin) : Option Level :=
  if table.isConfigured pin then some (.ofBool (table.asserted.getLsbD pin.index)) else none

/-- Makes a line configured and deasserted. -/
def configure (table : LineTable) (pin : Pin) : Except PinError LineTable :=
  if pin.index < capacity then
    .ok ⟨table.configured ||| bit pin, table.asserted &&& ~~~bit pin⟩
  else .error (.noSuchPin pin.index)

/-- The mask of asserted lines once one line has a given level. -/
def assertedAfter (table : LineTable) (pin : Pin) : Level → BitVec 64
  | .asserted => table.asserted ||| bit pin
  | .deasserted => table.asserted &&& ~~~bit pin

/-- Sets the level of a configured line and tells whether that changed it. -/
def set (table : LineTable) (pin : Pin) (level : Level) : Except PinError (Bool × LineTable) :=
  if pin.index < capacity then
    if table.isConfigured pin then
      .ok (table.level pin != some level, { table with asserted := table.assertedAfter pin level })
    else .error (.notConfigured pin)
  else .error (.noSuchPin pin.index)

/-- The configured lines with their levels, ascending. -/
def states (table : LineTable) : List (Pin × Level) :=
  Pin.all.filterMap fun pin => (table.level pin).map (pin, ·)

/-- The mask of a line selects that line alone. -/
theorem getLsbD_bit (pin : Pin) (n : Nat) :
    (bit pin).getLsbD n = (decide (pin.index < capacity) && decide (n = pin.index)) := by
  simp only [bit, BitVec.getLsbD_twoPow, capacity]
  congr 1
  simp [eq_comm]

/-- No line is configured at first. -/
theorem level_empty (pin : Pin) : empty.level pin = none := by
  simp [level, isConfigured, empty]

/-- Numbers past the capacity never have a level. -/
theorem level_eq_none_of_capacity_le (table : LineTable) {pin : Pin} (h : capacity ≤ pin.index) :
    table.level pin = none := by
  have hwide : 64 ≤ pin.index := h
  rw [level, isConfigured, BitVec.getLsbD_of_ge _ _ hwide]
  rfl

/-- A line has a level exactly if it is configured. -/
theorem isSome_level (table : LineTable) (pin : Pin) :
    (table.level pin).isSome = table.isConfigured pin := by
  unfold level; split <;> simp_all

/-- Configuring succeeds exactly on the lines that a table can hold. -/
theorem configure_eq_error_iff {table : LineTable} {pin : Pin} {error : PinError} :
    table.configure pin = .error error ↔ capacity ≤ pin.index ∧ error = .noSuchPin pin.index := by
  unfold configure
  split <;> simp <;> first | omega | exact fun _ => by omega | skip
  constructor
  · rintro rfl; exact ⟨by omega, rfl⟩
  · rintro ⟨_, rfl⟩; rfl

/-- After configuring, the line is deasserted and the others are as before. -/
theorem level_configure {table next : LineTable} {pin : Pin} (h : table.configure pin = .ok next)
    (other : Pin) :
    next.level other = if other = pin then some .deasserted else table.level other := by
  unfold configure at h
  split at h
  case isTrue hlt =>
    obtain rfl := Except.ok.inj h
    by_cases hp : other = pin
    · subst hp
      simp [level, isConfigured, getLsbD_bit, hlt, Level.ofBool]
    · have hne : other.index ≠ pin.index := fun e => hp (Pin.ext_index e)
      simp only [level, isConfigured, BitVec.getLsbD_or, BitVec.getLsbD_and, BitVec.getLsbD_not,
        getLsbD_bit, hne, hp, decide_false, Bool.and_false, Bool.or_false, Bool.not_false,
        Bool.and_true, if_false]
      by_cases hc : table.configured.getLsbD other.index
      · have : other.index < 64 := BitVec.lt_of_getLsbD hc
        simp [this]
      · simp [hc]
  case isFalse => simp at h

/-- After setting, the line has the level asked for and the others are as before; the answer
tells whether the level differs from the one before. -/
theorem level_set {table next : LineTable} {pin : Pin} {lvl : Level} {changed : Bool}
    (h : table.set pin lvl = .ok (changed, next)) :
    changed = (table.level pin != some lvl) ∧
      ∀ other, next.level other = if other = pin then some lvl else table.level other := by
  unfold set at h
  split at h
  case isFalse => simp at h
  case isTrue hlt =>
    split at h
    case isFalse => simp at h
    case isTrue hc =>
      simp only [Except.ok.injEq, Prod.mk.injEq] at h
      obtain ⟨rfl, rfl⟩ := h
      refine ⟨rfl, fun other => ?_⟩
      have hc' : table.configured.getLsbD pin.index = true := hc
      by_cases hp : other = pin
      · subst hp
        cases lvl <;> simp [level, isConfigured, assertedAfter, getLsbD_bit, hlt, hc', Level.ofBool]
      · have hne : other.index ≠ pin.index := fun e => hp (Pin.ext_index e)
        have hbit : (bit pin).getLsbD other.index = false := by simp [getLsbD_bit, hne]
        have hsame : (table.assertedAfter pin lvl).getLsbD other.index
            = table.asserted.getLsbD other.index := by
          cases lvl
          · simp only [assertedAfter, BitVec.getLsbD_and, BitVec.getLsbD_not, hbit]
            by_cases ho : table.asserted.getLsbD other.index
            · simp [BitVec.lt_of_getLsbD ho]
            · simp [ho]
          · simp only [assertedAfter, BitVec.getLsbD_or, hbit, Bool.or_false]
        rw [if_neg hp]
        simp only [level, isConfigured, hsame]
        rfl

end LineTable

end PilotLamp
