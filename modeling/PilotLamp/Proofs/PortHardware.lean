import PilotLamp.PortRegisters
import Mathlib.Data.BitVec

/-!
# The hardware behind the registers of output ports

Reference hardware for the nine ports: every register holds a word, and the registers of a port
answer only while its clock runs. The output register of a port follows stores to its set-reset
register and nothing else. Lines that are inputs or belong to another function, and the time that
a clock needs to start, are out of scope.
-/

namespace PilotLamp

namespace Port

/-- Every port. -/
def all : List Port := [a, b, c, d, e, f, g, h, i]

/-- The register whose low half holds what a port puts on its lines. -/
def output (port : Port) : Register := .offset port.base 0x14

/-- The bytes from the first register of a port to the first of the next. -/
def blockBytes : Nat := 0x400

/-- The port that a register belongs to. -/
def owner? (register : Register) : Option Port :=
  all.find? fun port =>
    decide (port.base ≤ register.address ∧ register.address < port.base + blockBytes)

/-- Whether the clock of a port runs. -/
def clocked (port : Port) (memory : FlatMemory) : Bool :=
  (memory clockEnable).getLsbD port.index

/-- An output word after a store to the set-reset register: the high half of the stored word
resets lines and the low half sets lines; a line that is both set and reset is set. -/
def outputAfter (stored output : Word) : Word :=
  (output &&& ~~~(stored.extractLsb' width width).setWidth 32)
    ||| (stored.extractLsb' 0 width).setWidth 32

/-- The ports as hardware: without its clock a port reads zero and ignores stores. -/
def hardware : RegisterBus FlatMemory where
  read register memory :=
    match owner? register with
    | none => (memory register, memory)
    | some port =>
      if port.clocked memory ∧ register ≠ port.setReset then (memory register, memory)
      else (0, memory)
  write register value memory :=
    match owner? register with
    | none => memory.store register value
    | some port =>
      if port.clocked memory then
        if register = port.setReset then
          memory.store port.output (outputAfter value (memory port.output))
        else if register = port.output then memory
        else memory.store register value
      else memory

/-- The mode of a line in a mode word. -/
def modeOf (line : Nat) (word : Word) : BitVec 2 := word.extractLsb' (2 * line) 2

/-- A mode word in which a line became an output. -/
def withOutput (line : Nat) (word : Word) : Word := word &&& ~~~modeMask line ||| outputMode line

/-! ## Registers -/

theorem owner?_clockEnable : owner? clockEnable = none := by decide

theorem owner?_mode (port : Port) : owner? port.mode = some port := by cases port <;> decide

theorem owner?_setReset (port : Port) : owner? port.setReset = some port := by
  cases port <;> decide

theorem mode_ne_setReset (port : Port) : port.mode ≠ port.setReset := by cases port <;> decide

theorem mode_ne_output (port : Port) : port.mode ≠ port.output := by cases port <;> decide

theorem mode_ne_clockEnable (port : Port) : port.mode ≠ clockEnable := by cases port <;> decide

theorem output_ne_clockEnable (port : Port) : port.output ≠ clockEnable := by
  cases port <;> decide

/-! ## Accesses -/

section

variable {port : Port} {memory : FlatMemory}

/-- The clock enable register is read and written like any word. -/
theorem modify_clockEnable (f : Word → Word) (memory : FlatMemory) :
    hardware.modify clockEnable f memory
      = memory.store clockEnable (f (memory clockEnable)) := by
  simp only [RegisterBus.modify, hardware, owner?_clockEnable]

/-- So is the mode register of a port whose clock runs. -/
theorem modify_mode (h : port.clocked memory = true) (f : Word → Word) :
    hardware.modify port.mode f memory = memory.store port.mode (f (memory port.mode)) := by
  have hread : port.clocked memory = true ∧ port.mode ≠ port.setReset :=
    ⟨h, port.mode_ne_setReset⟩
  simp only [RegisterBus.modify, hardware, owner?_mode, if_pos hread, if_pos h,
    if_neg port.mode_ne_setReset, if_neg port.mode_ne_output]

/-- A store to the set-reset register of such a port changes its output register. -/
theorem write_setReset (h : port.clocked memory = true) (value : Word) :
    hardware.write port.setReset value memory
      = memory.store port.output (outputAfter value (memory port.output)) := by
  simp only [hardware, owner?_setReset, if_pos h, if_true]

/-- The clock bit of a port is at its place among the ports. -/
theorem getLsbD_clockBit (port : Port) : port.clockBit.getLsbD port.index = true := by
  cases port <;> decide

/-- A clock that is enabled runs. -/
theorem clocked_store_clockEnable (port : Port) (memory : FlatMemory) (word : Word) :
    port.clocked (memory.store clockEnable (word ||| port.clockBit)) = true := by
  rw [clocked, FlatMemory.store_same, BitVec.getLsbD_or, port.getLsbD_clockBit, Bool.or_true]

/-- Changing another register leaves the clocks alone. -/
theorem clocked_store_other {register : Register} (h : register ≠ clockEnable) (value : Word) :
    port.clocked (memory.store register value) = port.clocked memory := by
  rw [clocked, FlatMemory.store_other memory value h.symm, clocked]

end

/-! ## Words -/

section

variable {line : Nat}

/-- The mode bits of a line are the two at its shift. -/
theorem getLsbD_modeMask (h : line < width) (n : Nat) :
    (modeMask line).getLsbD n = decide (n = 2 * line ∨ n = 2 * line + 1) := by
  have hline : line < 16 := h
  have hthree : (3#32).getLsbD (n - 2 * line) = decide (n - 2 * line < 2) := by
    rcases n - 2 * line with _ | _ | later
    · rfl
    · rfl
    · simp [BitVec.getLsbD_ofNat, Nat.testBit_add]
  rw [modeMask, modeShift, BitVec.getLsbD_shiftLeft, hthree, ← decide_not, ← Bool.decide_and,
    ← Bool.decide_and]
  exact decide_eq_decide.mpr (by omega)

theorem getLsbD_outputMode (h : line < width) (n : Nat) :
    (outputMode line).getLsbD n = decide (n = 2 * line) := by
  have hline : line < 16 := h
  rw [outputMode, modeShift, ← BitVec.twoPow_eq, BitVec.getLsbD_twoPow, ← Bool.decide_and]
  exact decide_eq_decide.mpr (by omega)

/-- Making a line an output sets the low one of its two mode bits and clears the high one. -/
theorem getLsbD_withOutput (h : line < width) (word : Word) (n : Nat) :
    (withOutput line word).getLsbD n
      = if n = 2 * line then true else if n = 2 * line + 1 then false else word.getLsbD n := by
  rw [withOutput, BitVec.getLsbD_or, BitVec.getLsbD_and, BitVec.getLsbD_not,
    getLsbD_modeMask h, getLsbD_outputMode h]
  by_cases hlow : n = 2 * line
  · simp [hlow]
  · by_cases hhigh : n = 2 * line + 1
    · simp [hhigh]
    · have hbit : word.getLsbD n = true → n < 32 := BitVec.lt_of_getLsbD
      cases hword : word.getLsbD n with
      | false => simp [hlow, hhigh]
      | true => simp [hlow, hhigh, hbit hword]

/-- Making a line an output changes the mode of that line alone. -/
theorem modeOf_withOutput (h : line < width) (other : Nat) (word : Word) :
    modeOf other (withOutput line word) = if other = line then 0b01#2 else modeOf other word := by
  apply BitVec.eq_of_getLsbD_eq
  intro position hposition
  rw [modeOf, BitVec.getLsbD_extractLsb', getLsbD_withOutput h]
  by_cases heq : other = line
  · subst heq
    obtain rfl | rfl : position = 0 ∨ position = 1 := by omega
    · simp
    · simp
  · have hlow : 2 * other + position ≠ 2 * line := by omega
    have hhigh : 2 * other + position ≠ 2 * line + 1 := by omega
    rw [if_neg hlow, if_neg hhigh, if_neg heq, modeOf, BitVec.getLsbD_extractLsb']

/-- The word that brings a line to a level has a single bit, in its low or its high half. -/
theorem getLsbD_levelWord (h : line < width) (lit : Bool) (n : Nat) :
    (levelWord line lit).getLsbD n = decide (n = if lit then line else line + width) := by
  have hline : line < 16 := h
  unfold levelWord setWord resetWord width
  cases lit with
  | true =>
    rw [if_pos rfl, ← BitVec.twoPow_eq, BitVec.getLsbD_twoPow, ← Bool.decide_and, if_pos rfl]
    exact decide_eq_decide.mpr (by omega)
  | false =>
    rw [if_neg nofun, ← BitVec.twoPow_eq, BitVec.getLsbD_twoPow, ← Bool.decide_and, if_neg nofun]
    exact decide_eq_decide.mpr (by omega)

/-- Storing it changes what the port puts on that line alone. -/
theorem getLsbD_outputAfter_levelWord (h : line < width) (lit : Bool) (word : Word)
    (other : Nat) :
    (outputAfter (levelWord line lit) word).getLsbD other
      = if other = line then lit else word.getLsbD other := by
  have hline : line < 16 := h
  have hword : word.getLsbD other = true → other < 32 := BitVec.lt_of_getLsbD
  simp only [outputAfter, BitVec.getLsbD_or, BitVec.getLsbD_and, BitVec.getLsbD_not,
    BitVec.getLsbD_setWidth, BitVec.getLsbD_extractLsb', getLsbD_levelWord h, width]
  by_cases heq : other = line
  · subst heq
    cases lit <;> simp <;> omega
  · rw [if_neg heq]
    cases lit <;> cases hbit : word.getLsbD other <;> simp [hbit] at hword ⊢ <;> omega

end

end Port

end PilotLamp
