import PilotLamp.Proofs.BusDiscipline
import PilotLamp.Proofs.RecorderHistory

/-!
# Registers that a change leaves as they are

A file of registers has few places, and a register for which there is none reads zero and drops
what is written to it. A change that is the same made once or twice is settled once it was made,
whether it found a place or was dropped, and stays settled while other registers change. Preparing
a line makes three such changes, so preparing it again leaves the file as it is. The log and the
overflow, to which every access adds, are out of scope.
-/

namespace PilotLamp

namespace BusRecorder

/-! ## Changes to a file of registers -/

section

variable {file : List (Register × Word)} {register other : Register} {f g : Word → Word}

/-- The word of a register in a file, zero if the file has none. -/
def wordIn (file : List (Register × Word)) (register : Register) : Word :=
  (file.lookup register).getD 0

/-- A file once the word of a register was changed: a register of the file has the new word,
another takes a free place if there is one, and else nothing changes. -/
def changeIn (file : List (Register × Word)) (register : Register) (f : Word → Word) :
    List (Register × Word) :=
  if (file.lookup register).isSome then replace register (f (wordIn file register)) file
  else if file.length < registerCapacity then file ++ [(register, f (wordIn file register))]
  else file

/-- A register that is not in a file has no word. -/
theorem lookup_of_notMem (h : register ∉ file.map Prod.fst) : file.lookup register = none := by
  rw [← Option.not_isSome_iff_eq_none, isSome_lookup_iff]
  exact h

/-- The word of a register of the file is replaced. -/
theorem changeIn_of_mem (h : register ∈ file.map Prod.fst) :
    changeIn file register f = replace register (f (wordIn file register)) file :=
  if_pos (isSome_lookup_iff.mpr h)

/-- A new register takes a free place. -/
theorem changeIn_of_room (h : register ∉ file.map Prod.fst)
    (room : file.length < registerCapacity) :
    changeIn file register f = file ++ [(register, f (wordIn file register))] := by
  rw [changeIn, if_neg (mt isSome_lookup_iff.mp h), if_pos room]

/-- A new register is dropped where there is no place. -/
theorem changeIn_of_full (h : register ∉ file.map Prod.fst)
    (full : registerCapacity ≤ file.length) : changeIn file register f = file := by
  rw [changeIn, if_neg (mt isSome_lookup_iff.mp h), if_neg (Nat.not_lt.mpr full)]

/-- Of two words put in place of one, the later stays. -/
theorem replace_replace (first second : Word) (file : List (Register × Word)) :
    replace register second (replace register first file) = replace register second file := by
  induction file with
  | nil => rfl
  | cons entry rest ih =>
    obtain ⟨held, old⟩ := entry
    by_cases heq : held = register
    · simp [replace, heq]
    · simp [replace, heq, ih]

/-- The word of a new register is put in place of the one that came with it. -/
theorem replace_concat (h : register ∉ file.map Prod.fst) (first second : Word) :
    replace register second (file ++ [(register, first)]) = file ++ [(register, second)] := by
  induction file with
  | nil => simp [replace]
  | cons entry rest ih =>
    obtain ⟨held, old⟩ := entry
    rw [List.map_cons, List.mem_cons, not_or] at h
    rw [List.cons_append, replace, if_neg (Ne.symm h.1), ih h.2, List.cons_append]

/-- A word that is put in place of itself changes nothing. -/
theorem replace_lookup {word : Word} (h : file.lookup register = some word) :
    replace register word file = file := by
  induction file with
  | nil => rfl
  | cons entry rest ih =>
    obtain ⟨held, old⟩ := entry
    rw [List.lookup_cons] at h
    by_cases heq : held = register
    · subst heq
      rw [BEq.rfl] at h
      rw [replace, if_pos rfl, Option.some.inj h]
    · rw [beq_false_of_ne (Ne.symm heq)] at h
      rw [replace, if_neg heq, ih h]

/-- Two changes of one register are one. -/
theorem changeIn_changeIn :
    changeIn (changeIn file register f) register g
      = changeIn file register fun word => g (f word) := by
  by_cases hmem : register ∈ file.map Prod.fst
  · have hword : wordIn (replace register (f (wordIn file register)) file) register
        = f (wordIn file register) := by
      rw [wordIn, lookup_replace hmem, if_pos rfl, Option.getD_some]
    rw [changeIn_of_mem hmem, changeIn_of_mem (by rwa [map_fst_replace]), changeIn_of_mem hmem,
      hword, replace_replace]
  · rcases Nat.lt_or_ge file.length registerCapacity with hroom | hfull
    · have hlast : register ∈ (file ++ [(register, f (wordIn file register))]).map Prod.fst := by
        simp
      have hword : wordIn (file ++ [(register, f (wordIn file register))]) register
          = f (wordIn file register) := by
        rw [wordIn, List.lookup_append, lookup_of_notMem hmem]
        simp
      rw [changeIn_of_room hmem hroom, changeIn_of_mem hlast, changeIn_of_room hmem hroom, hword,
        replace_concat hmem]
    · rw [changeIn_of_full hmem hfull, changeIn_of_full hmem hfull, changeIn_of_full hmem hfull]

/-- The other registers have the words that they had. -/
theorem lookup_changeIn_other (h : other ≠ register) :
    (changeIn file register f).lookup other = file.lookup other := by
  by_cases hmem : register ∈ file.map Prod.fst
  · rw [changeIn_of_mem hmem, lookup_replace hmem, if_neg h]
  · rcases Nat.lt_or_ge file.length registerCapacity with hroom | hfull
    · rw [changeIn_of_room hmem hroom, List.lookup_append]
      simp [List.lookup_cons, beq_false_of_ne h]
    · rw [changeIn_of_full hmem hfull]

/-- No change makes a file shorter. -/
theorem length_le_changeIn : file.length ≤ (changeIn file register f).length := by
  by_cases hmem : register ∈ file.map Prod.fst
  · have hsame : ((replace register (f (wordIn file register)) file).map Prod.fst).length
        = (file.map Prod.fst).length := by rw [map_fst_replace]
    rw [List.length_map, List.length_map] at hsame
    rw [changeIn_of_mem hmem, hsame]
  · rcases Nat.lt_or_ge file.length registerCapacity with hroom | hfull
    · rw [changeIn_of_room hmem hroom, List.length_append]
      exact Nat.le_add_right _ _
    · rw [changeIn_of_full hmem hfull]

/-! ## Settled changes -/

/-- A change of a register leaves a file as it is. -/
def Settled (file : List (Register × Word)) (register : Register) (f : Word → Word) : Prop :=
  changeIn file register f = file

/-- That is so if the register has a word that the change keeps, or there is no place for it. -/
theorem settled_iff :
    Settled file register f ↔
      match file.lookup register with
      | some word => f word = word
      | none => registerCapacity ≤ file.length := by
  unfold Settled
  cases hlookup : file.lookup register with
  | some word =>
    have hmem : register ∈ file.map Prod.fst := isSome_lookup_iff.mp (hlookup ▸ rfl)
    have hword : wordIn file register = word := by rw [wordIn, hlookup, Option.getD_some]
    rw [changeIn_of_mem hmem, hword]
    constructor
    · intro h
      have hreplaced : (replace register (f word) file).lookup register = some (f word) := by
        rw [lookup_replace hmem, if_pos rfl]
      rw [h, hlookup] at hreplaced
      exact (Option.some.inj hreplaced).symm
    · intro h
      rw [h]
      exact replace_lookup hlookup
  | none =>
    have hmem : register ∉ file.map Prod.fst := fun hmem => by
      have hsome := isSome_lookup_iff.mpr hmem
      rw [hlookup] at hsome
      cases hsome
    rcases Nat.lt_or_ge file.length registerCapacity with hroom | hfull
    · rw [changeIn_of_room hmem hroom]
      simp [Nat.not_le.mpr hroom]
    · rw [changeIn_of_full hmem hfull]
      simp [hfull]

/-- A change that is the same made once or twice is settled once it was made. -/
theorem settled_changeIn (h : ∀ word, f (f word) = f word) :
    Settled (changeIn file register f) register f := by
  rw [Settled, changeIn_changeIn]
  simp only [h]

/-- A settled change stays settled while another register changes. -/
theorem Settled.changeIn_other (h : Settled file register f) (hne : register ≠ other) :
    Settled (changeIn file other g) register f := by
  rw [settled_iff] at h ⊢
  rw [lookup_changeIn_other hne]
  cases hlookup : file.lookup register with
  | some word => simpa only [hlookup] using h
  | none =>
    rw [hlookup] at h
    exact Nat.le_trans h length_le_changeIn

end

/-! ## Accesses as changes -/

section

variable (recorder : BusRecorder) (register : Register)

/-- Writing changes the register that is written. -/
theorem held_write (value : Word) :
    (bus.write register value recorder).held
      = changeIn recorder.held register fun _ => value := by
  change ((recorder.hold register value).note _).held = _
  rw [held_note, hold, changeIn]
  split
  · rfl
  · split <;> rfl

/-- Reading changes no register. -/
theorem held_read : (bus.read register recorder).2.held = recorder.held := held_note

/-- Modifying changes the register by the function that it is modified with. -/
theorem held_modify (f : Word → Word) :
    (bus.modify register f recorder).held = changeIn recorder.held register f := by
  have hword : (bus.read register recorder).1 = wordIn recorder.held register := rfl
  change (bus.write register (f (bus.read register recorder).1)
    (bus.read register recorder).2).held = _
  rw [held_write, held_read, hword]
  rfl

end

end BusRecorder

/-! ## Lines that are prepared again -/

namespace Stm32f4

open BusRecorder

/-- A line that became an output does so again without a change. -/
theorem withOutput_withOutput (line : Nat) (word : Word) :
    Port.withOutput line (Port.withOutput line word) = Port.withOutput line word := by
  apply BitVec.eq_of_getLsbD_eq
  intro n hn
  simp only [Port.withOutput, BitVec.getLsbD_or, BitVec.getLsbD_and, BitVec.getLsbD_not]
  cases (Port.modeMask line).getLsbD n <;> cases (Port.outputMode line).getLsbD n <;> simp [hn]

/-- What a prepared line leaves of a file of registers: its port has a clock, it is an output and
it is reset, as far as those registers find a place. -/
def preparedFile (port : Port) (line : Nat) (file : List (Register × Word)) :
    List (Register × Word) :=
  changeIn (changeIn (changeIn file Port.clockEnable (· ||| port.clockBit)) port.mode
    (Port.withOutput line)) port.setReset fun _ => Port.resetWord line

/-- The mode of the line is cleared and set, which is one change. -/
theorem held_prepareLine (port : Port) (line : Nat) (recorder : BusRecorder) :
    (prepareLine BusRecorder.bus port line recorder).held
      = preparedFile port line recorder.held := by
  simp only [prepareLine, held_write, held_modify, changeIn_changeIn]
  rfl

/-- Preparing a line again changes no register. -/
theorem preparedFile_preparedFile (port : Port) (line : Nat) (file : List (Register × Word)) :
    preparedFile port line (preparedFile port line file) = preparedFile port line file := by
  have hclock : Settled (preparedFile port line file) Port.clockEnable (· ||| port.clockBit) := by
    have henabled : Settled (changeIn file Port.clockEnable (· ||| port.clockBit))
        Port.clockEnable (· ||| port.clockBit) :=
      settled_changeIn fun word => by rw [BitVec.or_assoc, BitVec.or_self]
    unfold preparedFile
    exact (henabled.changeIn_other port.mode_ne_clockEnable.symm).changeIn_other
      (setReset_ne_clockEnable port).symm
  have hmode : Settled (preparedFile port line file) port.mode (Port.withOutput line) := by
    unfold preparedFile
    exact (settled_changeIn (withOutput_withOutput line)).changeIn_other port.mode_ne_setReset
  have hreset : Settled (preparedFile port line file) port.setReset
      fun _ => Port.resetWord line := by
    unfold preparedFile
    exact settled_changeIn fun _ => rfl
  generalize preparedFile port line file = prepared at hclock hmode hreset ⊢
  rw [Settled] at hclock hmode hreset
  rw [preparedFile, hclock, hmode, hreset]

end Stm32f4

end PilotLamp
