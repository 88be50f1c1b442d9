import PilotLamp.Proofs.BusTraces
import Mathlib.Data.List.Basic
import Mathlib.Data.List.Induction

/-!
# What a recorder tells of its history

A recorder has room for few registers and few accesses, and one flag for both. Here it is compared
with the whole history of the operations on it, for which there is no limit: which registers it
holds, what they read, which accesses are logged, and when the flag is set are all told from that
history. While the flag is not set, the logged writes lead from what the registers held when the
log was cleared to what they hold. Which accesses a backend makes is out of scope.
-/

namespace PilotLamp.BusRecorder

open BusAccess (stores stores_concat_read stores_concat_write)

/-! ## What a history tells -/

/-- The registers that were written first, as many as can be held. -/
def firstWritten (accesses : List BusAccess) : List Register :=
  ((stores accesses).map Prod.fst).eraseDups.take registerCapacity

/-- The word that was last written to a register, if any was. -/
def lastWritten? (accesses : List BusAccess) (register : Register) : Option Word :=
  (stores accesses).reverse.lookup register

/-- What the registers read after some accesses: the word written last, or zero for a register that
is not among those that were written first. -/
def recalled (accesses : List BusAccess) : FlatMemory := fun register =>
  if register ∈ firstWritten accesses then (lastWritten? accesses register).getD 0 else 0

/-- A write to a register finds as many others held as there can be. -/
def NoPlace (earlier : List BusAccess) (register : Register) : Prop :=
  register ∉ firstWritten earlier ∧ (firstWritten earlier).length = registerCapacity

/-- After some accesses there is a write that finds no place. -/
def Crowded (before since : List BusAccess) : Prop :=
  ∃ earlier register value later,
    since = earlier ++ .write register value :: later ∧ NoPlace (before ++ earlier) register

section

variable (accesses before since : List BusAccess) (register : Register) (value : Word)

/-- The registers held once a place was looked for another one. -/
def enlist (registers : List Register) (register : Register) : List Register :=
  if register ∈ registers ∨ registerCapacity ≤ registers.length then registers
  else registers ++ [register]

theorem firstWritten_concat_read :
    firstWritten (accesses ++ [.read register value]) = firstWritten accesses := by
  rw [firstWritten, stores_concat_read, firstWritten]

/-- Of equal entries the first stays, so one more entry matters only if it is a new one. -/
theorem eraseDups_concat (registers : List Register) (register : Register) :
    (registers ++ [register]).eraseDups
      = if register ∈ registers then registers.eraseDups
        else registers.eraseDups ++ [register] := by
  have hsingle : [register].eraseDups = [register] := by
    rw [List.eraseDups_cons, List.filter_nil, List.eraseDups_nil]
  rw [List.eraseDups_append, List.removeAll, List.filter_singleton]
  by_cases h : register ∈ registers
  · rw [if_pos h, List.elem_eq_true_of_mem h]
    exact List.append_nil _
  · have helem : List.elem register registers = false := by
      rw [List.elem_eq_contains, List.contains_eq_mem]
      exact decide_eq_false h
    rw [if_neg h, helem, Bool.not_false, cond_true, hsingle]

/-- A register that is written takes a place unless it has one or there is none. -/
theorem firstWritten_concat_write :
    firstWritten (accesses ++ [.write register value])
      = enlist (firstWritten accesses) register := by
  unfold firstWritten enlist
  rw [stores_concat_write, List.map_append, List.map_singleton, eraseDups_concat,
    List.length_take]
  simp only [← List.mem_eraseDups (l := (stores accesses).map Prod.fst)]
  generalize ((stores accesses).map Prod.fst).eraseDups = registers
  by_cases hfull : registerCapacity ≤ registers.length
  · have hplaces : register ∈ registers.take registerCapacity ∨
        registerCapacity ≤ min registerCapacity registers.length := .inr (by omega)
    rw [if_pos hplaces]
    split
    · rfl
    · exact List.take_append_of_le_length hfull
  · have hall : registers.take registerCapacity = registers :=
      List.take_of_length_le (Nat.le_of_not_le hfull)
    have hmin : ¬ registerCapacity ≤ min registerCapacity registers.length := by omega
    rw [hall]
    by_cases hmem : register ∈ registers
    · rw [if_pos hmem, if_pos (.inl hmem), hall]
    · have hlength : (registers ++ [register]).length ≤ registerCapacity := by
        rw [List.length_append, List.length_singleton]
        omega
      rw [if_neg hmem, if_neg (not_or.mpr ⟨hmem, hmin⟩), List.take_of_length_le hlength]

theorem length_firstWritten_le : (firstWritten accesses).length ≤ registerCapacity :=
  List.length_take_le _ _

theorem lastWritten?_concat_read (other : Register) :
    lastWritten? (accesses ++ [.read register value]) other = lastWritten? accesses other := by
  rw [lastWritten?, stores_concat_read, lastWritten?]

theorem lastWritten?_concat_write (other : Register) :
    lastWritten? (accesses ++ [.write register value]) other
      = if other = register then some value else lastWritten? accesses other := by
  rw [lastWritten?, stores_concat_write, List.reverse_append, List.reverse_singleton,
    List.singleton_append, List.lookup_cons, lastWritten?]
  by_cases h : other = register
  · simp [h]
  · simp [h, beq_false_of_ne h]

/-- Everything fits as long as there is no access. -/
theorem all_fit_nil : ¬ (logCapacity < ([] : List BusAccess).length ∨ Crowded before []) := by
  rintro (hlong | ⟨earlier, register, value, later, hsplit, -⟩)
  · cases hlong
  · cases earlier <;> cases hsplit

/-- A read needs no place. -/
theorem crowded_concat_read :
    Crowded before (since ++ [.read register value]) ↔ Crowded before since := by
  constructor
  · rintro ⟨earlier, other, word, later, hsplit, hplace⟩
    rcases concat_eq_append_cons_iff.mp hsplit with ⟨rest, -, rfl⟩ | ⟨-, -, hlast⟩
    · exact ⟨earlier, other, word, rest, rfl, hplace⟩
    · cases hlast
  · rintro ⟨earlier, other, word, later, rfl, hplace⟩
    exact ⟨earlier, other, word, later ++ [.read register value], by simp, hplace⟩

theorem crowded_concat_write :
    Crowded before (since ++ [.write register value]) ↔
      Crowded before since ∨ NoPlace (before ++ since) register := by
  constructor
  · rintro ⟨earlier, other, word, later, hsplit, hplace⟩
    rcases concat_eq_append_cons_iff.mp hsplit with ⟨rest, -, rfl⟩ | ⟨-, rfl, hlast⟩
    · exact .inl ⟨earlier, other, word, rest, rfl, hplace⟩
    · cases hlast
      exact .inr hplace
  · rintro (⟨earlier, other, word, later, rfl, hplace⟩ | hplace)
    · exact ⟨earlier, other, word, later ++ [.write register value], by simp, hplace⟩
    · exact ⟨since, register, value, [], rfl, hplace⟩

end

/-! ## Registers held -/

section

variable {recorder : BusRecorder} {register other : Register} {value : Word}

/-- The registers that a recorder holds. -/
def registers (recorder : BusRecorder) : List Register := recorder.held.map Prod.fst

theorem isSome_lookup_iff {held : List (Register × Word)} :
    (held.lookup register).isSome ↔ register ∈ held.map Prod.fst := by
  rw [List.lookup_isSome_iff, List.mem_map]
  constructor
  · rintro ⟨entry, hmem, heq⟩
    exact ⟨entry, hmem, (eq_of_beq heq).symm⟩
  · rintro ⟨entry, hmem, rfl⟩
    exact ⟨entry, hmem, BEq.rfl⟩

/-- Replacing a word keeps the registers. -/
theorem map_fst_replace (held : List (Register × Word)) :
    (replace register value held).map Prod.fst = held.map Prod.fst := by
  induction held with
  | nil => rfl
  | cons entry rest ih =>
    obtain ⟨first, old⟩ := entry
    unfold replace
    by_cases h : first = register
    · simp [h]
    · simp [h, ih]

/-- The word that is replaced is that of the register. -/
theorem lookup_replace {held : List (Register × Word)} (h : register ∈ held.map Prod.fst)
    (other : Register) :
    (replace register value held).lookup other
      = if other = register then some value else held.lookup other := by
  induction held with
  | nil => simp at h
  | cons entry rest ih =>
    obtain ⟨first, old⟩ := entry
    unfold replace
    by_cases hfirst : first = register
    · subst hfirst
      rw [if_pos rfl, List.lookup_cons, List.lookup_cons]
      by_cases hother : other = first
      · simp [hother]
      · simp [hother, beq_false_of_ne hother]
    · have hrest : register ∈ rest.map Prod.fst := by
        rw [List.map_cons, List.mem_cons] at h
        exact h.resolve_left (Ne.symm hfirst)
      rw [if_neg hfirst, List.lookup_cons, List.lookup_cons, ih hrest]
      by_cases hother : other = first
      · subst hother
        simp [hfirst]
      · simp [beq_false_of_ne hother]

/-- All that holding a word can do: the register is held already, or takes a free place, or finds
none. -/
theorem hold_cases (recorder : BusRecorder) (register : Register) (value : Word) :
    (register ∈ recorder.registers ∧ recorder.hold register value
      = { recorder with held := replace register value recorder.held }) ∨
    (register ∉ recorder.registers ∧ recorder.registers.length < registerCapacity ∧
      recorder.hold register value
        = { recorder with held := recorder.held ++ [(register, value)] }) ∨
    (register ∉ recorder.registers ∧ registerCapacity ≤ recorder.registers.length ∧
      recorder.hold register value = { recorder with overflowed := true }) := by
  have hlength : recorder.registers.length = recorder.held.length := List.length_map ..
  unfold hold
  by_cases hmem : register ∈ recorder.registers
  · exact .inl ⟨hmem, if_pos (isSome_lookup_iff.mpr hmem)⟩
  · have hlookup : ¬ (recorder.held.lookup register).isSome :=
      fun h => hmem (isSome_lookup_iff.mp h)
    rw [if_neg hlookup, hlength]
    by_cases hroom : recorder.held.length < registerCapacity
    · exact .inr (.inl ⟨hmem, hroom, if_pos hroom⟩)
    · exact .inr (.inr ⟨hmem, Nat.le_of_not_lt hroom, if_neg hroom⟩)

/-- A register that is held takes a place unless it has one or there is none. -/
theorem registers_hold (recorder : BusRecorder) (register : Register) (value : Word) :
    (recorder.hold register value).registers = enlist recorder.registers register := by
  rcases hold_cases recorder register value with
    ⟨hmem, heq⟩ | ⟨hmem, hroom, heq⟩ | ⟨hmem, hfull, heq⟩
  · rw [enlist, if_pos (.inl hmem), heq]
    exact map_fst_replace _
  · rw [enlist, if_neg (not_or.mpr ⟨hmem, Nat.not_le.mpr hroom⟩), heq]
    exact List.map_append
  · rw [enlist, if_pos (.inr hfull), heq]
    rfl

/-- A register that has a place then holds the word. -/
theorem lookup_hold_same (placed : register ∈ (recorder.hold register value).registers) :
    (recorder.hold register value).held.lookup register = some value := by
  rcases hold_cases recorder register value with
    ⟨hmem, heq⟩ | ⟨hmem, hroom, heq⟩ | ⟨hmem, hfull, heq⟩
  · rw [heq]
    exact (lookup_replace hmem register).trans (if_pos rfl)
  · have hnone : recorder.held.lookup register = none := by
      rw [← Option.not_isSome_iff_eq_none, isSome_lookup_iff]
      exact hmem
    rw [heq, List.lookup_append, hnone]
    simp
  · rw [heq] at placed
    exact absurd placed hmem

/-- The other registers hold what they did. -/
theorem lookup_hold_other (h : other ≠ register) :
    (recorder.hold register value).held.lookup other = recorder.held.lookup other := by
  rcases hold_cases recorder register value with
    ⟨hmem, heq⟩ | ⟨hmem, hroom, heq⟩ | ⟨hmem, hfull, heq⟩
  · rw [heq]
    exact (lookup_replace hmem other).trans (if_neg h)
  · rw [heq, List.lookup_append]
    simp [List.lookup_cons, beq_false_of_ne h]
  · rw [heq]

/-- The registers read the word that was held, as in memory. -/
theorem value_hold (placed : register ∈ (recorder.hold register value).registers) :
    (recorder.hold register value).value = FlatMemory.store recorder.value register value := by
  funext other
  by_cases h : other = register
  · subst h
    rw [BusRecorder.value, lookup_hold_same placed, FlatMemory.store_same]
    rfl
  · rw [BusRecorder.value, lookup_hold_other h, FlatMemory.store_other _ _ h, BusRecorder.value]

/-- Holding a word sets the flag if there is no place for it. -/
theorem overflowed_hold :
    (recorder.hold register value).overflowed = true ↔ recorder.overflowed = true ∨
      (register ∉ recorder.registers ∧ registerCapacity ≤ recorder.registers.length) := by
  rcases hold_cases recorder register value with
    ⟨hmem, heq⟩ | ⟨hmem, hroom, heq⟩ | ⟨hmem, hfull, heq⟩
  · simp [heq, hmem]
  · simp [heq, Nat.not_le.mpr hroom]
  · simp [heq, hmem, hfull]

/-- Without the flag, a word was given a place. -/
theorem placed_of_not_overflowed (h : (recorder.hold register value).overflowed = false) :
    register ∈ (recorder.hold register value).registers := by
  rw [registers_hold, enlist]
  have hclear : ¬ (register ∉ recorder.registers ∧ registerCapacity ≤ recorder.registers.length) :=
    fun hnone => by simp [overflowed_hold.mpr (.inr hnone)] at h
  by_cases hmem : register ∈ recorder.registers
  · rw [if_pos (.inl hmem)]
    exact hmem
  · have hroom : ¬ registerCapacity ≤ recorder.registers.length := fun hfull => hclear ⟨hmem, hfull⟩
    rw [if_neg (not_or.mpr ⟨hmem, hroom⟩)]
    exact List.mem_append_right _ (List.mem_singleton.mpr rfl)

/-- Holding a word logs nothing. -/
theorem log_hold : (recorder.hold register value).log = recorder.log := by
  rcases hold_cases recorder register value with ⟨-, heq⟩ | ⟨-, -, heq⟩ | ⟨-, -, heq⟩ <;> rw [heq]

end

/-! ## Accesses logged -/

section

variable {recorder : BusRecorder} {access : BusAccess} {since : List BusAccess}

/-- Noting an access does not concern the registers. -/
theorem held_note : (recorder.note access).held = recorder.held := by
  unfold note
  split <;> rfl

/-- The log goes on while there is room. -/
theorem log_note (h : recorder.log = since.take logCapacity) :
    (recorder.note access).log = (since ++ [access]).take logCapacity := by
  have hlength : recorder.log.length = min logCapacity since.length := by rw [h, List.length_take]
  unfold note
  by_cases hroom : recorder.log.length < logCapacity
  · have hall : since.take logCapacity = since := List.take_of_length_le (by omega)
    have hnext : (since ++ [access]).length ≤ logCapacity := by
      rw [List.length_append, List.length_singleton]
      omega
    rw [if_pos hroom, List.take_of_length_le hnext, h, hall]
  · rw [if_neg hroom, List.take_append_of_le_length (by omega)]
    exact h

/-- Noting an access sets the flag if there is no room. -/
theorem overflowed_note :
    (recorder.note access).overflowed = true ↔
      recorder.overflowed = true ∨ logCapacity ≤ recorder.log.length := by
  unfold note
  by_cases hroom : recorder.log.length < logCapacity
  · simp [hroom, Nat.not_le.mpr hroom]
  · simp [hroom, Nat.le_of_not_lt hroom]

/-- Without the flag, an access was logged, and the flag was not set before. -/
theorem logged_of_not_overflowed (h : (recorder.note access).overflowed = false) :
    recorder.overflowed = false ∧ (recorder.note access).log = recorder.log ++ [access] := by
  have hclear : ¬ (recorder.overflowed = true ∨ logCapacity ≤ recorder.log.length) := by
    rw [← overflowed_note, h]
    exact Bool.false_ne_true
  have hroom : recorder.log.length < logCapacity :=
    Nat.lt_of_not_le fun hfull => hclear (.inr hfull)
  refine ⟨Bool.eq_false_iff.mpr fun hset => hclear (.inl hset), ?_⟩
  rw [note, if_pos hroom]

/-- The logged writes are what the log stored. -/
theorem writes_eq (recorder : BusRecorder) : recorder.writes = stores recorder.log := by
  unfold writes stores
  congr 1
  funext access
  cases access <;> rfl

end

/-! ## Operations -/

/-- An operation on a recorder. -/
inductive Operation
  /-- Reads a register. -/
  | read (register : Register)
  /-- Writes a word to a register. -/
  | write (register : Register) (value : Word)
  /-- Writes a register with a function of what it holds. -/
  | modify (register : Register) (f : Word → Word)
  /-- Forgets the log. -/
  | clearLog

/-- Carries out an operation. -/
def apply (recorder : BusRecorder) : Operation → BusRecorder
  | .read register => (bus.read register recorder).2
  | .write register value => bus.write register value recorder
  | .modify register f => bus.modify register f recorder
  | .clearLog => recorder.clearLog

/-- A recorder with all that happened on it. -/
structure Watched where
  /-- The recorder itself. -/
  recorder : BusRecorder
  /-- The accesses made before the log was last cleared, oldest first. -/
  before : List BusAccess
  /-- The accesses made since, oldest first. -/
  since : List BusAccess
  /-- What the registers read when the log was last cleared. -/
  cleared : FlatMemory

namespace Watched

/-- An empty recorder, on which nothing happened. -/
def empty : Watched := ⟨.empty, [], [], fun _ => 0⟩

/-- All accesses, oldest first. -/
def accesses (watched : Watched) : List BusAccess := watched.before ++ watched.since

/-- The same history with another recorder and other accesses since the log was cleared. -/
def next (watched : Watched) (state : BusRecorder × List BusAccess) : Watched :=
  { watched with recorder := state.1, since := state.2 }

/-- Carries out an operation and notes its accesses. -/
def apply (watched : Watched) : Operation → Watched
  | .read register =>
    watched.next ((bus.watched id).read register (watched.recorder, watched.since)).2
  | .write register value =>
    watched.next ((bus.watched id).write register value (watched.recorder, watched.since))
  | .modify register f =>
    watched.next ((bus.watched id).modify register f (watched.recorder, watched.since))
  | .clearLog =>
    ⟨watched.recorder.clearLog, watched.accesses, [], watched.recorder.value⟩

/-- An empty recorder after some operations. -/
def after (operations : List Operation) : Watched := operations.foldl apply empty

/-- The recorder is as without a watch. -/
theorem recorder_apply (watched : Watched) (operation : Operation) :
    (watched.apply operation).recorder = watched.recorder.apply operation := by
  cases operation with
  | read register => rfl
  | write register value => rfl
  | modify register f => rfl
  | clearLog => rfl

/-- A modification is a read and then a write. -/
theorem apply_modify (watched : Watched) (register : Register) (f : Word → Word) :
    watched.apply (.modify register f) = (watched.apply (.read register)).apply
      (.write register (f (watched.recorder.value register))) := rfl

theorem apply_read (watched : Watched) (register : Register) :
    watched.apply (.read register)
      = watched.next
          (watched.recorder.note (.read register (watched.recorder.value register)),
            watched.since ++ [.read register (watched.recorder.value register)]) := rfl

theorem apply_write (watched : Watched) (register : Register) (value : Word) :
    watched.apply (.write register value)
      = watched.next ((watched.recorder.hold register value).note (.write register value),
          watched.since ++ [.write register value]) := rfl

end Watched

/-! ## The law -/

/-- A recorder holds the registers that were written first, with what was last written. -/
structure Holds (recorder : BusRecorder) (accesses : List BusAccess) : Prop where
  /-- The registers are those that were written first, in that order. -/
  registers_eq : recorder.registers = firstWritten accesses
  /-- Each holds the word that was last written to it. -/
  lookup_eq : ∀ register ∈ firstWritten accesses,
    recorder.held.lookup register = lastWritten? accesses register

section

variable {recorder : BusRecorder} {accesses : List BusAccess} {register : Register} {value : Word}

theorem Holds.empty : Holds .empty [] := ⟨rfl, fun _ h => absurd h List.not_mem_nil⟩

/-- So it reads what is recalled. -/
theorem Holds.value_eq (h : Holds recorder accesses) : recorder.value = recalled accesses := by
  funext register
  unfold BusRecorder.value recalled
  by_cases hmem : register ∈ firstWritten accesses
  · rw [if_pos hmem, h.lookup_eq register hmem]
  · have hnone : recorder.held.lookup register = none := by
      rw [← Option.not_isSome_iff_eq_none, isSome_lookup_iff]
      exact fun hheld => hmem (h.registers_eq ▸ hheld)
    rw [if_neg hmem, hnone]
    rfl

/-- A read changes no register. -/
theorem Holds.read (h : Holds recorder accesses) (access : BusAccess) :
    Holds (recorder.note access) (accesses ++ [.read register value]) := by
  constructor
  · rw [firstWritten_concat_read, ← h.registers_eq, registers, held_note, registers]
  · intro other hmem
    rw [firstWritten_concat_read] at hmem
    rw [held_note, lastWritten?_concat_read, h.lookup_eq other hmem]

/-- A write changes the register if it has a place or finds one. -/
theorem Holds.write (h : Holds recorder accesses) (access : BusAccess) :
    Holds ((recorder.hold register value).note access)
      (accesses ++ [.write register value]) := by
  have hregisters : (recorder.hold register value).registers
      = firstWritten (accesses ++ [.write register value]) := by
    rw [registers_hold, firstWritten_concat_write, h.registers_eq]
  constructor
  · rw [← hregisters, registers, held_note, registers]
  · intro other hmem
    rw [held_note, lastWritten?_concat_write]
    by_cases hother : other = register
    · subst hother
      rw [if_pos rfl]
      exact lookup_hold_same (hregisters ▸ hmem)
    · have hbefore : other ∈ firstWritten accesses := by
        rw [firstWritten_concat_write, enlist] at hmem
        split at hmem
        case isTrue => exact hmem
        case isFalse =>
          rcases List.mem_append.mp hmem with hmem | hmem
          · exact hmem
          · exact absurd (List.mem_singleton.mp hmem) hother
      rw [if_neg hother, lookup_hold_other hother, h.lookup_eq other hbefore]

/-- A word finds no place exactly if the history tells so. -/
theorem Holds.noPlace_iff (h : Holds recorder accesses) :
    NoPlace accesses register ↔
      register ∉ recorder.registers ∧ registerCapacity ≤ recorder.registers.length := by
  have hlength := length_firstWritten_le accesses
  rw [NoPlace, h.registers_eq]
  constructor
  · rintro ⟨hmem, hfull⟩
    exact ⟨hmem, Nat.le_of_eq hfull.symm⟩
  · rintro ⟨hmem, hfull⟩
    exact ⟨hmem, Nat.le_antisymm hlength hfull⟩

end

/-- What a recorder tells of its history. -/
structure Tells (watched : Watched) : Prop where
  /-- A register reads the word that was last written to it, if it is one of those that were
  written first, and else zero. -/
  value_eq : ∀ register,
    watched.recorder.value register = recalled watched.accesses register
  /-- Reading a register answers this word. -/
  read_eq : ∀ register, (bus.read register watched.recorder).1 = watched.recorder.value register
  /-- So did every read, by what had been written then. -/
  answers_eq : ∀ earlier register value later,
    watched.accesses = earlier ++ .read register value :: later →
    value = recalled earlier register
  /-- A modification is a read and then a write of what becomes of the word. -/
  modify_eq : ∀ register f, watched.apply (.modify register f)
    = (watched.apply (.read register)).apply
        (.write register (f (watched.recorder.value register)))
  /-- The log holds the first accesses since it was last cleared, as many as fit. -/
  log_eq : watched.recorder.log = watched.since.take logCapacity
  /-- The flag is set exactly if since then there were more accesses than fit, or a write that
  found no place. -/
  overflowed_iff : watched.recorder.overflowed = true ↔
    logCapacity < watched.since.length ∨ Crowded watched.before watched.since
  /-- While it is not set, the logged writes lead from what the registers read then to what they
  read now. -/
  replay_eq : watched.recorder.overflowed = false →
    watched.cleared.storeAll watched.recorder.writes = watched.recorder.value

section

variable {watched : Watched}

theorem Tells.empty : Tells .empty where
  value_eq _ := rfl
  read_eq _ := rfl
  answers_eq earlier register value later h := by cases earlier <;> cases h
  modify_eq _ _ := rfl
  log_eq := rfl
  overflowed_iff := iff_of_false Bool.false_ne_true (all_fit_nil _)
  replay_eq _ := rfl

/-- The log is full exactly if no further access fits. -/
theorem Tells.length_log_iff (h : Tells watched) :
    logCapacity ≤ watched.recorder.log.length ↔ logCapacity ≤ watched.since.length := by
  rw [h.log_eq, List.length_take]
  omega

/-- One more access keeps the law if the registers are held after it, and the flag tells whether
it was a write that is blocked. -/
theorem Tells.access (h : Tells watched) {recorder : BusRecorder} {access : BusAccess}
    (blocked : Prop)
    (held : Holds (recorder.note access) (watched.accesses ++ [access]))
    (answer : ∀ register value, access = .read register value →
      value = recalled watched.accesses register)
    (log : recorder.log = watched.recorder.log)
    (flag : recorder.overflowed = true ↔ watched.recorder.overflowed = true ∨ blocked)
    (crowded : Crowded watched.before (watched.since ++ [access]) ↔
      Crowded watched.before watched.since ∨ blocked)
    (replay : recorder.overflowed = false →
      watched.cleared.storeAll (stores (recorder.log ++ [access])) = recorder.value) :
    Tells (watched.next (recorder.note access, watched.since ++ [access])) where
  value_eq register := by
    rw [Watched.accesses, Watched.next, ← List.append_assoc]
    exact congrFun held.value_eq register
  read_eq _ := rfl
  answers_eq earlier register value later hsplit := by
    rw [Watched.accesses, Watched.next, ← List.append_assoc] at hsplit
    rcases concat_eq_append_cons_iff.mp hsplit with ⟨rest, -, hbefore⟩ | ⟨-, hbefore, hlast⟩
    · exact h.answers_eq earlier register value rest hbefore
    · rw [← hbefore]
      exact answer register value hlast
  modify_eq _ _ := rfl
  log_eq := log_note (log.trans h.log_eq)
  overflowed_iff := by
    change (recorder.note access).overflowed = true ↔
      logCapacity < (watched.since ++ [access]).length ∨
        Crowded watched.before (watched.since ++ [access])
    have hlength : logCapacity < (watched.since ++ [access]).length ↔
        logCapacity < watched.since.length ∨ logCapacity ≤ watched.since.length := by
      rw [List.length_append, List.length_singleton]
      omega
    rw [overflowed_note, flag, log, h.length_log_iff, h.overflowed_iff, hlength, crowded,
      or_right_comm, or_right_comm (b := Crowded watched.before watched.since), or_assoc]
  replay_eq hclear := by
    obtain ⟨hbefore, hlogged⟩ := logged_of_not_overflowed hclear
    have hvalue : (recorder.note access).value = recorder.value :=
      funext (value_note recorder access)
    change watched.cleared.storeAll (recorder.note access).writes = (recorder.note access).value
    rw [writes_eq, hlogged, hvalue, replay hbefore]

/-- A read keeps the law. -/
theorem Tells.read (h : Tells watched) (held : Holds watched.recorder watched.accesses)
    (register : Register) :
    Tells (watched.apply (.read register)) := by
  rw [Watched.apply_read]
  refine h.access False (held.read _) ?_ rfl ?_ ?_ ?_
  · rintro other value ⟨⟩
    exact h.value_eq register
  · rw [or_false]
  · rw [crowded_concat_read, or_false]
  · intro hclear
    rw [stores_concat_read, ← writes_eq]
    exact h.replay_eq hclear

/-- A write keeps the law, whether it finds a place or not. -/
theorem Tells.write (h : Tells watched) (held : Holds watched.recorder watched.accesses)
    (register : Register) (value : Word) :
    Tells (watched.apply (.write register value)) := by
  rw [Watched.apply_write]
  refine h.access (NoPlace _ _) (held.write _) nofun log_hold ?_
    (crowded_concat_write watched.before watched.since register value) ?_
  · rw [overflowed_hold, ← held.noPlace_iff]
    rfl
  · intro hclear
    have hbefore : watched.recorder.overflowed = false :=
      Bool.eq_false_iff.mpr fun hset => by simp [overflowed_hold.mpr (.inl hset)] at hclear
    rw [log_hold, stores_concat_write, ← writes_eq, FlatMemory.storeAll_concat,
      h.replay_eq hbefore, value_hold (placed_of_not_overflowed hclear)]

/-- Clearing the log starts a new account. -/
theorem Tells.clearLog (h : Tells watched) : Tells (watched.apply .clearLog) where
  value_eq register := by
    have haccesses : (watched.apply .clearLog).accesses = watched.accesses := List.append_nil _
    rw [haccesses, ← h.value_eq register]
    rfl
  read_eq _ := rfl
  answers_eq earlier register value later hsplit := by
    have haccesses : (watched.apply .clearLog).accesses = watched.accesses := List.append_nil _
    exact h.answers_eq earlier register value later (haccesses ▸ hsplit)
  modify_eq _ _ := rfl
  log_eq := rfl
  overflowed_iff := iff_of_false Bool.false_ne_true (all_fit_nil _)
  replay_eq _ := rfl

/-- Every operation keeps the law. -/
theorem Tells.apply (h : Tells watched) (held : Holds watched.recorder watched.accesses)
    (operation : Operation) :
    Tells (watched.apply operation) ∧
      Holds (watched.apply operation).recorder (watched.apply operation).accesses := by
  have hread (register : Register) : Holds (watched.apply (.read register)).recorder
      (watched.apply (.read register)).accesses := by
    rw [Watched.accesses, Watched.apply_read, Watched.next, ← List.append_assoc]
    exact held.read _
  have hwrite {watched : Watched} (held : Holds watched.recorder watched.accesses)
      (register : Register) (value : Word) : Holds (watched.apply (.write register value)).recorder
      (watched.apply (.write register value)).accesses := by
    rw [Watched.accesses, Watched.apply_write, Watched.next, ← List.append_assoc]
    exact held.write _
  cases operation with
  | read register => exact ⟨h.read held register, hread register⟩
  | write register value => exact ⟨h.write held register value, hwrite held register value⟩
  | modify register f =>
    rw [Watched.apply_modify]
    have hnext := h.read held register
    exact ⟨hnext.write (hread register) register _, hwrite (hread register) register _⟩
  | clearLog =>
    have haccesses : (watched.apply .clearLog).accesses = watched.accesses := List.append_nil _
    exact ⟨h.clearLog, haccesses ▸ ⟨held.registers_eq, held.lookup_eq⟩⟩

end

/-- After any operations on an empty recorder, watching them changes nothing, and the recorder
tells its history. -/
theorem tells_history (operations : List Operation) :
    (Watched.after operations).recorder = operations.foldl BusRecorder.apply .empty ∧
      Tells (Watched.after operations) := by
  have hinvariant :
      (Watched.after operations).recorder = operations.foldl BusRecorder.apply .empty ∧
      Tells (Watched.after operations) ∧
      Holds (Watched.after operations).recorder (Watched.after operations).accesses := by
    induction operations using List.reverseRecOn with
    | nil => exact ⟨rfl, .empty, .empty⟩
    | append_singleton earlier operation ih =>
      obtain ⟨hrecorder, htells, hholds⟩ := ih
      have hafter : Watched.after (earlier ++ [operation])
          = (Watched.after earlier).apply operation := List.foldl_concat ..
      rw [hafter, Watched.recorder_apply, hrecorder, List.foldl_concat]
      refine ⟨rfl, ?_⟩
      rw [← hrecorder, ← Watched.recorder_apply]
      exact htells.apply hholds operation
  exact ⟨hinvariant.1, hinvariant.2.1⟩

end PilotLamp.BusRecorder
