import PilotLamp.BusRecorder

/-!
# Accesses noted beside a bus

A bus can be watched without a change to what it does: each access is noted, with the word that
was read or written, on a list that grows beside the state of the bus. What the writes of such a
list leave in memory is said here. Words that change without an access are out of scope.
-/

namespace PilotLamp

/-- The entries of a list with one more entry, each with those before it: the new entry comes after
all the others. -/
theorem concat_eq_append_cons_iff {α : Type} {entries earlier later : List α} {last entry : α} :
    entries ++ [last] = earlier ++ entry :: later ↔
      (∃ rest, later = rest ++ [last] ∧ entries = earlier ++ entry :: rest) ∨
        (later = [] ∧ entries = earlier ∧ last = entry) := by
  constructor
  · intro h
    rcases List.eq_nil_or_concat later with rfl | ⟨rest, final, rfl⟩
    · have hends : entries = earlier ∧ last = entry := List.append_singleton_inj.mp h
      exact .inr ⟨rfl, hends⟩
    · rw [List.concat_eq_append] at h ⊢
      rw [← List.cons_append, ← List.append_assoc, List.append_singleton_inj] at h
      obtain ⟨hrest, rfl⟩ := h
      exact .inl ⟨rest, rfl, hrest⟩
  · rintro (⟨rest, rfl, rfl⟩ | ⟨rfl, rfl, rfl⟩)
    · simp
    · rfl

namespace BusAccess

/-- The register that is accessed. -/
def register : BusAccess → Register
  | read register _ | write register _ => register

/-- What is stored, and where, if the access is a write. -/
def stored? : BusAccess → Option (Register × Word)
  | read .. => none
  | write register value => some (register, value)

/-- What some accesses stored, oldest first. -/
def stores (accesses : List BusAccess) : List (Register × Word) := accesses.filterMap stored?

theorem stores_concat_read (accesses : List BusAccess) (register : Register) (value : Word) :
    stores (accesses ++ [.read register value]) = stores accesses := by
  simp [stores, stored?]

theorem stores_concat_write (accesses : List BusAccess) (register : Register) (value : Word) :
    stores (accesses ++ [.write register value]) = stores accesses ++ [(register, value)] := by
  simp [stores, stored?]

end BusAccess

namespace FlatMemory

/-- Memory after some stores, made in order. -/
def storeAll (memory : FlatMemory) (stores : List (Register × Word)) : FlatMemory :=
  stores.foldl (fun memory entry => memory.store entry.1 entry.2) memory

theorem storeAll_append (memory : FlatMemory) (first second : List (Register × Word)) :
    memory.storeAll (first ++ second) = (memory.storeAll first).storeAll second :=
  List.foldl_append

/-- The last store is made last. -/
theorem storeAll_concat (memory : FlatMemory) (stores : List (Register × Word))
    (register : Register) (value : Word) :
    memory.storeAll (stores ++ [(register, value)])
      = (memory.storeAll stores).store register value :=
  storeAll_append memory stores [(register, value)]

end FlatMemory

namespace RegisterBus

variable {α β : Type} (bus : RegisterBus β) (note : BusAccess → α)

/-- The same bus with a list of what was done on it, newest last. -/
def watched : RegisterBus (β × List α) where
  read register state :=
    let (value, inner) := bus.read register state.1
    (value, inner, state.2 ++ [note (.read register value)])
  write register value state :=
    (bus.write register value state.1, state.2 ++ [note (.write register value)])

/-- A modification is noted as the read and the write that it is. -/
theorem modify_watched (register : Register) (f : Word → Word) (state : β) (noted : List α) :
    (bus.watched note).modify register f (state, noted)
      = (bus.modify register f state, noted ++ [note (.read register (bus.read register state).1),
          note (.write register (f (bus.read register state).1))]) := by
  simp [modify, watched]

end RegisterBus

end PilotLamp
