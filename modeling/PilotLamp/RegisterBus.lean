/-!
# Registers and the bus that reaches them

A register is a 32 bit word at an address. A bus may change with every access, so reading also
yields the bus that comes after it. Flat memory, in which every address holds a word, is the
plainest bus.
-/

namespace PilotLamp

/-- The contents of a register. -/
abbrev Word := BitVec 32

/-- A register, known by its address. -/
structure Register where
  /-- Its address. -/
  address : Nat
deriving DecidableEq, Repr

/-- The register some bytes past a base address. -/
def Register.offset (base bytes : Nat) : Register := ⟨base + bytes⟩

/-- How registers are read and written over a bus `β`. -/
structure RegisterBus (β : Type) where
  /-- Reads a register. -/
  read : Register → β → Word × β
  /-- Writes a register. -/
  write : Register → Word → β → β

/-- Writes a register with a function of what it holds: one read, then one write. -/
def RegisterBus.modify {β : Type} (bus : RegisterBus β) (register : Register) (f : Word → Word)
    (state : β) : β :=
  let (value, state) := bus.read register state
  bus.write register (f value) state

/-- Memory in which every register holds a word. -/
abbrev FlatMemory := Register → Word

namespace FlatMemory

/-- Memory with one register changed. -/
def store (memory : FlatMemory) (register : Register) (value : Word) : FlatMemory :=
  fun other => if other = register then value else memory other

/-- Bytes from one word to the next. -/
def wordBytes : Nat := 4

/-- The register of a word in an array of words at address zero. -/
def word (position : Nat) : Register := ⟨wordBytes * position⟩

/-- Memory with an array of words at address zero and zero after it. -/
def ofWords (words : List Word) : FlatMemory := fun register =>
  if register.address % wordBytes = 0 then words.getD (register.address / wordBytes) 0 else 0

/-- The first words of memory. -/
def words (memory : FlatMemory) (count : Nat) : List Word :=
  (List.range count).map fun position => memory (word position)

/-- Flat memory as a bus: a read changes nothing. -/
def bus : RegisterBus FlatMemory where
  read register memory := (memory register, memory)
  write register value memory := memory.store register value

theorem store_same (memory : FlatMemory) (register : Register) (value : Word) :
    memory.store register value register = value := if_pos rfl

theorem store_other (memory : FlatMemory) {register other : Register} (value : Word)
    (h : other ≠ register) : memory.store register value other = memory other := if_neg h

/-- Of two words stored in one register the later stays. -/
theorem store_store (memory : FlatMemory) (register : Register) (first second : Word) :
    (memory.store register first).store register second = memory.store register second := by
  funext other
  by_cases h : other = register
  · rw [h, store_same, store_same]
  · rw [store_other _ _ h, store_other _ _ h, store_other _ _ h]

end FlatMemory

end PilotLamp
