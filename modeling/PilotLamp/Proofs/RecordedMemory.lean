import PilotLamp.Proofs.PairedRuns
import PilotLamp.Proofs.RecorderHistory
import Mathlib.Data.Finset.Card

/-!
# A recorder in place of memory

A recorder answers as flat memory does for as long as every register that is written has a place.
So it is if no more registers are written, beside those that it holds, than there are places: then
whatever is read, every register reads the same on both, and a port behaves the same over both.
The log has no part in that, so it does not matter whether it is full. Registers that change
without being written are out of scope.
-/

namespace PilotLamp

namespace RegisterBus

/-! ## Buses that are alike -/

section

variable {β γ : Type}

/-- Two buses on related states read the same, and stay related when a register that may be written
is. -/
structure Alike (first : RegisterBus β) (second : RegisterBus γ) (writable : Register → Prop)
    (related : β → γ → Prop) : Prop where
  /-- A read has the same answer and changes nothing about it. -/
  read : ∀ register state other, related state other →
    (first.read register state).1 = (second.read register other).1 ∧
      related (first.read register state).2 (second.read register other).2
  /-- A write leads to related states. -/
  write : ∀ register value state other, writable register → related state other →
    related (first.write register value state) (second.write register value other)

variable {first : RegisterBus β} {second : RegisterBus γ} {writable : Register → Prop}
  {related : β → γ → Prop} {state : β} {other : γ} {register : Register}

/-- A modification leads to related states. -/
theorem Alike.modify (h : first.Alike second writable related) (allowed : writable register)
    (same : related state other) (f : Word → Word) :
    related (first.modify register f state) (second.modify register f other) := by
  obtain ⟨hvalue, hnext⟩ := h.read register state other same
  change related (first.write register (f (first.read register state).1) _)
    (second.write register (f (second.read register other).1) _)
  rw [hvalue]
  exact h.write register _ _ _ allowed hnext

end

/-! ## Requests -/

/-- A request to a bus. -/
inductive Request
  /-- Reads a register. -/
  | read (register : Register)
  /-- Writes a word to a register. -/
  | write (register : Register) (value : Word)
  /-- Writes a register with a function of what it holds. -/
  | modify (register : Register) (f : Word → Word)

/-- The register that a request writes, if any. -/
def Request.written? : Request → Option Register
  | read _ => none
  | write register _ | modify register _ => some register

variable {β γ : Type}

/-- Carries out a request, with the word that it answers if it is a read. -/
def carryOut (bus : RegisterBus β) (state : β) : Request → Option Word × β
  | .read register => ((bus.read register state).1, (bus.read register state).2)
  | .write register value => (none, bus.write register value state)
  | .modify register f => (none, bus.modify register f state)

/-- Requests that write only what may be written have the same answers on buses that are alike. -/
theorem Alike.carryOut {first : RegisterBus β} {second : RegisterBus γ}
    {writable : Register → Prop} {related : β → γ → Prop}
    (h : first.Alike second writable related) :
    StepsAlike first.carryOut second.carryOut
      (fun request => ∀ register, request.written? = some register → writable register)
      related := by
  intro state other same request allowed
  cases request with
  | read register =>
    obtain ⟨hvalue, hnext⟩ := h.read register state other same
    exact ⟨congrArg some hvalue, hnext⟩
  | write register value =>
    exact ⟨rfl, h.write register value state other (allowed register rfl) same⟩
  | modify register f => exact ⟨rfl, h.modify (allowed register rfl) same f⟩

end RegisterBus

/-! ## Ports -/

namespace Stm32f4

variable {β γ : Type} {first : RegisterBus β} {second : RegisterBus γ}
  {writable : Register → Prop} {related : β → γ → Prop} {state : β} {other : γ} {port : Port}

/-- The registers that a backend writes. -/
def registersOf (port : Port) : List Register := [Port.clockEnable, port.mode, port.setReset]

/-- A line that is prepared leads to related states. -/
theorem prepareLine_alike (h : first.Alike second writable related)
    (allowed : ∀ register ∈ registersOf port, writable register) (same : related state other)
    (line : Nat) :
    related (prepareLine first port line state) (prepareLine second port line other) := by
  have hclock : writable Port.clockEnable := allowed _ (by simp [registersOf])
  have hmode : writable port.mode := allowed _ (by simp [registersOf])
  have hreset : writable port.setReset := allowed _ (by simp [registersOf])
  have henabled := h.modify hclock same (· ||| port.clockBit)
  have hcleared := h.modify hmode henabled (· &&& ~~~Port.modeMask line)
  have hset := h.modify hmode hcleared (· ||| Port.outputMode line)
  exact h.write port.setReset (Port.resetWord line) _ _ hreset hset

/-- A backend on one port behaves the same over buses that are alike. -/
theorem indicator_alike (h : first.Alike second writable related)
    (allowed : ∀ register ∈ registersOf port, writable register) :
    StepsAlike (indicator first).apply (indicator second).apply (fun _ => True)
      fun state other => state.1 = other.1 ∧ state.1.port = port ∧ related state.2 other.2 := by
  rintro ⟨backend, state⟩ ⟨-, other⟩ ⟨rfl, rfl, same⟩ call -
  cases call with
  | delay ms => exact ⟨rfl, rfl, rfl, same⟩
  | report error => exact ⟨rfl, rfl, rfl, same⟩
  | configure pin =>
    have hprepared := prepareLine_alike h allowed same pin.index
    simp only [Indicator.apply, indicator, configure]
    by_cases hin : pin.index < Port.width
    · simp only [if_pos hin]
      cases backend.lines.configure pin with
      | error error => exact ⟨rfl, rfl, rfl, hprepared⟩
      | ok lines => exact ⟨rfl, rfl, rfl, hprepared⟩
    · simp only [if_neg hin, true_and]
      exact same
  | write pin level =>
    have hreset : writable backend.port.setReset := allowed _ (by simp [registersOf])
    have hwritten := h.write backend.port.setReset (Port.levelWord pin.index level.isAsserted)
      state other hreset same
    simp only [Indicator.apply, indicator, write]
    by_cases hin : pin.index < Port.width
    · simp only [if_pos hin]
      cases backend.lines.isConfigured pin with
      | false => exact ⟨rfl, rfl, rfl, same⟩
      | true =>
        simp only [if_true]
        cases backend.lines.set pin level with
        | error error => exact ⟨rfl, rfl, rfl, hwritten⟩
        | ok outcome => exact ⟨rfl, rfl, rfl, hwritten⟩
    · simp only [if_neg hin, true_and]
      exact same

end Stm32f4

namespace BusRecorder

/-! ## Registers that all have a place -/

/-- No register is enlisted twice. -/
theorem nodup_enlist {registers : List Register} (h : registers.Nodup) (register : Register) :
    (enlist registers register).Nodup := by
  unfold enlist
  split
  · exact h
  case isFalse hnew =>
    have hmem : register ∉ registers := fun hmem => hnew (.inl hmem)
    rw [← List.concat_eq_append]
    exact h.concat hmem

/-- What is enlisted was there before, or is the register that looks for a place. -/
theorem mem_enlist {registers : List Register} {register other : Register}
    (h : other ∈ enlist registers register) : other ∈ registers ∨ other = register := by
  unfold enlist at h
  split at h
  · exact .inl h
  · rcases List.mem_append.mp h with hmem | hmem
    · exact .inl hmem
    · exact .inr (List.mem_singleton.mp hmem)

/-- What a write leaves of the registers that are held. -/
theorem registers_write (recorder : BusRecorder) (register : Register) (value : Word) :
    (bus.write register value recorder).registers = enlist recorder.registers register :=
  (congrArg (List.map Prod.fst) held_note).trans (registers_hold recorder register value)

/-- A read leaves them as they are. -/
theorem registers_read (recorder : BusRecorder) (register : Register) :
    (bus.read register recorder).2.registers = recorder.registers :=
  congrArg (List.map Prod.fst) held_note

/-- A recorder reads as memory does, and the registers that it holds are some of those that may be
held. -/
structure Mirrors (allowed : Finset Register) (recorder : BusRecorder) (memory : FlatMemory) :
    Prop where
  /-- Every register reads the same. -/
  value_eq : recorder.value = memory
  /-- No register is held twice. -/
  nodup : recorder.registers.Nodup
  /-- The registers that are held may be held. -/
  allowed : ∀ register ∈ recorder.registers, register ∈ allowed

section

variable {allowed : Finset Register} {recorder : BusRecorder} {memory : FlatMemory}
  {register : Register}

/-- If those that may be held have a place each, a register among them finds one. -/
theorem Mirrors.placed (h : Mirrors allowed recorder memory)
    (fits : allowed.card ≤ registerCapacity) (hregister : register ∈ allowed) (value : Word) :
    register ∈ (recorder.hold register value).registers := by
  rw [registers_hold, enlist]
  by_cases hmem : register ∈ recorder.registers
  · rw [if_pos (.inl hmem)]
    exact hmem
  · have hroom : ¬ registerCapacity ≤ recorder.registers.length := by
      -- The registers held and this one are different, and all may be held.
      have hsubset : insert register recorder.registers.toFinset ⊆ allowed := by
        intro other hother
        rcases Finset.mem_insert.mp hother with rfl | hheld
        · exact hregister
        · exact h.allowed other (List.mem_toFinset.mp hheld)
      have hcard := Finset.card_le_card hsubset
      rw [Finset.card_insert_of_notMem (mt List.mem_toFinset.mp hmem),
        List.toFinset_card_of_nodup h.nodup] at hcard
      omega
    rw [if_neg (not_or.mpr ⟨hmem, hroom⟩)]
    exact List.mem_append_right _ (List.mem_singleton.mpr rfl)

/-- Where those that may be held have a place each, a recorder is alike memory. -/
theorem bus_alike (fits : allowed.card ≤ registerCapacity) :
    bus.Alike FlatMemory.bus (· ∈ allowed) (Mirrors allowed) where
  read register recorder memory h := by
    have hregisters := registers_read recorder register
    have hvalue : (bus.read register recorder).2.value = recorder.value :=
      funext (value_note recorder _)
    refine ⟨congrFun h.value_eq register, ?_⟩
    exact ⟨hvalue.trans h.value_eq, hregisters ▸ h.nodup, hregisters ▸ h.allowed⟩
  write register value recorder memory hregister h := by
    have hregisters := registers_write recorder register value
    have hvalue : (bus.write register value recorder).value
        = FlatMemory.store recorder.value register value :=
      (funext (value_note _ _)).trans (value_hold (h.placed fits hregister value))
    refine ⟨?_, ?_, ?_⟩
    · rw [hvalue, h.value_eq]
      rfl
    · rw [hregisters]
      exact nodup_enlist h.nodup register
    · intro other hother
      rw [hregisters] at hother
      rcases mem_enlist hother with hheld | rfl
      · exact h.allowed other hheld
      · exact hregister

end

/-- No operation makes a recorder hold a register twice. -/
theorem nodup_after (operations : List Operation) :
    (operations.foldl apply .empty).registers.Nodup := by
  induction operations using List.reverseRecOn with
  | nil => exact List.nodup_nil
  | append_singleton earlier operation ih =>
    rw [List.foldl_concat]
    generalize earlier.foldl apply .empty = recorder at ih ⊢
    cases operation with
    | read register =>
      rw [apply, registers_read]
      exact ih
    | write register value =>
      rw [apply, registers_write]
      exact nodup_enlist ih register
    | modify register f =>
      have hmodify : (recorder.apply (.modify register f)).registers
          = enlist (bus.read register recorder).2.registers register := registers_write _ _ _
      rw [hmodify, registers_read]
      exact nodup_enlist ih register
    | clearLog => exact ih

/-- Registers have a place each if there are few that are not among some others. -/
theorem card_registers_le {registers others : List Register} {few more : Nat}
    (hfew : (registers.filter (· ∉ others)).length ≤ few) (hmore : others.toFinset.card ≤ more) :
    (registers.toFinset ∪ others.toFinset).card ≤ few + more := by
  have hsubset : registers.toFinset ∪ others.toFinset
      ⊆ (registers.filter (· ∉ others)).toFinset ∪ others.toFinset := by
    intro register hmem
    by_cases hother : register ∈ others
    · exact Finset.mem_union_right _ (List.mem_toFinset.mpr hother)
    · have hheld : register ∈ registers := by simpa [hother] using hmem
      exact Finset.mem_union_left _ (by simp [hheld, hother])
  have hcard := Finset.card_le_card hsubset
  have hunion := Finset.card_union_le (registers.filter (· ∉ others)).toFinset others.toFinset
  have hlength := List.toFinset_card_le (registers.filter (· ∉ others))
  omega

end BusRecorder

/-! ## The law -/

open BusRecorder (registerCapacity Mirrors bus_alike card_registers_le nodup_after)

/-- On a recorder that holds at most thirteen registers beside those of a port, a backend on that
port behaves as on memory that holds the same: whatever the calls, each has the same answer, and
after it all lines have the same level and all registers the same word. From nothing, requests
that write no more registers than a recorder can hold read the same on it as on memory. -/
theorem recorder_stands_in_for_memory :
    (∀ (operations : List BusRecorder.Operation) (port : Port) (rate : SpinRate)
      (calls : List Call),
      let recorder := operations.foldl BusRecorder.apply .empty
      (recorder.registers.filter (· ∉ Stm32f4.registersOf port)).length ≤ 13 →
      observed (Stm32f4.indicator BusRecorder.bus).apply
          (fun state => ((Stm32f4.indicator BusRecorder.bus).level state, state.2.value))
          (.fresh port rate, recorder) calls
        = observed (Stm32f4.indicator FlatMemory.bus).apply
          (fun state => ((Stm32f4.indicator FlatMemory.bus).level state, state.2))
          (.fresh port rate, recorder.value) calls) ∧
    ∀ requests : List RegisterBus.Request,
      (requests.filterMap RegisterBus.Request.written?).toFinset.card ≤ registerCapacity →
      observed BusRecorder.bus.carryOut BusRecorder.value .empty requests
        = observed FlatMemory.bus.carryOut id (fun _ => 0) requests := by
  refine ⟨fun operations port rate calls => ?_, fun requests hfew => ?_⟩
  · intro recorder hfew
    let allowed := recorder.registers.toFinset ∪ (Stm32f4.registersOf port).toFinset
    have hfits : allowed.card ≤ registerCapacity :=
      card_registers_le hfew (List.toFinset_card_le (Stm32f4.registersOf port))
    have hstart : Mirrors allowed recorder recorder.value :=
      ⟨rfl, nodup_after operations, fun register hheld =>
        Finset.mem_union_left _ (List.mem_toFinset.mpr hheld)⟩
    have hport (register : Register) (h : register ∈ Stm32f4.registersOf port) :
        register ∈ allowed := Finset.mem_union_right _ (List.mem_toFinset.mpr h)
    refine (Stm32f4.indicator_alike (bus_alike hfits) hport).observed_eq ⟨rfl, rfl, hstart⟩ ?_
      fun _ _ => trivial
    rintro ⟨backend, later⟩ ⟨-, memory⟩ ⟨rfl, -, hmirrors⟩
    exact Prod.ext rfl hmirrors.value_eq
  · let allowed := (requests.filterMap RegisterBus.Request.written?).toFinset
    have hstart : Mirrors allowed .empty fun _ => 0 := ⟨rfl, List.nodup_nil, nofun⟩
    refine (bus_alike hfew).carryOut.observed_eq hstart (fun _ _ h => h.value_eq) ?_
    intro request hrequest register hwritten
    exact List.mem_toFinset.mpr (List.mem_filterMap.mpr ⟨request, hrequest, hwritten⟩)

/-- Beside thirteen other registers a port finds its places, and behaves as over memory while the
log overflows. Sixteen registers that are modified read as in memory. -/
theorem full_recorder_stands_in_for_memory :
    let operations : List BusRecorder.Operation :=
      (List.range 13).map fun n => .write ⟨4 * n⟩ (.ofNat 32 n)
    let recorder := operations.foldl BusRecorder.apply .empty
    let calls := List.replicate 10 (.configure (.ofNat 5)) ++ [.write (.ofNat 5) .asserted]
    let requests : List RegisterBus.Request :=
      (List.range 16).map (fun n => .modify ⟨4 * n⟩ (· + .ofNat 32 n)) ++ [.read ⟨4⟩, .read ⟨64⟩]
    (recorder.registers.filter (· ∉ Stm32f4.registersOf .d)).length ≤ 13 ∧
      ((Stm32f4.indicator BusRecorder.bus).after (.fresh .d .assumed, recorder) calls).2.overflowed
        = true ∧
      observed (Stm32f4.indicator BusRecorder.bus).apply
          (fun state => ((Stm32f4.indicator BusRecorder.bus).level state, state.2.value))
          (.fresh .d .assumed, recorder) calls
        = observed (Stm32f4.indicator FlatMemory.bus).apply
          (fun state => ((Stm32f4.indicator FlatMemory.bus).level state, state.2))
          (.fresh .d .assumed, recorder.value) calls ∧
      (requests.filterMap RegisterBus.Request.written?).toFinset.card ≤ registerCapacity ∧
      observed BusRecorder.bus.carryOut BusRecorder.value .empty requests
        = observed FlatMemory.bus.carryOut id (fun _ => 0) requests :=
  ⟨by decide, by decide +kernel, recorder_stands_in_for_memory.1 _ .d .assumed _ (by decide),
    by decide, recorder_stands_in_for_memory.2 _ (by decide)⟩

end PilotLamp
