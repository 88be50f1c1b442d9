import PilotLamp.Proofs.BusTraces
import PilotLamp.Proofs.Targets

/-!
# The accesses of a port to its registers

A backend of an STM32F4 port is watched on a bus that stores what is written. What is asked of it,
what it answers and the accesses that it makes between the two are one sequence of moments. For
every request the accesses are told exactly, and for every access it is told what came before it:
the clock of the port was enabled before its other registers are touched, no clock is disabled, and
only lines whose configuration has begun are set or reset. What a port does with the words is out
of scope.
-/

namespace PilotLamp

/-! ## Buses that store -/

/-- A bus that stores what is written, where `contents` tells what its registers hold. -/
structure RegisterBus.Stores {β : Type} (bus : RegisterBus β) (contents : β → FlatMemory) :
    Prop where
  /-- A read answers what the register holds. -/
  read_eq : ∀ register state, (bus.read register state).1 = contents state register
  /-- A read leaves all registers alone. -/
  contents_read : ∀ register state, contents (bus.read register state).2 = contents state
  /-- A write stores its word. -/
  contents_write : ∀ register value state,
    contents (bus.write register value state) = (contents state).store register value

/-- Flat memory stores what is written. -/
theorem FlatMemory.stores_bus : FlatMemory.bus.Stores id where
  read_eq _ _ := rfl
  contents_read _ _ := rfl
  contents_write _ _ _ := rfl

/-- So a modification stores what becomes of the word. -/
theorem RegisterBus.Stores.contents_modify {β : Type} {bus : RegisterBus β}
    {contents : β → FlatMemory} (h : bus.Stores contents) (register : Register) (f : Word → Word)
    (state : β) :
    contents (bus.modify register f state)
      = (contents state).store register (f (contents state register)) := by
  simp only [modify, h.contents_write, h.contents_read, h.read_eq]

namespace Port

/-- A mode word in which the mode of a line was cleared. -/
def withoutMode (line : Nat) (word : Word) : Word := word &&& ~~~modeMask line

/-- Clearing the mode of a line leaves the other lines alone. -/
theorem modeOf_withoutMode {line : Nat} (h : line < width) (other : Nat) (word : Word) :
    modeOf other (withoutMode line word) = if other = line then 0b00#2 else modeOf other word := by
  apply BitVec.eq_of_getLsbD_eq
  intro position hposition
  have hbit : (withoutMode line word).getLsbD (2 * other + position)
      = (word.getLsbD (2 * other + position)
        && !decide (2 * other + position = 2 * line ∨ 2 * other + position = 2 * line + 1)) := by
    rw [withoutMode, BitVec.getLsbD_and, BitVec.getLsbD_not, getLsbD_modeMask h]
    cases hword : word.getLsbD (2 * other + position) with
    | false => simp
    | true => simp [BitVec.lt_of_getLsbD hword]
  rw [modeOf, BitVec.getLsbD_extractLsb', hbit]
  by_cases heq : other = line
  · subst heq
    have hfield : 2 * other + position = 2 * other ∨ 2 * other + position = 2 * other + 1 := by
      omega
    rw [if_pos rfl, decide_eq_true hfield]
    simp
  · have hfield : ¬ (2 * other + position = 2 * line ∨ 2 * other + position = 2 * line + 1) := by
      omega
    rw [if_neg heq, decide_eq_false hfield, modeOf, BitVec.getLsbD_extractLsb']
    simp

end Port

namespace Stm32f4

open BusAccess (stores stores_concat_read stores_concat_write)
open Port (clockEnable levelWord modeOf resetWord withOutput withoutMode)

/-! ## Requests and moments -/

/-- What is asked of a backend. -/
inductive Request
  /-- A call. -/
  | call (call : Call)
  /-- The level of a pin. -/
  | level (pin : Pin)

/-- What a backend answers. -/
inductive Reply
  /-- The answer to a call. -/
  | call (answer : Except PinError Unit)
  /-- The level of a pin. -/
  | level (level : Option Level)

/-- Serves a request. -/
def serve {β : Type} (bus : RegisterBus β) (state : Stm32f4 × β) :
    Request → Reply × Stm32f4 × β
  | .call call =>
    let (answer, next) := (indicator bus).apply state call
    (.call answer, next)
  | .level pin => (.level ((indicator bus).level state pin), state)

/-- Something that happens while a backend is watched. -/
inductive Moment
  /-- A request begins to be served. -/
  | begun (request : Request)
  /-- A register is accessed. -/
  | access (access : BusAccess)
  /-- The request is answered. -/
  | answered (reply : Reply)

/-- The access of a moment, if it is one. -/
def Moment.access? : Moment → Option BusAccess
  | access made => some made
  | begun _ | answered _ => none

/-- The accesses among some moments. -/
def accessesIn (moments : List Moment) : List BusAccess := moments.filterMap Moment.access?

/-- A backend with the state of its bus and all that happened, oldest first. -/
abbrev Watched (β : Type) : Type := Stm32f4 × β × List Moment

section

variable {β : Type} (bus : RegisterBus β)

/-- Serves a request on a bus on which each access is noted. -/
def step (state : Watched β) (request : Request) : Watched β :=
  let (reply, backend, store, moments) := serve (bus.watched .access)
    (state.1, state.2.1, state.2.2 ++ [.begun request]) request
  (backend, store, moments ++ [.answered reply])

/-- A backend without configured lines after some requests. -/
def watchedAfter (port : Port) (rate : SpinRate) (store : β) (requests : List Request) :
    Watched β :=
  requests.foldl (step bus) (.fresh port rate, store, [])

end

section

variable {moments : List Moment}

theorem accessesIn_concat_access (access : BusAccess) :
    accessesIn (moments ++ [.access access]) = accessesIn moments ++ [access] := by
  simp [accessesIn, Moment.access?]

theorem accessesIn_concat_other {moment : Moment} (h : moment.access? = none) :
    accessesIn (moments ++ [moment]) = accessesIn moments := by
  simp [accessesIn, h]

theorem accessesIn_append_accesses (accesses : List BusAccess) :
    accessesIn (moments ++ accesses.map .access) = accessesIn moments ++ accesses := by
  have haccesses : (accesses.map Moment.access).filterMap Moment.access? = accesses := by
    rw [List.filterMap_map]
    exact List.filterMap_some
  rw [accessesIn, List.filterMap_append, haccesses, accessesIn]

end

/-! ## What a request does -/

/-- The accesses that a request makes, with its answer, when the registers of a port hold what
`memory` holds. -/
inductive Accesses (port : Port) (memory : FlatMemory) (lines : LineTable) :
    Request → Reply → List BusAccess → Prop
  /-- A line is configured: the clock of the port is enabled beside those that were, the mode of
  the line is cleared and then set to output, and the line is reset. -/
  | configured {pin : Pin} {cleared output : Word} (inside : pin.index < Port.width)
      (clears : ∀ line, modeOf line cleared
        = if line = pin.index then 0b00#2 else modeOf line (memory port.mode))
      (sets : ∀ line, modeOf line output
        = if line = pin.index then 0b01#2 else modeOf line (memory port.mode)) :
      Accesses port memory lines (.call (.configure pin)) (.call (.ok ()))
        [.read clockEnable (memory clockEnable),
          .write clockEnable (memory clockEnable ||| port.clockBit),
          .read port.mode (memory port.mode), .write port.mode cleared,
          .read port.mode cleared, .write port.mode output,
          .write port.setReset (resetWord pin.index)]
  /-- A line that is configured is set or reset. -/
  | written {pin : Pin} {level : Level} (inside : pin.index < Port.width)
      (configured : lines.isConfigured pin = true) :
      Accesses port memory lines (.call (.write pin level)) (.call (.ok ()))
        [.write port.setReset (levelWord pin.index level.isAsserted)]
  /-- A call about a pin that is no line of the port fails and touches no register. -/
  | outside {call : Call} {pin : Pin} (about : call.pin? = some pin)
      (outside : Port.width ≤ pin.index) :
      Accesses port memory lines (.call call) (.call (.error (.noSuchPin pin.index))) []
  /-- So does a write to a line that is not configured. -/
  | notConfigured {pin : Pin} {level : Level} (inside : pin.index < Port.width)
      (notConfigured : lines.isConfigured pin = false) :
      Accesses port memory lines (.call (.write pin level)) (.call (.error (.notConfigured pin))) []
  /-- A call that is about no pin touches no register. -/
  | idle {call : Call} (about : call.pin? = none) :
      Accesses port memory lines (.call call) (.call (.ok ())) []
  /-- Nor does the question for a level. -/
  | level {pin : Pin} :
      Accesses port memory lines (.level pin) (.level (lines.level pin)) []

/-- The accesses that prepare a line. -/
def preparation (port : Port) (line : Nat) (memory : FlatMemory) : List BusAccess :=
  [.read clockEnable (memory clockEnable),
    .write clockEnable (memory clockEnable ||| port.clockBit),
    .read port.mode (memory port.mode), .write port.mode (withoutMode line (memory port.mode)),
    .read port.mode (withoutMode line (memory port.mode)),
    .write port.mode (withOutput line (memory port.mode)),
    .write port.setReset (resetWord line)]

section

variable {β : Type} {bus : RegisterBus β} {contents : β → FlatMemory}

/-- Preparing a line on a bus that stores is noted as these accesses, and leads to what they
store. -/
theorem prepareLine_watched (h : bus.Stores contents) (port : Port) (line : Nat) (store : β)
    (moments : List Moment) :
    ∃ after, prepareLine (bus.watched .access) port line (store, moments)
        = (after, moments ++ (preparation port line (contents store)).map .access) ∧
      contents after
        = (contents store).storeAll (stores (preparation port line (contents store))) := by
  have hclock : contents (bus.modify clockEnable (· ||| port.clockBit) store)
      = (contents store).store clockEnable (contents store clockEnable ||| port.clockBit) :=
    h.contents_modify _ _ _
  have hmode := (contents store).store_other (contents store clockEnable ||| port.clockBit)
    port.mode_ne_clockEnable
  rw [← hclock] at hmode
  refine ⟨bus.write port.setReset (resetWord line)
    (bus.modify port.mode (· ||| Port.outputMode line) (bus.modify port.mode
      (· &&& ~~~Port.modeMask line) (bus.modify clockEnable (· ||| port.clockBit) store))), ?_, ?_⟩
  · simp only [prepareLine, RegisterBus.modify_watched, h.read_eq, h.contents_modify,
      FlatMemory.store_same, FlatMemory.store_other _ _ port.mode_ne_clockEnable]
    simp [RegisterBus.watched, preparation, withoutMode, withOutput]
  · simp only [h.contents_write, h.contents_modify, FlatMemory.store_same,
      FlatMemory.store_other _ _ port.mode_ne_clockEnable]
    rfl

/-- Serving a request on a bus that stores is noted as the accesses of the request, and leads to
what they store. -/
theorem serve_watched (h : bus.Stores contents) (backend : Stm32f4) (store : β)
    (moments : List Moment) (request : Request) :
    ∃ accesses after, (serve (bus.watched .access) (backend, store, moments) request).2.2
        = (after, moments ++ accesses.map .access) ∧
      Accesses backend.port (contents store) backend.lines request
        (serve (bus.watched .access) (backend, store, moments) request).1 accesses ∧
      contents after = (contents store).storeAll (stores accesses) := by
  have hnothing : (store, moments)
      = (store, moments ++ ([] : List BusAccess).map Moment.access) := by
    rw [List.map_nil, List.append_nil]
  cases request with
  | level pin => exact ⟨[], store, hnothing, .level, rfl⟩
  | call call =>
    have does := apply_does (bus.watched .access) backend (store, moments) call
    change ∃ accesses after, ((indicator (bus.watched .access)).apply
        (backend, store, moments) call).2.2 = (after, moments ++ accesses.map .access) ∧
      Accesses backend.port (contents store) backend.lines (.call call)
        (.call ((indicator (bus.watched .access)).apply (backend, store, moments) call).1)
        accesses ∧ contents after = (contents store).storeAll (stores accesses)
    generalize (indicator (bus.watched .access)).apply (backend, store, moments) call
      = outcome at does ⊢
    obtain ⟨answer, next, state⟩ := outcome
    cases does with
    | configured inside configured =>
      obtain ⟨after, hprepared, hcontents⟩ :=
        prepareLine_watched h backend.port _ store moments
      exact ⟨_, after, hprepared, .configured inside (fun line => Port.modeOf_withoutMode inside
        line _) (fun line => Port.modeOf_withOutput inside line _), hcontents⟩
    | written inside set =>
      exact ⟨_, _, rfl, .written inside (LineTable.isConfigured_of_set set),
        h.contents_write _ _ _⟩
    | outside about outside => exact ⟨[], store, hnothing, .outside about outside, rfl⟩
    | notConfigured inside notConfigured =>
      exact ⟨[], store, hnothing, .notConfigured inside notConfigured, rfl⟩
    | idle about => exact ⟨[], store, hnothing, .idle about, rfl⟩

end

/-! ## What comes before an access -/

/-- The clock of a port was enabled by a store. -/
def Clocked (port : Port) (earlier : List Moment) : Prop :=
  ∃ value, .access (.write clockEnable value) ∈ earlier ∧ value.getLsbD port.index = true

/-- An access is in order after what happened before it, when the registers held what `initial`
holds at first. -/
structure InOrder (port : Port) (initial : FlatMemory) (earlier : List Moment)
    (access : BusAccess) : Prop where
  /-- The clock enable register is accessed, or the mode or the set-reset register of the port. -/
  register_eq : access.register = clockEnable ∨ access.register = port.mode ∨
    access.register = port.setReset
  /-- The registers of the port are accessed once its clock was enabled. -/
  clocked : access.register ≠ clockEnable → Clocked port earlier
  /-- A store to the clock enable register keeps the bits that are set. -/
  clocks_kept : ∀ value, access = .write clockEnable value → ∀ n,
    (initial.storeAll (stores (accessesIn earlier)) clockEnable).getLsbD n = true →
    value.getLsbD n = true
  /-- The set-reset register is only stored to, a word with a single bit: that which sets or that
  which resets a line of the port whose configuration was begun. -/
  set_or_reset : access.register = port.setReset → ∃ value pin, ∃ lit : Bool,
    access = .write port.setReset value ∧ pin.index < Port.width ∧
    .begun (.call (.configure pin)) ∈ earlier ∧
    ∀ n, value.getLsbD n = decide (n = if lit then pin.index else pin.index + Port.width)

theorem setReset_ne_clockEnable (port : Port) : port.setReset ≠ clockEnable := by
  cases port <;> decide

section

variable {port : Port} {initial : FlatMemory} {earlier moments : List Moment} {value : Word}

theorem InOrder.readClock : InOrder port initial earlier (.read clockEnable value) where
  register_eq := .inl rfl
  clocked h := absurd rfl h
  clocks_kept _ h := by cases h
  set_or_reset h := absurd h (setReset_ne_clockEnable port).symm

theorem InOrder.writeClock (kept : ∀ n,
    (initial.storeAll (stores (accessesIn earlier)) clockEnable).getLsbD n = true →
      value.getLsbD n = true) :
    InOrder port initial earlier (.write clockEnable value) where
  register_eq := .inl rfl
  clocked h := absurd rfl h
  clocks_kept _ h := by cases h; exact kept
  set_or_reset h := absurd h (setReset_ne_clockEnable port).symm

/-- With the clock of the port enabled, its mode register is read and written. -/
theorem InOrder.mode (clocked : Clocked port earlier) (access : BusAccess)
    (h : access.register = port.mode) : InOrder port initial earlier access where
  register_eq := .inr (.inl h)
  clocked _ := clocked
  clocks_kept _ hwrite := by
    rw [hwrite] at h
    exact absurd h port.mode_ne_clockEnable.symm
  set_or_reset hset := absurd (h.symm.trans hset) port.mode_ne_setReset

/-- With the clock of the port enabled, its lines are set and reset. -/
theorem InOrder.setReset (clocked : Clocked port earlier) {pin : Pin}
    (inside : pin.index < Port.width) (begun : .begun (.call (.configure pin)) ∈ earlier)
    (lit : Bool) :
    InOrder port initial earlier (.write port.setReset (levelWord pin.index lit)) where
  register_eq := .inr (.inr rfl)
  clocked _ := clocked
  clocks_kept _ hwrite := by
    injection hwrite with hregister
    exact absurd hregister (setReset_ne_clockEnable port)
  set_or_reset _ := ⟨_, pin, lit, rfl, inside, begun, Port.getLsbD_levelWord inside lit⟩

theorem Clocked.append (h : Clocked port earlier) (later : List Moment) :
    Clocked port (earlier ++ later) := by
  obtain ⟨value, hmem, hbit⟩ := h
  exact ⟨value, List.mem_append_left _ hmem, hbit⟩

/-- Every access of some moments is in order. -/
def AllInOrder (port : Port) (initial : FlatMemory) (moments : List Moment) : Prop :=
  ∀ earlier access later, moments = earlier ++ .access access :: later →
    InOrder port initial earlier access

theorem AllInOrder.access (h : AllInOrder port initial moments) {access : BusAccess}
    (last : InOrder port initial moments access) :
    AllInOrder port initial (moments ++ [.access access]) := by
  intro earlier other later hsplit
  rcases concat_eq_append_cons_iff.mp hsplit with ⟨rest, -, hbefore⟩ | ⟨-, rfl, hlast⟩
  · exact h earlier other rest hbefore
  · cases hlast
    exact last

theorem AllInOrder.other (h : AllInOrder port initial moments) {moment : Moment}
    (quiet : moment.access? = none) : AllInOrder port initial (moments ++ [moment]) := by
  intro earlier other later hsplit
  rcases concat_eq_append_cons_iff.mp hsplit with ⟨rest, -, hbefore⟩ | ⟨-, -, hlast⟩
  · exact h earlier other rest hbefore
  · rw [hlast] at quiet
    cases quiet

/-- Configuring a line is in order at any time, once it is begun. -/
theorem AllInOrder.configured (h : AllInOrder port initial moments) {pin : Pin}
    (inside : pin.index < Port.width) (begun : .begun (.call (.configure pin)) ∈ moments)
    {clocks modes cleared output : Word}
    (hclocks : clocks = initial.storeAll (stores (accessesIn moments)) clockEnable) :
    AllInOrder port initial (moments ++ List.map .access
      [.read clockEnable clocks, .write clockEnable (clocks ||| port.clockBit),
        .read port.mode modes, .write port.mode cleared, .read port.mode cleared,
        .write port.mode output, .write port.setReset (resetWord pin.index)]) := by
  have hread : AllInOrder port initial (moments ++ [.access (.read clockEnable clocks)]) :=
    h.access .readClock
  -- A read stores nothing, so the write that follows it meets the word that was read.
  have hkept : ∀ n, (initial.storeAll (stores (accessesIn
      (moments ++ [.access (.read clockEnable clocks)]))) clockEnable).getLsbD n = true →
      (clocks ||| port.clockBit).getLsbD n = true := by
    intro n hbit
    rw [accessesIn_concat_access, stores_concat_read, ← hclocks] at hbit
    rw [BitVec.getLsbD_or, hbit, Bool.true_or]
  have henabled := hread.access (.writeClock hkept)
  have hclocked : Clocked port (moments ++ [.access (.read clockEnable clocks)]
      ++ [.access (.write clockEnable (clocks ||| port.clockBit))]) := by
    refine ⟨_, List.mem_append_right _ List.mem_cons_self, ?_⟩
    rw [BitVec.getLsbD_or, port.getLsbD_clockBit, Bool.or_true]
  have hmode := henabled.access (.mode hclocked (.read port.mode modes) rfl)
  have hcleared := hmode.access
    (.mode (hclocked.append _) (.write port.mode cleared) rfl)
  have hagain := hcleared.access
    (.mode ((hclocked.append _).append _) (.read port.mode cleared) rfl)
  have houtput := hagain.access
    (.mode (((hclocked.append _).append _).append _) (.write port.mode output) rfl)
  have hreset := houtput.access (.setReset ((((hclocked.append _).append _).append _).append _)
    inside (by simp [begun]) false)
  simpa [levelWord] using hreset

end

/-! ## Runs -/

/-- What is known of a watched backend after any requests. -/
structure Orderly {β : Type} (contents : β → FlatMemory) (port : Port) (initial : FlatMemory)
    (state : Watched β) : Prop where
  /-- The backend is one of the port. -/
  port_eq : state.1.port = port
  /-- The registers hold what was stored. -/
  contents_eq : contents state.2.1 = initial.storeAll (stores (accessesIn state.2.2))
  /-- A line that has a level was configured, for which the clock of the port was enabled. -/
  begun : ∀ pin, state.1.lines.level pin ≠ none →
    .begun (.call (.configure pin)) ∈ state.2.2 ∧ Clocked port state.2.2
  /-- Every access was in order. -/
  inOrder : AllInOrder port initial state.2.2

section

variable {β : Type} {bus : RegisterBus β} {contents : β → FlatMemory} {port : Port}
  {initial : FlatMemory}

/-- A line that has a level after a request had one before, or the request configured it. -/
theorem level_ne_none_of_serve (bus : RegisterBus β) (state : Stm32f4 × β) (request : Request)
    (pin : Pin) (h : (serve bus state request).2.1.lines.level pin ≠ none) :
    state.1.lines.level pin ≠ none ∨
      request = .call (.configure pin) ∧ (serve bus state request).1 = .call (.ok ()) := by
  cases request with
  | level other => exact .inl h
  | call call =>
    have hlevel : (indicator bus).level ((indicator bus).apply state call).2 pin ≠ none := h
    rcases (tellsLevels bus).level_ne_none hlevel with hbefore | ⟨hcall, hanswer⟩
    · exact .inl hbefore
    · exact .inr ⟨congrArg Request.call hcall, congrArg Reply.call hanswer⟩

/-- A request leaves the backend on its port. -/
theorem port_serve (bus : RegisterBus β) (state : Stm32f4 × β) (request : Request) :
    (serve bus state request).2.1.port = state.1.port := by
  obtain ⟨backend, store⟩ := state
  cases request with
  | level pin => rfl
  | call call =>
    change ((indicator bus).apply (backend, store) call).2.1.port = backend.port
    have does := apply_does bus backend store call
    generalize (indicator bus).apply (backend, store) call = outcome at does ⊢
    obtain ⟨answer, next, after⟩ := outcome
    cases does <;> rfl

/-- The accesses of a request are in order, if everything before it was. -/
theorem Accesses.inOrder {memory : FlatMemory} {lines : LineTable} {request : Request}
    {reply : Reply} {accesses : List BusAccess} {moments : List Moment}
    (rule : Accesses port memory lines request reply accesses)
    (hmemory : memory = initial.storeAll (stores (accessesIn moments)))
    (configured : ∀ pin, lines.level pin ≠ none →
      .begun (.call (.configure pin)) ∈ moments ∧ Clocked port moments)
    (h : AllInOrder port initial moments) (begun : .begun request ∈ moments) :
    AllInOrder port initial (moments ++ accesses.map .access) := by
  cases rule with
  | configured inside clears sets => exact h.configured inside begun (congrFun hmemory clockEnable)
  | @written pin level inside hconfigured =>
    have hlevel : lines.level pin ≠ none := by
      rw [← Option.isSome_iff_ne_none, LineTable.isSome_level]
      exact hconfigured
    obtain ⟨hbegun, hclocked⟩ := configured pin hlevel
    exact h.access (.setReset hclocked inside hbegun level.isAsserted)
  | outside about outside => simpa using h
  | notConfigured inside notConfigured => simpa using h
  | idle about => simpa using h
  | level => simpa using h

/-- A configuration that succeeds enables the clock of the port. -/
theorem Accesses.clocked {memory : FlatMemory} {lines : LineTable} {pin : Pin}
    {accesses : List BusAccess} (earlier : List Moment)
    (rule : Accesses port memory lines (.call (.configure pin)) (.call (.ok ())) accesses) :
    Clocked port (earlier ++ accesses.map .access) := by
  cases rule with
  | idle about => cases about
  | configured inside clears sets =>
    refine ⟨memory clockEnable ||| port.clockBit, by simp, ?_⟩
    rw [BitVec.getLsbD_or, port.getLsbD_clockBit, Bool.or_true]

/-- What a step comes to on a bus that stores: the accesses of the request are noted between its
beginning and its answer, and what they store is in the registers. -/
theorem step_watched (hstores : bus.Stores contents) (backend : Stm32f4) (store : β)
    (moments : List Moment) (request : Request) :
    ∃ reply accesses next after,
      step bus (backend, store, moments) request
        = (next, after, moments ++ [.begun request] ++ accesses.map .access ++ [.answered reply]) ∧
      Accesses backend.port (contents store) backend.lines request reply accesses ∧
      contents after = (contents store).storeAll (stores accesses) ∧
      next.port = backend.port ∧
      ∀ pin, next.lines.level pin ≠ none → backend.lines.level pin ≠ none ∨
        request = .call (.configure pin) ∧ reply = .call (.ok ()) := by
  obtain ⟨accesses, after, hserved, hrule, hafter⟩ :=
    serve_watched hstores backend store (moments ++ [.begun request]) request
  have hport := port_serve (bus.watched .access) (backend, store, moments ++ [.begun request])
    request
  have hlevels := level_ne_none_of_serve (bus.watched .access)
    (backend, store, moments ++ [.begun request]) request
  rcases hserve : serve (bus.watched .access) (backend, store, moments ++ [.begun request])
    request with ⟨reply, next, state⟩
  rw [hserve] at hserved hrule hport hlevels
  obtain rfl : state = _ := hserved
  refine ⟨reply, accesses, next, after, ?_, hrule, hafter, hport, hlevels⟩
  simp only [step, hserve]

/-- Every request keeps order, and its accesses are told. -/
theorem Orderly.step (hstores : bus.Stores contents) {state : Watched β}
    (h : Orderly contents port initial state) (request : Request) :
    Orderly contents port initial (step bus state request) ∧
      ∃ reply accesses, Accesses port (contents state.2.1) state.1.lines request reply accesses ∧
        (Stm32f4.step bus state request).2.2
          = state.2.2 ++ .begun request :: accesses.map .access ++ [.answered reply] := by
  obtain ⟨backend, store, moments⟩ := state
  obtain ⟨rfl, hcontents, hbegun, hinOrder⟩ := h
  simp only [] at hcontents hbegun hinOrder
  obtain ⟨reply, accesses, next, after, hstep, hrule, hafter, hport, hlevels⟩ :=
    step_watched hstores backend store moments request
  rw [hstep]
  have haccesses : accessesIn (moments ++ [.begun request]) = accessesIn moments :=
    accessesIn_concat_other rfl
  have hmemory : contents store
      = initial.storeAll (stores (accessesIn (moments ++ [.begun request]))) := by
    rw [haccesses, hcontents]
  have hconfigured (pin : Pin) (hlevel : backend.lines.level pin ≠ none) :
      .begun (.call (.configure pin)) ∈ moments ++ [.begun request] ∧
        Clocked backend.port (moments ++ [.begun request]) :=
    ⟨List.mem_append_left _ (hbegun pin hlevel).1, (hbegun pin hlevel).2.append _⟩
  have hlast : .begun request ∈ moments ++ [.begun request] :=
    List.mem_append_right _ (List.mem_singleton.mpr rfl)
  refine ⟨⟨hport, ?_, ?_, ?_⟩, reply, accesses, hrule, by simp⟩
  · change contents after = initial.storeAll (stores (accessesIn (_ ++ [.answered reply])))
    rw [accessesIn_concat_other rfl, accessesIn_append_accesses, haccesses, hafter, hcontents,
      BusAccess.stores, BusAccess.stores, BusAccess.stores, List.filterMap_append,
      FlatMemory.storeAll_append]
  · intro pin hlevel
    rcases hlevels pin hlevel with hbefore | ⟨rfl, rfl⟩
    · obtain ⟨hmem, hclocked⟩ := hconfigured pin hbefore
      exact ⟨List.mem_append_left _ (List.mem_append_left _ hmem),
        (hclocked.append _).append _⟩
    · exact ⟨List.mem_append_left _ (List.mem_append_left _ hlast),
        (hrule.clocked (moments ++ [.begun _])).append _⟩
  · exact (hrule.inOrder hmemory hconfigured (hinOrder.other rfl) hlast).other rfl

/-- After any requests everything was in order. -/
theorem Orderly.after (hstores : bus.Stores contents) (port : Port) (rate : SpinRate) (store : β)
    (requests : List Request) :
    Orderly contents port (contents store) (watchedAfter bus port rate store requests) := by
  have hfirst : Orderly contents port (contents store) (Stm32f4.fresh port rate, store, []) := by
    refine ⟨rfl, rfl, fun pin hlevel => absurd (LineTable.level_empty pin) hlevel, ?_⟩
    intro earlier access later hsplit
    cases earlier <;> cases hsplit
  have hrun (state : Watched β) (h : Orderly contents port (contents store) state) :
      Orderly contents port (contents store) (requests.foldl (Stm32f4.step bus) state) := by
    induction requests generalizing state with
    | nil => exact h
    | cons request rest ih => exact ih _ (h.step hstores request).1
  exact hrun _ hfirst

end

/-- On a bus that stores what is written, whatever its registers hold at first, every request to a
backend makes the accesses that are told of it and no others, and every access is in order. -/
theorem accesses_in_order {β : Type} {bus : RegisterBus β} {contents : β → FlatMemory}
    (stores : bus.Stores contents) (port : Port) (rate : SpinRate) (store : β) :
    (∀ requests request,
      let now := watchedAfter bus port rate store requests
      ∃ reply accesses, Accesses port (contents now.2.1) now.1.lines request reply accesses ∧
        (watchedAfter bus port rate store (requests ++ [request])).2.2
          = now.2.2 ++ .begun request :: accesses.map .access ++ [.answered reply]) ∧
    ∀ requests earlier access later,
      (watchedAfter bus port rate store requests).2.2 = earlier ++ .access access :: later →
      InOrder port (contents store) earlier access := by
  refine ⟨fun requests request => ?_, fun requests => ?_⟩
  · have hnext : watchedAfter bus port rate store (requests ++ [request])
        = step bus (watchedAfter bus port rate store requests) request := by
      rw [watchedAfter, List.foldl_append]
      rfl
    rw [hnext]
    exact ((Orderly.after stores port rate store requests).step stores request).2
  · exact (Orderly.after stores port rate store requests).inOrder

/-- On flat memory in which every bit is set, line 15 is lit after it was configured twice, with a
single access that follows a store to the clock enable register. -/
theorem line15_lit_in_order :
    let now := watchedAfter FlatMemory.bus .i ⟨1⟩ (fun _ => BitVec.allOnes 32)
      [.call (.configure (.ofNat 15)), .call (.configure (.ofNat 15))]
    FlatMemory.bus.Stores id ∧
      (∃ reply accesses, Accesses .i now.2.1 now.1.lines
          (.call (.write (.ofNat 15) .asserted)) reply accesses ∧
        (watchedAfter FlatMemory.bus .i ⟨1⟩ (fun _ => BitVec.allOnes 32)
            ([.call (.configure (.ofNat 15)), .call (.configure (.ofNat 15))]
              ++ [.call (.write (.ofNat 15) .asserted)])).2.2
          = now.2.2 ++ .begun (.call (.write (.ofNat 15) .asserted))
            :: accesses.map .access ++ [.answered reply]) ∧
      InOrder .i (fun _ => BitVec.allOnes 32)
        (now.2.2 ++ [.begun (.call (.write (.ofNat 15) .asserted))])
        (.write (Port.setReset .i) (levelWord 15 true)) := by
  intro now
  have horder := accesses_in_order FlatMemory.stores_bus .i ⟨1⟩ fun _ => BitVec.allOnes 32
  refine ⟨FlatMemory.stores_bus, horder.1 _ _, ?_⟩
  exact horder.2 [.call (.configure (.ofNat 15)), .call (.configure (.ofNat 15)),
    .call (.write (.ofNat 15) .asserted)] _ _ [.answered (.call (.ok ()))] rfl

end Stm32f4

end PilotLamp
