import PilotLamp.EntryPoints
import PilotLamp.Proofs.Acceptance
import PilotLamp.Proofs.OverlappingCalls
import PilotLamp.Proofs.TraceLines
import Mathlib.Data.List.Induction

/-!
# What the entry points print

What a request to the entry points prints is told by the requests before it: whether the pin was
set up, and what was last written to it since. It is at most one line. Waits print nothing, and
nothing that other requests print depends on them. Requests that overlap a wait are out of scope,
and so is a console that cannot be printed on.
-/

namespace PilotLamp

/-- A console prints what a simulation writes. -/
theorem Console.prints : Console.surroundings.Prints Console.printed where
  write text console htext := by
    refine ⟨text.length, _, List.length_pos_iff.mpr htext, rfl, ?_⟩
    simp [Console.printed, String.join_append]
  flush console := ⟨console, rfl, rfl⟩
  log record console := by simp [Console.printed, Console.surroundings]
  sleep ms console := by simp [Console.printed, Console.surroundings]

namespace Level

/-- A value asks for a line that is lit unless it is zero. -/
theorem ofRaw_eq_ofBool (value : Int32) : ofRaw value = ofBool (decide (value ≠ 0)) := by
  by_cases h : value = 0 <;> simp [h, ofBool, ofRaw]

/-- Two conditions ask for the same level only if they are the same. -/
theorem ofBool_inj {first second : Bool} : ofBool first = ofBool second ↔ first = second := by
  cases first <;> cases second <;> simp [ofBool]

/-- The word for the level that a value asks for. -/
theorem text_ofRaw (value : Int32) : (ofRaw value).text = if value = 0 then "OFF" else "ON" := by
  by_cases h : value = 0 <;> simp [h, text, ofRaw]

end Level

namespace EntryPoints

open SharedIndicator (BackendKind Move Traffic after_pinCall_of_found after_wait
  after_wait_of_found callOn found)

/-- A call of an entry point. -/
inductive Request
  /-- Sets a pin up. -/
  | setUp (pin : Int32)
  /-- Writes a value to a pin. -/
  | write (pin value : Int32)
  /-- Waits. -/
  | sleep (ms : Int32)
deriving DecidableEq, Repr

/-- Carries out a request. -/
def apply (state : EntryPoints) : Request → EntryPoints
  | .setUp pin => setUp pin state
  | .write pin value => write pin value state
  | .sleep ms => sleep ms state

/-- The state after some requests. -/
def after (requests : List Request) : EntryPoints := requests.foldl apply fresh

/-! ## Lines told from requests -/

/-- Whether there is a pin of a number. -/
def hasPin (pin : Int32) : Bool := 0 ≤ pin.toInt && pin.toInt < 64

/-- The value that a request writes to a pin, if it does. -/
def Request.valueFor? (pin : Int32) : Request → Option Int32
  | .write other value => if other = pin then some value else none
  | .setUp _ | .sleep _ => none

/-- Whether the last value that was written to a pin since it was last set up lights it. Without
such a value it is dark. -/
def lit (pin : Int32) (earlier : List Request) : Bool :=
  ((earlier.reverse.takeWhile (· ≠ .setUp pin)).findSome? (·.valueFor? pin)).any (· ≠ 0)

/-- The line for a number that is no pin. -/
def missing (pin : Int32) : Option String :=
  some ("[sim] error: pin " ++ pin.toInt.repr ++ " does not exist on this target")

/-- The line that a request prints after some others, if any. -/
def line? (earlier : List Request) : Request → Option String
  | .setUp pin =>
    if hasPin pin then some ("[sim] configure(pin=" ++ pin.toInt.repr ++ ")")
    else missing pin
  | .write pin value =>
    if hasPin pin then
      if .setUp pin ∈ earlier then
        if lit pin earlier = decide (value ≠ 0) then none
        else some ("LED[" ++ pin.toInt.repr ++ "] = " ++ if value = 0 then "OFF" else "ON")
      else some ("[sim] error: pin " ++ pin.toInt.repr ++ " has not been configured")
    else missing pin
  | .sleep _ => none

/-! ## Requests as moves -/

/-- What the entry points share: a simulation that prints on the console. Nothing happens when a
spare one is thrown away. -/
def kind : BackendKind Simulation Console where
  indicator := HostProgram.indicator
  build := build
  discard _ console := console

/-- The entry points between two requests, when no wait is in flight. -/
def traffic (state : EntryPoints) : Traffic Simulation Console := ⟨state.slot, [], state.console⟩

theorem traffic_inj {first second : EntryPoints} :
    first.traffic = second.traffic ↔ first = second := by
  obtain ⟨slot, console⟩ := first
  obtain ⟨otherSlot, otherConsole⟩ := second
  simp [traffic]

/-- The moves of a request that overlaps no other. -/
def Request.moves : Request → List Move
  | .setUp pin => [.configure pin]
  | .write pin value => [.write pin value]
  | .sleep ms => [.checkOut ms, .giveBack 0]

/-- A request does what its moves do. -/
theorem after_moves (state : EntryPoints) (request : Request) :
    kind.after state.traffic request.moves = (state.apply request).traffic := by
  cases request with
  | setUp pin => rfl
  | write pin value => rfl
  | sleep ms => exact after_wait kind state.traffic ms

/-! ## Requests as calls -/

/-- What a request asks of the simulation. -/
def Request.call : Request → Call
  | .setUp pin => callOn pin .configure
  | .write pin value => callOn pin fun pin => .write pin (.ofRaw value)
  | .sleep ms => .delay (SharedIndicator.durationOfRaw ms)

/-- The simulation and its console after some requests. -/
def simulated (requests : List Request) : Simulation × Console :=
  HostProgram.indicator.after (build #[]) (requests.map Request.call)

section

variable {state : EntryPoints} {simulation : Simulation × Console}

/-- The moves of a request make its call on the simulation that they find. -/
theorem after_moves_of_found (h : found build state.slot state.console = some simulation)
    (request : Request) :
    kind.after state.traffic request.moves
      = let next := (HostProgram.indicator.apply simulation request.call).2
        ⟨.ready next.1, [], next.2⟩ := by
  have hfinds : found kind.build state.traffic.slot state.traffic.world = some simulation := h
  cases request with
  | setUp pin => exact after_pinCall_of_found kind hfinds rfl
  | write pin value =>
    have hcall : (Move.write pin value).pinCall?
        = some (pin, fun pin => .write pin (.ofRaw value)) := rfl
    exact after_pinCall_of_found kind hfinds hcall
  | sleep ms => exact after_wait_of_found kind hfinds ms

/-- A request is carried out on the simulation that it finds. -/
theorem apply_of_found (h : found build state.slot state.console = some simulation)
    (request : Request) :
    state.apply request = ⟨.ready (HostProgram.indicator.apply simulation request.call).2.1,
      (HostProgram.indicator.apply simulation request.call).2.2⟩ := by
  rw [← traffic_inj, ← after_moves, after_moves_of_found h]
  rfl

/-- What is found holds the console. -/
theorem console_of_found (h : found build state.slot state.console = some simulation) :
    state.console = simulation.2 := by
  obtain ⟨slot, console⟩ := state
  cases slot with
  | empty => cases h; rfl
  | ready backend => cases h; rfl
  | checkedOut => cases h

end

/-- The state after one more request. -/
theorem after_concat (earlier : List Request) (request : Request) :
    after (earlier ++ [request]) = (after earlier).apply request := List.foldl_concat ..

/-- The simulation after one more request. -/
theorem simulated_concat (earlier : List Request) (request : Request) :
    simulated (earlier ++ [request])
      = (HostProgram.indicator.apply (simulated earlier) request.call).2 := by
  rw [simulated, List.map_append, Indicator.after_append]
  rfl

/-- What is found after some requests is what their calls make of a new simulation. -/
theorem found_after (requests : List Request) :
    found build (after requests).slot (after requests).console = some (simulated requests) := by
  induction requests using List.reverseRecOn with
  | nil => rfl
  | append_singleton earlier request ih =>
    rw [after_concat, apply_of_found ih, simulated_concat]
    rfl

/-- What was printed is what the simulation printed. -/
theorem printed_after (requests : List Request) :
    (after requests).printed = (simulated requests).2.printed := by
  rw [printed, console_of_found (found_after requests)]

/-- The simulation of the entry points as a target. -/
def target : Target := .simulation Console.surroundings LineTable.capacity #[]

/-- The simulation after some requests has all its slots. -/
theorem slots_simulated (requests : List Request) :
    (simulated requests).1.slots = LineTable.capacity :=
  target.sound_after (requests.map Request.call)

/-- One more request prints the line that the simulation tells. -/
theorem printed_concat (earlier : List Request) (request : Request) :
    (after (earlier ++ [request])).printed
      = (after earlier).printed
          ++ Simulation.ended ((simulated earlier).1.line? request.call) := by
  rw [printed_after, simulated_concat, printed_after]
  exact Console.prints.apply (Nat.le_of_eq (slots_simulated earlier)) (simulated earlier).2
    request.call

/-! ## Numbers and pins -/

section

variable {pin : Int32}

/-- The pin of a number. -/
def pinOf (pin : Int32) : Pin := .ofNat pin.toInt.toNat

theorem hasPin_iff : hasPin pin = true ↔ 0 ≤ pin.toInt ∧ pin.toInt < 64 := by
  simp [hasPin]

/-- A pin has the number that it is made of. -/
theorem index_pinOf (h : hasPin pin = true) : ((pinOf pin).index : Int) = pin.toInt := by
  obtain ⟨hlow, hhigh⟩ := hasPin_iff.mp h
  rw [pinOf, Pin.index_ofNat (by omega)]
  omega

/-- It is written as that number. -/
theorem text_pinOf (h : hasPin pin = true) : (pinOf pin).text = pin.toInt.repr := by
  rw [← index_pinOf h]
  rfl

/-- The simulation has the pin. -/
theorem index_pinOf_lt (h : hasPin pin = true) : (pinOf pin).index < LineTable.capacity := by
  have hindex := index_pinOf h
  obtain ⟨hlow, hhigh⟩ := hasPin_iff.mp h
  simp only [LineTable.capacity]
  omega

/-- A number that has a pin asks for an operation on that pin. -/
theorem callOn_of_hasPin (h : hasPin pin = true) (operation : Pin → Call) :
    callOn pin operation = operation (pinOf pin) := by
  obtain ⟨hlow, hhigh⟩ := hasPin_iff.mp h
  exact if_pos ⟨hlow, by omega⟩

/-- Any other number asks for an operation on a pin that the simulation does not have, or for the
report of an error. -/
theorem callOn_of_not_hasPin (h : hasPin pin = false) (operation : Pin → Call) :
    (∃ outside : Pin, callOn pin operation = operation outside ∧
      LineTable.capacity ≤ outside.index ∧ (outside.index : Int) = pin.toInt) ∨
    callOn pin operation = .report (.noSuchPin pin.toInt) := by
  unfold callOn
  by_cases hrange : 0 ≤ pin.toInt ∧ pin.toInt ≤ 255
  · rw [if_pos hrange]
    have hnot : ¬ (0 ≤ pin.toInt ∧ pin.toInt < 64) := fun hin => by
      rw [hasPin_iff.mpr hin] at h
      cases h
    refine .inl ⟨_, rfl, ?_⟩
    rw [Pin.index_ofNat (by omega), LineTable.capacity]
    omega
  · exact .inr (if_neg hrange)

end

/-! ## Levels told from requests -/

/-- The number that a request is about. -/
def Request.pin? : Request → Option Int32
  | .setUp pin | .write pin _ => some pin
  | .sleep _ => none

section

variable {pin : Int32} {earlier : List Request} {request : Request}

/-- Whether a pin is lit after one more request. -/
def Request.litAfter (pin : Int32) (before : Bool) : Request → Bool
  | .setUp other => if other = pin then false else before
  | .write other value => if other = pin then decide (value ≠ 0) else before
  | .sleep _ => before

/-- What lights a pin can be told from one request after the other. -/
theorem lit_concat (pin : Int32) (earlier : List Request) (request : Request) :
    lit pin (earlier ++ [request]) = request.litAfter pin (lit pin earlier) := by
  cases request with
  | setUp other => by_cases h : other = pin <;> simp [lit, h, Request.litAfter, Request.valueFor?]
  | write other value =>
    by_cases h : other = pin <;> simp [lit, h, Request.litAfter, Request.valueFor?]
  | sleep ms => simp [lit, Request.litAfter, Request.valueFor?]

/-- Requests that are not about a pin do not matter to it. -/
theorem Request.litAfter_of_other (h : request.pin? ≠ some pin) (before : Bool) :
    request.litAfter pin before = before := by
  cases request with
  | setUp other => exact if_neg fun heq => h (congrArg some heq)
  | write other value => exact if_neg fun heq => h (congrArg some heq)
  | sleep ms => rfl

/-- The level that requests tell of a pin: none until it is set up. -/
def told (pin : Int32) (requests : List Request) : Option Level :=
  if .setUp pin ∈ requests then some (.ofBool (lit pin requests)) else none

/-- A pin that was just set up is deasserted. -/
theorem told_setUp (pin : Int32) (earlier : List Request) :
    told pin (earlier ++ [.setUp pin]) = some .deasserted := by
  simp [told, lit_concat, Request.litAfter, Level.ofBool]

/-- A pin that was set up has the level that was just written. -/
theorem told_write (pin value : Int32) (earlier : List Request) :
    told pin (earlier ++ [.write pin value])
      = (told pin earlier).map fun _ => Level.ofRaw value := by
  by_cases hset : Request.setUp pin ∈ earlier
  · simp [told, hset, lit_concat, Request.litAfter, Level.ofRaw_eq_ofBool]
  · simp [told, hset]

/-- Requests that are not about a pin leave its level alone. -/
theorem told_of_other (h : request.pin? ≠ some pin) :
    told pin (earlier ++ [request]) = told pin earlier := by
  have hne : Request.setUp pin ≠ request := fun heq => h (by rw [← heq]; rfl)
  simp [told, lit_concat, Request.litAfter_of_other h, hne]

/-- Requests that are about another number do not reach the pin of a number. -/
theorem call_of_other (hpin : hasPin pin = true) (h : request.pin? ≠ some pin) :
    request.call.pin? ≠ some (pinOf pin) := by
  have hcallOn (other : Int32) (hne : other ≠ pin) (operation : Pin → Call)
      (hoperation : ∀ pin, (operation pin).pin? = some pin) :
      (callOn other operation).pin? ≠ some (pinOf pin) := by
    cases hother : hasPin other with
    | true =>
      rw [callOn_of_hasPin hother, hoperation, Ne, Option.some.injEq]
      intro heq
      refine hne (Int32.toInt_inj.mp ?_)
      rw [← index_pinOf hother, ← index_pinOf hpin, heq]
    | false =>
      rcases callOn_of_not_hasPin hother operation with ⟨outside, hcall, houtside, -⟩ | hcall
      · rw [hcall, hoperation, Ne, Option.some.injEq]
        rintro rfl
        exact absurd (index_pinOf_lt hpin) (Nat.not_lt.mpr houtside)
      · rw [hcall]
        exact nofun
  cases request with
  | setUp other =>
    have hne : other ≠ pin := fun heq => h (congrArg some heq)
    exact hcallOn other hne .configure fun _ => rfl
  | write other value =>
    have hne : other ≠ pin := fun heq => h (congrArg some heq)
    exact hcallOn other hne (fun pin => .write pin (.ofRaw value)) fun _ => rfl
  | sleep ms => exact nofun

/-- Every pin has the level that the requests tell. -/
theorem level_simulated (hpin : hasPin pin = true) (requests : List Request) :
    (simulated requests).1.lines.level (pinOf pin) = told pin requests := by
  induction requests using List.reverseRecOn with
  | nil => exact LineTable.level_empty _
  | append_singleton earlier request ih =>
    rw [simulated_concat]
    by_cases hother : request.pin? = some pin
    case neg =>
      have hlevel := target.tellsLevels (simulated earlier) request.call (pinOf pin)
      rw [Answered.levelAfter_of_other (.inr (call_of_other hpin hother))] at hlevel
      rw [told_of_other hother]
      exact hlevel.trans ih
    cases request with
    | sleep ms => cases hother
    | setUp other =>
      obtain rfl : other = pin := Option.some.inj hother
      have hcall : (Request.setUp other).call = .configure (pinOf other) := callOn_of_hasPin hpin _
      rw [hcall, told_setUp]
      exact Simulation.level_configure (Nat.le_of_eq (slots_simulated earlier))
        (slots_simulated earlier ▸ index_pinOf_lt hpin)
    | write other value =>
      obtain rfl : other = pin := Option.some.inj hother
      have hcall : (Request.write other value).call = .write (pinOf other) (.ofRaw value) :=
        callOn_of_hasPin hpin fun pin => .write pin (.ofRaw value)
      rw [hcall, told_write, ← ih]
      exact Simulation.level_write (Level.ofRaw value)

end

/-! ## Lines -/

section

variable {pin : Int32}

/-- For a number that is no pin of it, the simulation prints the line of an error. -/
theorem line?_of_not_hasPin (h : hasPin pin = false) {simulation : Simulation}
    (operation : Pin → Call)
    (outside : ∀ pin : Pin, LineTable.capacity ≤ pin.index →
      simulation.line? (operation pin) = some (Simulation.errorLine (.noSuchPin pin.index))) :
    simulation.line? (callOn pin operation) = missing pin := by
  rw [missing, ← Simulation.errorLine_noSuchPin]
  rcases callOn_of_not_hasPin h operation with ⟨other, hcall, houtside, hindex⟩ | hcall
  · rw [hcall, outside other houtside, hindex]
  · rw [hcall]
    rfl

/-- The line that the simulation tells is the one that the requests tell. -/
theorem line?_simulated (earlier : List Request) (request : Request) :
    (simulated earlier).1.line? request.call = line? earlier request := by
  cases request with
  | sleep ms => rfl
  | setUp pin =>
    cases hpin : hasPin pin with
    | true =>
      have hinside : (pinOf pin).index < (simulated earlier).1.slots :=
        slots_simulated earlier ▸ index_pinOf_lt hpin
      rw [Request.call, callOn_of_hasPin hpin]
      simp only [Simulation.line?, line?, if_pos hinside, hpin, if_true, text_pinOf hpin]
    | false =>
      have houtside (other : Pin) (h : LineTable.capacity ≤ other.index) :
          (simulated earlier).1.line? (.configure other)
            = some (Simulation.errorLine (.noSuchPin other.index)) := by
        rw [Simulation.line?, if_neg (slots_simulated earlier ▸ Nat.not_lt.mpr h)]
      simp only [Request.call, line?_of_not_hasPin hpin .configure houtside, line?, hpin,
        Bool.false_eq_true, if_false]
  | write pin value =>
    cases hpin : hasPin pin with
    | true =>
      rw [Request.call, callOn_of_hasPin hpin]
      simp only [Simulation.line?, line?, if_pos (index_pinOf_lt hpin), level_simulated hpin, told,
        hpin, if_true]
      by_cases hset : Request.setUp pin ∈ earlier
      · simp only [if_pos hset, Level.ofRaw_eq_ofBool, Level.ofBool_inj]
        rw [← Level.ofRaw_eq_ofBool, Level.text_ofRaw, text_pinOf hpin]
      · simp only [if_neg hset, Simulation.errorLine_notConfigured, text_pinOf hpin]
    | false =>
      have houtside (other : Pin) (h : LineTable.capacity ≤ other.index) :
          (simulated earlier).1.line? (.write other (.ofRaw value))
            = some (Simulation.errorLine (.noSuchPin other.index)) := by
        rw [Simulation.line?, if_neg (Nat.not_lt.mpr h)]
      simp only [Request.call,
        line?_of_not_hasPin hpin (fun pin => .write pin (.ofRaw value)) houtside, line?, hpin,
        Bool.false_eq_true, if_false]

end

/-- A decimal number has no line feed. -/
theorem newline_not_mem_repr (number : Int) : '\n' ∉ number.repr.toList :=
  Simulation.not_mem_repr (by decide) (by decide) number

/-- Nor has a line. -/
theorem newline_not_mem_line {earlier : List Request} {request : Request} {line : String}
    (h : line? earlier request = some line) : '\n' ∉ line.toList := by
  have hmissing {pin : Int32} (h : missing pin = some line) : '\n' ∉ line.toList := by
    cases h
    simp [newline_not_mem_repr]
  cases request with
  | sleep ms => cases h
  | setUp pin =>
    simp only [line?] at h
    split at h
    case isFalse => exact hmissing h
    case isTrue => cases h; simp [newline_not_mem_repr]
  | write pin value =>
    simp only [line?] at h
    split at h
    case isFalse => exact hmissing h
    split at h
    case isFalse => cases h; simp [newline_not_mem_repr]
    split at h
    case isTrue => cases h
    cases h
    by_cases hvalue : value = 0
    · simp [hvalue, newline_not_mem_repr]
    · simp [hvalue, newline_not_mem_repr]

/-- What is printed at once is at most one line. -/
theorem count_newline_ended (earlier : List Request) (request : Request) :
    (Simulation.ended (line? earlier request)).toList.count '\n' ≤ 1 := by
  cases hline : line? earlier request with
  | none => simp [Simulation.ended]
  | some line =>
    have hnone := List.count_eq_zero_of_not_mem (newline_not_mem_line hline)
    simp [Simulation.ended, hnone]

/-! ## Runs -/

/-- What a request prints: the text by which what was printed grows. -/
def printedBy (state : EntryPoints) (request : Request) : String :=
  .ofList ((state.apply request).printed.toList.drop state.printed.toList.length)

/-- Some requests with what each one prints. -/
def outputs (state : EntryPoints) : List Request → List (Request × String)
  | [] => []
  | request :: rest => (request, state.printedBy request) :: (state.apply request).outputs rest

/-- Whether a request is about a pin. -/
def Request.isPin (request : Request) : Bool := request.pin?.isSome

/-- A request prints the line that is told from the requests before it. -/
theorem printedBy_after (earlier : List Request) (request : Request) :
    (after earlier).printedBy request = Simulation.ended (line? earlier request) := by
  have hprinted := printed_concat earlier request
  rw [after_concat, line?_simulated] at hprinted
  rw [printedBy, hprinted, String.toList_append, List.drop_left', String.ofList_toList]
  rfl

/-- Waits do not change what lights a pin. -/
theorem lit_filter (pin : Int32) (requests : List Request) :
    lit pin (requests.filter (·.isPin)) = lit pin requests := by
  induction requests using List.reverseRecOn with
  | nil => rfl
  | append_singleton earlier request ih =>
    rw [List.filter_append, List.filter_singleton, lit_concat]
    cases hpin : request.isPin with
    | true => rw [cond_true, lit_concat, ih]
    | false =>
      have hother : request.pin? ≠ some pin := fun h => by simp [Request.isPin, h] at hpin
      rw [cond_false, List.append_nil, Request.litAfter_of_other hother, ih]

/-- The line of a request does not depend on the waits before it. -/
theorem line?_filter (earlier : List Request) (request : Request) :
    line? (earlier.filter (·.isPin)) request = line? earlier request := by
  have hmem (pin : Int32) : .setUp pin ∈ earlier.filter (·.isPin) ↔ .setUp pin ∈ earlier := by
    simp [Request.isPin, Request.pin?]
  cases request with
  | setUp pin => rfl
  | sleep ms => rfl
  | write pin value => simp only [line?, hmem, lit_filter]

/-- Without the waits, the other requests of a run print the same. -/
theorem outputs_filter (earlier requests : List Request) :
    ((after earlier).outputs requests).filter (·.1.isPin)
      = (after (earlier.filter (·.isPin))).outputs (requests.filter (·.isPin)) := by
  induction requests generalizing earlier with
  | nil => rfl
  | cons request rest ih =>
    have hprinted : (after (earlier.filter (·.isPin))).printedBy request
        = (after earlier).printedBy request := by
      rw [printedBy_after, printedBy_after, line?_filter]
    have hrest := ih (earlier ++ [request])
    rw [after_concat, List.filter_append, List.filter_singleton] at hrest
    cases hpin : request.isPin with
    | false =>
      rw [hpin, cond_false, List.append_nil] at hrest
      simpa [outputs, hpin] using hrest
    | true =>
      rw [hpin, cond_true, after_concat] at hrest
      simpa [outputs, hpin, hprinted] using hrest

/-- Each request prints at most the line that is told from the requests before it, and waits do
not matter to what the others print. -/
theorem prints_told_lines :
    (∀ earlier request, (after (earlier ++ [request])).printed
      = (after earlier).printed ++ Simulation.ended (line? earlier request)) ∧
    (∀ earlier request, (Simulation.ended (line? earlier request)).toList.count '\n' ≤ 1) ∧
    ∀ requests, (fresh.outputs requests).filter (·.1.isPin)
      = fresh.outputs (requests.filter (·.isPin)) := by
  refine ⟨fun earlier request => ?_, count_newline_ended, outputs_filter []⟩
  rw [printed_concat, line?_simulated]

/-- A pin that is set up again is dark, so that zero does not change it. -/
example : line? [.setUp 3, .write 3 7, .setUp 3] (.write 3 0) = none := by decide

end EntryPoints

end PilotLamp
