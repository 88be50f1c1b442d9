import PilotLamp.Proofs.EntryTrace
import PilotLamp.Proofs.PairedRuns
import PilotLamp.Proofs.TraceTranscripts

/-!
# Sinks that get full

A sink with room for some characters takes the start of what the same run prints where there is
room for everything, however it takes that apart and however its flushes end. Every line that it
loses is told by one warning, and nothing else is. Sinks that make room again are out of scope.
-/

namespace PilotLamp

/-! ## Text of bytes -/

/-- Every character of a text is a byte. -/
def OfBytes (text : String) : Prop := ∀ c ∈ text.toList, c.utf8Size = 1

instance (text : String) : Decidable (OfBytes text) :=
  decidable_of_iff (text.toList.all (·.utf8Size = 1) = true) (by simp [OfBytes])

namespace OfBytes

theorem empty : OfBytes "" := by decide

/-- Texts of bytes can be put together. -/
theorem append {first second : String} (hfirst : OfBytes first) (hsecond : OfBytes second) :
    OfBytes (first ++ second) := by
  intro c hmem
  rw [String.toList_append, List.mem_append] at hmem
  exact hmem.elim (hfirst c) (hsecond c)

/-- Decimal numbers are made of bytes. -/
theorem repr (number : Int) : OfBytes number.repr := by
  have hdigits (n : Nat) : OfBytes n.repr := by
    intro c hmem
    rw [Nat.toList_repr] at hmem
    have hdigit := Nat.isDigit_of_mem_toDigits (by decide) (by decide) hmem
    simp only [Char.isDigit, ge_iff_le, Bool.and_eq_true, decide_eq_true_eq] at hdigit
    rw [Char.utf8Size_eq_one_iff]
    exact UInt32.le_trans hdigit.2 (by decide)
  cases number with
  | ofNat n => exact hdigits n
  | negSucc n =>
    have hsign : OfBytes "-" := by decide
    exact hsign.append (hdigits (n + 1))

/-- So are pins. -/
theorem pin (pin : Pin) : OfBytes pin.text := repr pin.index

/-- Several texts of bytes can be joined. -/
theorem join {texts : List String} (h : ∀ text ∈ texts, OfBytes text) :
    OfBytes (String.join texts) := by
  induction texts with
  | nil => exact empty
  | cons first rest ih =>
    rw [List.forall_mem_cons] at h
    rw [String.join_cons]
    exact h.1.append (ih h.2)

/-- The line that tells an error is made of bytes. -/
theorem errorLine (error : PinError) : OfBytes (Simulation.errorLine error) := by
  have hmark : OfBytes "[sim] error: " := by decide
  refine hmark.append (join ?_)
  cases error with
  | noSuchPin number =>
    simp only [PinError.fragments, List.forall_mem_cons]
    exact ⟨by decide, repr number, by decide, List.forall_mem_nil _⟩
  | notConfigured other =>
    simp only [PinError.fragments, List.forall_mem_cons]
    exact ⟨by decide, pin other, by decide, List.forall_mem_nil _⟩
  | unavailable other =>
    simp only [PinError.fragments, List.forall_mem_cons]
    exact ⟨by decide, pin other, by decide, List.forall_mem_nil _⟩
  | rejected other =>
    simp only [PinError.fragments, List.forall_mem_cons]
    exact ⟨by decide, pin other, List.forall_mem_nil _⟩

/-- So is what a call prints. -/
theorem ended (simulation : Simulation) (call : Call) :
    OfBytes (Simulation.ended (simulation.line? call)) := by
  have hend {line : String} (h : OfBytes line) : OfBytes (Simulation.ended (some line)) :=
    h.append (by decide)
  have hconfigured (other : Pin) : OfBytes ("[sim] configure(pin=" ++ other.text ++ ")") :=
    (append (by decide) (pin other)).append (by decide)
  have hturned (other : Pin) (level : Level) :
      OfBytes ("LED[" ++ other.text ++ "] = " ++ level.text) := by
    refine ((append (by decide) (pin other)).append (by decide)).append ?_
    cases level <;> decide
  cases call with
  | delay ms => exact empty
  | report error => exact hend (errorLine error)
  | configure other =>
    simp only [Simulation.line?]
    split
    · exact hend (hconfigured other)
    · exact hend (errorLine _)
  | write other level =>
    simp only [Simulation.line?]
    split
    case isFalse => exact hend (errorLine _)
    split
    · exact hend (errorLine _)
    · split
      · exact empty
      · exact hend (hturned other level)

end OfBytes

namespace Simulation

/-! ## Room -/

/-- What it means that a sink has room for so many more characters, and for no more than that. -/
structure Surroundings.Limited {ω : Type} (around : Surroundings ω) (room : ω → Nat) : Prop where
  /-- While there is room, some characters of every text are taken, and no more than fit. -/
  takes : ∀ text world, text ≠ [] → 0 < room world → ∃ count next,
    around.sink.write text world = (.ok count, next) ∧ 0 < count ∧ count ≤ text.length ∧
      count + room next = room world
  /-- Without room nothing is taken of a text, be it with a failure or not. -/
  full : ∀ text world, text ≠ [] → room world = 0 →
    ((around.sink.write text world).1 = .ok 0 ∨
      ∃ failure, (around.sink.write text world).1 = .error failure) ∧
    room (around.sink.write text world).2 = 0
  /-- A flush takes no room, whether it fails or not. -/
  flush : ∀ world, room (around.sink.flush world).2 = room world
  /-- A log record takes none. -/
  log : ∀ record world, room (around.log record world) = room world
  /-- A wait takes none. -/
  sleep : ∀ ms world, room (around.sleep ms world) = room world

section

variable {ω : Type} {around : Surroundings ω} {room : ω → Nat} {world after : ω}
  {events : List TraceEvent}

/-- A sink that takes nothing of a text is full, and stays so. -/
theorem Surroundings.Limited.full_of_stuck {text : List Char} {answer : Except String Nat}
    (h : around.Limited room) (nonempty : text ≠ [])
    (wrote : around.sink.write text world = (answer, after))
    (stuck : ∀ count, answer ≠ .ok (count + 1)) : room world = 0 ∧ room after = 0 := by
  have hworld : room world = 0 := by
    by_contra hroom
    obtain ⟨count, next, hwrite, hpositive, -⟩ :=
      h.takes text world nonempty (Nat.pos_of_ne_zero hroom)
    rw [wrote, Prod.mk.injEq] at hwrite
    obtain ⟨fewer, rfl⟩ := Nat.exists_eq_succ_of_ne_zero (Nat.ne_of_gt hpositive)
    exact stuck fewer hwrite.1
  have hafter := (h.full text world nonempty hworld).2
  rw [wrote] at hafter
  exact ⟨hworld, hafter⟩

/-- What a sink takes of a text takes as much of its room. -/
theorem Surroundings.Limited.room_of_took {text : List Char} {count : Nat}
    (h : around.Limited room) (nonempty : text ≠ [])
    (wrote : around.sink.write text world = (.ok (count + 1), after)) :
    count + 1 ≤ text.length ∧ room world = count + 1 + room after := by
  have hroom : 0 < room world := by
    by_contra hnone
    have hzero : room world = 0 := by omega
    have hanswer := (h.full text world nonempty hzero).1
    simp [wrote] at hanswer
  obtain ⟨taken, next, hwrite, -, hfits, hleft⟩ := h.takes text world nonempty hroom
  rw [wrote, Prod.mk.injEq, Except.ok.injEq] at hwrite
  obtain ⟨rfl, rfl⟩ := hwrite
  exact ⟨hfits, hleft.symm⟩

/-- What is taken of a text is as much of it as there is room for. -/
theorem Surroundings.Limited.offers {text : List Char} {answer : Except String Unit}
    (h : around.Limited room) (offers : around.sink.Offers text world events answer after) :
    TraceEvent.accepted events = text.take (room world) ∧
      room after = room world - text.length := by
  induction offers with
  | done => exact ⟨List.take_nil.symm, rfl⟩
  | @took text part later count world between after events answer parted nonempty wrote rest ih =>
    obtain ⟨hrest, hafter⟩ := ih
    obtain ⟨hfits, hroom⟩ := h.room_of_took nonempty wrote
    have htext : text = part.take (count + 1) ++ (part.drop (count + 1) ++ later) := by
      rw [parted, ← List.append_assoc, List.take_append_drop]
    have hpart : (part.take (count + 1)).length = count + 1 := by
      rw [List.length_take]
      omega
    have hlength : text.length = count + 1 + (part.drop (count + 1) ++ later).length := by
      rw [htext, List.length_append, hpart]
    have htake : text.take (room world) = part.take (count + 1)
        ++ (part.drop (count + 1) ++ later).take (room between) := by
      have happend : (part.take (count + 1) ++ (part.drop (count + 1) ++ later)).take
          ((part.take (count + 1)).length + room between) = _ :=
        List.take_length_add_append (room between)
      rwa [hpart, ← hroom, ← htext] at happend
    refine ⟨?_, by omega⟩
    rw [TraceEvent.accepted_cons, TraceEvent.taken, hrest, htake]
  | refused parted nonempty wrote =>
    obtain ⟨hworld, hafter⟩ := h.full_of_stuck nonempty wrote nofun
    exact ⟨by rw [hworld]; rfl, by omega⟩
  | nothing parted nonempty wrote =>
    obtain ⟨hworld, hafter⟩ := h.full_of_stuck nonempty wrote nofun
    exact ⟨by rw [hworld]; rfl, by omega⟩

/-- So it is with a line and its end. -/
theorem Surroundings.Limited.attempt {line : String} (h : around.Limited room)
    (attempt : Attempts around line world events after) :
    TraceEvent.accepted events = (line ++ "\n").toList.take (room world) ∧
      room after = room world - (line ++ "\n").length := by
  rw [← String.length_toList]
  cases attempt with
  | @written between after events offers flushed =>
    have hflush : room after = room between := by rw [← h.flush between, flushed]
    obtain ⟨htaken, hroom⟩ := h.offers offers
    rw [TraceEvent.accepted_append, htaken]
    exact ⟨List.append_nil _, by omega⟩
  | @unflushed between after events failure offers flushed =>
    have hflush : room after = room between := by rw [← h.flush between, flushed]
    obtain ⟨htaken, hroom⟩ := h.offers offers
    rw [TraceEvent.accepted_append, htaken, h.log]
    exact ⟨List.append_nil _, by omega⟩
  | cut offers =>
    obtain ⟨htaken, hroom⟩ := h.offers offers
    rw [TraceEvent.accepted_append, htaken, h.log]
    exact ⟨List.append_nil _, hroom⟩

/-- So it is with what a call prints. -/
theorem Surroundings.Limited.tells {simulation : Simulation} {call : Call}
    {answer : Except PinError Unit} (h : around.Limited room)
    (tells : Tells around simulation world call answer events after) :
    TraceEvent.accepted events = (ended (simulation.line? call)).toList.take (room world) ∧
      room after = room world - (ended (simulation.line? call)).length := by
  cases tells with
  | waited =>
    rw [delay, h.sleep, h.log]
    exact ⟨List.take_nil.symm, rfl⟩
  | unchanged silent =>
    rw [silent]
    exact ⟨List.take_nil.symm, rfl⟩
  | traced told noError attempt =>
    rw [told]
    exact h.attempt attempt
  | failed result told attempt =>
    have hattempt := h.attempt attempt
    rw [h.log] at hattempt
    rw [told]
    exact hattempt

/-- What is taken in a run is as much of what it prints as there is room for. -/
theorem Surroundings.Limited.run (h : around.Limited room) {state : Simulation × ω}
    (hslots : state.1.slots ≤ LineTable.capacity) (calls : List Call) :
    TraceEvent.accepted (((indicator around).steps state calls).flatMap (happened around))
      = (String.join ((linesOf around state calls).map (· ++ "\n"))).toList.take
          (room state.2) := by
  induction calls generalizing state with
  | nil => exact List.take_nil.symm
  | cons call rest ih =>
    have hslotsNext := slots_apply_le around hslots call
    obtain ⟨hcall, hroom⟩ := h.tells (apply_happened around hslots call).2
    have hrest := ih hslotsNext
    rw [Indicator.steps, List.flatMap_cons, TraceEvent.accepted_append, hcall, hrest, hroom,
      linesOf_cons, List.map_append, String.join_append, ← ended_eq_join, String.toList_append,
      List.take_append, String.length_toList]

end

/-! ## Warnings -/

section

variable {ω : Type} (around : Surroundings ω)

/-- Whether the line of a call is lost. -/
def loses (step : (Simulation × ω) × Call) : Bool :=
  TraceEvent.lost (ended (step.1.1.line? step.2)) (happened around step)

/-- How the loss of the line of a call is told. -/
inductive Warns (step : (Simulation × ω) × Call) : Prop
  /-- It is lost, and there is one warning. -/
  | once {failure : String} (lost : loses around step = true)
      (warned : TraceEvent.warnings (happened around step) = [lostRecord failure])
  /-- It is not, and there is none. -/
  | never (kept : loses around step = false)
      (silent : TraceEvent.warnings (happened around step) = [])

variable {around}

/-- Every call of a run tells whether its line is lost. -/
theorem warns_of_mem_steps {state : Simulation × ω} (hslots : state.1.slots ≤ LineTable.capacity)
    {calls : List Call} {step : (Simulation × ω) × Call}
    (h : step ∈ (indicator around).steps state calls) : Warns around step := by
  induction calls generalizing state with
  | nil => cases h
  | cons call rest ih =>
    rw [Indicator.steps, List.mem_cons] at h
    rcases h with rfl | hrest
    · rcases (apply_happened around hslots call).2.warns with ⟨hlost, failure, hwarned⟩ | hkept
      · exact .once hlost hwarned
      · exact .never hkept.1 hkept.2
    · exact ih (slots_apply_le around hslots call) hrest

/-- There are as many warnings as lines that are lost. -/
theorem length_warnings {steps : List ((Simulation × ω) × Call)}
    (h : ∀ step ∈ steps, Warns around step) :
    (TraceEvent.warnings (steps.flatMap (happened around))).length
      = steps.countP (loses around) := by
  induction steps with
  | nil => rfl
  | cons step rest ih =>
    rw [List.forall_mem_cons] at h
    obtain ⟨hstep, hrest⟩ := h
    rw [List.flatMap_cons, TraceEvent.warnings_append, List.length_append, ih hrest,
      List.countP_cons]
    cases hstep with
    | once lost warned =>
      rw [warned, if_pos lost]
      exact Nat.add_comm ..
    | never kept silent =>
      rw [silent, kept]
      exact Nat.zero_add _

end

/-! ## The law -/

/-- The lines of a run depend on no sink. -/
theorem linesOf_eq {ω τ : Type} (first : Surroundings ω) (second : Surroundings τ)
    {state : Simulation × ω} {other : Simulation × τ} (same : state.1 = other.1)
    (calls : List Call) : linesOf first state calls = linesOf second other calls := by
  induction calls generalizing state other with
  | nil => rfl
  | cons call rest ih =>
    have hnext := (alike first second state other same call trivial).2
    rw [linesOf_cons, linesOf_cons, same, ih hnext]

/-- They are made of bytes. -/
theorem ofBytes_linesOf {ω : Type} (around : Surroundings ω) (state : Simulation × ω)
    (calls : List Call) :
    OfBytes (String.join ((linesOf around state calls).map (· ++ "\n"))) := by
  apply OfBytes.join
  intro text hmem
  obtain ⟨line, hline, rfl⟩ := List.mem_map.mp hmem
  obtain ⟨step, -, htold⟩ := List.mem_filterMap.mp hline
  have hbytes := OfBytes.ended step.1.1 step.2
  rwa [htold] at hbytes

/-- How a sink with room for so many characters takes the trace of a run that prints a text where
there is room for everything. -/
structure TakesStart {ω : Type} (around : Surroundings ω) (room : Nat) (start : Simulation × ω)
    (calls : List Call) (whole : String) : Prop where
  /-- What happens in the run is what happens in its calls, and the transcript of it changes
  nothing. -/
  transcript_eq : (indicator around.transcribed).after (start.1, start.2, []) calls
    = (((indicator around).after start calls).1, ((indicator around).after start calls).2,
        ((indicator around).steps start calls).flatMap (happened around))
  /-- Every character is a byte. -/
  bytes : OfBytes whole
  /-- The sink takes the start of the text, as far as there is room. -/
  accepted_eq :
    TraceEvent.accepted (((indicator around).steps start calls).flatMap (happened around))
      = whole.toList.take room
  /-- A call whose line is not taken whole, or not flushed, logs one warning, and others none. -/
  warns : ∀ step ∈ (indicator around).steps start calls, Warns around step
  /-- There are as many warnings as such lines. -/
  length_warnings :
    (TraceEvent.warnings
      (((indicator around).steps start calls).flatMap (happened around))).length
      = ((indicator around).steps start calls).countP (loses around)

/-- A sink that gets full holds the start of what the same run prints on a sink that takes
everything, and each line that it loses is told by one warning. -/
theorem limited_sinks_take_start {ω τ : Type} {limited : Surroundings ω} {room : ω → Nat}
    {unlimited : Surroundings τ} {printed : τ → String} (hlimited : limited.Limited room)
    (hprints : unlimited.Prints printed) (slots : Nat) (world : ω) (other : τ)
    (calls : List Call) :
    ∃ whole, printed ((indicator unlimited).after (withSlots slots, other) calls).2
        = printed other ++ whole ∧
      TakesStart limited (room world) (withSlots slots, world) calls whole := by
  have hslots := slots_withSlots_le slots
  have hlines : linesOf unlimited (withSlots slots, other) calls
      = linesOf limited (withSlots slots, world) calls := linesOf_eq unlimited limited rfl calls
  have hprinted := hprints.after (withSlots slots, other) hslots calls
  rw [hlines] at hprinted
  have hwarns : ∀ step ∈ (indicator limited).steps (withSlots slots, world) calls,
      Warns limited step := fun step => warns_of_mem_steps hslots
  refine ⟨_, hprinted, ?_⟩
  exact {
    transcript_eq := after_transcribed limited hslots calls []
    bytes := ofBytes_linesOf limited _ calls
    accepted_eq := hlimited.run hslots calls
    warns := hwarns
    length_warnings := length_warnings hwarns }

/-- Surroundings with room for so many characters, of which three at most are taken at a time.
Nothing can be flushed. -/
def narrow : Surroundings Nat where
  sink := {
    write := fun text room =>
      (.ok (min 3 (min text.length room)), room - min 3 (min text.length room))
    flush := fun room => (.error "not flushed", room) }
  log _ room := room
  sleep _ room := room

/-- They are limited by their room. -/
theorem narrow_limited : narrow.Limited id where
  takes text room nonempty hroom := by
    have hlength := List.length_pos_iff.mpr nonempty
    refine ⟨min 3 (min text.length room), room - min 3 (min text.length room), rfl, ?_⟩
    simp only [id] at hroom ⊢
    omega
  full text room nonempty hroom := by
    obtain rfl : room = 0 := hroom
    exact ⟨.inl (by simp [narrow]), by simp [narrow]⟩
  flush room := rfl
  log record room := rfl
  sleep ms room := rfl

/-- Room for 25 characters takes the first line of two and the start of the second one. Both are
lost: the first is not flushed, the second is not taken whole. -/
theorem narrow_sink_takes_line_and_start :
    let calls := [.configure (.ofNat 3), .write (.ofNat 3) .asserted]
    let steps := (indicator narrow).steps (withSlots 4, 25) calls
    narrow.Limited id ∧ Console.surroundings.Prints Console.printed ∧
      (∃ whole, Console.printed ((indicator Console.surroundings).after (withSlots 4, #[]) calls).2
          = Console.printed #[] ++ whole ∧
        TakesStart narrow (id 25) (withSlots 4, 25) calls whole) ∧
      TraceEvent.accepted (steps.flatMap (happened narrow))
        = "[sim] configure(pin=3)\nLE".toList ∧
      steps.countP (loses narrow) = 2 :=
  ⟨narrow_limited, Console.prints,
    limited_sinks_take_start narrow_limited Console.prints 4 25 #[] _, by decide +kernel,
    by decide +kernel⟩

end Simulation

end PilotLamp
