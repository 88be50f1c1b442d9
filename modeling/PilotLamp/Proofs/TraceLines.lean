import PilotLamp.Proofs.DriverRules
import PilotLamp.Simulation

/-!
# The lines that a simulation prints

The simulation before a call tells what the call prints, which is at most one line. A stream may
take any part of a text that it is offered; as long as it takes some of it, and prints what it
takes, every line is printed whole. Streams that fail are out of scope.
-/

namespace PilotLamp.Simulation

/-! ## Streams that work -/

/-- What it means that the surroundings of a simulation print, where a text tells what was printed
so far. -/
structure Surroundings.Prints {ω : Type} (around : Surroundings ω) (printed : ω → String) : Prop where
  /-- Some characters of every text are taken, and those are printed. -/
  write : ∀ text world, text ≠ [] → ∃ taken next, 0 < taken ∧
    around.sink.write text world = (.ok taken, next) ∧
    printed next = printed world ++ String.ofList (text.take taken)
  /-- Nothing else is printed when the stream is flushed. -/
  flush : ∀ world, ∃ next, around.sink.flush world = (.ok (), next) ∧ printed next = printed world
  /-- The log is printed elsewhere. -/
  log : ∀ record world, printed (around.log record world) = printed world
  /-- Waiting prints nothing. -/
  sleep : ∀ ms world, printed (around.sleep ms world) = printed world

section

variable {ω : Type} {around : Surroundings ω} {printed : ω → String}

/-- Offered again and again, every text is printed whole. -/
theorem Surroundings.Prints.writeAll (h : around.Prints printed) (text : List Char) (world : ω) :
    ∃ next, around.sink.writeAll text world = (.ok (), next) ∧
      printed next = printed world ++ String.ofList text := by
  -- Every offer takes something, so the texts that are left get shorter.
  induction hlength : text.length using Nat.strongRecOn generalizing text world with
  | ind length ih =>
    cases text with
    | nil =>
      rw [TraceSink.writeAll]
      exact ⟨world, rfl, by simp⟩
    | cons first rest =>
      obtain ⟨taken, between, hpositive, hwrite, hbetween⟩ :=
        h.write (first :: rest) world (List.cons_ne_nil first rest)
      obtain ⟨fewer, rfl⟩ := Nat.exists_eq_succ_of_ne_zero (Nat.ne_of_gt hpositive)
      have hshorter : (rest.drop fewer).length < length := by
        rw [← hlength, List.length_cons, List.length_drop]
        omega
      obtain ⟨next, hall, hnext⟩ := ih _ hshorter (rest.drop fewer) between rfl
      refine ⟨next, ?_, ?_⟩
      · rw [TraceSink.writeAll, hwrite]
        exact hall
      · rw [hnext, hbetween, String.append_assoc, ← String.ofList_append]
        simp

/-- So are pieces, one after the other. -/
theorem Surroundings.Prints.writePieces (h : around.Prints printed) (pieces : List String)
    (world : ω) :
    ∃ next, around.sink.writePieces pieces world = (.ok (), next) ∧
      printed next = printed world ++ String.join pieces := by
  induction pieces generalizing world with
  | nil => exact ⟨world, rfl, by simp⟩
  | cons piece rest ih =>
    obtain ⟨between, hpiece, hbetween⟩ := h.writeAll piece.toList world
    obtain ⟨next, hrest, hnext⟩ := ih between
    refine ⟨next, ?_, ?_⟩
    · rw [TraceSink.writePieces, hpiece]
      exact hrest
    · rw [hnext, hbetween, String.ofList_toList, String.join_cons, String.append_assoc]

/-- A trace line is printed with its end. -/
theorem Surroundings.Prints.trace (h : around.Prints printed) (pieces : List String) (world : ω) :
    printed (trace around pieces world) = printed world ++ (String.join pieces ++ "\n") := by
  obtain ⟨between, hpieces, hbetween⟩ := h.writePieces (pieces ++ ["\n"]) world
  obtain ⟨next, hflush, hnext⟩ := h.flush between
  have hline : around.sink.writeLine pieces world = (.ok (), next) := by
    rw [TraceSink.writeLine, hpieces]
    exact hflush
  rw [Simulation.trace, hline]
  simp only []
  rw [hnext, hbetween, String.join_append]
  simp

end

/-! ## Lines -/

/-- The line that tells an error. -/
def errorLine (error : PinError) : String := "[sim] error: " ++ error.message

theorem errorLine_noSuchPin (number : Int) :
    errorLine (.noSuchPin number)
      = "[sim] error: pin " ++ number.repr ++ " does not exist on this target" := by
  simp [errorLine, PinError.message, PinError.fragments, ← String.append_assoc]

theorem errorLine_notConfigured (pin : Pin) :
    errorLine (.notConfigured pin)
      = "[sim] error: pin " ++ pin.text ++ " has not been configured" := by
  simp [errorLine, PinError.message, PinError.fragments, ← String.append_assoc]

/-- The line that a call prints on a simulation, if any. -/
def line? (simulation : Simulation) : Call → Option String
  | .configure pin =>
    some (if pin.index < simulation.slots then "[sim] configure(pin=" ++ pin.text ++ ")"
      else errorLine (.noSuchPin pin.index))
  | .write pin level =>
    if pin.index < LineTable.capacity then
      match simulation.lines.level pin with
      | none => some (errorLine (.notConfigured pin))
      | some before =>
        if before = level then none else some ("LED[" ++ pin.text ++ "] = " ++ level.text)
    else some (errorLine (.noSuchPin pin.index))
  | .delay _ => none
  | .report error => some (errorLine error)

/-- A write that changes the level of a pin prints the level. -/
theorem line?_turned {simulation : Simulation} {pin : Pin} {before level : Level}
    (h : simulation.lines.level pin = some before) (hne : before ≠ level) :
    simulation.line? (.write pin level)
      = some ("LED[" ++ pin.text ++ "] = " ++ level.text) := by
  simp only [line?, if_pos (LineTable.index_lt_of_level h), h, if_neg hne]

/-- A decimal number is made of digits and its sign. -/
theorem not_mem_repr {c : Char} (hdigit : c.isDigit = false) (hsign : c ≠ '-') (number : Int) :
    c ∉ number.repr.toList := by
  have hdigits (n : Nat) : c ∉ Nat.toDigits 10 n := by
    intro hmem
    have hisDigit := Nat.isDigit_of_mem_toDigits (by decide) (by decide) hmem
    rw [hdigit] at hisDigit
    cases hisDigit
  cases number with
  | ofNat n =>
    change c ∉ n.repr.toList
    rw [Nat.toList_repr]
    exact hdigits n
  | negSucc n =>
    change c ∉ ("-" ++ (n + 1).repr).toList
    rw [String.toList_append, Nat.toList_repr, List.mem_append, not_or]
    exact ⟨by simpa using hsign, hdigits (n + 1)⟩

/-- What is printed of a line, if there is one: the line and its end. -/
def ended : Option String → String
  | none => ""
  | some line => line ++ "\n"

/-- Ended lines that are joined are the line with its end, or nothing. -/
theorem ended_eq_join (line : Option String) :
    ended line = String.join (line.toList.map (· ++ "\n")) := by
  cases line with
  | none => rfl
  | some line => simp [ended]

section

variable {ω : Type} {around : Surroundings ω} {printed : ω → String}

/-- An error is printed once. -/
theorem Surroundings.Prints.report (h : around.Prints printed) (error : PinError) (world : ω) :
    printed (report around error world) = printed world ++ ended (some (errorLine error)) := by
  rw [Simulation.report, h.trace, h.log, String.join_cons, ended, errorLine, PinError.message]

/-- A call prints its line and nothing else. -/
theorem Surroundings.Prints.apply (h : around.Prints printed) {simulation : Simulation}
    (hslots : simulation.slots ≤ LineTable.capacity) (world : ω) (call : Call) :
    printed ((indicator around).apply (simulation, world) call).2.2
      = printed world ++ ended (simulation.line? call) := by
  cases call with
  | delay ms =>
    simp only [Indicator.apply, indicator, delay, h.sleep, h.log, line?, ended, String.append_empty]
  | report error => exact h.report error world
  | configure pin =>
    simp only [Indicator.apply, indicator, configure, line?]
    by_cases hin : pin.index < simulation.slots
    · obtain ⟨lines, hlines⟩ := simulation.lines.configure_isOk (Nat.lt_of_lt_of_le hin hslots)
      simp only [if_pos hin, hlines, h.trace]
      rfl
    · simp only [if_neg hin]
      exact h.report _ world
  | write pin level =>
    simp only [Indicator.apply, indicator, Simulation.write, line?]
    by_cases hin : pin.index < LineTable.capacity
    · rw [if_pos hin]
      cases hlevel : simulation.lines.level pin with
      | none =>
        simp only [LineTable.set_of_no_level hin hlevel]
        exact h.report _ world
      | some before =>
        obtain ⟨lines, hset⟩ := LineTable.set_of_level hlevel level
        simp only [hset]
        by_cases hsame : before = level
        · simp [hsame, ended]
        · simp only [bne_iff_ne.mpr hsame, if_true, if_neg hsame, h.trace]
          rfl
    · have hset : simulation.lines.set pin level = .error (.noSuchPin pin.index) := if_neg hin
      simp only [hset, if_neg hin]
      exact h.report _ world

end

/-! ## Levels -/

section

variable {ω : Type} {around : Surroundings ω} {state : Simulation × ω} {pin : Pin}

/-- A pin below the slots is deasserted once it is configured. -/
theorem level_configure (hslots : state.1.slots ≤ LineTable.capacity)
    (inside : pin.index < state.1.slots) :
    (configure around pin state).2.1.lines.level pin = some .deasserted := by
  obtain ⟨simulation, world⟩ := state
  obtain ⟨lines, hlines⟩ := simulation.lines.configure_isOk (Nat.lt_of_lt_of_le inside hslots)
  simp only [configure, if_pos inside, hlines]
  rw [LineTable.level_configure hlines, if_pos rfl]

/-- A pin that has a level has the one that is written. -/
theorem level_write (level : Level) :
    (write around pin level state).2.1.lines.level pin
      = (state.1.lines.level pin).map fun _ => level := by
  obtain ⟨simulation, world⟩ := state
  simp only [write]
  cases hlevel : simulation.lines.level pin with
  | none =>
    cases hset : simulation.lines.set pin level with
    | error error => exact hlevel
    | ok outcome => rw [LineTable.level_of_set hset, if_pos rfl, hlevel]
  | some before =>
    obtain ⟨lines, hset⟩ := LineTable.set_of_level hlevel level
    simp only [hset]
    rw [LineTable.level_of_set hset, if_pos rfl, hlevel]

end

end PilotLamp.Simulation
