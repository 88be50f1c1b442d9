import PilotLamp.Proofs.DriverEvents
import PilotLamp.Proofs.TraceReplay

/-!
# What happens around a simulation

Beside a world stands a transcript of what a simulation does to it: the texts offered to the sink
with its answers, the flushes, the log records. A line is offered part by part until it is taken
whole or the sink fails, and an attempt that fails is logged as a warning, so that a line is lost
exactly if there is one. Keeping the transcript makes no difference to the simulation. What a sink
does with the text that it takes is out of scope.
-/

namespace PilotLamp

section

variable {α ε ω : Type} {operation : ω → α × ω} {event : α → ε} {world next : ω} {answer : α}

/-- Carries out an operation and adds what happened to a transcript, oldest event first. -/
def transcribing (operation : ω → α × ω) (event : α → ε) (state : ω × List ε) : α × ω × List ε :=
  let (answer, world) := operation state.1
  (answer, world, state.2 ++ [event answer])

theorem transcribing_eq (h : operation world = (answer, next)) (noted : List ε) :
    transcribing operation event (world, noted) = (answer, next, noted ++ [event answer]) := by
  rw [transcribing, h]

/-- What an operation has added to the transcript. -/
theorem of_transcribing {state after : ω × List ε}
    (h : transcribing operation event state = (answer, after)) :
    after.2 = state.2 ++ [event answer] := by
  obtain ⟨rfl, rfl⟩ := Prod.mk.inj h
  rfl

end

/-- Something that a simulation does to the world around it. -/
inductive TraceEvent
  /-- A text is offered to the sink, which answers how much of it was taken. -/
  | offered (text : List Char) (answer : Except String Nat)
  /-- The sink is flushed. -/
  | flushed (answer : Except String Unit)
  /-- A record is logged. -/
  | logged (record : LogRecord)

namespace TraceEvent

/-- The characters that a sink has taken. -/
@[simp]
def taken : TraceEvent → List Char
  | offered text (.ok count) => text.take count
  | offered _ (.error _) | flushed _ | logged _ => []

/-- The record that is logged, if any. -/
def record? : TraceEvent → Option LogRecord
  | logged record => some record
  | offered .. | flushed _ => none

/-- Whether a flush has failed. -/
@[simp]
def flushFailed : TraceEvent → Bool
  | flushed (.error _) => true
  | flushed (.ok _) | offered .. | logged _ => false

/-- All that a sink has taken. -/
def accepted (events : List TraceEvent) : List Char := events.flatMap taken

/-- The warnings that were logged. -/
def warnings (events : List TraceEvent) : List LogRecord :=
  (events.filterMap record?).filter (·.severity = .warn)

/-- Whether a text was not taken whole, or not flushed. -/
def lost (text : String) (events : List TraceEvent) : Bool :=
  accepted events ≠ text.toList || events.any flushFailed

@[simp]
theorem accepted_cons (event : TraceEvent) (rest : List TraceEvent) :
    accepted (event :: rest) = event.taken ++ accepted rest := List.flatMap_cons

@[simp]
theorem accepted_append (first second : List TraceEvent) :
    accepted (first ++ second) = accepted first ++ accepted second := List.flatMap_append

@[simp]
theorem warnings_append (first second : List TraceEvent) :
    warnings (first ++ second) = warnings first ++ warnings second := by
  rw [warnings, List.filterMap_append, List.filter_append]
  rfl

theorem lost_eq_false_iff {text : String} {events : List TraceEvent} :
    lost text events = false ↔
      accepted events = text.toList ∧ events.any flushFailed = false := by simp [lost]

theorem lost_eq_true_iff {text : String} {events : List TraceEvent} :
    lost text events = true ↔
      accepted events ≠ text.toList ∨ events.any flushFailed = true := by simp [lost]

end TraceEvent

/-! ## Texts offered to a sink -/

namespace TraceSink

variable {ω : Type} {sink : TraceSink ω}

/-- How a text is offered part by part, with the events, the answer in the end, and the worlds
before and after. -/
inductive Offers (sink : TraceSink ω) :
    List Char → ω → List TraceEvent → Except String Unit → ω → Prop
  /-- Nothing is left to be offered. -/
  | done {world : ω} : Offers sink [] world [] (.ok ()) world
  /-- Some of a part is taken, and what is left is offered next. -/
  | took {text part later : List Char} {count : Nat} {world between after : ω}
      {events : List TraceEvent} {answer : Except String Unit} (parted : text = part ++ later)
      (nonempty : part ≠ []) (wrote : sink.write part world = (.ok (count + 1), between))
      (rest : Offers sink (part.drop (count + 1) ++ later) between events answer after) :
      Offers sink text world (.offered part (.ok (count + 1)) :: events) answer after
  /-- A part is refused. -/
  | refused {text part later : List Char} {failure : String} {world after : ω}
      (parted : text = part ++ later) (nonempty : part ≠ [])
      (wrote : sink.write part world = (.error failure, after)) :
      Offers sink text world [.offered part (.error failure)] (.error failure) after
  /-- Nothing of a part is taken. -/
  | nothing {text part later : List Char} {world after : ω} (parted : text = part ++ later)
      (nonempty : part ≠ []) (wrote : sink.write part world = (.ok 0, after)) :
      Offers sink text world [.offered part (.ok 0)] (.error nothingTaken) after

section

variable {text more : List Char} {world between after : ω} {events later : List TraceEvent}
  {answer : Except String Unit}

/-- After a text that is taken whole, another one is offered. -/
theorem Offers.append (first : Offers sink text world events (.ok ()) between)
    (second : Offers sink more between later answer after) :
    Offers sink (text ++ more) world (events ++ later) answer after := by
  generalize hanswer : (Except.ok () : Except String Unit) = whole at first
  induction first with
  | done => exact second
  | took parted nonempty wrote rest ih =>
    have hrest := ih second hanswer
    rw [List.append_assoc] at hrest
    exact .took (by rw [parted, List.append_assoc]) nonempty wrote hrest
  | refused parted nonempty wrote => cases hanswer
  | nothing parted nonempty wrote => cases hanswer

/-- After a text that is not, nothing else is offered. -/
theorem Offers.stop {failure : String} (h : Offers sink text world events (.error failure) after)
    (more : List Char) : Offers sink (text ++ more) world events (.error failure) after := by
  generalize hanswer : (Except.error failure : Except String Unit) = cut at h
  induction h with
  | done => cases hanswer
  | took parted nonempty wrote rest ih =>
    have hrest := ih hanswer
    rw [List.append_assoc] at hrest
    exact .took (by rw [parted, List.append_assoc]) nonempty wrote hrest
  | refused parted nonempty wrote =>
    exact .refused (by rw [parted, List.append_assoc]) nonempty wrote
  | nothing parted nonempty wrote =>
    exact .nothing (by rw [parted, List.append_assoc]) nonempty wrote

/-- What is taken is the text, or less than the text if the sink fails; nothing is logged and no
flush is tried. -/
theorem Offers.taken (h : Offers sink text world events answer after) :
    (TraceEvent.accepted events = text ↔ answer = .ok ()) ∧
      events.filterMap TraceEvent.record? = [] ∧ events.any TraceEvent.flushFailed = false := by
  induction h with
  | done => exact ⟨⟨fun _ => rfl, fun _ => rfl⟩, rfl, rfl⟩
  | @took text part later count world between after events answer parted nonempty wrote rest ih =>
    obtain ⟨htaken, hrecords, hflushes⟩ := ih
    refine ⟨?_, hrecords, hflushes⟩
    have htext : text = part.take (count + 1) ++ (part.drop (count + 1) ++ later) := by
      rw [parted, ← List.append_assoc, List.take_append_drop]
    rw [← htaken, htext, TraceEvent.accepted_cons, TraceEvent.taken, List.append_cancel_left_eq]
  | refused parted nonempty wrote =>
    exact ⟨by simp [TraceEvent.accepted, parted, nonempty], rfl, rfl⟩
  | nothing parted nonempty wrote =>
    exact ⟨by simp [TraceEvent.accepted, parted, nonempty], rfl, rfl⟩

end

variable (sink)

/-- The sink with a transcript. -/
def transcribed : TraceSink (ω × List TraceEvent) where
  write text := transcribing (sink.write text) (.offered text)
  flush := transcribing sink.flush .flushed

variable {sink}

theorem write_transcribed {text : List Char} {world next : ω} {answer : Except String Nat}
    (h : sink.write text world = (answer, next)) (noted : List TraceEvent) :
    sink.transcribed.write text (world, noted) = (answer, next, noted ++ [.offered text answer]) :=
  transcribing_eq h noted

theorem flush_transcribed {world next : ω} {answer : Except String Unit}
    (h : sink.flush world = (answer, next)) (noted : List TraceEvent) :
    sink.transcribed.flush (world, noted) = (answer, next, noted ++ [.flushed answer]) :=
  transcribing_eq h noted

variable (sink)

/-- A text is offered part by part. -/
theorem writeAll_transcribed (text : List Char) (world : ω) :
    ∃ events, (∀ noted, sink.transcribed.writeAll text (world, noted)
      = ((sink.writeAll text world).1, (sink.writeAll text world).2, noted ++ events)) ∧
      Offers sink text world events (sink.writeAll text world).1 (sink.writeAll text world).2 := by
  fun_induction sink.writeAll text world with
  | case1 world =>
    refine ⟨[], fun noted => ?_, .done⟩
    rw [writeAll, List.append_nil]
  | case2 world first rest failure next hwrite =>
    refine ⟨_, fun noted => ?_,
      .refused (List.append_nil _).symm (List.cons_ne_nil first rest) hwrite⟩
    rw [writeAll, write_transcribed hwrite]
  | case3 world first rest next hwrite =>
    refine ⟨_, fun noted => ?_,
      .nothing (List.append_nil _).symm (List.cons_ne_nil first rest) hwrite⟩
    rw [writeAll, write_transcribed hwrite]
  | case4 world first rest count next hwrite ih =>
    obtain ⟨events, hnoted, hrest⟩ := ih
    refine ⟨.offered (first :: rest) (.ok (count + 1)) :: events, fun noted => ?_,
      .took (List.append_nil _).symm (List.cons_ne_nil first rest) hwrite ?_⟩
    · rw [writeAll, write_transcribed hwrite]
      simp only [hnoted, List.append_assoc, List.singleton_append]
    · rw [List.append_nil]
      exact hrest

/-- So are pieces, as the text that they make together. -/
theorem writePieces_transcribed (pieces : List String) (world : ω) :
    ∃ events, (∀ noted, sink.transcribed.writePieces pieces (world, noted)
      = ((sink.writePieces pieces world).1, (sink.writePieces pieces world).2, noted ++ events)) ∧
      Offers sink (String.join pieces).toList world events (sink.writePieces pieces world).1
        (sink.writePieces pieces world).2 := by
  induction pieces generalizing world with
  | nil => exact ⟨[], fun noted => by rw [List.append_nil]; rfl, .done⟩
  | cons piece rest ih =>
    obtain ⟨events, hnoted, hoffers⟩ := sink.writeAll_transcribed piece.toList world
    simp only [writePieces, String.join_cons, String.toList_append, hnoted]
    generalize sink.writeAll piece.toList world = outcome at hoffers ⊢
    obtain ⟨failure | _, between⟩ := outcome
    · exact ⟨events, fun noted => rfl, hoffers.stop _⟩
    · obtain ⟨later, hlater, hrest⟩ := ih between
      refine ⟨events ++ later, fun noted => ?_, hoffers.append hrest⟩
      rw [← List.append_assoc]
      exact hlater (noted ++ events)

end TraceSink

namespace Simulation

open SharedIndicator (resultOf)

/-! ## Attempts at a line -/

/-- The record of a trace line that cannot be written. -/
def lostRecord (failure : String) : LogRecord :=
  ⟨.warn, logTarget, "sim trace output failed: " ++ failure⟩

/-- The surroundings with a transcript. -/
def Surroundings.transcribed {ω : Type} (around : Surroundings ω) :
    Surroundings (ω × List TraceEvent) where
  sink := around.sink.transcribed
  log record state := (around.log record state.1, state.2 ++ [.logged record])
  sleep ms := effectBeside (around.sleep ms)

variable {ω : Type} {around : Surroundings ω}

/-- One attempt at a trace line, with its events and the worlds before and after. -/
inductive Attempts (around : Surroundings ω) (line : String) : ω → List TraceEvent → ω → Prop
  /-- The line is taken whole with its end, and flushed. -/
  | written {world between after : ω} {events : List TraceEvent}
      (offers : around.sink.Offers (line ++ "\n").toList world events (.ok ()) between)
      (flushed : around.sink.flush between = (.ok (), after)) :
      Attempts around line world (events ++ [.flushed (.ok ())]) after
  /-- The line is taken whole, but cannot be flushed, which is logged. -/
  | unflushed {world between after : ω} {events : List TraceEvent} {failure : String}
      (offers : around.sink.Offers (line ++ "\n").toList world events (.ok ()) between)
      (flushed : around.sink.flush between = (.error failure, after)) :
      Attempts around line world
        (events ++ [.flushed (.error failure), .logged (lostRecord failure)])
        (around.log (lostRecord failure) after)
  /-- The line is not taken whole, which is logged. -/
  | cut {world after : ω} {events : List TraceEvent} {failure : String}
      (offers : around.sink.Offers (line ++ "\n").toList world events (.error failure) after) :
      Attempts around line world (events ++ [.logged (lostRecord failure)])
        (around.log (lostRecord failure) after)

section

variable {line : String} {world after : ω} {events : List TraceEvent}

/-- A line is lost in an attempt exactly if something is logged, which is one warning then. -/
theorem Attempts.records (h : Attempts around line world events after) :
    (TraceEvent.lost (line ++ "\n") events = true ∧
      ∃ failure, events.filterMap TraceEvent.record? = [lostRecord failure]) ∨
    (TraceEvent.lost (line ++ "\n") events = false ∧
      events.filterMap TraceEvent.record? = []) := by
  rw [TraceEvent.lost_eq_true_iff, TraceEvent.lost_eq_false_iff]
  cases h with
  | written offers flushed =>
    obtain ⟨htaken, hrecords, hflushes⟩ := offers.taken
    refine .inr ⟨⟨?_, by simp [hflushes]⟩, ?_⟩
    · rw [TraceEvent.accepted_append, htaken.mpr rfl]
      exact List.append_nil _
    · rw [List.filterMap_append, hrecords]
      rfl
  | @unflushed between after events failure offers flushed =>
    obtain ⟨-, hrecords, -⟩ := offers.taken
    refine .inl ⟨.inr (by simp), failure, ?_⟩
    rw [List.filterMap_append, hrecords]
    rfl
  | @cut after events failure offers =>
    obtain ⟨htaken, hrecords, -⟩ := offers.taken
    refine .inl ⟨.inl ?_, failure, ?_⟩
    · rw [TraceEvent.accepted_append]
      intro haccepted
      cases htaken.mp ((List.append_nil _).symm.trans haccepted)
    · rw [List.filterMap_append, hrecords]
      rfl

/-- So a line is lost exactly if there is a warning. -/
theorem Attempts.warns (h : Attempts around line world events after) :
    (TraceEvent.lost (line ++ "\n") events = true ∧
      ∃ failure, TraceEvent.warnings events = [lostRecord failure]) ∨
    (TraceEvent.lost (line ++ "\n") events = false ∧ TraceEvent.warnings events = []) := by
  rcases h.records with ⟨hlost, failure, hrecords⟩ | ⟨hkept, hrecords⟩
  · exact .inl ⟨hlost, failure, by rw [TraceEvent.warnings, hrecords]; rfl⟩
  · exact .inr ⟨hkept, by rw [TraceEvent.warnings, hrecords]; rfl⟩

/-- An attempt is no report of an error. -/
theorem Attempts.reportsIn_eq_nil (h : Attempts around line world events after) :
    reportStyle.reportsIn (events.filterMap TraceEvent.record?) = [] := by
  rcases h.records with ⟨-, failure, hrecords⟩ | ⟨-, hrecords⟩
  · rw [hrecords]
    rfl
  · rw [hrecords]
    rfl

end

variable (around)

/-- A trace line is attempted once. -/
theorem trace_transcribed (pieces : List String) (world : ω) :
    ∃ events, (∀ noted, trace around.transcribed pieces (world, noted)
      = (trace around pieces world, noted ++ events)) ∧
      Attempts around (String.join pieces) world events (trace around pieces world) := by
  obtain ⟨events, hnoted, hoffers⟩ :=
    around.sink.writePieces_transcribed (pieces ++ ["\n"]) world
  have htext : String.join (pieces ++ ["\n"]) = String.join pieces ++ "\n" := by
    simp [String.join_append]
  have hsink : around.transcribed.sink = around.sink.transcribed := rfl
  rw [htext] at hoffers
  simp only [trace, TraceSink.writeLine, hsink, hnoted]
  generalize around.sink.writePieces (pieces ++ ["\n"]) world = outcome at hoffers ⊢
  obtain ⟨failure | _, between⟩ := outcome
  · refine ⟨_, fun noted => ?_, .cut hoffers⟩
    rw [← List.append_assoc]
    rfl
  · simp only []
    rcases hflush : around.sink.flush between with ⟨failure | _, after⟩
    · refine ⟨_, fun noted => ?_, .unflushed hoffers hflush⟩
      simp only [TraceSink.flush_transcribed hflush, ← List.append_assoc]
      simp [Surroundings.transcribed, lostRecord]
    · refine ⟨_, fun noted => ?_, .written hoffers hflush⟩
      simp only [TraceSink.flush_transcribed hflush, ← List.append_assoc]

/-! ## Calls -/

/-- What happens around a simulation in a call, with its answer and the worlds before and after. -/
inductive Tells (around : Surroundings ω) (simulation : Simulation) (world : ω) :
    Call → Except PinError Unit → List TraceEvent → ω → Prop
  /-- A wait is logged. -/
  | waited {ms : UInt32} :
      Tells around simulation world (.delay ms) (.ok ())
        [.logged ⟨.trace, logTarget, "sim delay " ++ Nat.repr ms.toNat ++ "ms"⟩]
        (delay around ms world)
  /-- A write that changes nothing is not told. -/
  | unchanged {pin : Pin} {level : Level} (silent : simulation.line? (.write pin level) = none) :
      Tells around simulation world (.write pin level) (.ok ()) [] world
  /-- An operation on a pin that succeeds has its line attempted, which tells no error. -/
  | traced {call : Call} {line : String} {after : ω} {events : List TraceEvent}
      (told : simulation.line? call = some line) (noError : ∀ error, line ≠ errorLine error)
      (attempt : Attempts around line world events after) :
      Tells around simulation world call (.ok ()) events after
  /-- An error is logged, and the line that tells it is attempted. -/
  | failed {call : Call} {answer : Except PinError Unit} {error : PinError} {after : ω}
      {attempt : List TraceEvent} (result : resultOf call answer = .error error)
      (told : simulation.line? call = some (errorLine error))
      (attempted : Attempts around (errorLine error) (around.log (reportStyle.wording error) world)
        attempt after) :
      Tells around simulation world call answer (.logged (reportStyle.wording error) :: attempt)
        after

/-- A call has its line lost exactly if there is a warning, and there is at most one. -/
theorem Tells.warns {around : Surroundings ω} {simulation : Simulation} {world after : ω}
    {call : Call} {answer : Except PinError Unit} {events : List TraceEvent}
    (h : Tells around simulation world call answer events after) :
    (TraceEvent.lost (ended (simulation.line? call)) events = true ∧
      ∃ failure, TraceEvent.warnings events = [lostRecord failure]) ∨
    (TraceEvent.lost (ended (simulation.line? call)) events = false ∧
      TraceEvent.warnings events = []) := by
  cases h with
  | waited => exact .inr ⟨rfl, rfl⟩
  | unchanged silent =>
    rw [silent]
    exact .inr ⟨rfl, rfl⟩
  | traced told noError attempt =>
    rw [told]
    exact attempt.warns
  | failed result told attempt =>
    -- The report of the error is no warning.
    rw [told]
    exact attempt.warns

/-- An error is reported once. -/
theorem report_transcribed (error : PinError) (world : ω) :
    ∃ attempt, (∀ noted, report around.transcribed error (world, noted)
      = (report around error world,
          noted ++ .logged (reportStyle.wording error) :: attempt)) ∧
      Attempts around (errorLine error) (around.log (reportStyle.wording error) world) attempt
        (report around error world) := by
  obtain ⟨attempt, hnoted, hattempts⟩ :=
    trace_transcribed around ("[sim] error: " :: error.fragments)
      (around.log (reportStyle.wording error) world)
  rw [String.join_cons] at hattempts
  refine ⟨attempt, fun noted => ?_, hattempts⟩
  have htrace := hnoted (noted ++ [.logged (reportStyle.wording error)])
  rw [List.append_assoc, List.singleton_append] at htrace
  exact htrace

/-- A line that is read as something else tells no error. -/
theorem ne_errorLine {line : String} {entry : TraceEntry}
    (h : TraceEntry.read? line = some entry) (other : entry ≠ .failed) (error : PinError) :
    line ≠ errorLine error := by
  rintro rfl
  rw [TraceEntry.read?_errorLine, Option.some.injEq] at h
  exact other h.symm

/-- A call does what it does without a transcript, and adds what happens to the transcript. -/
def Transcribes (simulation : Simulation) (world : ω) (call : Call) : Prop :=
  ∃ events, (∀ noted, (indicator around.transcribed).apply (simulation, world, noted) call
    = (((indicator around).apply (simulation, world) call).1,
        ((indicator around).apply (simulation, world) call).2.1,
        ((indicator around).apply (simulation, world) call).2.2, noted ++ events)) ∧
    Tells around simulation world call ((indicator around).apply (simulation, world) call).1
      events ((indicator around).apply (simulation, world) call).2.2

/-- So it is with a configuration. With more slots than a line table has it would not: the table
would refuse a pin, and no line would tell it. -/
theorem transcribes_configure {simulation : Simulation}
    (hslots : simulation.slots ≤ LineTable.capacity) (world : ω) (pin : Pin) :
    Transcribes around simulation world (.configure pin) := by
  simp only [Transcribes, Indicator.apply, indicator, configure]
  by_cases hin : pin.index < simulation.slots
  · obtain ⟨lines, hlines⟩ := simulation.lines.configure_isOk (Nat.lt_of_lt_of_le hin hslots)
    obtain ⟨events, hnoted, hattempts⟩ :=
      trace_transcribed around ["[sim] configure(pin=", pin.text, ")"] world
    have htold : simulation.line? (.configure pin)
        = some ("[sim] configure(pin=" ++ pin.text ++ ")") := by simp only [line?, if_pos hin]
    have hother : TraceEntry.configured pin ≠ .failed := by simp
    have hplain := ne_errorLine (TraceEntry.read?_configured pin) hother
    simp only [if_pos hin, hlines, hnoted]
    exact ⟨events, fun noted => rfl, .traced htold hplain hattempts⟩
  · have htold : simulation.line? (.configure pin) = some (errorLine (.noSuchPin pin.index)) := by
      simp only [line?, if_neg hin]
    obtain ⟨attempt, hnoted, hattempts⟩ := report_transcribed around (.noSuchPin pin.index) world
    simp only [if_neg hin, fail, hnoted]
    exact ⟨_, fun noted => rfl, .failed rfl htold hattempts⟩

/-- So it is with a write to a pin that has no level, which tells an error. -/
theorem transcribes_write_of_no_level {simulation : Simulation} {pin : Pin}
    (hlevel : simulation.lines.level pin = none) (world : ω) (level : Level) :
    Transcribes around simulation world (.write pin level) := by
  obtain ⟨error, hset, htold⟩ : ∃ error, simulation.lines.set pin level = .error error ∧
      simulation.line? (.write pin level) = some (errorLine error) := by
    refine ⟨_, LineTable.set_eq_error_of_no_level hlevel level, ?_⟩
    by_cases hin : pin.index < LineTable.capacity
    · simp only [line?, if_pos hin, hlevel]
    · simp only [line?, if_neg hin]
  obtain ⟨attempt, hnoted, hattempts⟩ := report_transcribed around error world
  simp only [Transcribes, Indicator.apply, indicator, write, hset, fail, hnoted]
  exact ⟨_, fun noted => rfl, .failed rfl htold hattempts⟩

/-- So it is with a write to a pin that has a level, which tells a change of it. -/
theorem transcribes_write_of_level {simulation : Simulation} {pin : Pin} {before : Level}
    (hlevel : simulation.lines.level pin = some before) (world : ω) (level : Level) :
    Transcribes around simulation world (.write pin level) := by
  obtain ⟨lines, hset⟩ := LineTable.set_of_level hlevel level
  simp only [Transcribes, Indicator.apply, indicator, write, hset]
  by_cases hsame : before = level
  · have hsilent : simulation.line? (.write pin level) = none := by
      simp only [line?, if_pos (LineTable.index_lt_of_level hlevel), hlevel, if_pos hsame]
    refine ⟨[], fun noted => ?_, ?_⟩
    · simp [hsame]
    · simpa [hsame] using Tells.unchanged hsilent
  · have htold := line?_turned hlevel hsame
    have hother : TraceEntry.turned pin level ≠ .failed := by simp
    have hplain := ne_errorLine (TraceEntry.read?_turned pin level) hother
    obtain ⟨events, hnoted, hattempts⟩ :=
      trace_transcribed around ["LED[", pin.text, "] = ", level.text] world
    simp only [bne_iff_ne.mpr hsame, if_true, hnoted]
    exact ⟨events, fun noted => rfl, .traced htold hplain hattempts⟩

/-- So it is with every call. -/
theorem transcribes {simulation : Simulation} (hslots : simulation.slots ≤ LineTable.capacity)
    (world : ω) (call : Call) : Transcribes around simulation world call := by
  cases call with
  | delay ms => exact ⟨_, fun noted => rfl, .waited⟩
  | report error =>
    obtain ⟨attempt, hnoted, hattempts⟩ := report_transcribed around error world
    refine ⟨_, fun noted => ?_, .failed rfl rfl hattempts⟩
    simp only [Indicator.apply, indicator, hnoted]
  | configure pin => exact transcribes_configure around hslots world pin
  | write pin level =>
    cases hlevel : simulation.lines.level pin with
    | none => exact transcribes_write_of_no_level around hlevel world level
    | some before => exact transcribes_write_of_level around hlevel world level

/-! ## Runs -/

/-- What happens around a simulation in a call that is made in a state. -/
def happened (around : Surroundings ω) (step : (Simulation × ω) × Call) : List TraceEvent :=
  ((indicator around.transcribed).apply (step.1.1, step.1.2, []) step.2).2.2.2

/-- What happens in a call is what the call adds to a transcript, whatever was noted before. -/
theorem apply_happened {state : Simulation × ω} (hslots : state.1.slots ≤ LineTable.capacity)
    (call : Call) :
    (∀ noted, (indicator around.transcribed).apply (state.1, state.2, noted) call
      = (((indicator around).apply state call).1, ((indicator around).apply state call).2.1,
          ((indicator around).apply state call).2.2, noted ++ happened around (state, call))) ∧
      Tells around state.1 state.2 call ((indicator around).apply state call).1
        (happened around (state, call)) ((indicator around).apply state call).2.2 := by
  obtain ⟨events, hnoted, htells⟩ := transcribes around hslots state.2 call
  have hevents : happened around (state, call) = events := by
    rw [happened, hnoted]
    rfl
  rw [hevents]
  exact ⟨hnoted, htells⟩

/-- A run does what it does without a transcript, in which its calls come one after the other. -/
theorem after_transcribed {state : Simulation × ω} (hslots : state.1.slots ≤ LineTable.capacity)
    (calls : List Call) (noted : List TraceEvent) :
    (indicator around.transcribed).after (state.1, state.2, noted) calls
      = (((indicator around).after state calls).1, ((indicator around).after state calls).2,
          noted ++ ((indicator around).steps state calls).flatMap (happened around)) := by
  induction calls generalizing state noted with
  | nil => simp [Indicator.after, Indicator.steps]
  | cons call rest ih =>
    have hslotsNext := slots_apply_le around hslots call
    have hcall := (apply_happened around hslots call).1 noted
    have hrest := ih hslotsNext (noted ++ happened around (state, call))
    rw [List.append_assoc] at hrest
    rw [Indicator.after, List.foldl_cons, hcall, Indicator.steps, List.flatMap_cons]
    exact hrest

end Simulation

end PilotLamp
