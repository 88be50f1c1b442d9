import PilotLamp.Proofs.EntryTrace
import PilotLamp.TextLines
import Mathlib.Logic.Function.Basic

/-!
# Traces that are read back

What a simulation prints can be read back line by line. Replayed from no levels at all, the lines
give the level of every pin. A lit or darkened line is told only where it changes what was
replayed before it, and as often as a write changes the level. Traces that did not come from a
simulation are out of scope, as are streams that fail.
-/

namespace PilotLamp

/-! ## Reading a line -/

/-- What a line of a trace tells. -/
inductive TraceEntry
  /-- A pin was configured. -/
  | configured (pin : Pin)
  /-- A pin was turned to a level. -/
  | turned (pin : Pin) (level : Level)
  /-- An error occurred. -/
  | failed
deriving DecidableEq, Repr

namespace TraceEntry

/-- The pin whose number a text starts with, and what follows the number. -/
def pin? (text : List Char) : Option (Pin × List Char) :=
  let digits := text.takeWhile Char.isDigit
  let number := Nat.ofDigitChars 10 digits 0
  if digits ≠ [] ∧ number < 256 then some (.ofNat number, text.dropWhile Char.isDigit) else none

/-- The level that a line ends with. -/
def level? (text : List Char) : Option Level :=
  if text = "] = ON".toList then some .asserted
  else if text = "] = OFF".toList then some .deasserted
  else none

/-- Reads a line. -/
def read? (line : String) : Option TraceEntry :=
  match line.toList.dropPrefix? "[sim] configure(pin=".toList with
  | some rest => do
    let (pin, rest) ← pin? rest
    if rest = [')'] then some (.configured pin) else none
  | none =>
    match line.toList.dropPrefix? "LED[".toList with
    | some rest => do
      let (pin, rest) ← pin? rest
      (level? rest).map (.turned pin)
    | none => (line.toList.dropPrefix? "[sim] error: ".toList).map fun _ => .failed

/-- A number is read up to what is no digit. -/
theorem pin?_text_append (pin : Pin) {c : Char} (hc : c.isDigit = false) (rest : List Char) :
    pin? (pin.text.toList ++ c :: rest) = some (pin, c :: rest) := by
  have hdigits : ∀ digit ∈ pin.text.toList, digit.isDigit = true := by
    intro digit hmem
    rw [Pin.text, Nat.toList_repr] at hmem
    exact Nat.isDigit_of_mem_toDigits (by decide) (by decide) hmem
  have hnumber : Nat.ofDigitChars 10 pin.text.toList 0 = pin.index := by
    rw [Pin.text, Nat.toList_repr]
    exact Nat.ofDigitChars_toDigits (by decide) (by decide)
  have htake : (pin.text.toList ++ c :: rest).takeWhile Char.isDigit = pin.text.toList := by
    rw [List.takeWhile_append_of_pos hdigits, List.takeWhile_cons, hc]
    simp
  have hdrop : (pin.text.toList ++ c :: rest).dropWhile Char.isDigit = c :: rest := by
    rw [List.dropWhile_append_of_pos hdigits, List.dropWhile_cons, hc]
    simp
  have hnonempty : pin.text.toList ≠ [] := by
    rw [Pin.text, Nat.toList_repr]
    exact Nat.toDigits_ne_nil
  simp only [pin?, htake, hdrop, hnumber]
  rw [if_pos ⟨hnonempty, pin.index_lt⟩, Pin.ofNat_index]

/-- What follows a mark is found. -/
theorem dropPrefix?_append (mark rest : List Char) : (mark ++ rest).dropPrefix? mark = some rest :=
  List.dropPrefix?_append_of_beq rest BEq.rfl

/-- The line of a configuration is read as one. -/
theorem read?_configured (pin : Pin) :
    read? ("[sim] configure(pin=" ++ pin.text ++ ")") = some (.configured pin) := by
  have hline : ("[sim] configure(pin=" ++ pin.text ++ ")").toList
      = "[sim] configure(pin=".toList ++ (pin.text.toList ++ [')']) := by
    rw [String.toList_append, String.toList_append, List.append_assoc]
    rfl
  rw [read?, hline, dropPrefix?_append]
  simp only [pin?_text_append pin (by decide : (')').isDigit = false)]
  rfl

/-- The line of a change of a level is read as one. -/
theorem read?_turned (pin : Pin) (level : Level) :
    read? ("LED[" ++ pin.text ++ "] = " ++ level.text) = some (.turned pin level) := by
  have hline : ("LED[" ++ pin.text ++ "] = " ++ level.text).toList
      = "LED[".toList ++ (pin.text.toList ++ ("] = " ++ level.text).toList) := by
    simp only [String.toList_append, List.append_assoc]
  have hother : ("LED[".toList ++ (pin.text.toList ++ ("] = " ++ level.text).toList)).dropPrefix?
      "[sim] configure(pin=".toList = none := rfl
  have hpin : pin? (pin.text.toList ++ ("] = " ++ level.text).toList)
      = some (pin, ("] = " ++ level.text).toList) := by
    rw [String.toList_append]
    exact pin?_text_append pin (by decide : (']').isDigit = false) _
  have hlevel : level? ("] = " ++ level.text).toList = some level := by cases level <;> decide
  rw [read?, hline, hother, dropPrefix?_append]
  simp only [hpin, Option.bind_eq_bind, Option.bind_some, hlevel, Option.map_some]

/-- The line of an error is read as one. -/
theorem read?_errorLine (error : PinError) :
    read? (Simulation.errorLine error) = some .failed := by
  rw [read?, Simulation.errorLine, String.toList_append]
  have hconfigure : ("[sim] error: ".toList ++ error.message.toList).dropPrefix?
      "[sim] configure(pin=".toList = none := rfl
  have hled : ("[sim] error: ".toList ++ error.message.toList).dropPrefix? "LED[".toList = none :=
    rfl
  rw [hconfigure, hled, dropPrefix?_append]
  rfl

end TraceEntry

/-! ## Lines of a trace -/

namespace TextLines

/-- A line that has ended comes before those after it. -/
theorem linesFrom_append_newline {text : List Char} (h : '\n' ∉ text) (line rest : List Char) :
    linesFrom line (text ++ '\n' :: rest)
      = withoutReturn (line.reverse ++ text) :: linesFrom [] rest := by
  induction text generalizing line with
  | nil => simp [linesFrom]
  | cons c text ih =>
    have hc : c ≠ '\n' := fun eq => h (eq ▸ List.mem_cons_self)
    have htext : '\n' ∉ text := fun mem => h (List.mem_cons_of_mem _ mem)
    rw [List.cons_append, linesFrom, ih htext]
    · simp
    · exact fun eq => hc eq

/-- Lines that hold no line break and are all ended are the lines of what they make. -/
theorem lines_join_ended {all : List String}
    (h : ∀ line ∈ all, '\n' ∉ line.toList ∧ '\r' ∉ line.toList) :
    lines (String.join (all.map (· ++ "\n"))) = all := by
  rw [lines]
  induction all with
  | nil => rfl
  | cons line rest ih =>
    obtain ⟨hfeed, hreturn⟩ := h line List.mem_cons_self
    have hrest := ih fun other hmem => h other (List.mem_cons_of_mem _ hmem)
    have hkept : withoutReturn line.toList = line.toList :=
      if_neg fun hlast => hreturn (List.mem_of_getLast? hlast)
    have htext : (String.join ((line :: rest).map (· ++ "\n"))).toList
        = line.toList ++ '\n' :: (String.join (rest.map (· ++ "\n"))).toList := by
      simp [String.join_cons]
    rw [htext, linesFrom_append_newline hfeed, List.map_cons, hrest]
    simp [hkept]

end TextLines

namespace Simulation

/-- No line that a call prints holds a line break. -/
theorem not_mem_line {simulation : Simulation} {call : Call} {line : String}
    (h : simulation.line? call = some line) : '\n' ∉ line.toList ∧ '\r' ∉ line.toList := by
  have hnumber (number : Int) : '\n' ∉ number.repr.toList ∧ '\r' ∉ number.repr.toList :=
    ⟨not_mem_repr (by decide) (by decide) number, not_mem_repr (by decide) (by decide) number⟩
  have hpin (pin : Pin) : '\n' ∉ pin.text.toList ∧ '\r' ∉ pin.text.toList := hnumber pin.index
  have herror (error : PinError) :
      '\n' ∉ (errorLine error).toList ∧ '\r' ∉ (errorLine error).toList := by
    cases error <;> simp [errorLine, PinError.message, PinError.fragments, hnumber, hpin]
  cases call with
  | delay ms => cases h
  | report error =>
    cases h
    exact herror error
  | configure pin =>
    simp only [line?, Option.some.injEq] at h
    split at h
    case isTrue =>
      cases h
      simp [hpin]
    case isFalse =>
      cases h
      exact herror _
  | write pin level =>
    simp only [line?] at h
    split at h
    case isFalse =>
      cases h
      exact herror _
    split at h
    case h_1 =>
      cases h
      exact herror _
    split at h
    case isTrue => cases h
    cases h
    cases level <;> simp [hpin, Level.text]

/-- What a call adds to a trace, if anything. -/
def told? (simulation : Simulation) : Call → Option TraceEntry
  | .configure pin => some (if pin.index < simulation.slots then .configured pin else .failed)
  | .write pin level =>
    match simulation.lines.level pin with
    | none => some .failed
    | some before => if before = level then none else some (.turned pin level)
  | .delay _ => none
  | .report _ => some .failed

/-- The line of a call is read as its entry. -/
theorem map_read?_line? (simulation : Simulation) (call : Call) :
    (simulation.line? call).map TraceEntry.read? = (simulation.told? call).map some := by
  cases call with
  | delay ms => rfl
  | report error => exact congrArg some (TraceEntry.read?_errorLine error)
  | configure pin =>
    by_cases hin : pin.index < simulation.slots
    · simp only [line?, told?, if_pos hin, Option.map_some, TraceEntry.read?_configured]
    · simp only [line?, told?, if_neg hin, Option.map_some, TraceEntry.read?_errorLine]
  | write pin level =>
    simp only [line?, told?]
    by_cases hin : pin.index < LineTable.capacity
    · rw [if_pos hin]
      cases hlevel : simulation.lines.level pin with
      | none => exact congrArg some (TraceEntry.read?_errorLine _)
      | some before =>
        by_cases hsame : before = level
        · simp only [if_pos hsame, Option.map_none]
        · simp only [if_neg hsame, Option.map_some, TraceEntry.read?_turned]
    · rw [if_neg hin, simulation.lines.level_eq_none_of_capacity_le (Nat.not_lt.mp hin)]
      exact congrArg some (TraceEntry.read?_errorLine _)

end Simulation

/-! ## Replay -/

namespace Level

/-- Levels of which each differs from the one before it take turns. -/
theorem isAsserted_getElem_of_isChain {before : Level} {levels : List Level}
    (h : (before :: levels).IsChain (· ≠ ·)) {k : Nat} (hk : k < levels.length) :
    levels[k].isAsserted = (before.isAsserted ^^ decide (k % 2 = 0)) := by
  induction levels generalizing before k with
  | nil => cases hk
  | cons level rest ih =>
    rw [List.isChain_cons_cons] at h
    obtain ⟨hne, hrest⟩ := h
    have hlevel : level.isAsserted = !before.isAsserted := by
      cases before <;> cases level <;> first | rfl | exact absurd rfl hne
    cases k with
    | zero => simp [hlevel]
    | succ k =>
      have hparity : decide ((k + 1) % 2 = 0) = !decide (k % 2 = 0) := by
        rw [← decide_not, decide_eq_decide]
        omega
      have hlater := ih hrest (Nat.lt_of_succ_lt_succ hk)
      rw [List.getElem_cons_succ, hlater, hlevel, hparity]
      simp

end Level

namespace TraceEntry

/-- The levels after an entry. -/
def replay (levels : Pin → Option Level) : TraceEntry → Pin → Option Level
  | configured pin => Function.update levels pin (some .deasserted)
  | turned pin level => Function.update levels pin (some level)
  | failed => levels

/-- The levels after some entries, when no pin had one before. -/
def replayed (entries : List TraceEntry) : Pin → Option Level := entries.foldl replay fun _ => none

/-- The level that an entry turns a pin to. -/
def turned? (pin : Pin) : TraceEntry → Option Level
  | turned other level => if other = pin then some level else none
  | configured _ | failed => none

/-- An entry that turns a pin finds it at another level. -/
def Turns (levels : Pin → Option Level) (entry : TraceEntry) : Prop :=
  ∀ pin level, entry = .turned pin level → ∃ before, levels pin = some before ∧ before ≠ level

/-- Every entry that turns a pin finds it at another level, when those before it are replayed. -/
def AllTurn (levels : Pin → Option Level) : List TraceEntry → Prop
  | [] => True
  | entry :: rest => entry.Turns levels ∧ AllTurn (replay levels entry) rest

section

variable {levels : Pin → Option Level} {entries : List TraceEntry} {pin : Pin}

theorem allTurn_append {later : List TraceEntry} :
    AllTurn levels (entries ++ later)
      ↔ AllTurn levels entries ∧ AllTurn (entries.foldl replay levels) later := by
  induction entries generalizing levels with
  | nil => simp [AllTurn]
  | cons entry rest ih => simp only [List.cons_append, AllTurn, ih, List.foldl_cons, and_assoc]

/-- No pin gets a level without a configuration. -/
theorem configured_mem_of_replay (h : AllTurn levels entries)
    (hlevel : entries.foldl replay levels pin ≠ none) :
    levels pin ≠ none ∨ .configured pin ∈ entries := by
  induction entries generalizing levels with
  | nil => exact .inl hlevel
  | cons entry rest ih =>
    obtain ⟨hturns, hrest⟩ := h
    rcases ih hrest hlevel with hbefore | hmem
    · by_cases heq : entry = .configured pin
      · exact .inr (heq ▸ List.mem_cons_self)
      refine .inl fun hnone => hbefore ?_
      cases entry with
      | failed => exact hnone
      | configured other =>
        have hother : pin ≠ other := fun hpin => heq (hpin ▸ rfl)
        rw [replay, Function.update_of_ne hother, hnone]
      | turned other level =>
        have hother : pin ≠ other := by
          rintro rfl
          obtain ⟨before, hsome, -⟩ := hturns pin level rfl
          rw [hnone] at hsome
          cases hsome
        rw [replay, Function.update_of_ne hother, hnone]
    · exact .inr (List.mem_cons_of_mem _ hmem)

/-- As long as a pin is not configured, the levels that it is turned to differ one from the
next. -/
theorem isChain_turned (h : AllTurn levels entries) {before : Level}
    (hbefore : levels pin = some before) (hnot : .configured pin ∉ entries) :
    (before :: entries.filterMap (turned? pin)).IsChain (· ≠ ·) := by
  induction entries generalizing levels before with
  | nil => exact .singleton before
  | cons entry rest ih =>
    obtain ⟨hturns, hrest⟩ := h
    have hnotRest : .configured pin ∉ rest := fun hmem => hnot (List.mem_cons_of_mem _ hmem)
    cases entry with
    | failed => exact ih hrest hbefore hnotRest
    | configured other =>
      have hother : pin ≠ other := fun hpin => hnot (hpin ▸ List.mem_cons_self)
      refine ih hrest ?_ hnotRest
      rw [replay, Function.update_of_ne hother, hbefore]
    | turned other level =>
      by_cases heq : other = pin
      · obtain ⟨found, hfound, hne⟩ := hturns other level rfl
        rw [heq, hbefore, Option.some.injEq] at hfound
        have hsome : turned? pin (.turned other level) = some level := if_pos heq
        rw [List.filterMap_cons_some hsome, List.isChain_cons_cons]
        refine ⟨hfound ▸ hne, ih hrest ?_ hnotRest⟩
        rw [replay, heq, Function.update_self]
      · have hnone : turned? pin (.turned other level) = none := if_neg heq
        rw [List.filterMap_cons_none hnone]
        refine ih hrest ?_ hnotRest
        rw [replay, Function.update_of_ne (Ne.symm heq), hbefore]

/-- A pin that is turned was configured, and had another level than the one it gets. -/
theorem AllTurn.turned_from (h : AllTurn (fun _ => none) entries) {earlier later : List TraceEntry}
    {level : Level} (hsplit : entries = earlier ++ .turned pin level :: later) :
    .configured pin ∈ earlier ∧ ∃ before, replayed earlier pin = some before ∧ before ≠ level := by
  rw [hsplit, allTurn_append] at h
  obtain ⟨hearlier, hturns, -⟩ := h
  obtain ⟨before, hbefore, hne⟩ := hturns pin level rfl
  have hlevel : earlier.foldl replay (fun _ => none) pin ≠ none := by simp [hbefore]
  refine ⟨(configured_mem_of_replay hearlier hlevel).resolve_left fun hnone => hnone rfl, ?_⟩
  exact ⟨before, hbefore, hne⟩

/-- A pin is turned on first after it was configured, and then off and on in turns. -/
theorem AllTurn.alternate (h : AllTurn levels entries) {earlier since later : List TraceEntry}
    (hsplit : entries = earlier ++ .configured pin :: since ++ later)
    (hnot : .configured pin ∉ since) {k : Nat} (hk : k < (since.filterMap (turned? pin)).length) :
    (since.filterMap (turned? pin))[k] = .ofBool (k % 2 = 0) := by
  rw [hsplit, allTurn_append, allTurn_append] at h
  obtain ⟨⟨-, -, hsince⟩, -⟩ := h
  have hdark : replay (earlier.foldl replay levels) (.configured pin) pin = some .deasserted :=
    Function.update_self ..
  have hlit := Level.isAsserted_getElem_of_isChain (isChain_turned hsince hdark hnot) hk
  rw [← Level.ofBool_isAsserted (since.filterMap (turned? pin))[k], hlit]
  simp [Level.isAsserted]

end

end TraceEntry

/-! ## Runs -/

namespace Indicator

variable {σ : Type} (indicator : Indicator σ)

/-- The calls of a run, each with the state that it was made in. -/
def steps (state : σ) : List Call → List (σ × Call)
  | [] => []
  | call :: rest => (state, call) :: steps (indicator.apply state call).2 rest

/-- Whether a call is a write to a pin that succeeds and changes its level. -/
def changes (pin : Pin) : σ × Call → Bool
  | (state, .write other level) =>
    other = pin ∧ (indicator.write other level state).1 = .ok () ∧
      indicator.level (indicator.write other level state).2 pin ≠ indicator.level state pin
  | (_, .configure _) | (_, .delay _) | (_, .report _) => false

end Indicator

/-- What it means that the entries of a trace tell what some calls came to. -/
structure TellsCalls {σ : Type} (indicator : Indicator σ) (start : σ) (calls : List Call)
    (entries : List TraceEntry) : Prop where
  /-- Replayed, they give the level of every pin. -/
  replayed_eq : ∀ pin,
    TraceEntry.replayed entries pin = indicator.level (indicator.after start calls) pin
  /-- A pin that is turned was configured before, and has another level by then. -/
  turned_from : ∀ earlier pin level later, entries = earlier ++ .turned pin level :: later →
    .configured pin ∈ earlier ∧
      ∃ before, TraceEntry.replayed earlier pin = some before ∧ before ≠ level
  /-- From one configuration of a pin to the next it is turned on, and then off and on in turns. -/
  alternate : ∀ earlier pin since later, entries = earlier ++ .configured pin :: since ++ later →
    .configured pin ∉ since → ∀ k (hk : k < (since.filterMap (TraceEntry.turned? pin)).length),
    (since.filterMap (TraceEntry.turned? pin))[k] = .ofBool (k % 2 = 0)
  /-- A pin is turned as often as a write to it succeeds and changes its level. -/
  length_turned : ∀ pin, (entries.filterMap (TraceEntry.turned? pin)).length
    = (indicator.steps start calls).countP (indicator.changes pin)

namespace Simulation

section

variable {ω : Type} (around : Surroundings ω)

/-- The lines that a run prints. -/
def linesOf (state : Simulation × ω) (calls : List Call) : List String :=
  ((indicator around).steps state calls).filterMap fun step => step.1.1.line? step.2

/-- The entries that a run adds to a trace. -/
def entriesOf (state : Simulation × ω) (calls : List Call) : List TraceEntry :=
  ((indicator around).steps state calls).filterMap fun step => step.1.1.told? step.2

/-- A call prints its line before those of the calls after it. -/
theorem linesOf_cons (state : Simulation × ω) (call : Call) (rest : List Call) :
    linesOf around state (call :: rest) = (state.1.line? call).toList
      ++ linesOf around ((indicator around).apply state call).2 rest := by
  simp only [linesOf, Indicator.steps, List.filterMap_eq_flatMap_toList, List.flatMap_cons]

theorem entriesOf_cons (state : Simulation × ω) (call : Call) (rest : List Call) :
    entriesOf around state (call :: rest) = (state.1.told? call).toList
      ++ entriesOf around ((indicator around).apply state call).2 rest := by
  simp only [entriesOf, Indicator.steps, List.filterMap_eq_flatMap_toList, List.flatMap_cons]

/-- The lines of a run are read as its entries. -/
theorem map_read?_linesOf (state : Simulation × ω) (calls : List Call) :
    (linesOf around state calls).map TraceEntry.read?
      = (entriesOf around state calls).map some := by
  rw [linesOf, entriesOf, List.map_filterMap, List.map_filterMap]
  exact List.filterMap_congr fun step _ => map_read?_line? step.1.1 step.2

variable {around}

/-- A run prints its lines, each with its end. -/
theorem Surroundings.Prints.after {printed : ω → String} (h : around.Prints printed)
    (state : Simulation × ω) (hslots : state.1.slots ≤ LineTable.capacity) (calls : List Call) :
    printed ((indicator around).after state calls).2
      = printed state.2 ++ String.join ((linesOf around state calls).map (· ++ "\n")) := by
  induction calls generalizing state with
  | nil => exact String.append_empty.symm
  | cons call rest ih =>
    have hslotsNext := slots_apply_le around hslots call
    have hrest := ih ((indicator around).apply state call).2 hslotsNext
    rw [h.apply hslots state.2 call] at hrest
    rw [linesOf_cons, List.map_append, String.join_append, ← ended_eq_join, ← String.append_assoc]
    exact hrest

/-- A call changes the levels as its entry tells. -/
theorem level_apply {state : Simulation × ω} (hslots : state.1.slots ≤ LineTable.capacity)
    (call : Call) :
    (((indicator around).apply state call).2.1.lines.level : Pin → Option Level)
      = (state.1.told? call).toList.foldl TraceEntry.replay state.1.lines.level := by
  obtain ⟨simulation, world⟩ := state
  cases call with
  | delay ms => rfl
  | report error => rfl
  | configure pin =>
    simp only [Indicator.apply, indicator, configure, told?]
    by_cases hin : pin.index < simulation.slots
    · obtain ⟨lines, hlines⟩ := simulation.lines.configure_isOk (Nat.lt_of_lt_of_le hin hslots)
      simp only [if_pos hin, hlines]
      funext other
      exact (LineTable.level_configure hlines other).trans (Function.update_apply ..).symm
    · simp only [if_neg hin]
      rfl
  | write pin level =>
    simp only [Indicator.apply, indicator, told?]
    cases hlevel : simulation.lines.level pin with
    | none =>
      have hwrite : write around pin level (simulation, world) = _ :=
        write_eq_of_no_level around (simulation, world) hlevel level
      rw [hwrite]
      rfl
    | some before =>
      obtain ⟨lines, hset⟩ := LineTable.set_of_level hlevel level
      have hnext : (lines.level : Pin → Option Level)
          = Function.update simulation.lines.level pin (some level) := by
        funext other
        rw [LineTable.level_of_set hset, Function.update_apply]
        by_cases heq : other = pin
        · simp [heq, hlevel]
        · simp [heq]
      simp only [write, hset, hnext]
      by_cases hsame : before = level
      · rw [if_pos hsame, ← hsame, ← hlevel, Function.update_eq_self]
        rfl
      · rw [if_neg hsame]
        rfl

/-- A call that turns a pin finds it at another level. -/
theorem turns_of_told? {simulation : Simulation} {call : Call} {entry : TraceEntry}
    (h : simulation.told? call = some entry) : entry.Turns simulation.lines.level := by
  rintro pin level rfl
  cases call with
  | delay ms => cases h
  | report error => cases h
  | configure other =>
    simp only [told?, Option.some.injEq] at h
    split at h <;> cases h
  | write other written =>
    simp only [told?] at h
    cases hlevel : simulation.lines.level other with
    | none =>
      rw [hlevel] at h
      cases h
    | some before =>
      simp only [hlevel] at h
      split at h
      case isTrue => cases h
      case isFalse hne =>
        cases h
        exact ⟨before, hlevel, hne⟩

/-- A call turns a pin exactly if it is a write that changes the level of the pin. -/
theorem isSome_turned?_told? (around : Surroundings ω) (state : Simulation × ω) (call : Call)
    (pin : Pin) :
    ((state.1.told? call).bind (TraceEntry.turned? pin)).isSome
      = (indicator around).changes pin (state, call) := by
  obtain ⟨simulation, world⟩ := state
  cases call with
  | delay ms => rfl
  | report error => rfl
  | configure other =>
    by_cases hin : other.index < simulation.slots <;>
      simp [told?, hin, TraceEntry.turned?, Indicator.changes]
  | write other level =>
    have hafter : (write around other level (simulation, world)).2.1.lines.level other
        = (simulation.lines.level other).map fun _ => level := level_write level
    cases hlevel : simulation.lines.level other with
    | none =>
      have hwrite : write around other level (simulation, world) = _ :=
        write_eq_of_no_level around (simulation, world) hlevel level
      simp [told?, hlevel, Indicator.changes, TraceEntry.turned?, indicator, hwrite, fail]
    | some before =>
      obtain ⟨lines, hset⟩ := LineTable.set_of_level hlevel level
      have hok : (write around other level (simulation, world)).1 = .ok () := by
        simp only [write, hset]
      rw [hlevel] at hafter
      by_cases heq : other = pin
      · subst heq
        by_cases hsame : before = level
        · simp [told?, hlevel, hsame, Indicator.changes, indicator, hafter]
        · simp [told?, hlevel, hsame, Indicator.changes, TraceEntry.turned?, indicator, hok, hafter,
            Ne.symm hsame]
      · by_cases hsame : before = level <;>
          simp [told?, hlevel, hsame, Indicator.changes, TraceEntry.turned?, heq]

/-- Replayed, the entries of a run give the levels after it, and each pin that is turned had
another level. -/
theorem replay_entriesOf (around : Surroundings ω) (state : Simulation × ω)
    (hslots : state.1.slots ≤ LineTable.capacity) (calls : List Call) :
    TraceEntry.AllTurn state.1.lines.level (entriesOf around state calls) ∧
      (entriesOf around state calls).foldl TraceEntry.replay state.1.lines.level
        = (indicator around).level ((indicator around).after state calls) := by
  induction calls generalizing state with
  | nil => exact ⟨trivial, rfl⟩
  | cons call rest ih =>
    have hslotsNext := slots_apply_le around hslots call
    obtain ⟨hturns, hlevels⟩ := ih ((indicator around).apply state call).2 hslotsNext
    rw [level_apply hslots] at hturns hlevels
    rw [entriesOf_cons, TraceEntry.allTurn_append, List.foldl_append]
    refine ⟨⟨?_, hturns⟩, hlevels⟩
    cases hentry : state.1.told? call with
    | none => trivial
    | some entry => exact ⟨turns_of_told? hentry, trivial⟩

/-- A pin is turned as often as its level is changed. -/
theorem length_turned_entriesOf (state : Simulation × ω) (calls : List Call) (pin : Pin) :
    ((entriesOf around state calls).filterMap (TraceEntry.turned? pin)).length
      = ((indicator around).steps state calls).countP ((indicator around).changes pin) := by
  rw [entriesOf, List.filterMap_filterMap, List.length_filterMap_eq_countP]
  exact List.countP_congr fun step _ => by rw [isSome_turned?_told? around step.1 step.2 pin]

/-- Whatever a simulation prints in the course of some calls is read back, line by line, as
entries that tell what the calls came to. -/
theorem Surroundings.Prints.trace_tells_calls {printed : ω → String} (h : around.Prints printed)
    (slots : Nat) (world : ω) (calls : List Call) :
    ∃ text entries,
      printed ((indicator around).after (withSlots slots, world) calls).2 = printed world ++ text ∧
      (TextLines.lines text).map TraceEntry.read? = entries.map some ∧
      TellsCalls (indicator around) (withSlots slots, world) calls entries := by
  have hslots := slots_withSlots_le slots
  obtain ⟨hturns, hlevels⟩ :=
    replay_entriesOf around (withSlots slots, world) hslots calls
  have hnone : (withSlots slots).lines.level = fun _ => none := funext LineTable.level_empty
  rw [hnone] at hturns hlevels
  have hlines : TextLines.lines
      (String.join ((linesOf around (withSlots slots, world) calls).map (· ++ "\n")))
        = linesOf around (withSlots slots, world) calls := by
    apply TextLines.lines_join_ended
    intro line hmem
    obtain ⟨step, -, hline⟩ := List.mem_filterMap.mp hmem
    exact not_mem_line hline
  refine ⟨_, entriesOf around (withSlots slots, world) calls, h.after _ hslots calls, ?_, ?_⟩
  · rw [hlines, map_read?_linesOf]
  · exact {
      replayed_eq := congrFun hlevels
      turned_from := fun earlier pin level later => hturns.turned_from
      alternate := fun earlier pin since later hsplit hnot k => hturns.alternate hsplit hnot
      length_turned := length_turned_entriesOf _ calls }

end

/-- On a console, a pin that is written before and between its configurations is told. -/
theorem pin3_told_on_console :
    let calls := [.write (.ofNat 3) .asserted, .configure (.ofNat 3), .write (.ofNat 3) .asserted,
      .write (.ofNat 3) .asserted, .configure (.ofNat 3), .write (.ofNat 3) .deasserted]
    Console.surroundings.Prints Console.printed ∧ ∃ text entries,
      Console.printed ((indicator Console.surroundings).after (withSlots 4, #[]) calls).2
        = Console.printed #[] ++ text ∧
      (TextLines.lines text).map TraceEntry.read? = entries.map some ∧
      TellsCalls (indicator Console.surroundings) (withSlots 4, #[]) calls entries :=
  ⟨Console.prints, Console.prints.trace_tells_calls 4 #[] _⟩

/-- A pin that is configured again is dark, and no line tells that it was turned off. -/
example :
    entriesOf Console.surroundings (withSlots 4, #[]) [.write (.ofNat 3) .asserted,
      .configure (.ofNat 3), .write (.ofNat 3) .asserted, .configure (.ofNat 3),
      .write (.ofNat 3) .deasserted]
    = [.failed, .configured (.ofNat 3), .turned (.ofNat 3) .asserted, .configured (.ofNat 3)] := by
  cbv

end Simulation

end PilotLamp
