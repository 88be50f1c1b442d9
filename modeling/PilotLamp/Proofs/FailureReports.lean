import PilotLamp.LogRecord
import PilotLamp.Proofs.OverlappingCalls

/-!
# Reports of failed pin calls

Callers of a shared indicator learn no results, so a backend reports its own errors in a log. The
log is kept in a journal beside the world, which changes nothing that a caller can see. A pin call
that a backend serves is reported once if it fails and not at all if it succeeds; one that is made
while a wait has the backend fails without a report. The time at which a record is written is out
of scope.
-/

namespace PilotLamp.SharedIndicator

/-- How the reports of a backend stand in its log. -/
structure ReportStyle where
  /-- The severity of reports, which no other record of the backend has. -/
  severity : Severity
  /-- The report of an error. -/
  wording : PinError → LogRecord

namespace ReportStyle

variable (style : ReportStyle)

/-- The reports among some records. -/
def reportsIn (records : List LogRecord) : List LogRecord :=
  records.filter (·.severity = style.severity)

/-- The reports that are due for a result: one for an error, none for a success. -/
def due : Except PinError Unit → List LogRecord
  | .ok () => []
  | .error error => [style.wording error]

@[simp]
theorem reportsIn_append (first second : List LogRecord) :
    style.reportsIn (first ++ second) = style.reportsIn first ++ style.reportsIn second :=
  List.filter_append first second

end ReportStyle

/-- The result that a call is about, given what it answers: whoever has an error reported has that
error for a result. -/
def resultOf : Call → Except PinError Unit → Except PinError Unit
  | .report error, _ => .error error
  | .configure _, answer | .write _ _, answer | .delay _, answer => answer

/-- A pin call answers the result that its operation is about. -/
theorem resultOf_callOn {move : Move} {raw : Int32} {operation : Pin → Call}
    (pinCall : move.pinCall? = some (raw, operation)) (answer : Except PinError Unit) :
    resultOf (callOn raw operation) answer = answerOn raw answer := by
  unfold callOn answerOn
  by_cases hrange : 0 ≤ raw.toInt ∧ raw.toInt ≤ 255
  · simp only [if_pos hrange]
    cases move <;> cases pinCall <;> rfl
  · simp only [if_neg hrange]
    rfl

/-- A world with the records that were logged in it, oldest first. -/
abbrev Journaled (ω : Type) := ω × List LogRecord

/-- With a journal an operation comes to the outcome that it has without one, and the journal grows
by the reports that are due for a result, and perhaps by other records. -/
def ReportStyle.LogsDue {β ω : Type} (style : ReportStyle) (result : Except PinError Unit)
    (outcome : Except PinError Unit × β × ω) (journal : List LogRecord)
    (journaled : Except PinError Unit × β × Journaled ω) : Prop :=
  ∃ records, journaled = (outcome.1, outcome.2.1, outcome.2.2, journal ++ records) ∧
    style.reportsIn records = style.due result

/-- A kind of backend with a journal does as it does without, and its journal has the reports that
are due for its calls and no others. -/
structure ReportsOwnFailures {β ω : Type} (kind : BackendKind β ω)
    (journaled : BackendKind β (Journaled ω)) (style : ReportStyle) (sound : β → Prop) : Prop where
  /-- A backend is built sound, and that is not logged. -/
  built : ∀ world, sound (kind.build world).1 ∧ ∀ journal,
    journaled.build (world, journal) = ((kind.build world).1, (kind.build world).2, journal)
  /-- A call on a sound backend leaves it sound, and logs the report that is due. -/
  applied : ∀ state : β × ω, sound state.1 → ∀ call,
    sound (kind.indicator.apply state call).2.1 ∧ ∀ journal,
      style.LogsDue (resultOf call (kind.indicator.apply state call).1)
        (kind.indicator.apply state call) journal
        (journaled.indicator.apply (state.1, state.2, journal) call)
  /-- Throwing a backend away is not logged. -/
  discarded : ∀ backend world journal, journaled.discard backend (world, journal)
    = (kind.discard backend world, journal)

/-- Every backend of a shared indicator, in its slot or with a wait, is sound. -/
structure AllSound {β ω : Type} (sound : β → Prop) (traffic : Traffic β ω) : Prop where
  /-- The one in the slot is. -/
  slot : ∀ backend, traffic.slot = .ready backend → sound backend
  /-- Those with waits are. -/
  waits : ∀ out ∈ traffic.waits, sound out.backend

/-- A shared indicator in a world with a journal, without the journal. -/
def Traffic.plain {β ω : Type} (traffic : Traffic β (Journaled ω)) : Traffic β ω :=
  ⟨traffic.slot, traffic.waits, traffic.world.1⟩

/-- A shared indicator with a journal beside its world. -/
def Traffic.withJournal {β ω : Type} (traffic : Traffic β ω) (journal : List LogRecord) :
    Traffic β (Journaled ω) := ⟨traffic.slot, traffic.waits, traffic.world, journal⟩

namespace Turn

variable {β ω : Type} (turn : Turn β (Journaled ω))

/-- A turn in a world with a journal, without the journal. -/
def plain : Turn β ω := ⟨turn.before.plain, turn.move, turn.reply, turn.after.plain⟩

/-- The journal grows in a turn by records that have some reports among them. -/
def Reports (style : ReportStyle) (reports : List LogRecord) : Prop :=
  ∃ records, turn.after.world.2 = turn.before.world.2 ++ records ∧
    style.reportsIn records = reports

/-- What a turn reports. -/
structure ReportsIfServed (style : ReportStyle) : Prop where
  /-- A pin call that finds a backend reports what it answers: an error once, a success never. -/
  served : ∀ raw operation, turn.move.pinCall? = some (raw, operation) →
    turn.before.slot ≠ .checkedOut →
    ∃ result, turn.reply = .pin result ∧ turn.Reports style (style.due result)
  /-- A pin call made while a wait has the backend answers an error and reports nothing. -/
  refused : ∀ raw operation, turn.move.pinCall? = some (raw, operation) →
    turn.before.slot = .checkedOut →
    turn.reply = .pin (.error (refusalOn raw)) ∧ turn.Reports style []
  /-- So the report that is due for a result is made exactly if the call found a backend. -/
  due_iff : ∀ result, turn.reply = .pin result →
    (turn.Reports style (style.due result) ↔ turn.before.slot ≠ .checkedOut)
  /-- Looks and waits answer no result and report nothing. -/
  silent : turn.move.pinCall? = none →
    (∀ result, turn.reply ≠ .pin result) ∧ turn.Reports style []

end Turn

section

variable {β ω : Type} {kind : BackendKind β ω} {journaled : BackendKind β (Journaled ω)}
  {style : ReportStyle} {sound : β → Prop}

/-! ## Soundness -/

theorem AllSound.fresh (world : ω) : AllSound sound (Traffic.fresh (β := β) world) where
  slot _ h := nomatch h
  waits _ h := nomatch h

/-- A call finds a sound backend. -/
theorem ReportsOwnFailures.sound_of_found (h : ReportsOwnFailures kind journaled style sound)
    {slot : Slot β} {waits : List (CheckOut β)} {world : ω} {state : β × ω}
    (finds : found kind.build slot world = some state)
    (all : AllSound sound ⟨slot, waits, world⟩) : sound state.1 := by
  cases slot with
  | empty =>
    cases finds
    exact (h.built world).1
  | ready backend =>
    cases finds
    exact all.slot backend rfl
  | checkedOut => cases finds

/-- A call on a sound backend leaves it sound and logs what is due for what it comes to. -/
theorem ReportsOwnFailures.of_applied (h : ReportsOwnFailures kind journaled style sound)
    {state next : β × ω} {call : Call} {answer : Except PinError Unit}
    (applied : kind.indicator.apply state call = (answer, next)) (hsound : sound state.1) :
    sound next.1 ∧ ∀ journal, style.LogsDue (resultOf call answer) (answer, next) journal
      (journaled.indicator.apply (state.1, state.2, journal) call) := by
  have hlogs := h.applied state hsound call
  rw [applied] at hlogs
  exact hlogs

/-- Every rule leaves the backends sound. -/
theorem AllSound.of_rule (h : ReportsOwnFailures kind journaled style sound)
    {before next : Traffic β ω} {move : Move} {reply : Reply β}
    (rule : Rule kind before move reply next) (all : AllSound sound before) :
    AllSound sound next := by
  cases rule with
  | served pinCall finds applied =>
    have hnext := (h.of_applied applied (h.sound_of_found finds all)).1
    exact ⟨fun backend hslot => Slot.ready.inj hslot ▸ hnext, all.waits⟩
  | refused pinCall => exact all
  | inspected => exact all
  | tookAlong finds applied =>
    have hnext := (h.of_applied applied (h.sound_of_found finds all)).1
    exact ⟨nofun, List.forall_mem_append.mpr ⟨all.waits, List.forall_mem_singleton.mpr hnext⟩⟩
  | @overlapped raw waits world next result applied =>
    have hnext := (h.of_applied applied (h.built world).1).1
    exact ⟨nofun, List.forall_mem_append.mpr ⟨all.waits, List.forall_mem_singleton.mpr hnext⟩⟩
  | returned inFlight =>
    have hback := all.waits _ (List.mem_of_getElem? inFlight)
    exact ⟨fun backend hslot => Slot.ready.inj hslot ▸ hback,
      fun out hout => all.waits out (List.mem_of_mem_eraseIdx hout)⟩
  | thrownAway inFlight notOwed =>
    exact ⟨all.slot, fun out hout => all.waits out (List.mem_of_mem_eraseIdx hout)⟩
  | idle none => exact all

/-! ## Turns with a journal -/

/-- A call finds the same backend with a journal as without. -/
theorem ReportsOwnFailures.found_journaled (h : ReportsOwnFailures kind journaled style sound)
    {slot : Slot β} {world : ω} {state : β × ω} (finds : found kind.build slot world = some state)
    (journal : List LogRecord) :
    found journaled.build slot (world, journal) = some (state.1, state.2, journal) := by
  cases slot with
  | empty =>
    cases finds
    exact congrArg some ((h.built world).2 journal)
  | ready backend =>
    cases finds
    rfl
  | checkedOut => cases finds

/-- A move that is no pin call reports as it should if it reports nothing. -/
theorem Turn.ReportsIfServed.of_silent {turn : Turn β (Journaled ω)}
    (noPinCall : turn.move.pinCall? = none) (noResult : ∀ result, turn.reply ≠ .pin result)
    (reports : turn.Reports style []) : turn.ReportsIfServed style where
  served raw operation pinCall := by
    rw [noPinCall] at pinCall
    cases pinCall
  refused raw operation pinCall := by
    rw [noPinCall] at pinCall
    cases pinCall
  due_iff result hreply := absurd hreply (noResult result)
  silent _ := ⟨noResult, reports⟩

/-- With a journal a move follows the rule that it follows without, and reports what it should. -/
theorem Rule.withJournal (h : ReportsOwnFailures kind journaled style sound)
    {before next : Traffic β ω} {move : Move} {reply : Reply β}
    (rule : Rule kind before move reply next) (all : AllSound sound before)
    (journal : List LogRecord) : ∃ records,
    Rule journaled (before.withJournal journal) move reply
      (next.withJournal (journal ++ records)) ∧
    Turn.ReportsIfServed ⟨before.withJournal journal, move, reply,
      next.withJournal (journal ++ records)⟩ style := by
  cases rule with
  | served pinCall finds applied =>
    obtain ⟨records, happlied, hreports⟩ :=
      (h.of_applied applied (h.sound_of_found finds all)).2 journal
    rw [resultOf_callOn pinCall] at hreports
    refine ⟨records, .served pinCall (h.found_journaled finds journal) happlied, ?_, ?_, ?_, ?_⟩
    · exact fun _ _ _ _ => ⟨_, rfl, records, rfl, hreports⟩
    · exact fun _ _ _ hslot => absurd hslot (slot_of_found finds)
    · intro result hreply
      cases hreply
      exact ⟨fun _ => slot_of_found finds, fun _ => ⟨records, rfl, hreports⟩⟩
    · exact fun hnone => absurd (pinCall.symm.trans hnone) nofun
  | refused pinCall =>
    refine ⟨[], ?_, ?_, ?_, ?_, ?_⟩
    · rw [List.append_nil]
      exact .refused pinCall
    · exact fun _ _ _ hslot => absurd rfl hslot
    · intro raw operation hpinCall _
      obtain ⟨rfl, rfl⟩ := Prod.mk.inj (Option.some.inj (pinCall.symm.trans hpinCall))
      exact ⟨rfl, [], rfl, rfl⟩
    · intro result hreply
      cases hreply
      refine ⟨?_, fun hslot => absurd rfl hslot⟩
      -- The journal did not grow, but one report would be due.
      rintro ⟨records, hjournal, hreports⟩
      obtain rfl : [] = records := List.append_cancel_left hjournal
      cases hreports
    · exact fun hnone => absurd (pinCall.symm.trans hnone) nofun
  | inspected =>
    refine ⟨[], ?_, .of_silent rfl nofun ⟨[], rfl, rfl⟩⟩
    rw [List.append_nil]
    exact .inspected
  | tookAlong finds applied =>
    obtain ⟨records, happlied, hreports⟩ :=
      (h.of_applied applied (h.sound_of_found finds all)).2 journal
    obtain rfl : Except.ok () = _ := (Prod.ext_iff.mp applied).1
    exact ⟨records, .tookAlong (h.found_journaled finds journal) happlied,
      .of_silent rfl nofun ⟨records, rfl, hreports⟩⟩
  | @overlapped raw waits world next result applied =>
    obtain ⟨records, happlied, hreports⟩ := (h.of_applied applied (h.built world).1).2 journal
    obtain rfl : Except.ok () = _ := (Prod.ext_iff.mp applied).1
    rw [← (h.built world).2 journal] at happlied
    exact ⟨records, .overlapped happlied, .of_silent rfl nofun ⟨records, rfl, hreports⟩⟩
  | returned inFlight =>
    refine ⟨[], ?_, .of_silent rfl nofun ⟨[], rfl, rfl⟩⟩
    rw [List.append_nil]
    exact .returned inFlight
  | @thrownAway position slot waits world out inFlight notOwed =>
    refine ⟨[], ?_, .of_silent rfl nofun ⟨[], rfl, rfl⟩⟩
    rw [List.append_nil, Traffic.withJournal, Traffic.withJournal, ← h.discarded]
    exact .thrownAway inFlight notOwed
  | idle none =>
    refine ⟨[], ?_, .of_silent rfl nofun ⟨[], rfl, rfl⟩⟩
    rw [List.append_nil]
    exact .idle none

/-- In a run with a journal every turn is one of the run without, and reports what it should. -/
theorem ReportsOwnFailures.turns (h : ReportsOwnFailures kind journaled style sound)
    {traffic : Traffic β (Journaled ω)} (all : AllSound sound traffic.plain)
    (moves : List Move) :
    (journaled.turns traffic moves).map Turn.plain = kind.turns traffic.plain moves ∧
      ∀ turn ∈ journaled.turns traffic moves, turn.ReportsIfServed style := by
  induction moves generalizing traffic with
  | nil => exact ⟨rfl, fun _ hmem => absurd hmem List.not_mem_nil⟩
  | cons move rest ih =>
    have hrule := step_rule kind traffic.plain move
    obtain ⟨records, hjournaled, hreports⟩ := hrule.withJournal h all traffic.world.2
    have hstep : journaled.step traffic move = _ := hjournaled.eq
    have hsound : AllSound sound (journaled.step traffic move).2.plain := by
      rw [hstep]
      exact all.of_rule h hrule
    obtain ⟨hplain, hrest⟩ := ih hsound
    rw [BackendKind.turns, BackendKind.turns, List.map_cons, hplain, List.forall_mem_cons, hstep]
    exact ⟨rfl, hreports, hstep ▸ hrest⟩

/-- So it is from the first call on, with an empty journal. -/
theorem ReportsOwnFailures.turns_fresh (h : ReportsOwnFailures kind journaled style sound)
    (world : ω) (moves : List Move) :
    (journaled.turns (.fresh (world, [])) moves).map Turn.plain
        = kind.turns (.fresh world) moves ∧
      ∀ turn ∈ journaled.turns (.fresh (world, [])) moves, turn.ReportsIfServed style :=
  h.turns (.fresh world) moves

end

end PilotLamp.SharedIndicator
