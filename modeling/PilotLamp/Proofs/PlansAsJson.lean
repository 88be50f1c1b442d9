import PilotLamp.Proofs.JsonObjects
import PilotLamp.Proofs.SettingsTables

/-!
# Plans as JSON

A plan is read back from the line that it is written as, so different plans have different lines.
More than that, a plan is read from any object of its fields, whatever their order, blanks and
spellings, and no object is taken that gives a field anything but a plain number that it holds.
Objects with other keys, or with a key twice, are out of scope.
-/

namespace PilotLamp.BlinkPlan

open JsonText (Gap Member Number StringChar Tree)

/-! ## Objects of fields -/

/-- An object as a text, with blanks around it. -/
def objectText (before gap : Gap) (members : List (Member Tree)) (after : Gap) : String :=
  (Tree.spaced before (.object gap members) after).written

/-- Whether all members are fields of a plan, each one once at most. -/
structure FieldsOnce (members : List (Member Tree)) : Prop where
  /-- There are two fields. -/
  fields : ∀ member ∈ members, member.name = "pin" ∨ member.name = "period_ms"
  /-- None stands twice. -/
  once : (members.map Member.name).Nodup

/-- Whether a member gives a field a number, written as a plain decimal integer, that it holds. -/
def Fits (member : Member Tree) : Prop :=
  (member.name = "pin" ∧ ∃ n, member.value.plain? = some n ∧ n < UInt8.size)
  ∨ (member.name = "period_ms" ∧ ∃ n, member.value.plain? = some n ∧ n < UInt32.size)

/-- What a plan is that is read from members. -/
structure MadeOf (members : List (Member Tree)) (plan : BlinkPlan) : Prop where
  /-- Its pin is the one given. -/
  pin : ∀ member ∈ members, member.name = "pin" → member.value.plain? = some plan.pin.index
  /-- Its period is the one given. -/
  periodMs : ∀ member ∈ members, member.name = "period_ms" →
    member.value.plain? = some plan.periodMs.toNat
  /-- If no pin is given, it is that of the simulated board. -/
  pinMissing : (∀ member ∈ members, member.name ≠ "pin") →
    plan.pin = (forBoard .simulation).pin
  /-- Nor a period, likewise. -/
  periodMsMissing : (∀ member ∈ members, member.name ≠ "period_ms") →
    plan.periodMs = (forBoard .simulation).periodMs

variable {members : List (Member Tree)} {plan : BlinkPlan}

/-- A member that fits stands for a value that its field takes, and for no other value. -/
theorem fits_iff {member : Member Tree} (hname : member.name = "pin" ∨ member.name = "period_ms") :
    Fits member ↔ ∃ value, member.value.value? = some value ∧ Takes member.name value := by
  have hbyte : UInt8.size ≤ IntegerBounds.long := by decide
  have hword : UInt32.size ≤ IntegerBounds.long := by decide
  have hbelow : ∀ bound ≤ IntegerBounds.long,
      (∃ n, member.value.plain? = some n ∧ n < bound)
        ↔ ∃ value, member.value.value? = some value ∧ value.IsBelow bound := by
    intro bound hbound
    constructor
    · rintro ⟨n, hplain, hn⟩
      exact ⟨_, Tree.value?_of_plain? (by omega) _ hplain, n, rfl, hn⟩
    · rintro ⟨value, hvalue, n, rfl, hn⟩
      exact ⟨n, Tree.plain?_of_value? _ hvalue, hn⟩
  rcases hname with hpin | hperiod
  · simp [Fits, Takes, hpin, hbelow _ hbyte]
  · simp [Fits, Takes, hperiod, hbelow _ hword]

/-- An object is read as the entries of its members. -/
theorem ofJsonText?_objectText (before gap : Gap) (members : List (Member Tree)) (after : Gap) :
    ofJsonText? (objectText before gap members after)
      = (Tree.memberValues? [] members).map fun entries => ofJson (.table entries) := by
  rw [ofJsonText?, objectText, Tree.read?_written, Tree.value?, Tree.value?, Option.map_map]
  rfl

/-- An object of fields is read as a plan if and only if all its members fit. -/
theorem isOk_ofJsonText?_objectText (before gap : Gap) (h : FieldsOnce members) (after : Gap) :
    (∃ plan, ofJsonText? (objectText before gap members after) = some (.ok plan))
      ↔ ∀ member ∈ members, Fits member := by
  rw [ofJsonText?_objectText]
  constructor
  · rintro ⟨plan, hplan⟩ member hmember
    obtain ⟨entries, hentries, hread⟩ := Option.map_eq_some_iff.1 hplan
    have htaken := (takesExactly.decode_table_isOk_iff entries true standard).1 ⟨plan, hread⟩
    obtain ⟨value, hvalue⟩ :=
      (Tree.exists_memberValues?_iff [] members).1 ⟨entries, hentries⟩ member hmember
    have hentry : (member.name, value) ∈ entries :=
      (Tree.mem_memberValues? h.once (by simp) hentries).2 (.inr ⟨member, hmember, rfl, hvalue⟩)
    exact (fits_iff (h.fields member hmember)).2 ⟨value, hvalue, htaken _ hentry⟩
  · intro hfits
    have hvalues : ∀ member ∈ members,
        ∃ value, member.value.value? = some value ∧ Takes member.name value :=
      fun member hmember => (fits_iff (h.fields member hmember)).1 (hfits member hmember)
    obtain ⟨entries, hentries⟩ := (Tree.exists_memberValues?_iff [] members).2
      fun member hmember => (hvalues member hmember).imp fun _ hvalue => hvalue.1
    have htaken : ∀ entry ∈ entries, Takes entry.1 entry.2 := by
      intro entry hentry
      rcases (Tree.mem_memberValues? h.once (by simp) hentries).1 hentry with hnone | hmember
      · exact absurd hnone List.not_mem_nil
      · obtain ⟨member, hmember, hname, hvalue⟩ := hmember
        obtain ⟨value, hvalue', htakes⟩ := hvalues member hmember
        rw [hvalue, Option.some.injEq] at hvalue'
        rwa [hname, ← hvalue'] at htakes
    obtain ⟨plan, hplan⟩ := (takesExactly.decode_table_isOk_iff entries true standard).2 htaken
    exact ⟨plan, by rw [hentries]; exact congrArg some hplan⟩

/-- A part of a plan is the number that its member writes, or the standard without one. -/
theorem given_or_standard {α : Type} {number : α → Nat} {key : String} {initial result : α}
    {entries : List (String × Value)} (h : FieldsOnce members)
    (hentries : Tree.memberValues? [] members = some entries)
    (hlayered : Layered (fun value part => value = .integer (number part)) none
      (entries.lookup key) initial result) :
    (∀ member ∈ members, member.name = key → member.value.plain? = some (number result))
      ∧ ((∀ member ∈ members, member.name ≠ key) → result = initial) := by
  have hkeys : DistinctKeys entries :=
    Tree.distinctKeys_memberValues? (by exact List.nodup_nil) hentries
  have hmem {value : Value} : entries.lookup key = some value ↔
      ∃ member ∈ members, member.name = key ∧ member.value.value? = some value := by
    rw [Value.lookup_eq_some_iff_mem hkeys, Tree.mem_memberValues? h.once (by simp) hentries]
    simp
  constructor
  · intro member hmember hname
    obtain ⟨value, hvalue⟩ :=
      (Tree.exists_memberValues?_iff [] members).1 ⟨entries, hentries⟩ member hmember
    rw [hmem.2 ⟨member, hmember, hname, hvalue⟩] at hlayered
    cases hlayered with
    | read hnumber => exact Tree.plain?_of_value? _ (hnumber ▸ hvalue)
  · intro habsent
    cases hlookup : entries.lookup key with
    | none =>
      rw [hlookup] at hlayered
      cases hlayered
      rfl
    | some value =>
      obtain ⟨member, hmember, hname, _⟩ := hmem.1 hlookup
      exact absurd hname (habsent member hmember)

/-- A plan that is read from an object of fields is made of its members. -/
theorem madeOf_of_ofJsonText? {before gap after : Gap} (h : FieldsOnce members)
    (hread : ofJsonText? (objectText before gap members after) = some (.ok plan)) :
    MadeOf members plan := by
  rw [ofJsonText?_objectText] at hread
  obtain ⟨entries, hentries, hplan⟩ := Option.map_eq_some_iff.1 hread
  have hkeys : DistinctKeys entries :=
    Tree.distinctKeys_memberValues? (by exact List.nodup_nil) hentries
  have hpin := given_or_standard h hentries (setsPart_pin.layered_table hkeys hplan)
  have hperiod := given_or_standard h hentries (setsPart_periodMs.layered_table hkeys hplan)
  exact ⟨hpin.1, hperiod.1, hpin.2, hperiod.2⟩

/-! ## Lines -/

theorem standsForItself_pin : ∀ c ∈ "pin".toList, JsonText.standsForItself c = true :=
  List.all_eq_true.1 (by decide)

theorem standsForItself_periodMs :
    ∀ c ∈ "period_ms".toList, JsonText.standsForItself c = true :=
  List.all_eq_true.1 (by decide)

/-- The members of the line of a plan. -/
def lineMembers (plan : BlinkPlan) : List (Member Tree) :=
  [⟨.none, StringChar.ofWord "pin".toList standsForItself_pin, .none,
      .number (.plain plan.pin.index)⟩,
    ⟨.none, StringChar.ofWord "period_ms".toList standsForItself_periodMs, .none,
      .number (.plain plan.periodMs.toNat)⟩]

theorem json_eq_objectText (plan : BlinkPlan) :
    plan.json = objectText .none .none plan.lineMembers .none := by
  rw [← String.toList_inj]
  simp [json, objectText, lineMembers, Tree.written, Tree.text, Tree.memberText, Tree.membersText,
    Number.text, Number.plain, Number.wholeText, Number.tailText, Gap.none, JsonText.quotedText,
    StringChar.ofWord, StringChar.text, Pin.text]

theorem names_lineMembers (plan : BlinkPlan) :
    plan.lineMembers.map Member.name = ["pin", "period_ms"] := by
  simp [lineMembers, Member.name, JsonText.stringValue_ofWord]

theorem fieldsOnce_lineMembers (plan : BlinkPlan) : FieldsOnce plan.lineMembers where
  fields member hmember := by
    have hname : member.name ∈ plan.lineMembers.map Member.name := List.mem_map_of_mem hmember
    rw [names_lineMembers] at hname
    simpa using hname
  once := by
    rw [names_lineMembers]
    decide

theorem fits_lineMembers (plan : BlinkPlan) : ∀ member ∈ plan.lineMembers, Fits member := by
  have hpin : plan.pin.index < UInt8.size := plan.pin.index_lt
  have hperiod : plan.periodMs.toNat < UInt32.size := plan.periodMs.toNat_lt
  simpa [lineMembers, Fits, Member.name, JsonText.stringValue_ofWord, Tree.plain?, Number.plain]
    using ⟨hpin, hperiod⟩

/-- What is made of the members of a line is the plan. -/
theorem MadeOf.eq_of_lineMembers {read : BlinkPlan} (h : MadeOf plan.lineMembers read) :
    read = plan := by
  have hpin : plan.pin.index = read.pin.index := by
    simpa [lineMembers, Member.name, JsonText.stringValue_ofWord, Tree.plain?, Number.plain]
      using h.pin
  have hperiod : plan.periodMs.toNat = read.periodMs.toNat := by
    simpa [lineMembers, Member.name, JsonText.stringValue_ofWord, Tree.plain?, Number.plain]
      using h.periodMs
  obtain ⟨pin, periodMs⟩ := plan
  obtain ⟨readPin, readPeriodMs⟩ := read
  rw [BlinkPlan.mk.injEq]
  exact ⟨(Pin.ext_index hpin).symm, (UInt32.toNat_inj.1 hperiod).symm⟩

/-- A plan is read back from its line. -/
theorem ofJsonText?_json (plan : BlinkPlan) : ofJsonText? plan.json = some (.ok plan) := by
  rw [json_eq_objectText]
  obtain ⟨read, hread⟩ :=
    (isOk_ofJsonText?_objectText .none .none plan.fieldsOnce_lineMembers .none).2
      plan.fits_lineMembers
  rw [hread, (madeOf_of_ofJsonText? plan.fieldsOnce_lineMembers hread).eq_of_lineMembers]

/-! ## Plans and objects -/

/-- How plans are written and read: one plan, and a text with members. -/
structure TravelsAsJson (plan : BlinkPlan) (text : String) (members : List (Member Tree)) :
    Prop where
  /-- The plan is read back from its line. -/
  readBack : ofJsonText? plan.json = some (.ok plan)
  /-- No other plan has its line. -/
  apart : ∀ other : BlinkPlan, other.json = plan.json → other = plan
  /-- If all members fit, the text is read as the plan that they make. -/
  accepted : (∀ member ∈ members, Fits member) →
    ∃ read, ofJsonText? text = some (.ok read) ∧ MadeOf members read
  /-- If one does not, be it no number or one out of range, the text is read as no plan. -/
  refused : (∃ member ∈ members, ¬ Fits member) → ∀ read, ofJsonText? text ≠ some (.ok read)

/-- Plans travel as JSON: their own lines are read back, and any object of their fields is read as
the plan that it makes, or refused. -/
theorem plans_travel_as_json (plan : BlinkPlan) (before gap : Gap) {members : List (Member Tree)}
    (fields : FieldsOnce members) (after : Gap) :
    TravelsAsJson plan (objectText before gap members after) members where
  readBack := ofJsonText?_json plan
  apart other hsame := by
    have hread := ofJsonText?_json plan
    rw [← hsame, ofJsonText?_json other, Option.some.injEq, Except.ok.injEq] at hread
    exact hread
  accepted hfits := by
    obtain ⟨read, hread⟩ := (isOk_ofJsonText?_objectText before gap fields after).2 hfits
    exact ⟨read, hread, madeOf_of_ofJsonText? fields hread⟩
  refused hunfit read hread := by
    obtain ⟨member, hmember, hnot⟩ := hunfit
    have hfits := (isOk_ofJsonText?_objectText before gap fields after).1 ⟨read, hread⟩
    exact hnot (hfits member hmember)

/-- An object with the fields in the other order and blanks between its tokens. -/
theorem period_before_pin_travels_as_json :
    let plan : BlinkPlan := ⟨.ofNat 7, 250⟩
    let blank : Gap := ⟨[' '], List.all_eq_true.1 (by decide)⟩
    FieldsOnce plan.lineMembers.reverse ∧ (∀ member ∈ plan.lineMembers.reverse, Fits member)
      ∧ objectText .none blank plan.lineMembers.reverse blank
        = "\x7b \"period_ms\":250,\"pin\":7\x7d "
      ∧ TravelsAsJson plan (objectText .none blank plan.lineMembers.reverse blank)
        plan.lineMembers.reverse := by
  intro plan blank
  have hfields : FieldsOnce plan.lineMembers.reverse := by
    obtain ⟨hfields, honce⟩ := plan.fieldsOnce_lineMembers
    exact ⟨fun member hmember => hfields member (List.mem_reverse.1 hmember),
      by rw [List.map_reverse]; exact List.nodup_reverse.2 honce⟩
  refine ⟨hfields, fun member hmember => plan.fits_lineMembers member (List.mem_reverse.1 hmember),
    by decide +kernel, plans_travel_as_json plan .none blank hfields blank⟩

/-- A pin that is too large is refused. -/
example : (ofJsonText? "\x7b\"pin\":256\x7d").bind Except.toOption = none := by decide +kernel

end PilotLamp.BlinkPlan
