import PilotLamp.HostSettings
import PilotLamp.Proofs.DocumentKeys

/-!
# Settings out of the tables of a document

What one entry of a table does to a record is said once for each record: it sets the field that it
names, or it is none of the fields and does nothing. Since no key stands twice, a part of the record
that is read is what stands under the key of its field, or what it was before. Arrays in place of
tables are out of scope here.
-/

namespace PilotLamp

/-! ## Tables -/

namespace Value

/-- The value at the end of a path of keys. -/
def at? (value : Value) (path : List String) : Option Value := path.foldlM get? value

theorem at?_cons (value : Value) (key : String) (path : List String) :
    value.at? (key :: path) = (value.get? key).bind fun inner => inner.at? path := by
  simp [at?]

theorem at?_append (value : Value) (path rest : List String) :
    value.at? (path ++ rest) = (value.at? path).bind fun inner => inner.at? rest := by
  simp [at?, List.foldlM_append]

theorem at?_singleton (value : Value) (key : String) : value.at? [key] = value.get? key := by
  simp [at?]

theorem at?_pair (value : Value) (table key : String) :
    value.at? [table, key] = (value.get? table).bind fun inner => inner.get? key := by
  simp [at?]

/-- An entry of a table with distinct keys is found under its key. -/
theorem lookup_eq_some_iff_mem {entries : List (String × Value)} (h : DistinctKeys entries)
    {key : String} {value : Value} :
    entries.lookup key = some value ↔ (key, value) ∈ entries := by
  induction entries with
  | nil => simp
  | cons entry rest ih =>
    obtain ⟨other, old⟩ := entry
    rw [DistinctKeys, List.map_cons, List.nodup_cons] at h
    by_cases hkey : key = other
    · subst hkey
      have hrest : (key, value) ∉ rest := fun hmem => h.1 (List.mem_map.2 ⟨_, hmem, rfl⟩)
      simp [hrest, eq_comm]
    · have hbeq : (key == other) = false := by simpa using hkey
      rw [List.lookup_cons, hbeq, List.mem_cons, Prod.mk.injEq]
      simpa [hkey] using ih h.2

theorem perm_insertSorted (entry : String × Value) (entries : List (String × Value)) :
    (insertSorted entry entries).Perm (entry :: entries) := by
  induction entries with
  | nil => exact .refl _
  | cons first rest ih =>
    rw [insertSorted]
    split
    · exact .refl _
    · exact (ih.cons first).trans (.swap entry first rest)

/-- Sorting only changes the order of entries. -/
theorem perm_sortedEntries (entries : List (String × Value)) :
    (sortedEntries entries).Perm entries := by
  -- Entries are inserted one by one, so what is sorted before them is left open.
  have hfold : ∀ sorted : List (String × Value),
      (entries.foldl (fun sorted entry => insertSorted entry sorted) sorted).Perm
        (sorted ++ entries) := by
    induction entries with
    | nil => simp
    | cons entry rest ih =>
      intro sorted
      refine (ih _).trans (((perm_insertSorted entry sorted).append_right rest).trans ?_)
      exact List.perm_middle.symm
  exact hfold []

theorem distinctKeys_sortedEntries {entries : List (String × Value)} (h : DistinctKeys entries) :
    DistinctKeys (sortedEntries entries) :=
  ((perm_sortedEntries entries).map Prod.fst).nodup_iff.2 h

/-- A table with distinct keys holds the same under each key when it is sorted. -/
theorem lookup_sortedEntries {entries : List (String × Value)} (h : DistinctKeys entries)
    (key : String) : (sortedEntries entries).lookup key = entries.lookup key := by
  refine Option.ext fun value => ?_
  rw [lookup_eq_some_iff_mem h, lookup_eq_some_iff_mem (distinctKeys_sortedEntries h),
    (perm_sortedEntries entries).mem_iff]

end Value

/-! ## Layers -/

/-- What a setting is, out of three layers: what is given, else what `reads` takes a value for, else
the standard. -/
inductive Layered {α : Type} (reads : Value → α → Prop) : Option α → Option Value → α → α → Prop
  /-- What is given goes before all else. -/
  | given {choice standard : α} {value? : Option Value} :
    Layered reads (some choice) value? standard choice
  /-- Then comes what a value stands for. -/
  | read {value : Value} {standard result : α} (hreads : reads value result) :
    Layered reads none (some value) standard result
  /-- The standard comes last. -/
  | standard {standard : α} : Layered reads none none standard standard

/-- A choice is a layer over the others. -/
theorem Layered.over {α : Type} {reads : Value → α → Prop} {value? : Option Value}
    {standard result : α} (h : Layered reads none value? standard result) (choice : Option α) :
    Layered reads choice value? standard (choice.getD result) := by
  cases choice with
  | none => exact h
  | some choice => exact .given

/-- There is no more than one setting that is read from its number. -/
theorem Layered.unique {α : Type} {number : α → Nat} (hnumber : ∀ a b, number a = number b → a = b)
    {choice : Option α} {value? : Option Value} {standard a b : α}
    (ha : Layered (fun value a => value = .integer (number a)) choice value? standard a)
    (hb : Layered (fun value a => value = .integer (number a)) choice value? standard b) :
    a = b := by
  cases ha with
  | given => cases hb; rfl
  | read ha =>
    cases hb with
    | read hb => exact hnumber a b (Int.ofNat_inj.1 (Value.integer.inj (ha.symm.trans hb)))
  | standard => cases hb; rfl

/-! ## Records -/

section

variable {σ β ε : Type} {step : σ → β → Except ε σ}

/-- A sequence of steps that succeeds is a step that does and then the others. -/
theorem foldlM_cons_eq_ok_iff {item : β} {rest : List β} {state last : σ} :
    (item :: rest).foldlM step state = .ok last
      ↔ ∃ next, step state item = .ok next ∧ rest.foldlM step next = .ok last := by
  rw [List.foldlM_cons]
  cases step state item <;> simp [bind, Except.bind]

/-- A sequence of steps succeeds if each can be taken, where it makes no difference what was done
before. -/
theorem foldlM_isOk_iff {takes : β → Prop}
    (htakes : ∀ state item, (∃ next, step state item = .ok next) ↔ takes item) (items : List β)
    (state : σ) :
    (∃ last, items.foldlM step state = .ok last) ↔ ∀ item ∈ items, takes item := by
  induction items generalizing state with
  | nil => simp [pure, Except.pure]
  | cons item rest ih =>
    rw [List.forall_mem_cons, ← htakes state item]
    constructor
    · rintro ⟨last, hlast⟩
      obtain ⟨next, hnext, hrest⟩ := foldlM_cons_eq_ok_iff.1 hlast
      exact ⟨⟨next, hnext⟩, (ih next).1 ⟨last, hrest⟩⟩
    · rintro ⟨⟨next, hnext⟩, hrest⟩
      obtain ⟨last, hlast⟩ := (ih next).2 hrest
      exact ⟨last, foldlM_cons_eq_ok_iff.2 ⟨next, hnext, hlast⟩⟩

end

namespace RecordFormat

variable {σ α : Type} {format : RecordFormat σ}

/-- A part of a record that the entry under one key sets and every other entry keeps. -/
structure SetsPart (format : RecordFormat σ) (key : String) (part : σ → α)
    (reads : Value → α → Prop) : Prop where
  /-- The entry under the key sets it. -/
  sets : ∀ record value next, format.assignEntry record (key, value) = .ok next →
    reads value (part next)
  /-- Every other keeps it. -/
  keeps : ∀ record entry next, entry.1 ≠ key → format.assignEntry record entry = .ok next →
    part next = part record

variable {key : String} {part : σ → α} {reads : Value → α → Prop}

/-- Entries without the key keep the part. -/
theorem SetsPart.keeps_all (h : format.SetsPart key part reads) {entries : List (String × Value)}
    {record last : σ} (habsent : key ∉ entries.map Prod.fst)
    (hlast : entries.foldlM format.assignEntry record = .ok last) : part last = part record := by
  induction entries generalizing record with
  | nil => exact congrArg part (Except.ok.inj hlast).symm
  | cons entry rest ih =>
    rw [List.map_cons, List.mem_cons, not_or] at habsent
    obtain ⟨next, hnext, hrest⟩ := foldlM_cons_eq_ok_iff.1 hlast
    exact (ih habsent.2 hrest).trans (h.keeps _ _ _ (Ne.symm habsent.1) hnext)

/-- After entries with distinct keys the part is what stands under its key, or what it was. -/
theorem SetsPart.layered_foldlM (h : format.SetsPart key part reads)
    {entries : List (String × Value)} {record last : σ} (hkeys : DistinctKeys entries)
    (hlast : entries.foldlM format.assignEntry record = .ok last) :
    Layered reads none (entries.lookup key) (part record) (part last) := by
  induction entries generalizing record with
  | nil =>
    cases hlast
    exact .standard
  | cons entry rest ih =>
    obtain ⟨other, value⟩ := entry
    rw [DistinctKeys, List.map_cons, List.nodup_cons] at hkeys
    obtain ⟨next, hnext, hrest⟩ := foldlM_cons_eq_ok_iff.1 hlast
    by_cases hkey : other = key
    · subst hkey
      -- No later entry has the key, so the part stays as this one sets it.
      have hset := h.sets _ _ _ hnext
      rw [← h.keeps_all hkeys.1 hrest] at hset
      simpa using Layered.read hset
    · have hbeq : (key == other) = false := by simpa using Ne.symm hkey
      rw [List.lookup_cons, hbeq, ← h.keeps _ _ _ hkey hnext]
      exact ih hkeys.2 hrest

/-- A part of the record that entries hold is what stands under its key, or the initial one. -/
theorem SetsPart.layered_table (h : format.SetsPart key part reads)
    {entries : List (String × Value)} {initial record : σ} {refusesSurplus : Bool}
    (hkeys : DistinctKeys entries)
    (hrecord : format.decode refusesSurplus initial (.table entries) = .ok record) :
    Layered reads none (entries.lookup key) (part initial) (part record) := by
  rw [← Value.lookup_sortedEntries hkeys]
  exact h.layered_foldlM (Value.distinctKeys_sortedEntries hkeys) hrecord

/-- So is one that a table holds. -/
theorem SetsPart.layered (h : format.SetsPart key part reads) {table : Value} {initial record : σ}
    {refusesSurplus : Bool} (htable : table.isTable = true) (hkeys : table.WellKeyed)
    (hrecord : format.decode refusesSurplus initial table = .ok record) :
    Layered reads none (table.get? key) (part initial) (part record) := by
  obtain ⟨entries, rfl⟩ := Value.isTable_iff.1 htable
  exact h.layered_table hkeys.distinctKeys hrecord

/-- What a format takes under a key, whatever the record is by then. -/
def TakesExactly (format : RecordFormat σ) (takes : String → Value → Prop) : Prop :=
  ∀ record key value, (∃ next, format.assignEntry record (key, value) = .ok next) ↔ takes key value

/-- Entries hold a record if all of them are taken. -/
theorem TakesExactly.decode_table_isOk_iff {takes : String → Value → Prop}
    (h : format.TakesExactly takes) (entries : List (String × Value)) (refusesSurplus : Bool)
    (initial : σ) :
    (∃ record, format.decode refusesSurplus initial (.table entries) = .ok record)
      ↔ ∀ entry ∈ entries, takes entry.1 entry.2 := by
  refine (foldlM_isOk_iff (fun record entry => h record entry.1 entry.2)
    (Value.sortedEntries entries) initial).trans ?_
  simp only [(Value.perm_sortedEntries entries).mem_iff]

/-- A table holds a record if all is taken that stands in it. -/
theorem TakesExactly.decode_isOk_iff {takes : String → Value → Prop}
    (h : format.TakesExactly takes) {table : Value} (htable : table.isTable = true)
    (hkeys : table.WellKeyed) (refusesSurplus : Bool) (initial : σ) :
    (∃ record, format.decode refusesSurplus initial table = .ok record)
      ↔ ∀ key value, table.get? key = some value → takes key value := by
  obtain ⟨entries, rfl⟩ := Value.isTable_iff.1 htable
  rw [h.decode_table_isOk_iff]
  simp only [Prod.forall, Value.get?, Value.lookup_eq_some_iff_mem hkeys.distinctKeys]

/-- Whatever holds a record, all is taken that stands in it under a key. -/
theorem TakesExactly.takes {takes : String → Value → Prop} (h : format.TakesExactly takes)
    {source : Value} (hkeys : source.WellKeyed) {refusesSurplus : Bool} {initial record : σ}
    (hrecord : format.decode refusesSurplus initial source = .ok record) {key : String}
    {value : Value} (hvalue : source.get? key = some value) : takes key value :=
  (h.decode_isOk_iff (Value.isTable_of_get? hvalue) hkeys refusesSurplus initial).1
    ⟨record, hrecord⟩ key value hvalue

/-- A part of a record that a table of a document holds is what stands in that table. -/
theorem SetsPart.layered_inside (h : format.SetsPart key part reads) {document : Value}
    {table : String} {initial record : σ} (hkeys : document.WellKeyed)
    (htable : ∀ inner, document.get? table = some inner → inner.isTable = true)
    (hrecord : Layered (fun value record => format.decode false initial value = .ok record) none
      (document.get? table) initial record) :
    Layered reads none (document.at? [table, key]) (part initial) (part record) := by
  rw [Value.at?_pair]
  cases hinner : document.get? table with
  | none =>
    rw [hinner] at hrecord
    cases hrecord
    exact .standard
  | some inner =>
    rw [hinner] at hrecord
    cases hrecord with
    | read hdecode => exact h.layered (htable inner hinner) (hkeys.get? hinner) hdecode

end RecordFormat

/-! ## The records -/

/-- What is converted is an answer if it was one before. -/
theorem map_eq_ok_iff {ε α β : Type} {result : Except ε α} {convert : α → β} {value : β} :
    result.map convert = .ok value ↔ ∃ source, result = .ok source ∧ convert source = value := by
  cases result <;> simp [Except.map]

/-- All that one entry can do to a record whose fields have distinct keys. -/
theorem RecordFormat.assignEntry_eq_ok_iff {σ : Type} {format : RecordFormat σ}
    (hkeys : (format.fields.map Field.key).Nodup) {record next : σ} {key : String}
    {value : Value} :
    format.assignEntry record (key, value) = .ok next ↔
      (∃ field ∈ format.fields, key = field.key ∧ field.assign value record = .ok next)
      ∨ (key ∉ format.fields.map Field.key ∧ format.refusesUnknownKeys = false
        ∧ value.isReadable = true ∧ record = next) := by
  rw [assignEntry]
  split
  next field hfind =>
    have hmem := List.mem_of_find?_eq_some hfind
    have hkey : key = field.key := Eq.symm (by simpa using List.find?_some hfind)
    have hknown : key ∈ format.fields.map Field.key := List.mem_map.2 ⟨field, hmem, hkey.symm⟩
    constructor
    · exact fun h => .inl ⟨field, hmem, hkey, h⟩
    · rintro (⟨other, hother, hsame, h⟩ | ⟨habsent, _⟩)
      -- The keys of the fields are distinct, so it is the field that was found.
      · rw [List.inj_on_of_nodup_map hkeys hmem hother (hkey.symm.trans hsame)]
        exact h
      · exact absurd hknown habsent
  next hfind =>
    have habsent : ∀ field ∈ format.fields, key ≠ field.key := fun field hfield hkey =>
      List.find?_eq_none.1 hfind field hfield (beq_iff_eq.2 hkey.symm)
    have hunknown : key ∉ format.fields.map Field.key := fun hmem => by
      obtain ⟨field, hfield, hkey⟩ := List.mem_map.1 hmem
      exact habsent field hfield hkey.symm
    have hnone : ¬ ∃ field ∈ format.fields,
        key = field.key ∧ field.assign value record = .ok next :=
      fun ⟨field, hfield, hkey, _⟩ => habsent field hfield hkey
    simp only [hnone, false_or, hunknown, not_false_eq_true, true_and]
    cases format.refusesUnknownKeys <;> cases value.isReadable <;> simp

theorem IntegerRange.bound_byte : byte.bound = UInt8.size := IntegerBounds.byte_eq_size

theorem IntegerRange.bound_word : word.bound = UInt32.size := IntegerBounds.word_eq_size

/-- All that one entry can do to a plan. -/
theorem BlinkPlan.assignEntry_eq_ok_iff {plan next : BlinkPlan} {key : String} {value : Value} :
    format.assignEntry plan (key, value) = .ok next ↔
      (key = "pin" ∧ ∃ n : Nat, value = .integer n ∧ n < UInt8.size
        ∧ plan.withPin (.ofNat n) = next)
      ∨ (key = "period_ms" ∧ ∃ n : Nat, value = .integer n ∧ n < UInt32.size
        ∧ plan.withPeriod (.ofNat n) = next)
      ∨ (key ≠ "pin" ∧ key ≠ "period_ms" ∧ value.isReadable = true ∧ plan = next) := by
  rw [RecordFormat.assignEntry_eq_ok_iff (by decide +kernel)]
  simp [format, pinField, periodField, map_eq_ok_iff, IntegerRange.decode_eq_ok_iff,
    IntegerRange.bound_byte, IntegerRange.bound_word, and_assoc, or_assoc]

/-- All that one entry can do to the set-up of the simulation. -/
theorem SimulationSettings.assignEntry_eq_ok_iff {settings next : SimulationSettings} {key : String}
    {value : Value} :
    format.assignEntry settings (key, value) = .ok next ↔
      (key = "slots" ∧ ∃ n : Nat, value = .integer n ∧ n < UInt8.size ∧ ⟨.ofNat n⟩ = next)
      ∨ (key ≠ "slots" ∧ value.isReadable = true ∧ settings = next) := by
  rw [RecordFormat.assignEntry_eq_ok_iff (by decide +kernel)]
  simp [format, slotsField, map_eq_ok_iff, IntegerRange.decode_eq_ok_iff,
    IntegerRange.bound_byte, and_assoc]

/-- All that one entry can do to the settings; there is no other entry. -/
theorem HostSettings.assignEntry_eq_ok_iff {settings next : HostSettings} {key : String}
    {value : Value} :
    format.assignEntry settings (key, value) = .ok next ↔
      (key = "blink" ∧ ∃ blink, BlinkPlan.format.decode false .standard value = .ok blink
        ∧ { settings with blink } = next)
      ∨ (key = "simulation" ∧ ∃ simulation,
        SimulationSettings.format.decode false .standard value = .ok simulation
        ∧ { settings with simulation } = next) := by
  rw [RecordFormat.assignEntry_eq_ok_iff (by decide +kernel)]
  simp [format, blinkField, simulationField, map_eq_ok_iff]

/-! ## Parts of the records -/

/-- Values that are naturals below a bound. -/
def Value.IsBelow (bound : Nat) (value : Value) : Prop := ∃ n : Nat, value = .integer n ∧ n < bound

namespace BlinkPlan

theorem setsPart_pin :
    format.SetsPart "pin" pin fun value pin => value = .integer pin.index where
  sets plan value next h := by
    rcases assignEntry_eq_ok_iff.1 h with ⟨_, n, rfl, hn, rfl⟩ | ⟨hkey, _⟩ | ⟨hkey, _⟩
    · simp only [withPin]
      rw [Pin.index_ofNat hn]
    · simp at hkey
    · simp at hkey
  keeps plan entry next hkey h := by
    rcases assignEntry_eq_ok_iff.1 h with ⟨hpin, _⟩ | ⟨_, n, _, _, rfl⟩ | ⟨_, _, _, rfl⟩
    · exact absurd hpin hkey
    · rfl
    · rfl

theorem setsPart_periodMs :
    format.SetsPart "period_ms" periodMs fun value periodMs => value = .integer periodMs.toNat where
  sets plan value next h := by
    rcases assignEntry_eq_ok_iff.1 h with ⟨hkey, _⟩ | ⟨_, n, rfl, hn, rfl⟩ | ⟨_, hkey, _⟩
    · simp at hkey
    · simp only [withPeriod]
      rw [UInt32.toNat_ofNat_of_lt' hn]
    · simp at hkey
  keeps plan entry next hkey h := by
    rcases assignEntry_eq_ok_iff.1 h with ⟨_, n, _, _, rfl⟩ | ⟨hperiod, _⟩ | ⟨_, _, _, rfl⟩
    · rfl
    · exact absurd hperiod hkey
    · rfl

/-- What a plan takes under a key. -/
def Takes (key : String) (value : Value) : Prop :=
  if key = "pin" then value.IsBelow UInt8.size
  else if key = "period_ms" then value.IsBelow UInt32.size
  else value.isReadable = true

theorem takesExactly : format.TakesExactly Takes := by
  intro plan key value
  simp only [assignEntry_eq_ok_iff, Takes, Value.IsBelow]
  by_cases hpin : key = "pin"
  · simp [hpin]
  · by_cases hperiod : key = "period_ms"
    · simp [hperiod]
    · simp [hpin, hperiod]

end BlinkPlan

namespace SimulationSettings

theorem setsPart_slots :
    format.SetsPart "slots" slots fun value slots => value = .integer slots.toNat where
  sets settings value next h := by
    rcases assignEntry_eq_ok_iff.1 h with ⟨_, n, rfl, hn, rfl⟩ | ⟨hkey, _⟩
    · dsimp only
      rw [UInt8.toNat_ofNat_of_lt' hn]
    · simp at hkey
  keeps settings entry next hkey h := by
    rcases assignEntry_eq_ok_iff.1 h with ⟨hslots, _⟩ | ⟨_, _, rfl⟩
    · exact absurd hslots hkey
    · rfl

/-- What the set-up of the simulation takes under a key. -/
def Takes (key : String) (value : Value) : Prop :=
  if key = "slots" then value.IsBelow UInt8.size else value.isReadable = true

theorem takesExactly : format.TakesExactly Takes := by
  intro settings key value
  simp only [assignEntry_eq_ok_iff, Takes, Value.IsBelow]
  by_cases hslots : key = "slots"
  · simp [hslots]
  · simp [hslots]

end SimulationSettings

namespace HostSettings

theorem setsPart_blink :
    format.SetsPart "blink" blink fun value blink =>
      BlinkPlan.format.decode false .standard value = .ok blink where
  sets settings value next h := by
    rcases assignEntry_eq_ok_iff.1 h with ⟨_, blink, hblink, rfl⟩ | ⟨hkey, _⟩
    · exact hblink
    · simp at hkey
  keeps settings entry next hkey h := by
    rcases assignEntry_eq_ok_iff.1 h with ⟨hblink, _⟩ | ⟨_, simulation, _, rfl⟩
    · exact absurd hblink hkey
    · rfl

theorem setsPart_simulation :
    format.SetsPart "simulation" simulation fun value simulation =>
      SimulationSettings.format.decode false .standard value = .ok simulation where
  sets settings value next h := by
    rcases assignEntry_eq_ok_iff.1 h with ⟨hkey, _⟩ | ⟨_, simulation, hsimulation, rfl⟩
    · simp at hkey
    · exact hsimulation
  keeps settings entry next hkey h := by
    rcases assignEntry_eq_ok_iff.1 h with ⟨_, blink, _, rfl⟩ | ⟨hsimulation, _⟩
    · rfl
    · exact absurd hsimulation hkey

/-- What the settings take under a key. -/
def Takes (key : String) (value : Value) : Prop :=
  (key = "blink" ∧ ∃ blink, BlinkPlan.format.decode false .standard value = .ok blink)
  ∨ (key = "simulation"
    ∧ ∃ simulation, SimulationSettings.format.decode false .standard value = .ok simulation)

theorem takesExactly : format.TakesExactly Takes := by
  intro settings key value
  simp only [assignEntry_eq_ok_iff, Takes]
  constructor
  · rintro ⟨next, ⟨hkey, blink, hblink, _⟩ | ⟨hkey, simulation, hsimulation, _⟩⟩
    · exact .inl ⟨hkey, blink, hblink⟩
    · exact .inr ⟨hkey, simulation, hsimulation⟩
  · rintro (⟨hkey, blink, hblink⟩ | ⟨hkey, simulation, hsimulation⟩)
    · exact ⟨_, .inl ⟨hkey, blink, hblink, rfl⟩⟩
    · exact ⟨_, .inr ⟨hkey, simulation, hsimulation, rfl⟩⟩

end HostSettings

end PilotLamp
