import PilotLamp.Proofs.DriverRules
import Mathlib.Data.Finmap

/-!
# The map that a line table holds

Two words of bits stand for a finite map from pins to levels. Configuring a pin puts it in the map,
setting a pin that is in the map replaces its level, and nothing else changes the map. Whatever is
asked of a table, in whatever order, it holds the map that the same requests build, and each answer
can be told from that map. What a backend does besides is out of scope.
-/

namespace PilotLamp

namespace LineTable

/-- A request to a table. -/
inductive Request
  /-- Makes a line configured and deasserted. -/
  | configure (pin : Pin)
  /-- Sets the level of a configured line. -/
  | set (pin : Pin) (level : Level)
deriving DecidableEq, Repr

/-- The pin that a request is about. -/
def Request.pin : Request → Pin
  | .configure pin => pin
  | .set pin _ => pin

/-- The answer to a request, which for a level tells whether it changed, and the table from then
on. A refused request keeps the table. -/
def apply (table : LineTable) : Request → Except PinError (Option Bool) × LineTable
  | .configure pin => match table.configure pin with
    | .ok next => (.ok none, next)
    | .error error => (.error error, table)
  | .set pin level => match table.set pin level with
    | .ok (changed, next) => (.ok (some changed), next)
    | .error error => (.error error, table)

/-- The table after some requests, in their order. -/
def after (table : LineTable) (requests : List Request) : LineTable :=
  requests.foldl (fun table request => (table.apply request).2) table

/-! ## One request -/

/-- What a request can do to a table: what it is answered and the table from then on. -/
inductive Does (table : LineTable) : Request → Except PinError (Option Bool) → LineTable → Prop
  /-- A line of the table is configured. -/
  | configured {pin : Pin} {next : LineTable} (inside : pin.index < capacity)
      (configured : table.configure pin = .ok next) : Does table (.configure pin) (.ok none) next
  /-- A line that has a level is set. -/
  | set {pin : Pin} {before level : Level} {next : LineTable}
      (hlevel : table.level pin = some before)
      (set : table.set pin level = .ok (before != level, next)) :
      Does table (.set pin level) (.ok (some (before != level))) next
  /-- A line of the table that has no level is not configured. -/
  | notConfigured {pin : Pin} {level : Level} (inside : pin.index < capacity)
      (free : table.level pin = none) :
      Does table (.set pin level) (.error (.notConfigured pin)) table
  /-- The table has no such line. -/
  | outside {request : Request} (outside : capacity ≤ request.pin.index) :
      Does table request (.error (.noSuchPin request.pin.index)) table

/-- No table configures a number past its capacity. -/
theorem configure_of_capacity_le (table : LineTable) {pin : Pin} (h : capacity ≤ pin.index) :
    table.configure pin = .error (.noSuchPin pin.index) := configure_eq_error_iff.mpr ⟨h, rfl⟩

/-- A table configures every line that it can hold. -/
theorem exists_configure_iff (table : LineTable) (pin : Pin) :
    (∃ next, table.configure pin = .ok next) ↔ pin.index < capacity := by
  unfold configure
  by_cases inside : pin.index < capacity
  · simp [inside]
  · simp [inside]

/-- Setting finds no number past the capacity. -/
theorem set_outside_iff (table : LineTable) (pin : Pin) (level : Level) :
    table.set pin level = .error (.noSuchPin pin.index) ↔ capacity ≤ pin.index := by
  unfold set
  by_cases inside : pin.index < capacity
  · by_cases hconfigured : table.isConfigured pin = true
    · simp [inside, hconfigured]
    · simp [inside, hconfigured]
  · simp [inside, Nat.le_of_not_lt inside]

/-- It finds the lines of the table not configured that have no level. -/
theorem set_unconfigured_iff (table : LineTable) (pin : Pin) (level : Level) :
    table.set pin level = .error (.notConfigured pin) ↔
      pin.index < capacity ∧ table.level pin = none := by
  rw [← Option.not_isSome_iff_eq_none, isSome_level, set]
  by_cases inside : pin.index < capacity
  · by_cases hconfigured : table.isConfigured pin = true
    · simp [inside, hconfigured]
    · simp [inside, hconfigured]
  · simp [inside]

/-- A request does one of these things. -/
theorem apply_does (table : LineTable) (request : Request) :
    table.Does request (table.apply request).1 (table.apply request).2 := by
  cases request with
  | configure pin =>
    by_cases inside : pin.index < capacity
    · obtain ⟨next, configured⟩ := table.configure_isOk inside
      simp only [apply, configured]
      exact .configured inside configured
    · have outside : capacity ≤ pin.index := Nat.le_of_not_lt inside
      simp only [apply, table.configure_of_capacity_le outside]
      exact .outside outside
  | set pin level =>
    by_cases inside : pin.index < capacity
    · cases hlevel : table.level pin with
      | some before =>
        obtain ⟨next, set⟩ := set_of_level hlevel level
        simp only [apply, set]
        exact .set hlevel set
      | none =>
        simp only [apply, set_of_no_level inside hlevel]
        exact .notConfigured inside hlevel
    · have outside : capacity ≤ pin.index := Nat.le_of_not_lt inside
      simp only [apply, (table.set_outside_iff pin level).mpr outside]
      exact .outside outside

/-- What a request makes of the level of its own line. -/
def Request.levelAfter (before : Option Level) : Request → Option Level
  | .configure pin => if pin.index < capacity then some .deasserted else before
  | .set _ level => before.map fun _ => level

/-- What a request is answered, told from the level of its own line. -/
def Request.answer (before : Option Level) : Request → Except PinError (Option Bool)
  | .configure pin => if pin.index < capacity then .ok none else .error (.noSuchPin pin.index)
  | .set pin level => match before with
    | some old => .ok (some (old != level))
    | none => .error (if pin.index < capacity then .notConfigured pin else .noSuchPin pin.index)

section

variable {table next : LineTable} {request : Request} {answer : Except PinError (Option Bool)}

/-- A line without a level has none after a request that finds no line. -/
theorem levelAfter_of_outside (outside : capacity ≤ request.pin.index) :
    request.levelAfter (table.level request.pin) = table.level request.pin := by
  rw [level_eq_none_of_capacity_le table outside]
  cases request with
  | configure pin => exact if_neg (Nat.not_lt.mpr outside)
  | set pin level => rfl

/-- A request changes the level of its own line, and that of no other. -/
theorem Does.level_eq (rule : table.Does request answer next) (other : Pin) :
    next.level other
      = if other = request.pin then request.levelAfter (table.level other)
        else table.level other := by
  cases rule with
  | configured inside configured =>
    simp only [Request.pin, Request.levelAfter, if_pos inside]
    exact level_configure configured other
  | set hlevel set => exact level_of_set set other
  | @notConfigured pin level inside free =>
    by_cases heq : other = (Request.set pin level).pin
    · rw [if_pos heq, heq, Request.pin, free]
      rfl
    · rw [if_neg heq]
  | outside outside =>
    by_cases heq : other = request.pin
    · rw [if_pos heq, heq, levelAfter_of_outside outside]
    · rw [if_neg heq]

/-- The answer to a request depends on the level of its own line alone. -/
theorem Does.answer_eq (rule : table.Does request answer next) :
    answer = request.answer (table.level request.pin) := by
  cases rule with
  | configured inside configured => simp only [Request.answer, if_pos inside]
  | set hlevel set => simp only [Request.answer, Request.pin, hlevel]
  | notConfigured inside free => simp only [Request.answer, Request.pin, free, if_pos inside]
  | outside outside =>
    rw [level_eq_none_of_capacity_le table outside]
    cases request with
    | configure pin => exact (if_neg (Nat.not_lt.mpr outside)).symm
    | set pin level =>
      have houtside : ¬ pin.index < capacity := Nat.not_lt.mpr outside
      simp only [Request.answer, Request.pin, if_neg houtside]

/-- A request that is refused leaves both words as they were. -/
theorem Does.eq_of_error {error : PinError} (rule : table.Does request (.error error) next) :
    next = table := by
  cases rule with
  | notConfigured inside free => rfl
  | outside outside => rfl

end

/-- What a request makes of the levels. -/
theorem level_apply (table : LineTable) (request : Request) (other : Pin) :
    (table.apply request).2.level other
      = if other = request.pin then request.levelAfter (table.level other)
        else table.level other := (table.apply_does request).level_eq other

/-! ## Asserted lines are configured -/

/-- Only lines that are configured are asserted. -/
def Nested (table : LineTable) : Prop :=
  ∀ n, table.asserted.getLsbD n = true → table.configured.getLsbD n = true

theorem Nested.empty : LineTable.empty.Nested := by
  intro n h
  simp [LineTable.empty] at h

/-- Configuring asserts no line. -/
theorem Nested.of_configure {table next : LineTable} {pin : Pin} (h : table.Nested)
    (configured : table.configure pin = .ok next) : next.Nested := by
  unfold configure at configured
  split at configured
  case isFalse => cases configured
  case isTrue =>
    obtain rfl := Except.ok.inj configured
    intro n hn
    simp only [BitVec.getLsbD_and, BitVec.getLsbD_or, Bool.and_eq_true] at hn ⊢
    rw [h n hn.1, Bool.true_or]

/-- Setting asserts a line that is configured, if any. -/
theorem Nested.of_set {table next : LineTable} {pin : Pin} {level : Level} {changed : Bool}
    (h : table.Nested) (set : table.set pin level = .ok (changed, next)) : next.Nested := by
  have hconfigured := isConfigured_of_set set
  have hnext : next = { table with asserted := table.assertedAfter pin level } := by
    rw [LineTable.set, if_pos (index_lt_of_isConfigured hconfigured), if_pos hconfigured] at set
    exact (Prod.mk.inj (Except.ok.inj set)).2.symm
  subst hnext
  intro n hn
  cases level with
  | deasserted =>
    simp only [assertedAfter, BitVec.getLsbD_and, Bool.and_eq_true] at hn
    exact h n hn.1
  | asserted =>
    simp only [assertedAfter, BitVec.getLsbD_or, getLsbD_bit, Bool.or_eq_true, Bool.and_eq_true,
      decide_eq_true_eq] at hn
    rcases hn with hn | ⟨-, rfl⟩
    · exact h n hn
    · exact hconfigured

/-- No request asserts a line that is not configured. -/
theorem Nested.apply {table : LineTable} (h : table.Nested) (request : Request) :
    (table.apply request).2.Nested := by
  have rule := table.apply_does request
  generalize table.apply request = outcome at rule ⊢
  obtain ⟨answer, next⟩ := outcome
  cases rule with
  | configured inside configured => exact h.of_configure configured
  | set hlevel set => exact h.of_set set
  | notConfigured inside free => exact h
  | outside outside => exact h

/-- No run of requests asserts a line that is not configured. -/
theorem Nested.after {table : LineTable} (h : table.Nested) (requests : List Request) :
    (table.after requests).Nested := by
  induction requests generalizing table with
  | nil => exact h
  | cons request rest ih => exact ih (h.apply request)

end LineTable

/-! ## The map -/

/-- The levels of the lines that are configured. -/
abbrev LineMap := Finmap fun _ : Pin => Level

namespace LineMap

/-- What a request makes of a map: configuring puts a pin of the table in it, and setting replaces
the level of a pin that is in it. -/
def apply (map : LineMap) : LineTable.Request → LineMap
  | .configure pin =>
    if pin.index < LineTable.capacity then map.insert pin .deasserted else map
  | .set pin level => if pin ∈ map then map.insert pin level else map

/-- The map that some requests build, in their order. -/
def after (map : LineMap) (requests : List LineTable.Request) : LineMap :=
  requests.foldl apply map

/-- A request changes the level of its own pin, and that of no other. -/
theorem lookup_apply (map : LineMap) (request : LineTable.Request) (other : Pin) :
    (map.apply request).lookup other
      = if other = request.pin then request.levelAfter (map.lookup other)
        else map.lookup other := by
  by_cases heq : other = request.pin
  · subst heq
    rw [if_pos rfl]
    cases request with
    | configure pin =>
      simp only [apply, LineTable.Request.pin, LineTable.Request.levelAfter]
      split
      · exact Finmap.lookup_insert map
      · rfl
    | set pin level =>
      simp only [apply, LineTable.Request.pin, LineTable.Request.levelAfter]
      by_cases hmem : pin ∈ map
      · obtain ⟨before, hbefore⟩ := Finmap.mem_iff.mp hmem
        rw [if_pos hmem, Finmap.lookup_insert, hbefore, Option.map_some]
      · rw [if_neg hmem, Finmap.lookup_eq_none.mpr hmem, Option.map_none]
  · rw [if_neg heq]
    cases request with
    | configure pin | set pin level =>
      simp only [apply]
      split
      · exact Finmap.lookup_insert_of_ne map heq
      · rfl

end LineMap

namespace LineTable

/-- What it takes for a table to hold a map. -/
structure Holds (table : LineTable) (map : LineMap) : Prop where
  /-- The map has pins below the capacity only. -/
  inside : ∀ pin ∈ map, pin.index < capacity
  /-- Only lines that are configured are asserted. -/
  nested : table.Nested
  /-- Each pin has the level that the map has for it. -/
  level_eq : ∀ pin, table.level pin = map.lookup pin
  /-- The pins of the map are the ones that are configured. -/
  isConfigured_iff : ∀ pin, table.isConfigured pin = true ↔ pin ∈ map

/-- A table whose lines have the levels of a map holds that map. -/
theorem Nested.holds {table : LineTable} {map : LineMap} (h : table.Nested)
    (level_eq : ∀ pin, table.level pin = map.lookup pin) : table.Holds map := by
  have hconfigured : ∀ pin, table.isConfigured pin = true ↔ pin ∈ map := by
    intro pin
    rw [← isSome_level, level_eq, Finmap.lookup_isSome]
  exact ⟨fun pin hmem => index_lt_of_isConfigured ((hconfigured pin).mpr hmem), h, level_eq,
    hconfigured⟩

/-- At first a table holds the empty map. -/
theorem Holds.empty : LineTable.empty.Holds ∅ :=
  Nested.empty.holds fun pin => by rw [level_empty, Finmap.lookup_empty]

/-- A table and its map answer a request alike. -/
theorem Holds.apply {table : LineTable} {map : LineMap} (h : table.Holds map) (request : Request) :
    (table.apply request).2.Holds (map.apply request) :=
  (h.nested.apply request).holds fun pin => by
    rw [level_apply, LineMap.lookup_apply, h.level_eq]

/-- A table holds the map that its requests build. -/
theorem Holds.after {table : LineTable} {map : LineMap} (h : table.Holds map)
    (requests : List Request) : (table.after requests).Holds (map.after requests) := by
  induction requests generalizing table map with
  | nil => exact h
  | cons request rest ih => exact ih (h.apply request)

/-- What a table that holds a map does when it is asked something. -/
structure AnswersAs (table : LineTable) (map : LineMap) : Prop where
  /-- Configuring finds no pin past the capacity. -/
  configure_outside_iff : ∀ pin,
    table.configure pin = .error (.noSuchPin pin.index) ↔ capacity ≤ pin.index
  /-- It succeeds on all the other ones. -/
  configure_ok_iff : ∀ pin, (∃ next, table.configure pin = .ok next) ↔ pin.index < capacity
  /-- Setting finds no pin past the capacity. -/
  set_outside_iff : ∀ pin level,
    table.set pin level = .error (.noSuchPin pin.index) ↔ capacity ≤ pin.index
  /-- It finds the pins below the capacity not configured that are not in the map. -/
  set_unconfigured_iff : ∀ pin level,
    table.set pin level = .error (.notConfigured pin) ↔ pin.index < capacity ∧ pin ∉ map
  /-- It succeeds on the pins of the map, and tells whether the map has another level for them
  after. -/
  set_ok : ∀ pin level, pin ∈ map → ∃ changed next, table.set pin level = .ok (changed, next) ∧
    (changed = true ↔ (map.apply (.set pin level)).lookup pin ≠ map.lookup pin)
  /-- A request that is refused leaves both words as they were. -/
  refused : ∀ request error, (table.apply request).1 = .error error →
    (table.apply request).2 = table
  /-- No request changes the entry of another pin. -/
  others : ∀ request other, other ≠ request.pin →
    (table.apply request).2.level other = table.level other

/-- A table answers as the map that it holds tells. -/
theorem Holds.answersAs {table : LineTable} {map : LineMap} (h : table.Holds map) :
    table.AnswersAs map where
  configure_outside_iff pin := by
    rw [configure_eq_error_iff]
    exact and_iff_left rfl
  configure_ok_iff := table.exists_configure_iff
  set_outside_iff := table.set_outside_iff
  set_unconfigured_iff pin level := by
    rw [table.set_unconfigured_iff, h.level_eq, Finmap.lookup_eq_none]
  set_ok pin level hmem := by
    obtain ⟨before, hbefore⟩ := Finmap.mem_iff.mp hmem
    obtain ⟨next, hset⟩ := set_of_level (h.level_eq pin ▸ hbefore) level
    refine ⟨_, next, hset, ?_⟩
    have hafter : (map.apply (.set pin level)).lookup pin = some level := by
      rw [LineMap.apply, if_pos hmem, Finmap.lookup_insert]
    rw [hafter, hbefore, bne_iff_ne, ne_comm, ne_eq, ne_eq, Option.some.injEq]
  refused request error hrefused := (hrefused ▸ table.apply_does request).eq_of_error
  others request other hne := by rw [level_apply, if_neg hne]

/-- Whatever is asked of a table, it holds the map that the same requests build, and answers as that
map tells. -/
theorem tables_hold_maps (requests : List Request) :
    (empty.after requests).Holds (LineMap.after ∅ requests) ∧
      (empty.after requests).AnswersAs (LineMap.after ∅ requests) :=
  have hholds := Holds.empty.after requests
  ⟨hholds, hholds.answersAs⟩

end LineTable

end PilotLamp
