import Mathlib.Data.List.Nodup
import PilotLamp.TomlText

/-!
# Keys of a document

A table of a document that was read has no key twice, at any depth: what is under construction has
none at the start, and each way to add to it keeps that. So it makes no difference in which order
the entries of a table are looked at. Which texts are documents is out of scope.
-/

namespace PilotLamp

/-- Entries with no key twice. -/
def DistinctKeys {α : Type} (entries : List (String × α)) : Prop := (entries.map Prod.fst).Nodup

/-- An entry under a new key can be added. -/
theorem DistinctKeys.concat {α : Type} {entries : List (String × α)} {key : String} {item : α}
    (h : DistinctKeys entries) (habsent : entries.lookup key = none) :
    DistinctKeys (entries ++ [(key, item)]) := by
  have hnew : key ∉ entries.map Prod.fst := by
    rw [List.lookup_eq_none_iff] at habsent
    intro hmem
    obtain ⟨entry, hentry, rfl⟩ := List.mem_map.1 hmem
    simpa using habsent entry hentry
  rw [DistinctKeys, List.map_append, List.nodup_append]
  refine ⟨h, List.nodup_singleton key, ?_⟩
  intro other hother same hsame heq
  rw [List.map_singleton, List.mem_singleton] at hsame
  rw [heq, hsame] at hother
  exact hnew hother

/-! ## Finished values -/

namespace Value

/-- Whether a value holds no other values. -/
def isScalar : Value → Bool
  | array _ | table _ => false
  | _ => true

/-- Whether a value is a table. -/
def isTable : Value → Bool
  | table _ => true
  | _ => false

theorem isTable_iff {value : Value} : value.isTable = true ↔ ∃ entries, value = .table entries := by
  cases value <;> simp [isTable]

/-- Only tables hold something. -/
theorem isTable_of_get? {value inner : Value} {key : String} (h : value.get? key = some inner) :
    value.isTable = true := by
  cases value with
  | table entries => rfl
  | _ => simp [get?] at h

/-- The values in which no table has a key twice, at any depth. -/
inductive WellKeyed : Value → Prop
  /-- A scalar has no keys. -/
  | scalar {value : Value} (hscalar : value.isScalar = true) : WellKeyed value
  /-- An array has none of its own. -/
  | array {items : List Value} (hitems : ∀ item ∈ items, WellKeyed item) : WellKeyed (.array items)
  /-- A table has each of its keys once. -/
  | table {entries : List (String × Value)} (hkeys : DistinctKeys entries)
    (hvalues : ∀ entry ∈ entries, WellKeyed entry.2) : WellKeyed (.table entries)

/-- A table has distinct keys. -/
theorem WellKeyed.distinctKeys {entries : List (String × Value)}
    (h : (Value.table entries).WellKeyed) : DistinctKeys entries := by
  cases h with
  | scalar hscalar => simp [isScalar] at hscalar
  | table hkeys _ => exact hkeys

/-- What stands in a table is as good as the table. -/
theorem WellKeyed.get? {value inner : Value} {key : String} (h : value.WellKeyed)
    (hinner : value.get? key = some inner) : inner.WellKeyed := by
  cases h with
  | scalar hscalar => cases value <;> simp_all [isScalar, Value.get?]
  | array _ => simp [Value.get?] at hinner
  | table _ hvalues =>
    obtain ⟨before, after, rfl, _⟩ := List.lookup_eq_some_iff.1 hinner
    exact hvalues (key, inner) (by simp)

end Value

/-! ## Tables under construction -/

/-- The items in which no table has a key twice, at any depth. -/
inductive TomlItem.WellKeyed : TomlItem → Prop
  /-- A finished value. -/
  | leaf {value : Value} (hvalue : value.WellKeyed) : WellKeyed (.leaf value)
  /-- A table has each of its keys once. -/
  | table {origin : TableOrigin} {entries : TomlEntries} (hkeys : DistinctKeys entries)
    (hitems : ∀ entry ∈ entries, WellKeyed entry.2) : WellKeyed (.table origin entries)
  /-- So has each of several tables. -/
  | tables {elements : List TomlEntries} (hkeys : ∀ entries ∈ elements, DistinctKeys entries)
    (hitems : ∀ entries ∈ elements, ∀ entry ∈ entries, WellKeyed entry.2) :
    WellKeyed (.tables elements)

namespace TomlItem

theorem entryValues_eq_map (entries : TomlEntries) :
    entryValues entries = entries.map fun entry => (entry.1, entry.2.toValue) := by
  induction entries with
  | nil => rfl
  | cons entry rest ih => rw [entryValues, ih, List.map_cons]

theorem elementValues_eq_map (elements : List TomlEntries) :
    elementValues elements = elements.map fun entries => .table (entryValues entries) := by
  induction elements with
  | nil => rfl
  | cons entries rest ih => rw [elementValues, ih, List.map_cons]

theorem distinctKeys_entryValues {entries : TomlEntries} (h : DistinctKeys entries) :
    DistinctKeys (entryValues entries) := by
  rw [DistinctKeys, entryValues_eq_map, List.map_map]
  exact h

/-- Entries amount to a well keyed table if their own values are well keyed. -/
theorem wellKeyed_table_entryValues {entries : TomlEntries} (hkeys : DistinctKeys entries)
    (hvalues : ∀ entry ∈ entries, entry.2.toValue.WellKeyed) :
    (Value.table (entryValues entries)).WellKeyed := by
  refine .table (distinctKeys_entryValues hkeys) fun entry hentry => ?_
  rw [entryValues_eq_map] at hentry
  obtain ⟨source, hsource, rfl⟩ := List.mem_map.1 hentry
  exact hvalues source hsource

/-- What an item amounts to is as good as the item. -/
theorem WellKeyed.toValue {item : TomlItem} (h : item.WellKeyed) : item.toValue.WellKeyed := by
  induction h with
  | leaf hvalue =>
    rw [TomlItem.toValue]
    exact hvalue
  | table hkeys _ ih =>
    rw [TomlItem.toValue]
    exact wellKeyed_table_entryValues hkeys ih
  | tables hkeys _ ih =>
    rw [TomlItem.toValue, elementValues_eq_map]
    refine .array fun value hvalue => ?_
    obtain ⟨entries, hentries, rfl⟩ := List.mem_map.1 hvalue
    exact wellKeyed_table_entryValues (hkeys entries hentries) (ih entries hentries)

end TomlItem

namespace TomlEntries

/-- Entries of a table in which, at any depth, no key stands twice. -/
structure WellKeyed (entries : TomlEntries) : Prop where
  /-- No key stands twice. -/
  distinctKeys : DistinctKeys entries
  /-- Nor does one inside of an entry. -/
  items : ∀ entry ∈ entries, entry.2.WellKeyed

theorem wellKeyed_nil : WellKeyed [] := ⟨List.nodup_nil, by simp⟩

theorem WellKeyed.table {entries : TomlEntries} (h : entries.WellKeyed) (origin : TableOrigin) :
    (TomlItem.table origin entries).WellKeyed := .table h.distinctKeys h.items

theorem WellKeyed.of_table {origin : TableOrigin} {entries : TomlEntries}
    (h : (TomlItem.table origin entries).WellKeyed) : entries.WellKeyed := by
  cases h with
  | table hkeys hitems => exact ⟨hkeys, hitems⟩

theorem WellKeyed.of_tables {elements : List TomlEntries}
    (h : (TomlItem.tables elements).WellKeyed) : ∀ entries ∈ elements, entries.WellKeyed := by
  cases h with
  | tables hkeys hitems =>
    exact fun entries hentries => ⟨hkeys entries hentries, hitems entries hentries⟩

/-- Several tables are well keyed if the newest and those before it are. -/
theorem WellKeyed.tables {older : List TomlEntries} {newest : TomlEntries}
    (holder : ∀ entries ∈ older, entries.WellKeyed) (hnewest : newest.WellKeyed) :
    (TomlItem.tables (older ++ [newest])).WellKeyed := by
  have hall : ∀ entries ∈ older ++ [newest], entries.WellKeyed := by
    intro entries hentries
    rcases List.mem_append.1 hentries with hold | hnew
    · exact holder entries hold
    · rw [List.mem_singleton] at hnew
      exact hnew ▸ hnewest
  exact .tables (fun entries hentries => (hall entries hentries).distinctKeys)
    fun entries hentries => (hall entries hentries).items

/-- What entries amount to. -/
theorem WellKeyed.toValue {entries : TomlEntries} (h : entries.WellKeyed) :
    (Value.table (TomlItem.entryValues entries)).WellKeyed :=
  TomlItem.wellKeyed_table_entryValues h.distinctKeys fun entry hentry =>
    (h.items entry hentry).toValue

theorem WellKeyed.of_lookup {entries : TomlEntries} {key : String} {item : TomlItem}
    (h : entries.WellKeyed) (hitem : entries.lookup key = some item) : item.WellKeyed := by
  obtain ⟨before, after, rfl, _⟩ := List.lookup_eq_some_iff.1 hitem
  exact h.items (key, item) (by simp)

/-- An item under a new key can be added. -/
theorem WellKeyed.concat {entries : TomlEntries} {key : String} {item : TomlItem}
    (h : entries.WellKeyed) (habsent : entries.lookup key = none) (hitem : item.WellKeyed) :
    WellKeyed (entries ++ [(key, item)]) where
  distinctKeys := h.distinctKeys.concat habsent
  items entry hentry := by
    rcases List.mem_append.1 hentry with hold | hnew
    · exact h.items entry hold
    · rw [List.mem_singleton] at hnew
      exact hnew ▸ hitem

theorem keys_replace (key : String) (item : TomlItem) (entries : TomlEntries) :
    (replace key item entries).map Prod.fst = entries.map Prod.fst := by
  induction entries with
  | nil => rfl
  | cons entry rest ih =>
    rw [replace]
    split
    case isTrue h => simp [h]
    case isFalse => simp [ih]

theorem mem_replace {key : String} {item : TomlItem} {entries : TomlEntries}
    {entry : String × TomlItem} (h : entry ∈ replace key item entries) :
    entry = (key, item) ∨ entry ∈ entries := by
  induction entries with
  | nil => simp [replace] at h
  | cons first rest ih =>
    rw [replace] at h
    split at h
    case isTrue =>
      rcases List.mem_cons.1 h with rfl | hrest
      · exact .inl rfl
      · exact .inr (List.mem_cons_of_mem _ hrest)
    case isFalse =>
      rcases List.mem_cons.1 h with rfl | hrest
      · exact .inr List.mem_cons_self
      · exact (ih hrest).imp_right (List.mem_cons_of_mem _)

/-- An item can be put in place of another. -/
theorem WellKeyed.replace {entries : TomlEntries} {item : TomlItem} (h : entries.WellKeyed)
    (hitem : item.WellKeyed) (key : String) : WellKeyed (entries.replace key item) where
  distinctKeys := by
    rw [DistinctKeys, keys_replace]
    exact h.distinctKeys
  items entry hentry := by
    rcases mem_replace hentry with rfl | hold
    · exact hitem
    · exact h.items entry hold

/-- Edits that give no key to a table twice. -/
def KeepsKeys (edit : TableOrigin → TomlEntries → Option TomlEntries) : Prop :=
  ∀ origin entries next, WellKeyed entries → edit origin entries = some next → WellKeyed next

/-- An edit can be made at the end of a path. -/
theorem KeepsKeys.editAt {edit : TableOrigin → TomlEntries → Option TomlEntries}
    (hedit : KeepsKeys edit) (byDottedKey : Bool) (path : List String) :
    KeepsKeys (TomlEntries.editAt byDottedKey edit path) := by
  induction path with
  | nil => exact hedit
  | cons key rest ih =>
    intro origin entries next h hnext
    rw [TomlEntries.editAt] at hnext
    split at hnext
    next habsent =>
      -- The key is new: a table is made for the rest of the path.
      obtain ⟨inner, hinner, rfl⟩ := Option.map_eq_some_iff.1 hnext
      exact h.concat habsent ((ih _ _ _ wellKeyed_nil hinner).table _)
    next itsOrigin inner hitem =>
      -- A table under the key is entered.
      split at hnext
      case isTrue => simp at hnext
      case isFalse =>
        obtain ⟨edited, hedited, rfl⟩ := Option.map_eq_some_iff.1 hnext
        have hinner := WellKeyed.of_table (h.of_lookup hitem)
        exact h.replace ((ih _ _ _ hinner hedited).table _) key
    next elements hitem =>
      -- The newest of several tables is entered.
      have helements := WellKeyed.of_tables (h.of_lookup hitem)
      split at hnext
      · simp at hnext
      next newest hnewest =>
        obtain ⟨edited, hedited, rfl⟩ := Option.map_eq_some_iff.1 hnext
        have hedited := ih _ _ _ (helements newest (List.mem_of_getLast? hnewest)) hedited
        have holder : ∀ entries ∈ elements.dropLast, WellKeyed entries := fun entries hentries =>
          helements entries (List.dropLast_subset elements hentries)
        exact h.replace (WellKeyed.tables holder hedited) key
    next => simp at hnext

theorem keepsKeys_addValue (byDottedKey : Bool) (key : String) {value : Value}
    (hvalue : value.WellKeyed) : KeepsKeys (addValue byDottedKey key value) := by
  intro origin entries next h hnext
  rw [addValue] at hnext
  split at hnext
  · simp at hnext
  split at hnext
  · simp at hnext
  next habsent =>
    rw [← Option.some.inj hnext]
    exact h.concat (Option.not_isSome_iff_eq_none.1 habsent) (.leaf hvalue)

theorem keepsKeys_assign (path : List String) (key : String) {value : Value}
    (hvalue : value.WellKeyed) : KeepsKeys (assign path key value) :=
  (keepsKeys_addValue _ key hvalue).editAt true path

theorem WellKeyed.openTable {entries next : TomlEntries} {path : List String} {key : String}
    (h : entries.WellKeyed) (hnext : entries.openTable path key = some next) : next.WellKeyed := by
  refine KeepsKeys.editAt ?_ false path _ _ _ h hnext
  intro origin inner next hinner hnext
  dsimp only at hnext
  split at hnext
  next habsent =>
    rw [← Option.some.inj hnext]
    exact hinner.concat habsent (wellKeyed_nil.table _)
  next old hold =>
    rw [← Option.some.inj hnext]
    have hsame := WellKeyed.of_table (hinner.of_lookup hold)
    exact hinner.replace (hsame.table _) key
  next => simp at hnext

theorem WellKeyed.appendTable {entries next : TomlEntries} {path : List String} {key : String}
    (h : entries.WellKeyed) (hnext : entries.appendTable path key = some next) :
    next.WellKeyed := by
  refine KeepsKeys.editAt ?_ false path _ _ _ h hnext
  intro origin inner next hinner hnext
  dsimp only at hnext
  split at hnext
  next habsent =>
    rw [← Option.some.inj hnext]
    have hfirst : (TomlItem.tables ([] ++ [[]])).WellKeyed :=
      WellKeyed.tables (by simp) wellKeyed_nil
    exact hinner.concat habsent hfirst
  next elements hold =>
    rw [← Option.some.inj hnext]
    have helements := WellKeyed.of_tables (hinner.of_lookup hold)
    exact hinner.replace (WellKeyed.tables helements wellKeyed_nil) key
  next => simp at hnext

end TomlEntries

/-! ## Scalars without quotes -/

namespace BareScalar

theorem isScalar_integer (base : Nat) (negative : Bool) (digits : List Char) :
    (integer base negative digits).isScalar = true := by
  rw [integer]
  cases magnitude? base digits with
  | none => rfl
  | some magnitude =>
    dsimp only
    generalize (if negative then -(magnitude : Int) else magnitude) = number
    cases IntegerBounds.isWide number <;> rfl

theorem isScalar_float (sign : Option Bool) (digits : List Char) (exponent : Int) :
    (float sign digits exponent).isScalar = true := by
  rw [float]
  split <;> rfl

theorem isScalar_of_basedInteger? {base : Nat} {text : List Char} {value : Value}
    (h : basedInteger? base text = some value) : value.isScalar = true := by
  rw [basedInteger?] at h
  split at h
  · exact Option.some.inj h ▸ isScalar_integer ..
  · simp at h

theorem isScalar_of_decimalInteger? {sign : Option Bool} {text : List Char} {value : Value}
    (h : decimalInteger? sign text = some value) : value.isScalar = true := by
  rw [decimalInteger?.eq_def] at h
  split at h
  · simp at h
  split at h
  · exact Option.some.inj h ▸ isScalar_integer ..
  · simp at h

theorem isScalar_of_float? {sign : Option Bool} {text : List Char} {value : Value}
    (h : float? sign text = some value) : value.isScalar = true := by
  rw [float?] at h
  split at h
  case isFalse => simp at h
  split at h
  · simp at h
  split at h
  · simp at h
  split at h
  · simp only [Option.bind_eq_bind, Option.bind_eq_some_iff] at h
    obtain ⟨_, _, _, _, h⟩ := h
    exact Option.some.inj h ▸ isScalar_float ..
  · obtain ⟨exponent, _, rfl⟩ := Option.map_eq_some_iff.1 h
    exact isScalar_float ..

theorem isScalar_of_decimal? {sign : Option Bool} {text : List Char} {value : Value}
    (h : decimal? sign text = some value) : value.isScalar = true := by
  rw [decimal?] at h
  split at h
  · exact isScalar_of_float? h
  split at h
  · exact isScalar_of_decimalInteger? h
  · exact isScalar_of_decimalInteger? h
  · simp at h

theorem isScalar_of_number? {sign : Option Bool} {text : List Char} {value : Value}
    (h : number? sign text = some value) : value.isScalar = true := by
  rw [number?.eq_def] at h
  split at h
  · split at h
    · exact Option.some.inj h ▸ rfl
    · simp at h
  · split at h
    · exact Option.some.inj h ▸ rfl
    · simp at h
  · split at h
    · exact isScalar_of_basedInteger? h
    · simp at h
    · exact isScalar_of_decimal? h
  · split at h
    · exact isScalar_of_decimal? h
    · simp at h
  · simp at h

/-- Without quotes and brackets there are only scalars. -/
theorem isScalar_of_read? {text : List Char} {value : Value} (h : read? text = some value) :
    value.isScalar = true := by
  rw [read?] at h
  split at h
  · exact Option.some.inj h ▸ rfl
  split at h
  · exact Option.some.inj h ▸ rfl
  split at h
  · exact Option.some.inj h ▸ rfl
  · exact isScalar_of_number? h

end BareScalar

/-! ## Reading -/

namespace TomlText

/-- With so much fuel, whatever is read of a text has no table with a key twice. -/
structure ReadsWellKeyed (fuel : Nat) : Prop where
  /-- A value. -/
  value : ∀ depth text read rest, value? fuel depth text = some (read, rest) → read.WellKeyed
  /-- The items of an array, if the items before them are well keyed. -/
  items : ∀ depth before text read rest, (∀ item ∈ before, item.WellKeyed) →
    items? fuel depth before text = some (read, rest) → read.WellKeyed
  /-- The entries of a table, if the entries before them are well keyed. -/
  entries : ∀ depth before text read rest, TomlEntries.WellKeyed before →
    entries? fuel depth before text = some (read, rest) → read.WellKeyed

variable {fuel : Nat}

/-- A string is a scalar, in whatever quotes it was read. -/
theorem wellKeyed_of_string {source : Option (String × List Char)} {read : Value}
    {rest : List Char}
    (h : (source.map fun (text, rest) => (Value.string text, rest)) = some (read, rest)) :
    read.WellKeyed := by
  obtain ⟨_, _, hread⟩ := Option.map_eq_some_iff.1 h
  exact (Prod.mk.inj hread).1 ▸ .scalar rfl

theorem ReadsWellKeyed.value_succ (h : ReadsWellKeyed fuel) {depth : Nat} {text : List Char}
    {read : Value} {rest : List Char} (hread : value? (fuel + 1) depth text = some (read, rest)) :
    read.WellKeyed := by
  rw [value?.eq_def] at hread
  dsimp only at hread
  split at hread
  · exact wellKeyed_of_string hread
  · exact wellKeyed_of_string hread
  · exact wellKeyed_of_string hread
  · exact wellKeyed_of_string hread
  · split at hread
    · simp at hread
    · exact h.items _ _ _ _ _ (by simp) hread
  · split at hread
    · simp at hread
    · exact h.entries _ _ _ _ _ TomlEntries.wellKeyed_nil hread
  · obtain ⟨scalar, hscalar, hpair⟩ := Option.map_eq_some_iff.1 hread
    exact (Prod.mk.inj hpair).1 ▸ .scalar (BareScalar.isScalar_of_read? hscalar)

theorem ReadsWellKeyed.items_succ (h : ReadsWellKeyed fuel) {depth : Nat} {before : List Value}
    {text : List Char} {read : Value} {rest : List Char} (hbefore : ∀ item ∈ before, item.WellKeyed)
    (hread : items? (fuel + 1) depth before text = some (read, rest)) : read.WellKeyed := by
  have closed : ∀ items : List Value, (∀ item ∈ items, item.WellKeyed) →
      (Value.array items.reverse).WellKeyed := fun items hitems =>
    .array fun item hitem => hitems item (List.mem_reverse.1 hitem)
  rw [items?.eq_def] at hread
  dsimp only at hread
  split at hread
  · rw [Option.some.injEq, Prod.mk.injEq] at hread
    exact hread.1 ▸ closed before hbefore
  · simp only [Option.bind_eq_bind, Option.bind_eq_some_iff] at hread
    obtain ⟨⟨item, after⟩, hitem, hread⟩ := hread
    have hitems : ∀ other ∈ item :: before, other.WellKeyed :=
      List.forall_mem_cons.2 ⟨h.value _ _ _ _ hitem, hbefore⟩
    dsimp only at hread
    split at hread
    · exact h.items _ _ _ _ _ hitems hread
    · rw [Option.some.injEq, Prod.mk.injEq] at hread
      exact hread.1 ▸ closed _ hitems
    · simp at hread

theorem ReadsWellKeyed.entries_succ (h : ReadsWellKeyed fuel) {depth : Nat}
    {before : TomlEntries} {text : List Char} {read : Value} {rest : List Char}
    (hbefore : before.WellKeyed)
    (hread : entries? (fuel + 1) depth before text = some (read, rest)) : read.WellKeyed := by
  rw [entries?.eq_def] at hread
  dsimp only at hread
  split at hread
  · rw [Option.some.injEq, Prod.mk.injEq] at hread
    exact hread.1 ▸ hbefore.toValue
  · simp only [Option.bind_eq_bind, Option.bind_eq_some_iff] at hread
    obtain ⟨⟨⟨path, key⟩, after⟩, _, hread⟩ := hread
    dsimp only at hread
    split at hread
    case h_2 => simp at hread
    simp only [Option.bind_eq_some_iff] at hread
    obtain ⟨⟨value, after⟩, hvalue, next, hnext, hread⟩ := hread
    have hnext := TomlEntries.keepsKeys_assign path key (h.value _ _ _ _ hvalue) _ _ _ hbefore hnext
    dsimp only at hread
    split at hread
    · exact h.entries _ _ _ _ _ hnext hread
    · rw [Option.some.injEq, Prod.mk.injEq] at hread
      exact hread.1 ▸ hnext.toValue
    · simp at hread

/-- Whatever is read has no table with a key twice. The readers of values, items and entries call
one another with less fuel, so the induction is on the fuel and about all three. -/
theorem readsWellKeyed (fuel : Nat) : ReadsWellKeyed fuel := by
  induction fuel with
  | zero =>
    constructor
    · simp [value?]
    · simp [items?]
    · simp [entries?]
  | succ fuel ih =>
    constructor
    · exact fun _ _ _ _ => ih.value_succ
    · exact fun _ _ _ _ _ => ih.items_succ
    · exact fun _ _ _ _ _ => ih.entries_succ

theorem header?_wellKeyed {draft next : Draft} {text rest : List Char}
    (h : draft.entries.WellKeyed) (hnext : header? draft text = some (next, rest)) :
    next.entries.WellKeyed := by
  rw [header?.eq_def] at hnext
  split at hnext
  · simp only [Option.bind_eq_bind, Option.bind_eq_some_iff] at hnext
    obtain ⟨⟨⟨path, key⟩, after⟩, _, hnext⟩ := hnext
    dsimp only at hnext
    split at hnext
    · simp only [Option.bind_eq_some_iff, Option.some.injEq, Prod.mk.injEq] at hnext
      obtain ⟨entries, hentries, rfl, _⟩ := hnext
      exact h.appendTable hentries
    · simp at hnext
  · simp only [Option.bind_eq_bind, Option.bind_eq_some_iff] at hnext
    obtain ⟨⟨⟨path, key⟩, after⟩, _, hnext⟩ := hnext
    dsimp only at hnext
    split at hnext
    · simp only [Option.bind_eq_some_iff, Option.some.injEq, Prod.mk.injEq] at hnext
      obtain ⟨entries, hentries, rfl, _⟩ := hnext
      exact h.openTable hentries
    · simp at hnext

theorem assignment?_wellKeyed {draft next : Draft} {text rest : List Char}
    (h : draft.entries.WellKeyed) (hnext : assignment? draft text = some (next, rest)) :
    next.entries.WellKeyed := by
  rw [assignment?] at hnext
  simp only [Option.bind_eq_bind, Option.bind_eq_some_iff] at hnext
  obtain ⟨⟨⟨path, key⟩, after⟩, _, hnext⟩ := hnext
  dsimp only at hnext
  split at hnext
  · simp only [Option.bind_eq_some_iff, Option.some.injEq, Prod.mk.injEq] at hnext
    obtain ⟨⟨value, after⟩, hvalue, entries, hentries, rfl, _⟩ := hnext
    have hkeeps := TomlEntries.keepsKeys_assign path key ((readsWellKeyed _).value _ _ _ _ hvalue)
    exact hkeeps.editAt false draft.current _ _ _ h hentries
  · simp at hnext

theorem lines?_wellKeyed {fuel : Nat} {draft last : Draft} {text : List Char}
    (h : draft.entries.WellKeyed) (hlast : lines? fuel draft text = some last) :
    last.entries.WellKeyed := by
  induction fuel generalizing draft text with
  | zero => simp [lines?] at hlast
  | succ fuel ih =>
    rw [lines?] at hlast
    split at hlast
    · exact Option.some.inj hlast ▸ h
    · simp only [Option.bind_eq_bind, Option.bind_eq_some_iff] at hlast
      obtain ⟨⟨next, after⟩, hnext, _, _, hlast⟩ := hlast
      exact ih (header?_wellKeyed h hnext) hlast
    · simp only [Option.bind_eq_bind, Option.bind_eq_some_iff] at hlast
      obtain ⟨⟨next, after⟩, hnext, _, _, hlast⟩ := hlast
      exact ih (assignment?_wellKeyed h hnext) hlast

/-- A document is a table, and no table in it has a key twice. -/
theorem read?_wellKeyed {text : String} {document : Value} (h : read? text = some document) :
    document.isTable = true ∧ document.WellKeyed := by
  rw [read?] at h
  obtain ⟨draft, hdraft, rfl⟩ := Option.map_eq_some_iff.1 h
  exact ⟨rfl, (lines?_wellKeyed TomlEntries.wellKeyed_nil hdraft).toValue⟩

end TomlText

end PilotLamp
