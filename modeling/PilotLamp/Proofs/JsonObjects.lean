import PilotLamp.Proofs.DocumentKeys
import PilotLamp.Proofs.JsonReading

/-!
# What a JSON object holds

An object whose keys are distinct has one entry for each of its members, and no other. Among the
values, a natural number that 64 bits hold is written in one way only, blanks apart: as a plain
decimal integer. Objects with a key twice are out of scope.
-/

namespace PilotLamp

/-! ## Entries -/

namespace Value

variable {key other : String} {value : Value} {entries : List (String × Value)}

theorem mem_keys_insertEntry :
    other ∈ (insertEntry key value entries).map Prod.fst
      ↔ other = key ∨ other ∈ entries.map Prod.fst := by
  induction entries with
  | nil => simp [insertEntry]
  | cons entry rest ih =>
    obtain ⟨first, old⟩ := entry
    rw [insertEntry]
    by_cases hkey : first = key
    · simp [hkey]
    · rw [if_neg hkey, List.map_cons, List.mem_cons, ih, List.map_cons, List.mem_cons]
      exact or_left_comm

/-- An entry that is added gives no key to a table twice. -/
theorem distinctKeys_insertEntry (h : DistinctKeys entries) (key : String) (value : Value) :
    DistinctKeys (insertEntry key value entries) := by
  induction entries with
  | nil => exact List.nodup_singleton key
  | cons entry rest ih =>
    obtain ⟨first, old⟩ := entry
    rw [DistinctKeys, List.map_cons, List.nodup_cons] at h
    rw [insertEntry]
    by_cases hkey : first = key
    · rw [if_pos hkey, DistinctKeys, List.map_cons, List.nodup_cons]
      exact ⟨hkey ▸ h.1, h.2⟩
    · rw [if_neg hkey, DistinctKeys, List.map_cons, List.nodup_cons, mem_keys_insertEntry]
      exact ⟨not_or.2 ⟨hkey, h.1⟩, ih h.2⟩

/-- Under a new key an entry is added to those that are there. -/
theorem mem_insertEntry (h : key ∉ entries.map Prod.fst) {entry : String × Value} :
    entry ∈ insertEntry key value entries ↔ entry = (key, value) ∨ entry ∈ entries := by
  induction entries with
  | nil => simp [insertEntry]
  | cons first rest ih =>
    rw [List.map_cons, List.mem_cons, not_or] at h
    rw [insertEntry, if_neg (Ne.symm h.1), List.mem_cons, ih h.2, List.mem_cons]
    exact or_left_comm

end Value

namespace JsonText.Tree

variable {members : List (Member Tree)} {read entries : List (String × Value)}

/-- An object stands for a value if all its members do. -/
theorem exists_memberValues?_iff (read : List (String × Value)) (members : List (Member Tree)) :
    (∃ entries, memberValues? read members = some entries)
      ↔ ∀ member ∈ members, ∃ value, member.value.value? = some value := by
  induction members generalizing read with
  | nil => simp [memberValues?]
  | cons member members ih =>
    rw [memberValues?, List.forall_mem_cons]
    cases member.value.value? with
    | none => simp
    | some value => simp [ih]

theorem distinctKeys_memberValues? (h : DistinctKeys read)
    (hentries : memberValues? read members = some entries) : DistinctKeys entries := by
  induction members generalizing read with
  | nil =>
    rw [memberValues?, Option.some.injEq] at hentries
    exact hentries ▸ h
  | cons member members ih =>
    rw [memberValues?] at hentries
    obtain ⟨value, _, hrest⟩ := Option.bind_eq_some_iff.1 hentries
    exact ih (Value.distinctKeys_insertEntry h _ value) hrest

/-- Members with distinct new keys add one entry each. -/
theorem mem_memberValues? (hnames : (members.map Member.name).Nodup)
    (hnew : ∀ member ∈ members, member.name ∉ read.map Prod.fst)
    (hentries : memberValues? read members = some entries) {entry : String × Value} :
    entry ∈ entries ↔ entry ∈ read
      ∨ ∃ member ∈ members, member.name = entry.1 ∧ member.value.value? = some entry.2 := by
  induction members generalizing read with
  | nil =>
    rw [memberValues?, Option.some.injEq] at hentries
    simp [hentries]
  | cons member members ih =>
    rw [List.map_cons, List.nodup_cons] at hnames
    rw [List.forall_mem_cons] at hnew
    rw [memberValues?] at hentries
    obtain ⟨value, hvalue, hrest⟩ := Option.bind_eq_some_iff.1 hentries
    have hlater : ∀ later ∈ members,
        later.name ∉ (Value.insertEntry member.name value read).map Prod.fst := by
      intro later hmem hkey
      rcases Value.mem_keys_insertEntry.1 hkey with heq | hold
      · exact hnames.1 (heq ▸ List.mem_map_of_mem hmem)
      · exact hnew.2 later hmem hold
    have hfirst : entry = (member.name, value)
        ↔ member.name = entry.1 ∧ member.value.value? = some entry.2 := by
      rw [hvalue, Prod.ext_iff, Option.some.injEq]
      exact and_congr eq_comm eq_comm
    rw [ih hnames.2 hlater hrest, Value.mem_insertEntry hnew.1, hfirst, List.exists_mem_cons_iff]
    tauto

end JsonText.Tree

/-! ## Plain integers -/

namespace JsonText

namespace Number

theorem ofDigitChars_wholeText (literal : Number) :
    Nat.ofDigitChars 10 literal.wholeText 0 = literal.whole := by
  rw [wholeText, Nat.toList_repr]
  exact Nat.ofDigitChars_toDigits (by decide) (by decide)

/-- A plain decimal integer that 64 bits hold stands for itself. -/
theorem value?_plain {n : Nat} (hn : n < IntegerBounds.long) :
    (plain n).value? = some (.integer n) := by
  have hvalue : (plain n).value? = integerOf? false (plain n).wholeText := rfl
  rw [hvalue, integerOf?, ofDigitChars_wholeText]
  exact if_pos hn

/-- No other number stands for a natural one. -/
theorem eq_plain_of_value? {literal : Number} {n : Nat}
    (h : literal.value? = some (.integer n)) : literal = plain n := by
  obtain ⟨negative, whole, fraction, exponent⟩ := literal
  have hfloat : ∀ x? : Option Float, x?.map Value.float ≠ some (.integer n) := by
    intro x? heq
    obtain ⟨x, _, hx⟩ := Option.map_eq_some_iff.1 heq
    exact Value.noConfusion hx
  cases fraction with
  | some fraction => exact absurd h (hfloat _)
  | none =>
    cases exponent with
    | some exponent => exact absurd h (hfloat _)
    | none =>
      change integerOf? negative (Number.wholeText ⟨negative, whole, none, none⟩) = _ at h
      rw [integerOf?, ofDigitChars_wholeText] at h
      cases negative with
      | true =>
        -- What has a minus is negative, or zero as a float.
        simp only [if_true] at h
        split_ifs at h with hsmall
        · rw [Option.some.injEq, Value.integer.injEq] at h
          omega
        · exact absurd h (hfloat _)
      | false =>
        simp only [Bool.false_eq_true, if_false] at h
        split_ifs at h with hsmall
        · rw [Option.some.injEq, Value.integer.injEq, Int.ofNat_inj] at h
          rw [h, plain]
        · exact absurd h (hfloat _)

end Number

namespace Tree

theorem plain?_number_iff {literal : Number} {n : Nat} :
    (number literal).plain? = some n ↔ literal = .plain n := by
  obtain ⟨negative, whole, fraction, exponent⟩ := literal
  cases negative <;> cases fraction <;> cases exponent <;> simp [plain?, Number.plain]

/-- So it is with blanks around it. -/
theorem value?_of_plain? {n : Nat} (hn : n < IntegerBounds.long) :
    (tree : Tree) → tree.plain? = some n → tree.value? = some (.integer n)
  | spaced _ inner _, h => by
    rw [plain?] at h
    rw [value?]
    exact value?_of_plain? hn inner h
  | number literal, h => by
    rw [value?, plain?_number_iff.1 h]
    exact Number.value?_plain hn
  | null, h | boolean _, h | string _, h | array _ _, h | object _ _, h => by simp [plain?] at h

/-- No other text stands for a natural number. -/
theorem plain?_of_value? {n : Nat} :
    (tree : Tree) → tree.value? = some (.integer n) → tree.plain? = some n
  | spaced _ inner _, h => by
    rw [value?] at h
    rw [plain?]
    exact plain?_of_value? inner h
  | number literal, h => by
    rw [value?] at h
    exact plain?_number_iff.2 (Number.eq_plain_of_value? h)
  | null, h | boolean _, h | string _, h | array _ _, h | object _ _, h => by simp [value?] at h

end Tree

end JsonText

end PilotLamp
