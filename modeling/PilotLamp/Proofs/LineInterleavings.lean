import PilotLamp.Proofs.LineMaps

/-!
# Requests to different lines

A table that was asked something has no hidden state: its two words can be told from the levels of
its lines. A request reads and changes the level of its own line alone. So requests to different
lines may be made in either order, and a table depends on what was asked about each line, but not on
how those requests were interleaved. Backends, whose drivers and registers are shared, are out of
scope.
-/

namespace PilotLamp.LineTable

/-! ## No hidden state -/

/-- Tables in which only configured lines are asserted differ in a level if they differ at all. -/
theorem Nested.ext_level {first second : LineTable} (hfirst : first.Nested)
    (hsecond : second.Nested) (h : ∀ pin, first.level pin = second.level pin) :
    first = second := by
  have hconfigured : first.configured = second.configured := by
    refine BitVec.eq_of_getLsbD_eq fun n hn => ?_
    have hsome := congrArg Option.isSome (h (.ofNat n))
    rwa [isSome_level, isSome_level, isConfigured, isConfigured,
      Pin.index_ofNat (by omega)] at hsome
  have hasserted : first.asserted = second.asserted := by
    refine BitVec.eq_of_getLsbD_eq fun n hn => ?_
    cases hline : first.configured.getLsbD n with
    | false =>
      -- A stale bit would hide here: the line has no level, yet the words would differ.
      have hnone : ∀ table : LineTable, table.Nested → table.configured.getLsbD n = false →
          table.asserted.getLsbD n = false := by
        intro table hnested hfree
        by_contra hset
        rw [hnested n (by simpa using hset)] at hfree
        cases hfree
      rw [hnone first hfirst hline, hnone second hsecond (hconfigured ▸ hline)]
    | true =>
      have hlevel := h (.ofNat n)
      simp only [level, isConfigured, Pin.index_ofNat (show n < 256 by omega), ← hconfigured,
        hline, if_true] at hlevel
      have hasserted := congrArg Level.isAsserted (Option.some.inj hlevel)
      rwa [Level.isAsserted_ofBool, Level.isAsserted_ofBool] at hasserted
  cases first
  cases second
  simp_all only

/-! ## Two requests -/

/-- What it takes for the order of two requests not to matter. -/
structure Commutes (table : LineTable) (one other : Request) : Prop where
  /-- Both orders lead to the same table. -/
  table_eq : ((table.apply one).2.apply other).2 = ((table.apply other).2.apply one).2
  /-- The one request is answered the same before and after the other. -/
  one_eq : ((table.apply other).2.apply one).1 = (table.apply one).1
  /-- So is the other one. -/
  other_eq : ((table.apply one).2.apply other).1 = (table.apply other).1

/-- A request is answered the same after one to another line. -/
theorem answer_apply_apply (table : LineTable) {one other : Request} (h : one.pin ≠ other.pin) :
    ((table.apply other).2.apply one).1 = (table.apply one).1 := by
  rw [((table.apply other).2.apply_does one).answer_eq, (table.apply_does one).answer_eq,
    level_apply, if_neg h]

/-- Requests to different lines may be made in either order. -/
theorem Nested.commutes {table : LineTable} (hnested : table.Nested) {one other : Request}
    (h : one.pin ≠ other.pin) : table.Commutes one other where
  table_eq := by
    refine ((hnested.apply one).apply other).ext_level ((hnested.apply other).apply one)
      fun pin => ?_
    simp only [level_apply]
    by_cases hone : pin = one.pin
    · have hother : pin ≠ other.pin := hone ▸ h
      simp only [if_pos hone, if_neg hother]
    · simp only [if_neg hone]
  one_eq := table.answer_apply_apply h
  other_eq := table.answer_apply_apply h.symm

/-! ## Interleavings -/

/-- The requests about one pin, in their order. -/
def about (pin : Pin) (requests : List Request) : List Request :=
  requests.filter fun request => decide (request.pin = pin)

/-- The level of a line comes from the requests about it alone. -/
theorem level_after (table : LineTable) (requests : List Request) (pin : Pin) :
    (table.after requests).level pin
      = (about pin requests).foldl Request.levelAfter (table.level pin) := by
  induction requests generalizing table with
  | nil => rfl
  | cons request rest ih =>
    have hrest := ih (table.apply request).2
    rw [level_apply] at hrest
    by_cases hpin : request.pin = pin
    · have habout : about pin (request :: rest) = request :: about pin rest :=
        List.filter_cons_of_pos (decide_eq_true hpin)
      rw [if_pos hpin.symm] at hrest
      rw [habout, List.foldl_cons]
      exact hrest
    · have habout : about pin (request :: rest) = about pin rest :=
        List.filter_cons_of_neg (by simpa using hpin)
      rw [if_neg (Ne.symm hpin)] at hrest
      rw [habout]
      exact hrest

/-- Tables that were asked something are told apart by their levels alone, requests to different
lines may be made in either order, and the same requests about each line lead to the same table. -/
theorem requests_interleave :
    (∀ first second, empty.after first = empty.after second ↔
      ∀ pin, (empty.after first).level pin = (empty.after second).level pin) ∧
    (∀ requests one other, one.pin ≠ other.pin → (empty.after requests).Commutes one other) ∧
    ∀ first second, (∀ pin, about pin first = about pin second) →
      empty.after first = empty.after second := by
  have hext : ∀ first second, (∀ pin, (empty.after first).level pin
      = (empty.after second).level pin) → empty.after first = empty.after second :=
    fun first second => (Nested.empty.after first).ext_level (Nested.empty.after second)
  refine ⟨fun first second => ⟨fun h pin => by rw [h], hext first second⟩,
    fun requests one other => (Nested.empty.after requests).commutes,
    fun first second h => hext first second fun pin => ?_⟩
  rw [level_after, level_after, h]

/-- Two lines may be set in either order, and one may be configured before or after the other is
set. -/
theorem two_lines_interleave :
    (empty.after [.configure ⟨1⟩, .configure ⟨63⟩]).Commutes (.set ⟨1⟩ .asserted)
      (.set ⟨63⟩ .asserted) ∧
    empty.after [.configure ⟨1⟩, .set ⟨1⟩ .asserted, .configure ⟨63⟩]
      = empty.after [.configure ⟨63⟩, .configure ⟨1⟩, .set ⟨1⟩ .asserted] := by
  refine ⟨requests_interleave.2.1 _ _ _ (by decide), requests_interleave.2.2 _ _ fun pin => ?_⟩
  by_cases hone : (⟨1⟩ : Pin) = pin
  · subst hone
    rfl
  · simp [about, Request.pin, List.filter_cons, hone]

end PilotLamp.LineTable
