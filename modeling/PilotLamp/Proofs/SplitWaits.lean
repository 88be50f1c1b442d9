import PilotLamp.Proofs.TickCounts
import Mathlib.Algebra.BigOperators.Ring.List
import Mathlib.Algebra.Order.BigOperators.Group.List

/-!
# Waits in pieces

A wait is rounded up to whole ticks, and to no more of them than it takes. Rounded up piece by
piece it takes at least as many ticks as in one, and each piece adds less than one tick to that.
What passes between two pieces is out of scope.
-/

namespace PilotLamp.Ticks

/-! ## Amounts in units -/

/-- Rounding up is exact: no fewer units cover the dividend. -/
theorem isLeast_ceilDiv (dividend : UInt64) {divisor : UInt64} (h : 1 < divisor.toNat) :
    IsLeast {n : ℕ | dividend.toNat ≤ n * divisor.toNat} (ceilDiv dividend divisor).toNat := by
  have hpositive : 0 < divisor.toNat := by omega
  have hceil : (ceilDiv dividend divisor).toNat = dividend.toNat ⌈/⌉ divisor.toNat := by
    rw [toNat_ceilDiv h, Nat.ceilDiv_eq_add_pred_div, Nat.add_sub_assoc hpositive]
  rw [hceil]
  constructor
  · rw [Set.mem_ofPred_eq, mul_comm]
    exact le_smul_ceilDiv hpositive
  · intro n hn
    rw [Set.mem_ofPred_eq, mul_comm] at hn
    exact (ceilDiv_le_iff_le_smul hpositive).2 hn

section

variable {unit amount count : ℕ}

/-- The least number of units that covers an amount covers less than one unit too much. -/
theorem mul_lt_add_of_isLeast (h : IsLeast {n : ℕ | amount ≤ n * unit} count) (hunit : 0 < unit) :
    count * unit < amount + unit := by
  cases count with
  | zero => omega
  | succ fewer =>
    have hshort : ¬ amount ≤ fewer * unit := fun hcovers => Nat.not_succ_le_self fewer (h.2 hcovers)
    rw [Nat.succ_mul]
    omega

variable {α : Type} {parts : List α} {amountOf countOf : α → ℕ}

/-- Covered piece by piece, the whole is covered. -/
theorem le_sum_of_isLeast (h : IsLeast {n : ℕ | amount ≤ n * unit} count)
    (hwhole : (parts.map amountOf).sum = amount)
    (hparts : ∀ part ∈ parts, IsLeast {n : ℕ | amountOf part ≤ n * unit} (countOf part)) :
    count ≤ (parts.map countOf).sum := by
  have hcovered : (parts.map amountOf).sum ≤ (parts.map fun part => countOf part * unit).sum :=
    List.sum_le_sum fun part hpart => (hparts part hpart).1
  rw [List.sum_map_mul_right, hwhole] at hcovered
  exact h.2 hcovered

/-- Each piece takes less than one unit more than its share of the whole. -/
theorem sum_lt_add_length_of_isLeast (h : IsLeast {n : ℕ | amount ≤ n * unit} count)
    (hunit : 0 < unit) (hwhole : (parts.map amountOf).sum = amount)
    (hparts : ∀ part ∈ parts, IsLeast {n : ℕ | amountOf part ≤ n * unit} (countOf part))
    (hsome : parts ≠ []) : (parts.map countOf).sum < count + parts.length := by
  have hexcess : (parts.map fun part => countOf part * unit).sum
      < (parts.map fun part => amountOf part + unit).sum :=
    List.sum_lt_sum_of_ne_nil hsome _ _ fun part hpart =>
      mul_lt_add_of_isLeast (hparts part hpart) hunit
  have hshares : (parts.map fun part => amountOf part + unit).sum
      = amount + parts.length * unit := by
    rw [List.sum_map_add, hwhole, List.map_const', List.sum_replicate, smul_eq_mul]
  have hcovered : amount ≤ count * unit := h.1
  rw [List.sum_map_mul_right, hshares] at hexcess
  have hall : (parts.map countOf).sum * unit < (count + parts.length) * unit := by
    rw [Nat.add_mul]
    omega
  exact Nat.lt_of_mul_lt_mul_right hall

end

/-! ## Ticks of a clock -/

variable {ms : UInt32} {hz : UInt64}

/-- The ticks for a wait are the fewest that cover it. -/
theorem isLeast_forMs (fits : ms.toNat * hz.toNat < 2 ^ 64) :
    IsLeast {n : ℕ | ms.toNat * hz.toNat ≤ n * 1000} (forMs ms hz).toNat := by
  have hproduct : (ms.toUInt64 * hz).toNat = ms.toNat * hz.toNat := by
    rw [UInt64.toNat_mul, UInt32.toNat_toUInt64, Nat.mod_eq_of_lt fits]
  have hsecond : 1 < msPerSecond.toNat := by decide
  have hleast := isLeast_ceilDiv (ms.toUInt64 * hz) hsecond
  rwa [hproduct] at hleast

/-- A shorter wait on a slower clock takes no more ticks. -/
theorem forMs_mono {less : UInt32} {slower : UInt64} (fits : ms.toNat * hz.toNat < 2 ^ 64)
    (hms : less ≤ ms) (hhz : slower ≤ hz) : forMs less slower ≤ forMs ms hz := by
  rw [UInt32.le_iff_toNat_le] at hms
  rw [UInt64.le_iff_toNat_le] at hhz ⊢
  have hproduct : less.toNat * slower.toNat ≤ ms.toNat * hz.toNat := Nat.mul_le_mul hms hhz
  have hcovered : ms.toNat * hz.toNat ≤ (forMs ms hz).toNat * 1000 := (isLeast_forMs fits).1
  exact (isLeast_forMs (by omega)).2 (hproduct.trans hcovered)

/-- How many ticks a wait takes, in one piece or in several. -/
structure ExactTicks (ms : UInt32) (hz : UInt64) : Prop where
  /-- No step on the way to the number overflows. -/
  checked : forMs? ms hz = some (forMs ms hz)
  /-- They are the fewest that cover the wait. -/
  least : IsLeast {n : ℕ | ms.toNat * hz.toNat ≤ n * 1000} (forMs ms hz).toNat
  /-- A shorter wait and a slower clock take no more of them. -/
  mono : ∀ less slower, less ≤ ms → slower ≤ hz → forMs less slower ≤ forMs ms hz
  /-- In pieces it takes no fewer, and less than one for each piece on top. -/
  split : ∀ parts : List UInt32, parts ≠ [] → (parts.map UInt32.toNat).sum = ms.toNat →
    (forMs ms hz).toNat ≤ (parts.map fun part => (forMs part hz).toNat).sum ∧
      (parts.map fun part => (forMs part hz).toNat).sum < (forMs ms hz).toNat + parts.length

/-- A piece is no longer than the whole. -/
theorem toNat_le_of_mem {parts : List UInt32} {whole : ℕ}
    (hwhole : (parts.map UInt32.toNat).sum = whole) {part : UInt32} (hpart : part ∈ parts) :
    part.toNat ≤ whole :=
  hwhole ▸ List.le_sum_of_mem (List.mem_map_of_mem hpart)

/-- As long as the product of a wait and a rate fits into a word, the ticks are the exact number,
and no split makes the wait shorter. -/
theorem ticks_are_exact (ms : UInt32) (hz : UInt64) (fits : ms.toNat * hz.toNat < 2 ^ 64) :
    ExactTicks ms hz where
  checked := forMs?_eq fits
  least := isLeast_forMs fits
  mono _ _ hms hhz := forMs_mono fits hms hhz
  split parts hsome hwhole := by
    have hleast := isLeast_forMs fits
    have hproducts : (parts.map fun part => part.toNat * hz.toNat).sum = ms.toNat * hz.toNat := by
      rw [List.sum_map_mul_right, hwhole]
    have hparts : ∀ part ∈ parts,
        IsLeast {n : ℕ | part.toNat * hz.toNat ≤ n * 1000} (forMs part hz).toNat := by
      intro part hpart
      have hshare := Nat.mul_le_mul_right hz.toNat (toNat_le_of_mem hwhole hpart)
      exact isLeast_forMs (by omega)
    exact ⟨le_sum_of_isLeast hleast hproducts hparts,
      sum_lt_add_length_of_isLeast hleast (by decide) hproducts hparts hsome⟩

/-- The longest wait on a clock of one megahertz, whose ticks do not fit in half a word. -/
theorem longest_wait_at_megahertz_is_exact :
    (4294967295 : UInt32).toNat * (1000000 : UInt64).toNat < 2 ^ 64
      ∧ ExactTicks 4294967295 1000000 :=
  ⟨by decide, ticks_are_exact 4294967295 1000000 (by decide)⟩

end PilotLamp.Ticks
