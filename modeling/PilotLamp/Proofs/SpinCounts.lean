import PilotLamp.Proofs.SplitWaits
import PilotLamp.SpinRate

/-!
# Iterations of a busy wait

A core that spins counts iterations in two ways: exactly for milliseconds, and rounded up for
nanoseconds. Both ways agree on whole milliseconds, neither overflows, and a wait in pieces takes
no fewer iterations than the same wait in one. How long an iteration really takes is out of scope.
-/

namespace PilotLamp.SpinRate

variable (rate : SpinRate)

/-- Iterations for a wait in milliseconds, unless the product overflows. -/
def forMs? (ms : UInt32) : Option UInt64 := Ticks.word? (ms.toNat * rate.iterationsPerMs.toNat)

/-- Iterations for a wait in nanoseconds, unless a step overflows. -/
def forNs? (ns : UInt32) : Option UInt64 :=
  (Ticks.word? (ns.toNat * rate.iterationsPerMs.toNat)).bind fun product =>
    Ticks.ceilDiv? product nsPerMs

/-- The product of a wait and a rate is a word. -/
theorem toNat_product (wait : UInt32) :
    (wait.toUInt64 * rate.iterationsPerMs.toUInt64).toNat
      = wait.toNat * rate.iterationsPerMs.toNat := by
  have hproduct := Ticks.toNat_mul_toNat_le wait rate.iterationsPerMs
  rw [UInt64.toNat_mul, UInt32.toNat_toUInt64, UInt32.toNat_toUInt64, Nat.mod_eq_of_lt (by omega)]

theorem toNat_forMs (ms : UInt32) :
    (rate.forMs ms).toNat = ms.toNat * rate.iterationsPerMs.toNat := rate.toNat_product ms

theorem forMs?_eq (ms : UInt32) : rate.forMs? ms = some (rate.forMs ms) := by
  rw [forMs?, ← rate.toNat_product ms, Ticks.word?_toNat, forMs]

theorem forNs?_eq (ns : UInt32) : rate.forNs? ns = some (rate.forNs ns) := by
  rw [forNs?, ← rate.toNat_product ns, Ticks.word?_toNat, Option.bind_some,
    Ticks.ceilDiv?_eq (by decide), forNs]

/-- The iterations for nanoseconds are the fewest that cover them. -/
theorem isLeast_forNs (ns : UInt32) :
    IsLeast {n : ℕ | ns.toNat * rate.iterationsPerMs.toNat ≤ n * 1000000}
      (rate.forNs ns).toNat := by
  have hunit : 1 < nsPerMs.toNat := by decide
  have hleast :=
    Ticks.isLeast_ceilDiv (ns.toUInt64 * rate.iterationsPerMs.toUInt64) hunit
  rwa [rate.toNat_product ns] at hleast

/-- A wait in whole milliseconds takes the same iterations in either unit. -/
theorem forMs_eq_forNs {ms ns : UInt32} (hsame : ns.toNat = ms.toNat * 1000000) :
    rate.forMs ms = rate.forNs ns := by
  have hexact : IsLeast {n : ℕ | ns.toNat * rate.iterationsPerMs.toNat ≤ n * 1000000}
      (ms.toNat * rate.iterationsPerMs.toNat) := by
    have hamount : ns.toNat * rate.iterationsPerMs.toNat
        = ms.toNat * rate.iterationsPerMs.toNat * 1000000 := by
      rw [hsame, Nat.mul_right_comm]
    rw [hamount]
    constructor
    · rw [Set.mem_ofPred_eq]
    · exact fun n hn => Nat.le_of_mul_le_mul_right hn (by decide)
  rw [← UInt64.toNat_inj, toNat_forMs]
  exact hexact.unique (rate.isLeast_forNs ns)

/-- What the iterations of a core are. -/
structure CountsExactly (rate : SpinRate) : Prop where
  /-- No step of the count for milliseconds overflows. -/
  checked_ms : ∀ ms, rate.forMs? ms = some (rate.forMs ms)
  /-- Nor does one for nanoseconds. -/
  checked_ns : ∀ ns, rate.forNs? ns = some (rate.forNs ns)
  /-- The iterations for milliseconds are their product with the rate. -/
  exact_ms : ∀ ms, (rate.forMs ms).toNat = ms.toNat * rate.iterationsPerMs.toNat
  /-- Those for nanoseconds are the fewest that cover them. -/
  least : ∀ ns, IsLeast {n : ℕ | ns.toNat * rate.iterationsPerMs.toNat ≤ n * 1000000}
    (rate.forNs ns).toNat
  /-- In whole milliseconds both are the same. -/
  agree : ∀ ms ns : UInt32, ns.toNat = ms.toNat * 1000000 → rate.forMs ms = rate.forNs ns
  /-- In pieces a wait takes no fewer. -/
  split : ∀ (parts : List UInt32) (whole : UInt32), (parts.map UInt32.toNat).sum = whole.toNat →
    (rate.forNs whole).toNat ≤ (parts.map fun part => (rate.forNs part).toNat).sum

/-- Every core counts exactly, however fast it spins. -/
theorem every_rate_counts_exactly (rate : SpinRate) : CountsExactly rate where
  checked_ms := rate.forMs?_eq
  checked_ns := rate.forNs?_eq
  exact_ms := rate.toNat_forMs
  least := rate.isLeast_forNs
  agree _ _ hsame := rate.forMs_eq_forNs hsame
  split parts whole hwhole := by
    have hproducts : (parts.map fun part => part.toNat * rate.iterationsPerMs.toNat).sum
        = whole.toNat * rate.iterationsPerMs.toNat := by
      rw [List.sum_map_mul_right, hwhole]
    exact Ticks.le_sum_of_isLeast (rate.isLeast_forNs whole) hproducts
      fun part _ => rate.isLeast_forNs part

/-- Three waits of one nanosecond take an iteration each, and one of three takes one in all. -/
example : (assumed.forNs 1, assumed.forNs 3) = (1, 1) := by decide

end PilotLamp.SpinRate
