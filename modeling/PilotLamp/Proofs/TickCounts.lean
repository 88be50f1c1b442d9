import PilotLamp.Proofs.TickWaits
import Mathlib.Algebra.Order.Floor.Div

/-!
# Tick counts without overflow

The tick counts are words, and words wrap around. Here each step is made again on whole numbers
and ends the computation if its result is no word; no wait and no tick rate ever end it. So a
count for the scheduler is the exact one or the largest, it grows with the wait and with the rate,
and it is never two ticks too long. How long the ticks themselves last is out of scope.
-/

namespace PilotLamp.Ticks

/-! ## Steps that are checked -/

/-- A whole number as a word, if it is one. -/
def word? (n : Nat) : Option UInt64 := if n < 2 ^ 64 then some (.ofNat n) else none

/-- A word as a word of half the size, if it is one. -/
def halfWord? (n : UInt64) : Option UInt32 := if n.toNat < 2 ^ 32 then some n.toUInt32 else none

/-- The quotient rounded up, unless there is none or it overflows. -/
def ceilDiv? (dividend divisor : UInt64) : Option UInt64 :=
  if divisor = 0 then none
  else if dividend % divisor = 0 then some (dividend / divisor)
  else word? ((dividend / divisor).toNat + 1)

/-- Ticks for a wait that starts on a tick, unless a step overflows. -/
def forMs? (ms : UInt32) (hz : UInt64) : Option UInt64 :=
  (word? (ms.toNat * hz.toNat)).bind fun product => ceilDiv? product msPerSecond

/-- Ticks for a wait that starts anywhere, unless a step overflows. -/
def forScheduler? (ms hz : UInt32) : Option UInt32 :=
  if ms = 0 then some 0
  else (forMs? ms hz.toUInt64).bind fun exact => (word? (exact.toNat + 1)).bind fun ticks =>
    if schedulerMax < ticks then halfWord? schedulerMax else halfWord? ticks

/-- The number of a word is that word. -/
theorem word?_toNat (word : UInt64) : word? word.toNat = some word := by
  rw [word?, if_pos word.toNat_lt, UInt64.ofNat_toNat]

/-- A word that is small enough is one of half the size. -/
theorem halfWord?_of_le {n : UInt64} (h : n ≤ schedulerMax) : halfWord? n = some n.toUInt32 := by
  have hmax : schedulerMax.toNat = 2 ^ 32 - 1 := rfl
  rw [UInt64.le_iff_toNat_le, hmax] at h
  exact if_pos (by omega)

/-- Rounding up never overflows: the quotient of a word by more than one is at most half a word. -/
theorem ceilDiv?_eq {dividend divisor : UInt64} (h : 1 < divisor.toNat) :
    ceilDiv? dividend divisor = some (ceilDiv dividend divisor) := by
  have hzero : divisor ≠ 0 := by
    rintro rfl
    exact absurd h (by decide)
  have hhalf : dividend.toNat / divisor.toNat ≤ dividend.toNat / 2 :=
    Nat.div_le_div_left h (by decide)
  have hnext : (dividend / divisor).toNat + 1 = (dividend / divisor + 1).toNat := by
    have hlt := dividend.toNat_lt
    rw [UInt64.toNat_add, UInt64.toNat_div, UInt64.toNat_one, Nat.mod_eq_of_lt (by omega)]
  rw [ceilDiv?, if_neg hzero, ceilDiv, hnext, word?_toNat]
  split <;> rfl

/-- As long as the product fits in a word, so does every step. -/
theorem forMs?_eq {ms : UInt32} {hz : UInt64} (fits : ms.toNat * hz.toNat < 2 ^ 64) :
    forMs? ms hz = some (forMs ms hz) := by
  have hproduct : ms.toNat * hz.toNat = (ms.toUInt64 * hz).toNat := by
    rw [UInt64.toNat_mul, UInt32.toNat_toUInt64, Nat.mod_eq_of_lt fits]
  rw [forMs?, hproduct, word?_toNat, Option.bind_some, ceilDiv?_eq (by decide), forMs]

/-- No wait and no tick rate make a step overflow. -/
theorem forScheduler?_eq (ms hz : UInt32) : forScheduler? ms hz = some (forScheduler ms hz) := by
  unfold forScheduler? forScheduler
  by_cases hzero : ms = 0
  · rw [if_pos hzero, if_pos hzero]
  have hfits : ms.toNat * hz.toUInt64.toNat < 2 ^ 64 := by
    have hproduct := toNat_mul_toNat_le ms hz
    rw [UInt32.toNat_toUInt64]
    omega
  have hguarded : (forMs ms hz.toUInt64).toNat + 1 = (forMs ms hz.toUInt64 + 1).toNat := by
    rw [UInt64.toNat_add, toNat_forMs hfits, UInt64.toNat_one]
    omega
  rw [if_neg hzero, if_neg hzero, forMs?_eq hfits, Option.bind_some, hguarded, word?_toNat,
    Option.bind_some]
  by_cases hceiling : schedulerMax < forMs ms hz.toUInt64 + 1
  · simp only [if_pos hceiling]
    exact halfWord?_of_le (UInt64.le_refl _)
  · simp only [if_neg hceiling]
    exact halfWord?_of_le (UInt64.not_lt.mp hceiling)

/-! ## Counts that are exact -/

/-- An empty wait takes no ticks, and any other one more than it lasts, rounded up, or the largest
count. -/
theorem toNat_forScheduler_eq (ms hz : UInt32) :
    (forScheduler ms hz).toNat
      = if ms = 0 then 0 else min ((ms.toNat * hz.toNat) ⌈/⌉ 1000 + 1) (2 ^ 32 - 1) := by
  by_cases hzero : ms = 0
  · rw [if_pos hzero, forScheduler, if_pos hzero]
    rfl
  · have hceil : (ms.toNat * hz.toNat) ⌈/⌉ 1000 = (ms.toNat * hz.toNat + 999) / 1000 := by
      rw [Nat.ceilDiv_eq_add_pred_div]
      rfl
    rw [if_neg hzero, toNat_forScheduler ms hz hzero, hceil]

/-- A longer wait and a faster clock take no fewer ticks. -/
theorem forScheduler_mono {ms more hz faster : UInt32} (hms : ms ≤ more) (hhz : hz ≤ faster) :
    forScheduler ms hz ≤ forScheduler more faster := by
  rw [UInt32.le_iff_toNat_le] at hms hhz ⊢
  by_cases hzero : ms = 0
  · rw [toNat_forScheduler_eq ms, if_pos hzero]
    exact Nat.zero_le _
  · have hmore : more ≠ 0 := by
      rintro rfl
      exact hzero (UInt32.toNat_inj.mp (Nat.le_zero.mp hms))
    have hproduct : ms.toNat * hz.toNat ≤ more.toNat * faster.toNat := Nat.mul_le_mul hms hhz
    rw [toNat_forScheduler ms hz hzero, toNat_forScheduler more faster hmore]
    omega

/-- A wait that is not empty, on a clock that runs, takes two ticks at least, and less than two
ticks more than it lasts. -/
theorem forScheduler_tight {ms hz : UInt32} (positive : 0 < ms.toNat * hz.toNat) :
    2 ≤ (forScheduler ms hz).toNat ∧
      ((forScheduler ms hz).toNat - 2) * 1000 < ms.toNat * hz.toNat := by
  have hms : ms ≠ 0 := by
    rintro rfl
    exact absurd positive (by simp)
  rw [toNat_forScheduler ms hz hms]
  omega

/-- What a count of ticks for the scheduler is. -/
structure ExactCount (ms hz : UInt32) : Prop where
  /-- No step on the way to it overflows. -/
  checked : forScheduler? ms hz = some (forScheduler ms hz)
  /-- It is zero for an empty wait, and else the exact count with the guard tick or the largest. -/
  toNat_eq : (forScheduler ms hz).toNat
    = if ms = 0 then 0 else min ((ms.toNat * hz.toNat) ⌈/⌉ 1000 + 1) (2 ^ 32 - 1)
  /-- A longer wait takes no fewer ticks. -/
  mono_ms : ∀ more, ms ≤ more → forScheduler ms hz ≤ forScheduler more hz
  /-- A faster clock takes no fewer ticks. -/
  mono_hz : ∀ faster, hz ≤ faster → forScheduler ms hz ≤ forScheduler ms faster
  /-- Unless nothing is waited for, it is two at least, and two ticks less would be too short. -/
  tight : 0 < ms.toNat * hz.toNat → 2 ≤ (forScheduler ms hz).toNat ∧
    ((forScheduler ms hz).toNat - 2) * 1000 < ms.toNat * hz.toNat

/-- Every count for the scheduler is exact, for every wait and every tick rate. -/
theorem scheduler_counts_are_exact (ms hz : UInt32) : ExactCount ms hz where
  checked := forScheduler?_eq ms hz
  toNat_eq := toNat_forScheduler_eq ms hz
  mono_ms _ hmore := forScheduler_mono hmore (UInt32.le_refl hz)
  mono_hz _ hfaster := forScheduler_mono (UInt32.le_refl ms) hfaster
  tight := forScheduler_tight

/-- The longest wait at the highest rate ends at the largest count. -/
example : forScheduler 4294967295 4294967295 = 4294967295 := by decide

end PilotLamp.Ticks
