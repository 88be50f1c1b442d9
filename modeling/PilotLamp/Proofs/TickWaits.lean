import PilotLamp.Esp32
import Mathlib.Data.Rat.Floor
import Mathlib.Tactic.Linarith

/-!
# How long a wait in ticks lasts

A scheduler that counts whole ticks counts the one that has already begun, so that of `n` ticks
only `n - 1` are sure to pass in full. The tick counts are told as whole numbers here. With the
guard tick a wait is never too short, as long as any count that the scheduler takes is long
enough; past that it gets the largest count. A clock that drifts is out of scope.
-/

namespace PilotLamp

namespace Ticks

/-! ## Counts as whole numbers -/

/-- Ticks for a wait that starts on a tick, as long as their product fits in a word. -/
theorem toNat_forMs {ms : UInt32} {hz : UInt64} (fits : ms.toNat * hz.toNat < 2 ^ 64) :
    (forMs ms hz).toNat = (ms.toNat * hz.toNat + 999) / 1000 := by
  have hproduct : (ms.toUInt64 * hz).toNat = ms.toNat * hz.toNat := by
    rw [UInt64.toNat_mul, UInt32.toNat_toUInt64, Nat.mod_eq_of_lt fits]
  have hsecond : msPerSecond.toNat = 1000 := rfl
  rw [forMs, toNat_ceilDiv (by rw [hsecond]; decide), hproduct, hsecond]

/-- The product of two words of half the size fits, with room to spare. -/
theorem toNat_mul_toNat_le (ms hz : UInt32) :
    ms.toNat * hz.toNat ≤ (2 ^ 32 - 1) * (2 ^ 32 - 1) := by
  have hms := ms.toNat_lt
  have hhz := hz.toNat_lt
  exact Nat.mul_le_mul (by omega) (by omega)

/-- Ticks for a wait that starts anywhere: one more than the exact number, up to the largest
count. -/
theorem toNat_forScheduler (ms hz : UInt32) (positive : ms ≠ 0) :
    (forScheduler ms hz).toNat
      = min ((ms.toNat * hz.toNat + 999) / 1000 + 1) (2 ^ 32 - 1) := by
  have hproduct := toNat_mul_toNat_le ms hz
  have hexact : (forMs ms hz.toUInt64).toNat = (ms.toNat * hz.toNat + 999) / 1000 := by
    rw [toNat_forMs (by rw [UInt32.toNat_toUInt64]; omega), UInt32.toNat_toUInt64]
  have hguarded : (forMs ms hz.toUInt64 + 1).toNat
      = (ms.toNat * hz.toNat + 999) / 1000 + 1 := by
    rw [UInt64.toNat_add, hexact, UInt64.toNat_one]
    omega
  have hmax : schedulerMax.toNat = 2 ^ 32 - 1 := rfl
  have hlarge : schedulerMax < forMs ms hz.toUInt64 + 1 ↔
      2 ^ 32 - 1 < (ms.toNat * hz.toNat + 999) / 1000 + 1 := by
    rw [UInt64.lt_iff_toNat_lt, hguarded, hmax]
  rw [forScheduler, if_neg positive]
  by_cases hceiling : schedulerMax < forMs ms hz.toUInt64 + 1
  · have hmore := hlarge.mp hceiling
    have hword : schedulerMax.toUInt32.toNat = 2 ^ 32 - 1 := rfl
    simp only [if_pos hceiling, hword]
    omega
  · have hfits := mt hlarge.mpr hceiling
    simp only [if_neg hceiling, UInt64.toNat_toUInt32, hguarded]
    omega

/-! ## Waits that are long enough -/

/-- When a wait ends that starts at some time, in thousandths of a tick: the tick that has begun
counts as the first. -/
def endOf (start : ℚ) (ticks : UInt32) : ℚ := (⌊start / 1000⌋ + ticks.toNat) * 1000

/-- Whether the ticks of a wait, without the first, last for some milliseconds. A millisecond is
as many thousandths of a tick as there are ticks in a second. -/
def Outlasts (ticks ms hz : UInt32) : Prop :=
  (ms.toNat * hz.toNat : ℤ) ≤ ((ticks.toNat : ℤ) - 1) * 1000

instance (ticks ms hz : UInt32) : Decidable (Outlasts ticks ms hz) :=
  inferInstanceAs (Decidable (_ ≤ _))

/-- So long a wait lasts wherever in a tick it starts, and no other does. -/
theorem outlasts_iff (ticks ms hz : UInt32) :
    Outlasts ticks ms hz ↔ ∀ start : ℚ, start + ms.toNat * hz.toNat ≤ endOf start ticks := by
  constructor
  · intro h start
    have hlate : start / 1000 < ⌊start / 1000⌋ + 1 := Int.lt_floor_add_one _
    have hwait : (ms.toNat * hz.toNat : ℚ) ≤ ((ticks.toNat : ℚ) - 1) * 1000 := by exact_mod_cast h
    rw [endOf]
    linarith
  · intro h
    -- Half of a thousandth before a tick ends there is no room for less than whole ticks.
    have hfloor : ⌊(1999 / 2 : ℚ) / 1000⌋ = 0 := by norm_num
    have hwait := h (1999 / 2)
    rw [endOf, hfloor] at hwait
    have hdoubled : (2 * (ms.toNat * hz.toNat) : ℚ) ≤ 2 * ((ticks.toNat - 1) * 1000) + 1 := by
      push_cast at hwait
      linarith
    have hwhole : (2 * (ms.toNat * hz.toNat) : ℤ) ≤ 2 * ((ticks.toNat - 1) * 1000) + 1 := by
      exact_mod_cast hdoubled
    rw [Outlasts]
    omega

/-- The largest count outlasts whatever any count does. -/
theorem exists_outlasts_iff (ms hz : UInt32) :
    (∃ ticks, Outlasts ticks ms hz) ↔ ms.toNat * hz.toNat ≤ (2 ^ 32 - 2) * 1000 := by
  constructor
  · rintro ⟨ticks, h⟩
    have hticks := ticks.toNat_lt
    rw [Outlasts] at h
    omega
  · intro h
    have hlargest : (4294967295 : UInt32).toNat = 2 ^ 32 - 1 := rfl
    refine ⟨4294967295, ?_⟩
    rw [Outlasts, hlargest]
    omega

/-- A wait that any count outlasts gets one that does, and any other gets the largest count. -/
theorem forScheduler_outlasts_or_largest (ms hz : UInt32) (positive : ms ≠ 0) :
    Outlasts (forScheduler ms hz) ms hz ∨
      forScheduler ms hz = 4294967295 ∧ ∀ ticks, ¬ Outlasts ticks ms hz := by
  have hticks := toNat_forScheduler ms hz positive
  by_cases hany : ∃ ticks, Outlasts ticks ms hz
  · have hfits := (exists_outlasts_iff ms hz).mp hany
    left
    rw [Outlasts, hticks]
    omega
  · have hlong := mt (exists_outlasts_iff ms hz).mpr hany
    refine .inr ⟨?_, not_exists.mp hany⟩
    rw [← UInt32.toNat_inj, hticks]
    change _ = 4294967295
    omega

end Ticks

namespace Esp32

open Ticks (Outlasts endOf forScheduler)

/-- A wait is handed to the scheduler with a count that outlasts it, wherever in a tick it starts,
unless no count does; then it is the largest. At the tick rate of the board that is the wait of the
most milliseconds only. -/
theorem delay_outlasts_if_any_count_does {ω : Type} (platform : Esp32Platform ω)
    (state : Drivers × ω) (ms : UInt32) (positive : ms ≠ 0) :
    (indicator platform).delay ms state
        = (state.1, platform.delayTicks (forScheduler ms tickHz) state.2) ∧
      (Outlasts (forScheduler ms tickHz) ms tickHz ↔ ms ≠ 4294967295) ∧
      ∀ hz : UInt32,
        (Outlasts (forScheduler ms hz) ms hz ∨
          forScheduler ms hz = 4294967295 ∧ ∀ ticks, ¬ Outlasts ticks ms hz) ∧
        (Outlasts (forScheduler ms hz) ms hz ↔
          ∀ start : ℚ, start + ms.toNat * hz.toNat ≤ endOf start (forScheduler ms hz)) := by
  refine ⟨rfl, ?_, fun hz => ⟨Ticks.forScheduler_outlasts_or_largest ms hz positive,
    Ticks.outlasts_iff _ ms hz⟩⟩
  have hticks := Ticks.toNat_forScheduler ms tickHz positive
  have hhz : tickHz.toNat = 1000 := rfl
  have hlargest : ms = 4294967295 ↔ ms.toNat = 4294967295 := UInt32.toNat_inj.symm
  have hms := ms.toNat_lt
  rw [Outlasts, Ne, hlargest, hticks, hhz]
  omega

/-- The wait of one millisecond less than the most is outlasted. -/
theorem delay_before_longest_outlasts :
    let ms : UInt32 := 4294967294
    let platform : Esp32Platform (List UInt32) :=
      ⟨fun _ counts => (.ok (), counts), fun _ _ counts => (.ok (), counts), fun _ counts => counts,
        fun ticks counts => counts ++ [ticks], fun _ counts => counts⟩
    ms ≠ 0 ∧ (indicator platform).delay ms (fresh, []) = (fresh, [4294967295]) ∧
      Outlasts (forScheduler ms tickHz) ms tickHz := by
  intro ms platform
  obtain ⟨hdelay, houtlasts, -⟩ :=
    delay_outlasts_if_any_count_does platform (fresh, []) ms (by decide)
  have hcount : forScheduler ms tickHz = 4294967295 := by decide
  rw [hcount] at hdelay
  exact ⟨by decide, hdelay, houtlasts.mpr (by decide)⟩

/-- The wait of the most milliseconds may end before they are over: of its ticks all but the first
are one less than they are. -/
theorem longest_delay_may_end_early :
    let ms : UInt32 := 4294967295
    ms ≠ 0 ∧ tickHz ≠ 0 ∧ forScheduler ms tickHz = 4294967295 ∧
      ¬ ((ms.toNat * tickHz.toNat : ℤ) ≤ (((forScheduler ms tickHz).toNat : ℤ) - 1) * 1000) := by
  decide

end Esp32

end PilotLamp
