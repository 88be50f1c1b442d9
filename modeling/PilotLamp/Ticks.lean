/-!
# Timer ticks for a wait

A wait of some milliseconds is turned into ticks of a clock, never fewer than the wait takes.
A scheduler that counts whole ticks from a tick already begun needs one more than that.
-/

namespace PilotLamp.Ticks

/-- The quotient rounded up. -/
def ceilDiv (dividend divisor : UInt64) : UInt64 :=
  if dividend % divisor = 0 then dividend / divisor else dividend / divisor + 1

/-- Milliseconds in a second. -/
def msPerSecond : UInt64 := 1000

/-- Ticks of a clock that cover a wait which starts on a tick. -/
def forMs (ms : UInt32) (hz : UInt64) : UInt64 := ceilDiv (ms.toUInt64 * hz) msPerSecond

/-- The largest tick count that a scheduler takes. -/
def schedulerMax : UInt64 := 0xFFFFFFFF

/-- Ticks that cover a wait which starts somewhere inside a tick, with one guard tick and a
ceiling. An empty wait takes none. -/
def forScheduler (ms hz : UInt32) : UInt32 :=
  if ms = 0 then 0
  else
    let ticks := forMs ms hz.toUInt64 + 1
    if schedulerMax < ticks then schedulerMax.toUInt32 else ticks.toUInt32

/-- Both ways of rounding a quotient of naturals up agree. -/
theorem ceil_quotient (a b : Nat) (h : 0 < b) :
    (a + (b - 1)) / b = if a % b = 0 then a / b else a / b + 1 := by
  have hmod := Nat.mod_lt a h
  have hsum : a + (b - 1) = (a % b + (b - 1)) + b * (a / b) := by
    have := Nat.mod_add_div a b
    omega
  rw [hsum, Nat.add_mul_div_left _ _ h]
  split
  case isTrue hz => rw [Nat.div_eq_of_lt (by omega)]; omega
  case isFalse hz =>
    rw [show (a % b + (b - 1)) / b = 1 from Nat.div_eq_of_lt_le (by omega) (by omega)]
    omega

/-- Rounding up is exact: the quotient is the least number whose multiple covers the dividend. -/
theorem toNat_ceilDiv {dividend divisor : UInt64} (h : 1 < divisor.toNat) :
    (ceilDiv dividend divisor).toNat = (dividend.toNat + (divisor.toNat - 1)) / divisor.toNat := by
  have hlt := dividend.toNat_lt
  have hhalf : dividend.toNat / divisor.toNat ≤ dividend.toNat / 2 :=
    Nat.div_le_div_left h (by decide)
  have hzero : dividend % divisor = 0 ↔ dividend.toNat % divisor.toNat = 0 := by
    rw [← UInt64.toNat_inj, UInt64.toNat_mod]; rfl
  rw [ceil_quotient _ _ (by omega)]
  unfold ceilDiv
  by_cases hz : dividend % divisor = 0
  · rw [if_pos hz, if_pos (hzero.1 hz), UInt64.toNat_div]
  · rw [if_neg hz, if_neg (mt hzero.2 hz), UInt64.toNat_add, UInt64.toNat_div, UInt64.toNat_one]
    exact Nat.mod_eq_of_lt (by omega)

end PilotLamp.Ticks
