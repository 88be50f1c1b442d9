/-!
# The fewest decimal digits that read back

A binary floating point number stands for the interval of reals that round to it. Of the decimals
with the fewest digits in that interval, the nearest to the number is its text. All comparisons
are between naturals, brought to a common denominator.
-/

namespace PilotLamp

/-- A decimal number: digits times a power of ten. -/
structure Decimal where
  /-- The digits, read as one natural. -/
  digits : Nat
  /-- The power of ten. -/
  exponent : Int
deriving DecidableEq, Repr

/-- A positive number with a binary significand, as a 64 bit float stores it. -/
structure Binary where
  /-- The significand, at most 53 bits. -/
  significand : Nat
  /-- The power of two. -/
  exponent : Int
  /-- Whether the next lower float is only half as far as the next higher one. -/
  nearBelow : Bool
deriving DecidableEq, Repr

/-- Which of two decimals is taken when both are as near. -/
inductive DecimalTie
  /-- The larger one. -/
  | up
  /-- The one with an even last digit. -/
  | even
deriving DecidableEq, Repr

/-- The significand and exponent of a finite float, its sign aside. -/
def Binary.ofBits (bits : UInt64) : Binary :=
  let exponent := ((bits >>> 52) &&& 0x7FF).toNat
  let fraction := (bits &&& 0xFFFFFFFFFFFFF).toNat
  if exponent = 0 then ⟨fraction, -1074, false⟩
  else ⟨fraction + 0x10000000000000, (exponent : Int) - 1075, fraction == 0 && exponent != 1⟩

namespace ShortestDecimal

/-- The part of a power of `base` that stands in the numerator, for any exponent. -/
def powerAbove (base : Nat) (exponent : Int) : Nat := Nat.pow base exponent.toNat

/-- The part of a power of `base` that stands in the denominator. -/
def powerBelow (base : Nat) (exponent : Int) : Nat := Nat.pow base (-exponent).toNat

/-- The decimal exponent of the leading digit of a quotient of positive naturals. -/
def leadingExponent (numerator denominator : Nat) : Int :=
  if denominator ≤ numerator then ((Nat.toDigits 10 (numerator / denominator)).length : Int) - 1
  else
    let reaches (n : Nat) : Bool := denominator ≤ numerator * Nat.pow 10 (n + 1)
    let steps := ((List.range 400).find? reaches).getD 0
    Int.negSucc steps

/-- The decimals on the grid of a power of ten that lie in the interval of a number: of the two
neighbours of the number, the nearer one that is in the interval. -/
def onGrid (tie : DecimalTie) (number : Binary) (exponent : Int) : Option Nat :=
  -- A grid point `t` is compared with a quarter of `s` units of the significand by
  -- comparing `t * grid` with `s * unit`.
  let grid := 4 * powerAbove 10 exponent * powerBelow 2 number.exponent
  let unit := powerAbove 2 number.exponent * powerBelow 10 exponent
  let value := 4 * number.significand * unit
  let high := (4 * number.significand + 2) * unit
  let low := (4 * number.significand - if number.nearBelow then 1 else 2) * unit
  let closed := number.significand % 2 == 0
  let inside (point : Nat) : Bool :=
    if closed then low ≤ point * grid && point * grid ≤ high
    else low < point * grid && point * grid < high
  let below := value / grid
  let above := below + 1
  let farBelow := value - below * grid
  let farAbove := above * grid - value
  let preferAbove :=
    if farBelow = farAbove then
      match tie with
      | .up => true
      | .even => below % 2 == 1
    else decide (farAbove < farBelow)
  match inside below && below != 0, inside above with
  | true, true => some (if preferAbove then above else below)
  | true, false => some below
  | false, true => some above
  | false, false => none

/-- Removes zeros from the end of the digits of a decimal. -/
def strip : Nat → Decimal → Decimal
  | 0, decimal => decimal
  | fuel + 1, ⟨digits, exponent⟩ =>
    if digits % 10 = 0 && digits != 0 then strip fuel ⟨digits / 10, exponent + 1⟩
    else ⟨digits, exponent⟩

/-- The most digits that a 64 bit float needs. -/
def maxDigits : Nat := 17

/-- The shortest decimal of a positive number, the nearest of those. -/
def ofBinary (tie : DecimalTie) (number : Binary) : Decimal :=
  let lead := leadingExponent
    (number.significand * powerAbove 2 number.exponent) (powerBelow 2 number.exponent)
  let found := (List.range maxDigits).findSome? fun (count : Nat) =>
    (onGrid tie number (lead - count)).map fun digits => (⟨digits, lead - count⟩ : Decimal)
  strip 20 (found.getD ⟨0, 0⟩)

end ShortestDecimal

end PilotLamp
