import PilotLamp.ShortestDecimal

/-!
# Floats as text

The digits of a float are the fewest that read back. A layout says when they are written
positionally, with a point and at least one digit after it, and when with an exponent.
-/

namespace PilotLamp

/-- How the digits of a float are laid out. -/
structure FloatLayout where
  /-- Which decimal is taken when two are as near. -/
  tie : DecimalTie
  /-- Whether a number with this exponent of its leading digit is written positionally. -/
  positional : Int → Bool

namespace FloatLayout

/-- Always positional. -/
def plain : FloatLayout := ⟨.up, fun _ => true⟩

/-- Positional for leading digits from the fifth decimal place up to the sixteenth integer
digit, and with an exponent outside. -/
def compact : FloatLayout := ⟨.even, fun lead => decide (-5 ≤ lead ∧ lead ≤ 15)⟩

/-- The digits of a positive decimal around a point. -/
def positionalText (decimal : Decimal) : String :=
  let digits := Nat.toDigits 10 decimal.digits
  if 0 ≤ decimal.exponent then
    String.ofList (digits ++ List.replicate decimal.exponent.toNat '0') ++ ".0"
  else
    let places := (-decimal.exponent).toNat
    let padded := List.replicate (places + 1 - digits.length) '0' ++ digits
    let whole := padded.length - places
    String.ofList (padded.take whole) ++ "." ++ String.ofList (padded.drop whole)

/-- The first digit, the others after a point, and the exponent of the first with its sign. -/
def exponentText (decimal : Decimal) (lead : Int) : String :=
  match Nat.toDigits 10 decimal.digits with
  | [] => ""
  | first :: rest =>
    String.singleton first ++ (if rest.isEmpty then "" else "." ++ String.ofList rest)
      ++ (if 0 ≤ lead then "e+" else "e") ++ Int.repr lead

/-- The text of a positive finite float. -/
def positiveText (layout : FloatLayout) (number : Binary) : String :=
  if number.significand = 0 then "0.0"
  else
    let decimal := ShortestDecimal.ofBinary layout.tie number
    let lead := decimal.exponent + (Nat.toDigits 10 decimal.digits).length - 1
    if layout.positional lead then positionalText decimal else exponentText decimal lead

/-- The text of a float. The sign of zero is kept, the sign of a NaN is not. -/
def text (layout : FloatLayout) (x : Float) : String :=
  let bits := x.toBits
  let sign := if bits >>> 63 = 0 then "" else "-"
  if (bits >>> 52) &&& 0x7FF = 0x7FF then
    if bits &&& 0xFFFFFFFFFFFFF = 0 then sign ++ "inf" else "NaN"
  else sign ++ layout.positiveText (.ofBits bits)

end FloatLayout

end PilotLamp
