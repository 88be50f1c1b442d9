import PilotLamp.CalendarText
import PilotLamp.IntegerBounds
import PilotLamp.JsonText

/-!
# Scalars without quotes

What a run of characters without quotes stands for in a TOML document: a truth value, a date or a
time, an integer or a float. The form of a run is checked at once, the size of a number only where
somebody looks at it, so a well formed number that no type holds is a value too. After an
underscore even a letter has the form of an integer; it is then a number that cannot be read.
-/

namespace PilotLamp.BareScalar

/-- The characters that end a scalar without quotes. -/
def terminators : List Char :=
  ['=', ',', '[', ']', '\x7b', '\x7d', ' ', '\t', '#', '\r', '\n']

/-- Whether a character may stand in a scalar without quotes. -/
def isMember (c : Char) : Bool := !terminators.contains c

/-- Splits a run off. A date goes on over a single space if a digit follows. -/
def split (text : List Char) : List Char × List Char :=
  let scalar := text.takeWhile isMember
  match CalendarText.isDate scalar, text.dropWhile isMember with
  | true, ' ' :: c :: rest =>
    if c.isDigit then
      (scalar ++ ' ' :: (c :: rest).takeWhile isMember, (c :: rest).dropWhile isMember)
    else (scalar, ' ' :: c :: rest)
  | _, rest => (scalar, rest)

/-! ## Digits -/

/-- Whether a character is a digit of a base up to sixteen. -/
def isDigitOf (base : Nat) (c : Char) : Bool :=
  match JsonText.hexDigit? c with
  | some value => decide (value < base)
  | none => false

/-- Whether each underscore stands right between two digits. The first argument says whether one
may stand at the very start. -/
def underscoresFit (isDigit : Char → Bool) : Bool → List Char → Bool
  | _, [] => true
  | before, '_' :: rest =>
    before && rest.head?.any isDigit && underscoresFit isDigit false rest
  | _, c :: rest => underscoresFit isDigit (isDigit c) rest

/-- A text without its underscores. -/
def withoutUnderscores (text : List Char) : List Char := text.filter (· != '_')

/-- Splits a sign off, if there is one; true means minus. -/
def splitSign : List Char → Option Bool × List Char
  | '-' :: rest => (some true, rest)
  | '+' :: rest => (some false, rest)
  | text => (none, text)

/-- Splits a run of digits and underscores off and answers its digits; there must be one. -/
def digitRun? (text : List Char) : Option (List Char × List Char) :=
  let inRun (c : Char) : Bool := c.isDigit || c == '_'
  match withoutUnderscores (text.takeWhile inRun) with
  | [] => none
  | digits => some (digits, text.dropWhile inRun)

/-! ## Integers -/

/-- The number that digits of a base stand for, if there are only such digits. -/
def magnitude? (base : Nat) (digits : List Char) : Option Nat :=
  if !digits.isEmpty && digits.all (isDigitOf base) then
    some (digits.foldl (fun value c => base * value + (JsonText.hexDigit? c).getD 0) 0)
  else none

/-- The integer that digits of a base stand for. -/
def integer (base : Nat) (negative : Bool) (digits : List Char) : Value :=
  match magnitude? base digits with
  | none => .unreadable
  | some magnitude =>
    let number : Int := if negative then -(magnitude : Int) else magnitude
    if IntegerBounds.isWide number then .integer number else .unreadable

/-- The base that a letter after a zero stands for. -/
def base? : Char → Option Nat
  | 'b' => some 2
  | 'o' => some 8
  | 'x' => some 16
  | _ => none

/-- The value of an integer after the letter of its base. -/
def basedInteger? (base : Nat) (text : List Char) : Option Value :=
  if underscoresFit (isDigitOf base) false text
      && (withoutUnderscores text).all (isDigitOf base) then
    some (integer base false (withoutUnderscores text))
  else none

/-- The value of a decimal integer after its sign. It starts with zero only if it is zero. -/
def decimalInteger? (sign : Option Bool) (text : List Char) : Option Value :=
  match text with
  | '0' :: _ :: _ => none
  | _ =>
    if underscoresFit (isDigitOf 16) sign.isSome text then
      some (integer 10 (sign.getD false) (withoutUnderscores text))
    else none

/-! ## Floats -/

/-- The float nearest to some digits times a power of ten; none if all floats are too small. -/
def nearestFloat? (digits : Nat) (exponent : Int) : Option Float :=
  let size : Int := (Nat.toDigits 10 digits).length + exponent
  if digits = 0 ∨ size < -400 then some 0
  else if 400 < size then none
  else
    let x := Float.ofScientific digits (decide (exponent < 0)) exponent.natAbs
    if x.isInf then none else some x

/-- The float of some digits times a power of ten, with its sign. -/
def float (sign : Option Bool) (digits : List Char) (exponent : Int) : Value :=
  match nearestFloat? (Nat.ofDigitChars 10 digits 0) exponent with
  | none => .unreadable
  | some x => .float (if sign = some true then -x else x)

/-- Reads the exponent of a float, zero if nothing is left. -/
def exponent? : List Char → Option Int
  | [] => some 0
  | e :: rest =>
    if e = 'e' ∨ e = 'E' then
      let (sign, rest) := splitSign rest
      match digitRun? rest with
      | some (digits, []) =>
        let number : Int := Nat.ofDigitChars 10 digits 0
        some (if sign = some true then -number else number)
      | _ => none
    else none

/-- The value of a float after its sign: digits with a fraction, an exponent or both. -/
def float? (sign : Option Bool) (text : List Char) : Option Value :=
  if underscoresFit Char.isDigit sign.isSome text then
    match digitRun? text with
    | none => none
    | some (whole, rest) =>
      if text.head? = some '0' ∧ 1 < whole.length then none
      else
        match rest with
        | '.' :: rest => do
          let (fraction, rest) ← digitRun? rest
          let exponent ← exponent? rest
          some (float sign (whole ++ fraction) (exponent - fraction.length))
        | rest => (exponent? rest).map (float sign whole)
  else none

/-! ## Scalars -/

/-- Whether a character makes a number a float. -/
def isFloatMark (c : Char) : Bool := c == '.' || c == 'e' || c == 'E'

/-- The value of a decimal number after its sign. -/
def decimal? (sign : Option Bool) (text : List Char) : Option Value :=
  let rest := text.dropWhile Char.isDigit
  if rest.any isFloatMark then float? sign text
  else
    match rest with
    | [] | '_' :: _ => decimalInteger? sign text
    | _ => none

/-- The value of a number after its sign. Only a number without a sign may name its base. -/
def number? (sign : Option Bool) (text : List Char) : Option Value :=
  match text with
  | 'i' :: _ =>
    if text = ['i', 'n', 'f'] then some (.float (if sign = some true then -(1 / 0) else 1 / 0))
    else none
  | 'n' :: _ => if text = ['n', 'a', 'n'] then some (.float (0 / 0)) else none
  | '0' :: letter :: rest =>
    match base? letter, sign with
    | some base, none => basedInteger? base rest
    | some _, some _ => none
    | none, _ => decimal? sign text
  | c :: _ => if c.isDigit || c == '_' then decimal? sign text else none
  | [] => none

/-- The value of a scalar without quotes; none if a run has the form of no scalar. -/
def read? (text : List Char) : Option Value :=
  if text = ['t', 'r', 'u', 'e'] then some (.boolean true)
  else if text = ['f', 'a', 'l', 's', 'e'] then some (.boolean false)
  else if CalendarText.isInstant text then some .instant
  else
    let (sign, rest) := splitSign text
    number? sign rest

end PilotLamp.BareScalar
