import PilotLamp.IntegerBounds
import PilotLamp.Value

/-!
# Reading JSON text

A whole text is one value with blanks around it. Integers that fit into 64 bits stay exact;
all other numbers become floats, by scaling a 64 bit significand with a power of ten. Of two
members with one key the later counts.
-/

namespace PilotLamp.JsonText

/-- The characters that may stand between tokens. -/
def isBlank (c : Char) : Bool := c == ' ' || c == '\n' || c == '\t' || c == '\r'

/-- Skips blanks. -/
def skipBlanks (text : List Char) : List Char := text.dropWhile isBlank

/-- The value of a hexadecimal digit. -/
def hexDigit? (c : Char) : Option Nat :=
  if '0' ≤ c ∧ c ≤ '9' then some (c.toNat - '0'.toNat)
  else if 'a' ≤ c ∧ c ≤ 'f' then some (c.toNat - 'a'.toNat + 10)
  else if 'A' ≤ c ∧ c ≤ 'F' then some (c.toNat - 'A'.toNat + 10)
  else none

/-- The number that a list of hexadecimal digits stands for. -/
def hexValue? (digits : List Char) : Option Nat :=
  digits.foldlM (fun value c => (hexDigit? c).map (16 * value + ·)) 0

/-- Reads the four digits of a code unit. -/
def codeUnit? (text : List Char) : Option (Nat × List Char) :=
  let digits := text.take 4
  if digits.length = 4 then (hexValue? digits).map (·, text.drop 4) else none

/-- The character of a code point that is one. -/
def charOf? (code : Nat) : Option Char := if code.isValidChar then some (Char.ofNat code) else none

/-- Reads what follows the `u` of an escape: a code unit, or a pair that makes one character. -/
def unicodeEscape? (text : List Char) : Option (Char × List Char) := do
  let (unit, rest) ← codeUnit? text
  if 0xD800 ≤ unit ∧ unit < 0xDC00 then
    match rest with
    | '\\' :: 'u' :: rest =>
      let (low, rest) ← codeUnit? rest
      if 0xDC00 ≤ low ∧ low < 0xE000 then
        let c ← charOf? (0x10000 + (unit - 0xD800) * 0x400 + (low - 0xDC00))
        some (c, rest)
      else none
    | _ => none
  else
    let c ← charOf? unit
    some (c, rest)

/-- The character of a one letter escape. -/
def letterEscape? : Char → Option Char
  | '"' => some '"'
  | '\\' => some '\\'
  | '/' => some '/'
  | 'b' => some '\x08'
  | 'f' => some '\x0c'
  | 'n' => some '\n'
  | 'r' => some '\r'
  | 't' => some '\t'
  | _ => none

/-- Reads the rest of a string after its opening quote. -/
def string? : Nat → List Char → List Char → Option (String × List Char)
  | 0, _, _ => none
  | fuel + 1, read, text =>
    match text with
    | '"' :: rest => some (String.ofList read.reverse, rest)
    | '\\' :: 'u' :: rest => do
      let (c, rest) ← unicodeEscape? rest
      string? fuel (c :: read) rest
    | '\\' :: letter :: rest => do
      let c ← letterEscape? letter
      string? fuel (c :: read) rest
    | c :: rest => if c.toNat < 0x20 then none else string? fuel (c :: read) rest
    | [] => none

/-- Reads digits into a significand as long as it fits into 64 bits. Answers the significand,
how many digits went in, and how many more there were. -/
def significand : List Char → Nat → Nat × Nat × Nat
  | [], value => (value, 0, 0)
  | c :: rest, value =>
    let next := 10 * value + (c.toNat - '0'.toNat)
    if next < IntegerBounds.long then
      let (value, used, dropped) := significand rest next
      (value, used + 1, dropped)
    else (value, 0, rest.length + 1)

/-- A significand times a power of ten, as a float; none if it is too large for one. -/
def scale? : Nat → Float → Int → Option Float
  | 0, x, _ => some x
  | fuel + 1, x, exponent =>
    if exponent.natAbs ≤ 308 then
      let power := Float.ofScientific 1 false exponent.natAbs
      if 0 ≤ exponent then
        let product := x * power
        if product.isInf then none else some product
      else some (x / power)
    else if x == 0 then some x
    else if 0 ≤ exponent then none
    else scale? fuel (x / Float.ofScientific 1 false 308) (exponent + 308)

/-- Reads the exponent of a number, zero if there is none. -/
def exponent? (text : List Char) : Option (Int × List Char) :=
  let digits (negative : Bool) (text : List Char) : Option (Int × List Char) :=
    let digits := text.takeWhile Char.isDigit
    if digits.isEmpty then none
    else
      let value : Int := Nat.ofDigitChars 10 digits 0
      some (if negative then -value else value, text.dropWhile Char.isDigit)
  match text with
  | 'e' :: '-' :: rest | 'E' :: '-' :: rest => digits true rest
  | 'e' :: '+' :: rest | 'E' :: '+' :: rest => digits false rest
  | 'e' :: rest | 'E' :: rest => digits false rest
  | _ => some (0, text)

/-- The float of the digits before and after a point and an exponent. -/
def floatOf? (negative : Bool) (whole fraction : List Char) (exponent : Int) : Option Float := do
  let (value, _, dropped) := significand whole 0
  let (value, places, _) := significand fraction value
  let x ← scale? 4 value.toUInt64.toFloat (exponent + dropped - places)
  some (if negative then -x else x)

/-- The value of an integer: exact within 64 bits, a float beyond, and for a negative zero. -/
def integerOf? (negative : Bool) (digits : List Char) : Option Value :=
  let number := Nat.ofDigitChars 10 digits 0
  if negative then
    if 0 < number ∧ number ≤ IntegerBounds.signedLong then some (.integer (-(number : Int)))
    else (floatOf? true digits [] 0).map .float
  else if number < IntegerBounds.long then some (.integer number)
  else (floatOf? false digits [] 0).map .float

/-- Reads a number after its sign. -/
def unsigned? (negative : Bool) (text : List Char) : Option (Value × List Char) := do
  let whole := text.takeWhile Char.isDigit
  let rest := text.dropWhile Char.isDigit
  match whole with
  | [] => none
  | '0' :: _ :: _ => none
  | _ =>
    match rest with
    | '.' :: rest =>
      let fraction := rest.takeWhile Char.isDigit
      if fraction.isEmpty then none
      else
        let (exponent, rest) ← exponent? (rest.dropWhile Char.isDigit)
        let x ← floatOf? negative whole fraction exponent
        some (.float x, rest)
    | 'e' :: _ | 'E' :: _ =>
      let (exponent, rest) ← exponent? rest
      let x ← floatOf? negative whole [] exponent
      some (.float x, rest)
    | _ => (integerOf? negative whole).map (·, rest)

/-- Reads a number. -/
def number? : List Char → Option (Value × List Char)
  | '-' :: rest => unsigned? true rest
  | text => unsigned? false text

mutual

/-- Reads one value at the start of a text without leading blanks. -/
def value? : Nat → List Char → Option (Value × List Char)
  | 0, _ => none
  | fuel + 1, text =>
    match text with
    | 'n' :: 'u' :: 'l' :: 'l' :: rest => some (.null, rest)
    | 't' :: 'r' :: 'u' :: 'e' :: rest => some (.boolean true, rest)
    | 'f' :: 'a' :: 'l' :: 's' :: 'e' :: rest => some (.boolean false, rest)
    | '"' :: rest =>
      (string? (rest.length + 1) [] rest).map fun (text, rest) => (.string text, rest)
    | '[' :: rest =>
      match skipBlanks rest with
      | ']' :: rest => some (.array [], rest)
      | rest => items? fuel [] rest
    | '\x7b' :: rest =>
      match skipBlanks rest with
      | '\x7d' :: rest => some (.table [], rest)
      | rest => members? fuel [] rest
    | _ => number? text

/-- Reads the items of an array up to its closing bracket. -/
def items? : Nat → List Value → List Char → Option (Value × List Char)
  | 0, _, _ => none
  | fuel + 1, read, text => do
    let (item, rest) ← value? fuel text
    match skipBlanks rest with
    | ',' :: rest => items? fuel (item :: read) (skipBlanks rest)
    | ']' :: rest => some (.array (item :: read).reverse, rest)
    | _ => none

/-- Reads the members of an object up to its closing brace. -/
def members? : Nat → List (String × Value) → List Char → Option (Value × List Char)
  | 0, _, _ => none
  | fuel + 1, read, text =>
    match text with
    | '"' :: rest => do
      let (key, rest) ← string? (rest.length + 1) [] rest
      match skipBlanks rest with
      | ':' :: rest =>
        let (value, rest) ← value? fuel (skipBlanks rest)
        let read := Value.insertEntry key value read
        match skipBlanks rest with
        | ',' :: rest => members? fuel read (skipBlanks rest)
        | '\x7d' :: rest => some (.table read, rest)
        | _ => none
      | _ => none
    | _ => none

end

/-- Reads a whole text. -/
def read? (text : String) : Option Value := do
  let (value, rest) ← value? (text.length + 1) (skipBlanks text.toList)
  if (skipBlanks rest).isEmpty then some value else none

end PilotLamp.JsonText
