/-!
# Dates and times as text

The forms that a configuration may hold: a date, a time of day, or both with an optional offset.
Seconds may be left out. Days follow the Gregorian calendar.
-/

namespace PilotLamp.CalendarText

/-- Reads a number of exactly so many digits. -/
def number? (count : Nat) (text : List Char) : Option (Nat × List Char) :=
  let digits := text.take count
  if digits.length = count && digits.all Char.isDigit then
    some (Nat.ofDigitChars 10 digits 0, text.drop count)
  else none

/-- Whether February of a year has 29 days. -/
def isLeap (year : Nat) : Bool := year % 4 == 0 && (year % 100 != 0 || year % 400 == 0)

/-- The number of days of a month. -/
def daysIn (year month : Nat) : Nat :=
  if month = 2 then if isLeap year then 29 else 28
  else if month = 4 ∨ month = 6 ∨ month = 9 ∨ month = 11 then 30
  else 31

/-- Reads a date and answers the rest. -/
def date? (text : List Char) : Option (List Char) := do
  let (year, rest) ← number? 4 text
  match rest with
  | '-' :: rest =>
    let (month, rest) ← number? 2 rest
    match rest with
    | '-' :: rest =>
      let (day, rest) ← number? 2 rest
      if 1 ≤ month ∧ month ≤ 12 ∧ 1 ≤ day ∧ day ≤ daysIn year month then some rest else none
    | _ => none
  | _ => none

/-- Reads hours and minutes and answers the rest. -/
def hourMinute? (text : List Char) : Option (List Char) := do
  let (hour, rest) ← number? 2 text
  match rest with
  | ':' :: rest =>
    let (minute, rest) ← number? 2 rest
    if hour < 24 ∧ minute < 60 then some rest else none
  | _ => none

/-- Reads a time of day and answers the rest. A minute may have a leap second. -/
def time? (text : List Char) : Option (List Char) := do
  let rest ← hourMinute? text
  match rest with
  | ':' :: rest =>
    let (second, rest) ← number? 2 rest
    if 60 < second then none
    else
      match rest with
      | '.' :: rest =>
        if (rest.takeWhile Char.isDigit).isEmpty then none
        else some (rest.dropWhile Char.isDigit)
      | rest => some rest
  | rest => some rest

/-- Whether a text is an offset from universal time, or nothing. -/
def isOffset : List Char → Bool
  | [] => true
  | ['Z'] | ['z'] => true
  | '+' :: rest | '-' :: rest => hourMinute? rest == some []
  | _ => false

/-- Whether a text is a date, a time of day, or both. -/
def isInstant (text : List Char) : Bool :=
  match date? text with
  | some [] => true
  | some ('T' :: rest) | some ('t' :: rest) | some (' ' :: rest) =>
    match time? rest with
    | some rest => isOffset rest
    | none => false
  | some _ => false
  | none => time? text == some []

/-- Whether a text is a date alone. -/
def isDate (text : List Char) : Bool := date? text == some []

end PilotLamp.CalendarText
