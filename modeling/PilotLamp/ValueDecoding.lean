import PilotLamp.FloatText
import PilotLamp.IntegerBounds
import PilotLamp.QuotedText
import PilotLamp.Value

/-!
# Settings out of values

A record of settings is read from a table, whose keys are taken in ascending order, or from an
array in the order of the fields. A field that is not given keeps its initial value. The first
mismatch ends the reading; it says what was found and what was expected. An entry that is ignored
may hold anything but a number that cannot be read, and an item past the fields anything at all.
-/

namespace PilotLamp

/-- Why a value is not a setting. -/
inductive Mismatch
  /-- The value is of another kind. -/
  | wrongKind (found : Value) (expected : String)
  /-- The integer is out of range. -/
  | outOfRange (number : Int) (expected : String)
  /-- The table has a key that is no field. -/
  | unknownKey (key : String) (fields : List String)
  /-- The array has more items than there are fields. -/
  | tooManyItems (length : Nat)
  /-- A number that no type holds stands where it is looked at. -/
  | unreadable

namespace Mismatch

/-- What a message calls a value. -/
def nameOf (layout : FloatLayout) : Value → String
  | .null => "null"
  | .boolean truth => "boolean `" ++ (if truth then "true" else "false") ++ "`"
  | .integer number => "integer `" ++ Int.repr number ++ "`"
  | .float number => "floating point `" ++ layout.text number ++ "`"
  | .string text => "string " ++ QuotedText.quote text
  | .array _ => "sequence"
  | .instant | .table _ => "map"
  | .unreadable => "number"

/-- The wording; numbers with a fraction follow the layout of the format that was read. -/
def message (layout : FloatLayout) : Mismatch → String
  | wrongKind found expected =>
    "invalid type: " ++ nameOf layout found ++ ", expected " ++ expected
  | outOfRange number expected =>
    "invalid value: integer `" ++ Int.repr number ++ "`, expected " ++ expected
  | unknownKey key fields =>
    "unknown field `" ++ key ++ "`, expected "
      ++ String.intercalate " or " (fields.map fun field => "`" ++ field ++ "`")
  | tooManyItems length =>
    "invalid length " ++ Nat.repr length ++ ", expected fewer elements in array"
  | unreadable => "number overflowed"

end Mismatch

/-- A range of integers from zero, with the name that messages use. -/
structure IntegerRange where
  /-- The name. -/
  name : String
  /-- The first integer past the range. -/
  bound : Nat
deriving DecidableEq, Repr

namespace IntegerRange

/-- Eight bits. -/
def byte : IntegerRange := ⟨"u8", IntegerBounds.byte⟩

/-- Thirty-two bits. -/
def word : IntegerRange := ⟨"u32", IntegerBounds.word⟩

/-- Reads an integer of the range. -/
def decode (range : IntegerRange) : Value → Except Mismatch Nat
  | .integer number =>
    if 0 ≤ number ∧ number < range.bound then .ok number.toNat
    else .error (.outOfRange number range.name)
  | .unreadable => .error .unreadable
  | value => .error (.wrongKind value range.name)

/-- Exactly the integers of a range are read, and as themselves. -/
theorem decode_eq_ok_iff {range : IntegerRange} {value : Value} {n : Nat} :
    range.decode value = .ok n ↔ value = .integer n ∧ n < range.bound := by
  cases value <;> simp only [decode, reduceCtorEq, false_and, Value.integer.injEq]
  case integer number =>
    split
    case isTrue h => simp only [Except.ok.injEq]; omega
    case isFalse h => simp only [reduceCtorEq, false_iff]; omega

end IntegerRange

/-- One field of a record of settings `σ`. -/
structure Field (σ : Type) where
  /-- Its key. -/
  key : String
  /-- Reads a value into the field. -/
  assign : Value → σ → Except Mismatch σ

/-- How a record of settings is read. -/
structure RecordFormat (σ : Type) where
  /-- The name that messages use. -/
  name : String
  /-- The fields in the order in which an array holds them. -/
  fields : List (Field σ)
  /-- Whether keys that are no field are refused rather than ignored. -/
  refusesUnknownKeys : Bool

namespace RecordFormat

variable {σ : Type} (format : RecordFormat σ)

/-- Reads one entry of a table. -/
def assignEntry (record : σ) (entry : String × Value) : Except Mismatch σ :=
  match format.fields.find? fun field => field.key == entry.1 with
  | some field => field.assign entry.2 record
  | none =>
    if format.refusesUnknownKeys then .error (.unknownKey entry.1 (format.fields.map Field.key))
    else if entry.2.isReadable then .ok record
    else .error .unreadable

/-- Reads items in the order of the fields, as far as both go. -/
def assignItems : List (Field σ) → List Value → σ → Except Mismatch σ
  | field :: fields, item :: items, record =>
    match field.assign item record with
    | .ok record => assignItems fields items record
    | .error mismatch => .error mismatch
  | _, _, record => .ok record

/-- Reads a record out of a value. Items that no field takes are refused where a format
says so. -/
def decode (refusesSurplus : Bool) (initial : σ) : Value → Except Mismatch σ
  | .table entries => (Value.sortedEntries entries).foldlM format.assignEntry initial
  | .array items =>
    match assignItems format.fields items initial with
    | .ok record =>
      if refusesSurplus && format.fields.length < items.length then
        .error (.tooManyItems items.length)
      else .ok record
    | .error mismatch => .error mismatch
  | .instant => .ok initial
  | .unreadable => .error .unreadable
  | value => .error (.wrongKind value ("struct " ++ format.name))

end RecordFormat

end PilotLamp
