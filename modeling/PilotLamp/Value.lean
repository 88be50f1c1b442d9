/-!
# Values of configuration data

The data that the text formats hold: scalars, arrays and tables. A table has its entries in some
order, each key once.
-/

namespace PilotLamp

/-- A value read from configuration text. -/
inductive Value
  /-- No value. -/
  | null
  /-- A truth value. -/
  | boolean (truth : Bool)
  /-- An integer. -/
  | integer (number : Int)
  /-- A floating point number. -/
  | float (number : Float)
  /-- A text. -/
  | string (text : String)
  /-- A date, a time or both. No setting takes one, so only its presence is kept. -/
  | instant
  /-- A number that no type of numbers holds. It may stand where nobody looks at it. -/
  | unreadable
  /-- A sequence of values. -/
  | array (items : List Value)
  /-- Values under keys. -/
  | table (entries : List (String × Value))
deriving Inhabited, Repr

namespace Value

/-- The value under a key of a table. -/
def get? (value : Value) (key : String) : Option Value :=
  match value with
  | table entries => entries.lookup key
  | _ => none

mutual

/-- Whether all numbers in a value can be read and the integers among them satisfy a
condition. -/
def allIntegers (condition : Int → Bool) : Value → Bool
  | integer number => condition number
  | unreadable => false
  | array items => itemsAllIntegers condition items
  | table entries => entriesAllIntegers condition entries
  | null | boolean _ | float _ | string _ | instant => true

/-- Whether some values satisfy `allIntegers`. -/
def itemsAllIntegers (condition : Int → Bool) : List Value → Bool
  | [] => true
  | item :: rest => item.allIntegers condition && itemsAllIntegers condition rest

/-- Whether the values of some entries satisfy `allIntegers`. -/
def entriesAllIntegers (condition : Int → Bool) : List (String × Value) → Bool
  | [] => true
  | (_, value) :: rest => value.allIntegers condition && entriesAllIntegers condition rest

end

/-- Whether all numbers in a value can be read. -/
def isReadable (value : Value) : Bool := value.allIntegers fun _ => true

/-- Adds an entry to the entries of a table, in place of one with the same key. -/
def insertEntry (key : String) (value : Value) : List (String × Value) → List (String × Value)
  | [] => [(key, value)]
  | (other, old) :: rest =>
    if other = key then (key, value) :: rest else (other, old) :: insertEntry key value rest

/-- Adds an entry to entries in ascending order of their keys, before those with larger keys. -/
def insertSorted (entry : String × Value) : List (String × Value) → List (String × Value)
  | [] => [entry]
  | other :: rest =>
    if entry.1 < other.1 then entry :: other :: rest else other :: insertSorted entry rest

/-- The entries of a table in ascending order of their keys. -/
def sortedEntries (entries : List (String × Value)) : List (String × Value) :=
  entries.foldl (fun sorted entry => insertSorted entry sorted) []

end Value

end PilotLamp
