/-!
# Pins, levels and pin errors

A pin is one of 256 numbers and a level is one of two. The four causes for which a pin
operation is refused carry the number they are about; their wording is fixed here. Which pins
a target has is decided by the target.
-/

namespace PilotLamp

/-- A pin number, interpreted by the target that it is handed to. -/
structure Pin where
  /-- The number itself. -/
  number : UInt8
deriving DecidableEq, Repr, Inhabited

namespace Pin

/-- The number as a natural, for ranges and bit positions. -/
def index (pin : Pin) : Nat := pin.number.toNat

theorem index_lt (pin : Pin) : pin.index < 256 := pin.number.toNat_lt

theorem ext_index {p q : Pin} (h : p.index = q.index) : p = q := by
  cases p; cases q; simpa [index, UInt8.toNat_inj] using h

/-- The pin with a number below 256. -/
def ofNat (n : Nat) : Pin := ⟨n.toUInt8⟩

theorem index_ofNat {n : Nat} (h : n < 256) : (ofNat n).index = n := by
  simp [ofNat, index, Nat.mod_eq_of_lt h]

theorem ofNat_index (pin : Pin) : ofNat pin.index = pin := ext_index (index_ofNat pin.index_lt)

/-- Every pin, in ascending order. -/
def all : List Pin := (List.range 256).map ofNat

/-- The number in decimal. -/
def text (pin : Pin) : String := Nat.repr pin.index

end Pin

/-- The two states of an indicator line. -/
inductive Level
  /-- The line is low and the indicator dark. -/
  | deasserted
  /-- The line is high and the indicator lit. -/
  | asserted
deriving DecidableEq, Repr, Inhabited

namespace Level

/-- Any number but zero asserts a line. -/
def ofRaw (raw : Int32) : Level := if raw = 0 then deasserted else asserted

/-- The level that a condition asks for. -/
def ofBool (lit : Bool) : Level := if lit then asserted else deasserted

/-- Whether the line is asserted. -/
def isAsserted : Level → Bool
  | deasserted => false
  | asserted => true

theorem isAsserted_ofBool (lit : Bool) : (ofBool lit).isAsserted = lit := by cases lit <;> rfl

theorem ofBool_isAsserted (level : Level) : ofBool level.isAsserted = level := by
  cases level <;> rfl

/-- The word that traces use. -/
def text : Level → String
  | deasserted => "OFF"
  | asserted => "ON"

end Level

/-- Why a pin operation is refused. -/
inductive PinError
  /-- The target has no pin of that number, which may lie outside the pin range. -/
  | noSuchPin (number : Int)
  /-- The pin was written before it was configured. -/
  | notConfigured (pin : Pin)
  /-- The pin is reserved, or its owner is busy. -/
  | unavailable (pin : Pin)
  /-- The driver of the pin failed. -/
  | rejected (pin : Pin)
deriving DecidableEq, Repr

namespace PinError

/-- The number that the error is about. -/
def number : PinError → Int
  | noSuchPin number => number
  | notConfigured pin | unavailable pin | rejected pin => pin.index

/-- The wording, in the pieces that are written out one after the other. -/
def fragments : PinError → List String
  | noSuchPin number => ["pin ", Int.repr number, " does not exist on this target"]
  | notConfigured pin => ["pin ", pin.text, " has not been configured"]
  | unavailable pin => ["pin ", pin.text, " is reserved or already in use"]
  | rejected pin => ["driver rejected pin ", pin.text]

/-- The wording. -/
def message (error : PinError) : String := String.join error.fragments

end PinError

/-- Reads a pin number that comes from a caller with wider integers. -/
def Pin.ofRaw (raw : Int32) : Except PinError Pin :=
  if 0 ≤ raw.toInt ∧ raw.toInt < 256 then .ok (.ofNat raw.toInt.toNat)
  else .error (.noSuchPin raw.toInt)

end PilotLamp
