import PilotLamp.BlinkPlan
import PilotLamp.JsonText
import PilotLamp.ValueDecoding

/-!
# Blink plans as data

A blink plan is a record with two fields. It is written as one line of JSON and read from any
value that holds a table or an array of its fields.
-/

namespace PilotLamp.BlinkPlan

/-- The field that holds a pin. -/
def pinField : Field BlinkPlan where
  key := "pin"
  assign value plan := (IntegerRange.byte.decode value).map fun n => plan.withPin (.ofNat n)

/-- The field that holds a period. -/
def periodField : Field BlinkPlan where
  key := "period_ms"
  assign value plan := (IntegerRange.word.decode value).map fun n => plan.withPeriod n.toUInt32

/-- A blink plan as a record. -/
def format : RecordFormat BlinkPlan := ⟨"BlinkConfig", [pinField, periodField], false⟩

/-- The plan as one line of JSON. -/
def json (plan : BlinkPlan) : String :=
  "\x7b\"pin\":" ++ plan.pin.text ++ ",\"period_ms\":" ++ Nat.repr plan.periodMs.toNat ++ "\x7d"

/-- Reads a plan out of a JSON value; what is not given is taken from the standard plan. -/
def ofJson (value : Value) : Except Mismatch BlinkPlan := format.decode true standard value

/-- Reads a plan out of JSON text; none if the text is no JSON. -/
def ofJsonText? (text : String) : Option (Except Mismatch BlinkPlan) :=
  (JsonText.read? text).map ofJson

end PilotLamp.BlinkPlan
