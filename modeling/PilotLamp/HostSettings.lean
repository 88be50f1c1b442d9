import PilotLamp.BlinkSettings
import PilotLamp.TomlText

/-!
# Settings of the host program

The settings are a blink plan and a number of simulated slots. They are read from a TOML document
with a table for each of the two and no other key at its top.
-/

namespace PilotLamp

/-- How the simulation is set up. -/
structure SimulationSettings where
  /-- The number of simulated slots that is asked for. -/
  slots : UInt8
deriving DecidableEq, Repr

namespace SimulationSettings

/-- As many slots as there are lines. -/
def standard : SimulationSettings := ⟨64⟩

/-- The field that holds the number of slots. -/
def slotsField : Field SimulationSettings where
  key := "slots"
  assign value settings :=
    (IntegerRange.byte.decode value).map fun n => { settings with slots := n.toUInt8 }

/-- The settings of a simulation as a record. -/
def format : RecordFormat SimulationSettings := ⟨"SimulationConfig", [slotsField], false⟩

end SimulationSettings

/-- What the host program is told. -/
structure HostSettings where
  /-- What blinks and how fast. -/
  blink : BlinkPlan
  /-- How the simulation is set up. -/
  simulation : SimulationSettings
deriving DecidableEq, Repr

/-- Why a text holds no settings. -/
inductive SettingsError
  /-- The text is no TOML document. -/
  | syntaxError
  /-- A value of the document is no setting. -/
  | mismatch (cause : Mismatch)

namespace SettingsError

/-- What the message of any such error says first. -/
def headline : String := "invalid configuration"

/-- The wording of the cause. -/
def cause : SettingsError → String
  | syntaxError => "syntax"
  | mismatch cause => cause.message .plain

end SettingsError

namespace HostSettings

/-- The settings that hold where nothing is given. -/
def standard : HostSettings := ⟨.standard, .standard⟩

/-- The field that holds a blink plan. A table in it starts from the standard plan. -/
def blinkField : Field HostSettings where
  key := "blink"
  assign value settings :=
    (BlinkPlan.format.decode false .standard value).map fun blink => { settings with blink }

/-- The field that holds the set-up of the simulation. -/
def simulationField : Field HostSettings where
  key := "simulation"
  assign value settings :=
    (SimulationSettings.format.decode false .standard value).map fun simulation =>
      { settings with simulation }

/-- The settings as a record. -/
def format : RecordFormat HostSettings := ⟨"HostConfig", [blinkField, simulationField], true⟩

/-- Reads settings out of the table of a document. -/
def ofValue (value : Value) : Except Mismatch HostSettings := format.decode false standard value

/-- What is wrong with a document that holds no settings: a document with a number that cannot be
read or an integer past 64 bits is no TOML, whatever else is wrong. -/
def blame (document : Value) (mismatch : Mismatch) : SettingsError :=
  if document.allIntegers IntegerBounds.isSignedLong then .mismatch mismatch else .syntaxError

/-- Reads settings out of the text of a document. -/
def ofToml (text : String) : Except SettingsError HostSettings :=
  match TomlText.read? text with
  | none => .error .syntaxError
  | some document => (ofValue document).mapError (blame document)

/-- The settings as the text of a document. -/
def toToml (settings : HostSettings) : String :=
  "[blink]\npin = " ++ settings.blink.pin.text
    ++ "\nperiod_ms = " ++ Nat.repr settings.blink.periodMs.toNat
    ++ "\n\n[simulation]\nslots = " ++ Nat.repr settings.simulation.slots.toNat ++ "\n"

end HostSettings

end PilotLamp
