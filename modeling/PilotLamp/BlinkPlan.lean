import PilotLamp.Pin

/-!
# What to blink and how fast

A blink plan names an indicator pin and the time spent in each state. Every supported board has
a plan of its own, and the plan of the simulated board is the default.
-/

namespace PilotLamp

/-- The boards that have a plan. -/
inductive Board
  /-- The simulation on a host. -/
  | simulation
  /-- A Raspberry Pi Pico with its on-board LED. -/
  | pico
  /-- An ESP32 development kit with its on-board LED. -/
  | esp32DevKit
  /-- An STM32F4 Discovery with its green LED. -/
  | stm32f4Discovery
deriving DecidableEq, Repr

namespace Board

/-- Every board. -/
def all : List Board := [simulation, pico, esp32DevKit, stm32f4Discovery]

/-- The pin of the indicator. -/
def indicatorPin : Board → Pin
  | simulation => .ofNat 12
  | pico => .ofNat 25
  | esp32DevKit => .ofNat 2
  | stm32f4Discovery => .ofNat 12

/-- The name shown to people. -/
def name : Board → String
  | simulation => "simulation"
  | pico => "pico"
  | esp32DevKit => "esp32-devkit"
  | stm32f4Discovery => "stm32f4-discovery"

/-- The name in configuration data. -/
def key : Board → String
  | simulation => "simulation"
  | pico => "pico"
  | esp32DevKit => "esp32-dev-kit"
  | stm32f4Discovery => "stm32f4-discovery"

/-- The board of a name in configuration data. -/
def ofKey? (key : String) : Option Board := all.find? fun board => board.key == key

/-- Says that a name in configuration data is no board's. -/
def unknownKeyMessage (key : String) : String :=
  "unknown variant `" ++ key ++ "`, expected one of "
    ++ String.intercalate ", " (all.map fun board => "`" ++ board.key ++ "`")

end Board

/-- Which pin blinks, and how long it stays in each state. -/
structure BlinkPlan where
  /-- The pin of the indicator. -/
  pin : Pin
  /-- Milliseconds spent on, and then off. -/
  periodMs : UInt32
deriving DecidableEq, Repr

namespace BlinkPlan

/-- Half a second on and half a second off. -/
def defaultPeriodMs : UInt32 := 500

/-- The plan of a board. -/
def forBoard (board : Board) : BlinkPlan := ⟨board.indicatorPin, defaultPeriodMs⟩

/-- The plan of the simulated board. -/
def standard : BlinkPlan := forBoard .simulation

/-- The plan with another pin. -/
def withPin (plan : BlinkPlan) (pin : Pin) : BlinkPlan := { plan with pin }

/-- The plan with another period. -/
def withPeriod (plan : BlinkPlan) (periodMs : UInt32) : BlinkPlan := { plan with periodMs }

/-- Milliseconds that one cycle takes. -/
def cycleMs (plan : BlinkPlan) : UInt64 := plan.periodMs.toUInt64 * 2

/-- A cycle takes two periods, whatever the period. -/
theorem toNat_cycleMs (plan : BlinkPlan) : plan.cycleMs.toNat = 2 * plan.periodMs.toNat := by
  have := plan.periodMs.toNat_lt
  simp only [cycleMs, UInt64.toNat_mul, UInt32.toNat_toUInt64]
  show plan.periodMs.toNat * 2 % 2 ^ 64 = _
  omega

end BlinkPlan

end PilotLamp
