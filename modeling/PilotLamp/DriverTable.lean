import PilotLamp.LineTable

/-!
# Output drivers held per pin

Targets with a driver object per pin keep those objects here, beside the line table. A driver is
kept only once it has driven its line low; the state of the line is checked before a driver is
touched, and the tracked level changes only after the driver succeeded. A driver that is given
up is handed to `release`.
-/

namespace PilotLamp

/-- Why an operation on a driver table fails; `ε` is what the drivers themselves answer. -/
inductive DriveFault (ε : Type)
  /-- The operation is refused and no driver was touched. -/
  | refused (cause : PinError)
  /-- The driver of a pin failed. -/
  | driver (pin : Pin) (cause : ε)
deriving DecidableEq, Repr

/-- The pin error that a fault amounts to: a driver that fails has rejected its pin. -/
def DriveFault.toPinError {ε : Type} : DriveFault ε → PinError
  | refused cause => cause
  | driver pin _ => .rejected pin

/-- What can be done with a driver `δ` in a world `ω`. -/
structure DriverActions (δ ε ω : Type) where
  /-- Drives the line of a driver. -/
  drive : δ → Level → ω → Except ε Unit × ω
  /-- Gives a driver up. -/
  release : δ → ω → ω

/-- Drivers for the pins below `n`, with the logical state of their lines. -/
structure DriverTable (δ : Type) (n : Nat) where
  /-- The driver held for each pin. -/
  drivers : Vector (Option δ) n
  /-- The state of the lines. -/
  lines : LineTable
  /-- Every pin of the table has a line. -/
  fits : n ≤ LineTable.capacity

namespace DriverTable

variable {δ ε ω : Type} {n : Nat}

/-- The table that holds no driver. -/
def empty (fits : n ≤ LineTable.capacity) : DriverTable δ n :=
  ⟨Vector.replicate n none, .empty, fits⟩

/-- The driver held for a pin. -/
def driver? (table : DriverTable δ n) (pin : Pin) : Option δ :=
  if h : pin.index < n then table.drivers[pin.index] else none

/-- The level of a configured pin. -/
def level (table : DriverTable δ n) (pin : Pin) : Option Level := table.lines.level pin

/-- Notes that a pin was configured. -/
def markConfigured (table : DriverTable δ n) (pin : Pin) (world : ω) :
    Except (DriveFault ε) Unit × DriverTable δ n × ω :=
  match table.lines.configure pin with
  | .ok lines => (.ok (), { table with lines }, world)
  | .error cause => (.error (.refused cause), table, world)

/-- Configures a pin: a driver already held is driven low again, else one is claimed, driven low
and kept. A fresh driver that cannot be driven is given up, and the table stays as it was. -/
def configure (actions : DriverActions δ ε ω) (claim : Pin → ω → Except (DriveFault ε) δ × ω)
    (pin : Pin) (table : DriverTable δ n) (world : ω) :
    Except (DriveFault ε) Unit × DriverTable δ n × ω :=
  if h : pin.index < n then
    match table.drivers[pin.index] with
    | some driver =>
      match actions.drive driver .deasserted world with
      | (.ok (), world) => table.markConfigured pin world
      | (.error cause, world) => (.error (.driver pin cause), table, world)
    | none =>
      match claim pin world with
      | (.error fault, world) => (.error fault, table, world)
      | (.ok driver, world) =>
        match actions.drive driver .deasserted world with
        | (.ok (), world) =>
          { table with drivers := table.drivers.set pin.index (some driver) }.markConfigured
            pin world
        | (.error cause, world) =>
          (.error (.driver pin cause), table, actions.release driver world)
  else (.error (.refused (.noSuchPin pin.index)), table, world)

/-- Drives a configured pin and tells whether its level changed. -/
def write (actions : DriverActions δ ε ω) (pin : Pin) (level : Level) (table : DriverTable δ n)
    (world : ω) : Except (DriveFault ε) Bool × DriverTable δ n × ω :=
  if table.lines.isConfigured pin then
    match table.driver? pin with
    | none => (.error (.refused (.notConfigured pin)), table, world)
    | some driver =>
      match actions.drive driver level world with
      | (.error cause, world) => (.error (.driver pin cause), table, world)
      | (.ok (), world) =>
        match table.lines.set pin level with
        | .ok (changed, lines) => (.ok changed, { table with lines }, world)
        | .error cause => (.error (.refused cause), table, world)
  else (.error (.refused (.notConfigured pin)), table, world)

/-- Gives up every driver, in ascending order of pins. -/
def releaseAll (actions : DriverActions δ ε ω) (table : DriverTable δ n) (world : ω) : ω :=
  table.drivers.toList.foldl
    (fun world slot => match slot with
      | some driver => actions.release driver world
      | none => world)
    world

/-- No driver is held at first. -/
theorem driver?_empty (fits : n ≤ LineTable.capacity) (pin : Pin) :
    (empty (δ := δ) fits).driver? pin = none := by
  unfold driver?
  split <;> simp [empty]

end DriverTable

end PilotLamp
