import PilotLamp.Indicator

/-!
# One backend behind entry points that may overlap

A slot holds the only backend, built on first use. A wait checks the backend out and gives it
back when it ends; pin calls made meanwhile find the pin unavailable and never build a second
backend. A wait that overlaps another is timed on a backend of its own that is thrown away.
Checking out and giving back are single steps, so any interleaving is a sequence of the
operations here.
-/

namespace PilotLamp

/-- What the slot holds. -/
inductive Slot (β : Type)
  /-- Nothing was called yet. -/
  | empty
  /-- The backend. -/
  | ready (backend : β)
  /-- A wait has the backend. -/
  | checkedOut
deriving DecidableEq, Repr

/-- A backend that a wait works on. -/
structure CheckOut (β : Type) where
  /-- The backend. -/
  backend : β
  /-- Whether it is the backend of the slot and is given back. -/
  owned : Bool

namespace SharedIndicator

variable {β ω : Type} (indicator : Indicator (β × ω)) (build : ω → β × ω)

/-- The milliseconds that a caller with signed integers asks for: less than none is none. -/
def durationOfRaw (raw : Int32) : UInt32 := if raw < 0 then 0 else raw.toUInt32

/-- Carries out a pin operation on the backend of the slot, building it first if need be. A
number that is no pin is reported to the backend. -/
def onPin (operation : Pin → β × ω → Except PinError Unit × β × ω) (raw : Int32)
    (slot : Slot β) (world : ω) : Except PinError Unit × Slot β × ω :=
  let onBackend (backend : β) (world : ω) : Except PinError Unit × Slot β × ω :=
    match Pin.ofRaw raw with
    | .ok pin =>
      let (result, backend, world) := operation pin (backend, world)
      (result, .ready backend, world)
    | .error error =>
      let (backend, world) := indicator.report error (backend, world)
      (.error error, .ready backend, world)
  match slot with
  | .empty =>
    let (backend, world) := build world
    onBackend backend world
  | .ready backend => onBackend backend world
  | .checkedOut =>
    match Pin.ofRaw raw with
    | .ok pin => (.error (.unavailable pin), .checkedOut, world)
    | .error error => (.error error, .checkedOut, world)

/-- Configures a pin. -/
def configure (raw : Int32) : Slot β → ω → Except PinError Unit × Slot β × ω :=
  onPin indicator build indicator.configure raw

/-- Drives a pin; any number but zero asserts it. -/
def write (raw rawLevel : Int32) : Slot β → ω → Except PinError Unit × Slot β × ω :=
  onPin indicator build (fun pin => indicator.write pin (.ofRaw rawLevel)) raw

/-- Begins a wait: takes the backend out of the slot, or builds one. -/
def checkOut (slot : Slot β) (world : ω) : CheckOut β × Slot β × ω :=
  match slot with
  | .ready backend => (⟨backend, true⟩, .checkedOut, world)
  | .empty =>
    let (backend, world) := build world
    (⟨backend, true⟩, .checkedOut, world)
  | .checkedOut =>
    let (backend, world) := build world
    (⟨backend, false⟩, .checkedOut, world)

/-- Ends a wait: puts a backend that belongs to the slot back, and throws another away. -/
def giveBack (discard : β → ω → ω) (out : CheckOut β) (slot : Slot β) (world : ω) :
    Slot β × ω :=
  match out.owned, slot with
  | true, .checkedOut => (.ready out.backend, world)
  | _, slot => (slot, discard out.backend world)

/-- A whole wait that nothing overlaps. -/
def delay (discard : β → ω → ω) (raw : Int32) (slot : Slot β) (world : ω) : Slot β × ω :=
  let (out, slot, world) := checkOut build slot world
  let (backend, world) := indicator.delay (durationOfRaw raw) (out.backend, world)
  giveBack discard { out with backend } slot world

/-- Looks at the backend if it is in the slot. -/
def inspect {α : Type} (look : β → α) : Slot β → Option α
  | .ready backend => some (look backend)
  | .empty | .checkedOut => none

end SharedIndicator

end PilotLamp
