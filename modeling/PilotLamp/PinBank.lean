import PilotLamp.Pin

/-!
# A bank of pins that are handed out once

The bank holds thirty pins. A pin is taken from it at most once and never returned; pins that a
board needs for itself are reserved and stay in the bank.
-/

namespace PilotLamp

/-- Why a bank does not hand a pin out. -/
inductive PinBankError
  /-- The bank never had the pin. -/
  | noSuchPin
  /-- The pin was handed out before. -/
  | alreadyTaken
  /-- The pin is reserved. -/
  | reserved
deriving DecidableEq, Repr

/-- Which pins are still there, and which are reserved. -/
structure PinBank where
  /-- Bit `n` is set while pin `n` is in the bank. -/
  present : BitVec 30
  /-- Bit `n` is set once pin `n` is reserved. -/
  reserved : BitVec 30
deriving DecidableEq, Repr

namespace PinBank

/-- The number of pins of a bank. -/
def size : Nat := 30

/-- The mask that selects one pin, empty for a pin that no bank has. -/
def bit (pin : Pin) : BitVec 30 := BitVec.twoPow 30 pin.index

/-- A bank with all its pins, none of them reserved. -/
def full : PinBank := ⟨BitVec.allOnes 30, 0⟩

/-- The pins that a Raspberry Pi Pico needs for itself. -/
def picoReserved : List Pin := [.ofNat 23, .ofNat 24, .ofNat 29]

/-- Reserves pins; numbers past the bank are ignored. -/
def reserve (bank : PinBank) (pins : List Pin) : PinBank :=
  { bank with reserved := pins.foldl (fun mask pin => mask ||| bit pin) bank.reserved }

/-- Whether a pin is reserved. -/
def isReserved (bank : PinBank) (pin : Pin) : Bool := bank.reserved.getLsbD pin.index

/-- Whether a pin is in the bank. -/
def has (bank : PinBank) (pin : Pin) : Bool := bank.present.getLsbD pin.index

/-- Takes a pin out of the bank. -/
def take (bank : PinBank) (pin : Pin) : Except PinBankError PinBank :=
  if pin.index < size then
    if bank.isReserved pin then .error .reserved
    else if bank.has pin then .ok { bank with present := bank.present &&& ~~~bit pin }
    else .error .alreadyTaken
  else .error .noSuchPin

/-- The reserved pins, ascending. -/
def reservedPins (bank : PinBank) : List Pin := Pin.all.filter bank.isReserved

/-- Reserving adds the pins of the list that the bank has. -/
theorem isReserved_reserve (bank : PinBank) (pins : List Pin) (pin : Pin) :
    (bank.reserve pins).isReserved pin
      = (bank.isReserved pin || (decide (pin ∈ pins) && decide (pin.index < size))) := by
  unfold reserve isReserved
  dsimp only
  generalize bank.reserved = mask
  induction pins generalizing mask with
  | nil => simp
  | cons first rest ih =>
    rw [List.foldl_cons, ih, BitVec.getLsbD_or]
    have hbit : (bit first).getLsbD pin.index
        = (decide (pin = first) && decide (pin.index < size)) := by
      unfold bit
      rw [BitVec.getLsbD_twoPow]
      by_cases hp : pin = first
      · subst hp; simp [size]; rfl
      · have hne : first.index ≠ pin.index := fun e => hp (Pin.ext_index e.symm)
        simp [hp, hne]
    rw [hbit]
    by_cases hp : pin = first <;> by_cases hr : pin ∈ rest <;> simp [hp, hr] <;>
      cases mask.getLsbD first.index <;> simp

end PinBank

end PilotLamp
