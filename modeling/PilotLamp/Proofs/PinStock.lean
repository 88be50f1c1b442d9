import PilotLamp.Proofs.DriverRules
import PilotLamp.Rp2040

/-!
# The stock of a pin bank

What taking a pin leaves in a bank, and how the bank and the drivers of an RP2040 backend stand to
each other: a pin that is not reserved is in the bank or has a driver, and a pin that is reserved
never has one. So the bank refuses a pin that is not configured only if it is reserved or not
there. The drivers of pins that other programs took are out of scope.
-/

namespace PilotLamp

namespace PinBank

variable {bank next : PinBank} {pin : Pin}

/-- The mask of a pin of the bank selects that pin alone. -/
theorem getLsbD_bit (inside : pin.index < size) (other : Pin) :
    (bit pin).getLsbD other.index = decide (other = pin) := by
  unfold bit
  rw [BitVec.getLsbD_twoPow]
  by_cases heq : other = pin
  · subst heq
    have hwidth : other.index < 30 := inside
    simp [hwidth]
  · have hne : pin.index ≠ other.index := fun h => heq (Pin.ext_index h.symm)
    simp [heq, hne]

/-- A bank is full of its pins. -/
theorem has_full (pin : Pin) : full.has pin = decide (pin.index < size) := by
  unfold has full
  rw [BitVec.getLsbD_allOnes]
  rfl

/-- A pin can be taken exactly if the bank has it and it is not reserved. -/
theorem take_isOk_iff :
    (∃ next, bank.take pin = .ok next) ↔
      pin.index < size ∧ bank.isReserved pin = false ∧ bank.has pin = true := by
  unfold take
  by_cases hin : pin.index < size
  · cases bank.isReserved pin <;> cases bank.has pin <;> simp [hin]
  · simp [hin]

/-- Taking a pin leaves the others in the bank. -/
theorem has_take (h : bank.take pin = .ok next) (other : Pin) :
    next.has other = (bank.has other && decide (other ≠ pin)) := by
  obtain ⟨inside, hreserved, hhas⟩ := take_isOk_iff.mp ⟨next, h⟩
  rw [take, if_pos inside, hreserved, hhas] at h
  cases h
  simp only [has, BitVec.getLsbD_and, BitVec.getLsbD_not, getLsbD_bit inside]
  by_cases hpresent : bank.present.getLsbD other.index
  · simp [BitVec.lt_of_getLsbD hpresent]
  · simp [hpresent]

/-- Taking a pin reserves none and frees none. -/
theorem isReserved_take (h : bank.take pin = .ok next) (other : Pin) :
    next.isReserved other = bank.isReserved other := by
  obtain ⟨inside, hreserved, hhas⟩ := take_isOk_iff.mp ⟨next, h⟩
  rw [take, if_pos inside, hreserved, hhas] at h
  cases h
  rfl

end PinBank

namespace Rp2040

open DriverTable (Configures Writes)

/-- How the bank and the drivers of a backend stand to each other when some pins are reserved. -/
structure Stocked (reserved : List Pin) (bank : PinBank) (drivers : DriverTable Pin PinBank.size) :
    Prop where
  /-- A driver is held for exactly the pins that have a level. -/
  paired : drivers.Paired
  /-- The pins that are reserved stay reserved. -/
  reserved_iff : ∀ pin : Pin, pin.index < PinBank.size →
    bank.isReserved pin = decide (pin ∈ reserved)
  /-- A pin that is not reserved is in the bank until it has a driver. -/
  stock : ∀ pin : Pin, pin.index < PinBank.size → pin ∉ reserved →
    bank.has pin = (drivers.driver? pin).isNone
  /-- A pin that is reserved has no driver. -/
  spared : ∀ pin ∈ reserved, drivers.driver? pin = none

section

variable {ω : Type} {platform : Rp2040Platform ω} {reserved : List Pin} {bank : PinBank}
  {drivers next : DriverTable Pin PinBank.size} {pin : Pin} {level : Level} {world : ω}
  {after : PinBank × ω}

theorem Stocked.fresh (reserved : List Pin) :
    Stocked reserved (PinBank.full.reserve reserved) (DriverTable.empty (by decide)) where
  paired := .empty _
  reserved_iff pin inside := by
    have hnone : PinBank.full.isReserved pin = false := by simp [PinBank.isReserved, PinBank.full]
    rw [PinBank.isReserved_reserve, hnone]
    simp [inside]
  stock pin inside _ := by
    have hfull : (PinBank.full.reserve reserved).has pin = PinBank.full.has pin := rfl
    rw [hfull, PinBank.has_full, DriverTable.driver?_empty]
    simp [inside]
  spared pin _ := DriverTable.driver?_empty _ pin

/-- What it means that a pin is claimed. -/
theorem take_of_claim {taken : Pin} (h : claim platform pin (bank, world) = (.ok taken, after)) :
    taken = pin ∧ bank.take pin = .ok after.1 := by
  unfold claim at h
  cases htake : bank.take pin with
  | error cause => simp [htake] at h
  | ok rest =>
    simp only [htake] at h
    cases h
    exact ⟨rfl, rfl⟩

/-- A claim that fails changes nothing, and is refused as the bank says. -/
theorem of_claim_error {fault : DriveFault Empty}
    (h : claim platform pin (bank, world) = (.error fault, after)) :
    after = (bank, world) ∧
      ∃ cause, bank.take pin = .error cause ∧ fault = .refused (refusal pin cause) := by
  unfold claim at h
  cases htake : bank.take pin with
  | error cause =>
    simp only [htake] at h
    cases h
    exact ⟨rfl, cause, rfl, rfl⟩
  | ok rest => simp [htake] at h

/-- Configuring keeps the stock. -/
theorem Stocked.of_configures {result : Except (DriveFault Empty) Unit}
    (h : Stocked reserved bank drivers)
    (rule : Configures (actions platform) (claim platform) pin drivers (bank, world) result next
      after) : Stocked reserved after.1 next := by
  have hpaired := h.paired.of_configures rule
  cases rule with
  | outside outside => exact h
  | drivenAgain held driven configured =>
    cases driven
    exact ⟨hpaired, h.reserved_iff, h.stock, h.spared⟩
  | failedAgain held failed => cases failed
  | unclaimed inside free failed =>
    obtain ⟨rfl, -⟩ := of_claim_error failed
    exact h
  | givenUp inside free claimed failed => cases failed
  | @kept taken lines between _ inside free claimed driven configured =>
    obtain ⟨-, htake⟩ := take_of_claim claimed
    obtain ⟨-, hunreserved, -⟩ := PinBank.take_isOk_iff.mp ⟨_, htake⟩
    have hbank : after.1 = between.1 := by cases driven; rfl
    rw [hbank]
    refine ⟨hpaired, ?_, ?_, ?_⟩
    · intro other hother
      rw [PinBank.isReserved_take htake]
      exact h.reserved_iff other hother
    · intro other hother hfree
      rw [PinBank.has_take htake, DriverTable.driver?_set drivers inside]
      by_cases heq : other = pin
      · simp [heq]
      · rw [if_neg heq, h.stock other hother hfree]
        simp [heq]
    · intro other hmem
      have hne : other ≠ pin := by
        rintro rfl
        rw [h.reserved_iff other inside, decide_eq_false_iff_not] at hunreserved
        exact hunreserved hmem
      rw [DriverTable.driver?_set drivers inside, if_neg hne]
      exact h.spared other hmem

/-- So does writing. -/
theorem Stocked.of_writes {result : Except (DriveFault Empty) Bool}
    (h : Stocked reserved bank drivers)
    (rule : Writes (actions platform) pin level drivers (bank, world) result next after) :
    Stocked reserved after.1 next := by
  have hpaired := h.paired.of_writes rule
  cases rule with
  | notConfigured notConfigured => exact h
  | missing configured free => exact h
  | failed configured held failed => cases failed
  | driven configured held driven set =>
    cases driven
    exact ⟨hpaired, h.reserved_iff, h.stock, h.spared⟩

/-- A pin can be configured exactly if it is one of the bank and not reserved. -/
theorem Stocked.configures_isOk_iff {result : Except (DriveFault Empty) Unit}
    (h : Stocked reserved bank drivers)
    (rule : Configures (actions platform) (claim platform) pin drivers (bank, world) result next
      after) : result = .ok () ↔ pin.index < PinBank.size ∧ pin ∉ reserved := by
  cases rule with
  | outside outside => simp [Nat.not_lt.mpr outside]
  | drivenAgain held driven configured =>
    refine iff_of_true rfl ⟨DriverTable.index_lt_of_driver? held, fun hmem => ?_⟩
    rw [h.spared pin hmem] at held
    cases held
  | failedAgain held failed => cases failed
  | unclaimed inside free failed =>
    -- The pin has no driver, so unless it is reserved the bank has it.
    refine iff_of_false nofun fun hvalid => ?_
    have hhas := h.stock pin inside hvalid.2
    rw [free] at hhas
    have hunreserved := h.reserved_iff pin inside
    rw [decide_eq_false hvalid.2] at hunreserved
    obtain ⟨rest, htaken⟩ := PinBank.take_isOk_iff.mpr ⟨inside, hunreserved, hhas⟩
    obtain ⟨-, cause, htake, -⟩ := of_claim_error failed
    rw [htake] at htaken
    cases htaken
  | kept inside free claimed driven configured =>
    obtain ⟨-, htake⟩ := take_of_claim claimed
    obtain ⟨-, hunreserved, -⟩ := PinBank.take_isOk_iff.mp ⟨_, htake⟩
    rw [h.reserved_iff pin inside, decide_eq_false_iff_not] at hunreserved
    exact iff_of_true rfl ⟨inside, hunreserved⟩
  | givenUp inside free claimed failed => cases failed

end

end Rp2040

end PilotLamp
