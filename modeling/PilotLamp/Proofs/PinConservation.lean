import PilotLamp.Proofs.DriverEvents
import PilotLamp.Proofs.Targets

/-!
# Where the pins of an RP2040 are

A pin is taken from the bank for good, so a pin that is taken and not kept would be lost. Whatever
calls are made, every pin of the bank is either still there or in the driver that is held for that
pin; it is opened at most once, and reserved pins never leave. So a pin that has no driver and is
not reserved is always there to be taken. Pins that leave the bank by other ways are out of scope.
-/

namespace PilotLamp

open DriverEvent DriverTable

/-- The platform with a list of what happens to its drivers, oldest event first. -/
def Rp2040Platform.listed {ω : Type} (platform : Rp2040Platform ω) :
    Rp2040Platform (ω × List DriverEvent) where
  openDriver pin level state := (platform.openDriver pin level state.1, state.2 ++ [.opened pin])
  drive pin level state := (platform.drive pin level state.1, state.2 ++ [.driven pin level])
  close pin state := (platform.close pin state.1, state.2 ++ [.closed pin])
  delayTicks ticks := effectBeside (platform.delayTicks ticks)

namespace DriverTable

variable {δ ε ω : Type} {n : Nat}

/-- Claims that agree where no driver is held lead to the same configuration. -/
theorem configure_congr {actions : DriverActions δ ε ω}
    {claim other : Pin → ω → Except (DriveFault ε) δ × ω} {pin : Pin} {table : DriverTable δ n}
    {world : ω}
    (h : pin.index < n → table.driver? pin = none → other pin world = claim pin world) :
    table.configure actions other pin world = table.configure actions claim pin world := by
  unfold configure
  by_cases hin : pin.index < n
  · simp only [dif_pos hin]
    cases hheld : table.drivers[pin.index] with
    | some driver => rfl
    | none =>
      have free : table.driver? pin = none := by rw [driver?, dif_pos hin, hheld]
      rw [h hin free]
  · simp only [dif_neg hin]

end DriverTable

namespace Rp2040

variable {ω : Type} (platform : Rp2040Platform ω)

/-! ## What the list leaves as it is -/

/-- The bank and the world, without the list. -/
def unlisted (state : PinBank × ω × List DriverEvent) : PinBank × ω := (state.1, state.2.1)

/-- Drivers are driven and given up as without the list. -/
theorem actions_listed : (actions platform.listed).Shows (actions platform) unlisted where
  drive _ _ _ := rfl
  release _ _ := rfl

/-- So are they claimed. -/
theorem claim_listed (pin : Pin) (state : PinBank × ω × List DriverEvent) :
    claim platform pin (unlisted state)
      = ((claim platform.listed pin state).1, unlisted (claim platform.listed pin state).2) := by
  simp only [claim, unlisted]
  cases state.1.take pin with
  | error cause => rfl
  | ok rest => rfl

/-- Every call does what it does without the list. -/
theorem indicator_listed :
    (indicator platform.listed).Shows (indicator platform) fun state => (state.1, state.2.1) := by
  rintro ⟨⟨bank, drivers⟩, world⟩ call
  cases call with
  | delay ms => rfl
  | report error => rfl
  | configure pin =>
    have htable : drivers.configure (actions platform) (claim platform) pin (bank, world.1) = _ :=
      (actions_listed platform).configure_eq (claim_listed platform) pin drivers (bank, world)
    simp only [Indicator.apply, indicator, configure, htable]
    rfl
  | write pin level =>
    have htable : drivers.write (actions platform) pin level (bank, world.1) = _ :=
      (actions_listed platform).write_eq pin level drivers (bank, world)
    simp only [Indicator.apply, indicator, write, htable]
    rfl

/-! ## What is listed -/

/-- The table of drivers acts in a world that lists what happens. -/
theorem listsEvents :
    ListsEvents (actions platform.listed) (claim platform.listed) fun state => state.2.2 where
  driven := by
    rintro pin level world after ⟨⟩
    rfl
  failed := by rintro pin level world cause after ⟨⟩
  closed _ _ := rfl
  opened {pin world driver after} h := by
    simp only [claim] at h
    cases htake : world.1.take pin with
    | error cause => simp [htake] at h
    | ok rest =>
      simp only [htake] at h
      cases h
      exact ⟨rfl, rfl⟩
  unopened {pin world fault after} h := by
    obtain ⟨rfl, -⟩ := of_claim_error h
    exact .inr rfl

/-- How a bank, the drivers held and what happened to drivers belong together. -/
structure Accounted (reserved : List Pin) (bank : PinBank) (drivers : DriverTable Pin PinBank.size)
    (events : List DriverEvent) : Prop where
  /-- What is not reserved is in the bank or has a driver. -/
  stocked : Stocked reserved bank drivers
  /-- What is reserved is in the bank. -/
  spared : ∀ pin ∈ reserved, pin.index < PinBank.size → bank.has pin = true
  /-- The drivers held are the live ones. -/
  keeps : Keeps (fun _ => true) drivers events
  /-- No driver was ever closed. -/
  unclosed : ∀ pin, .closed pin ∉ events

section

variable {platform} {reserved : List Pin} {bank : PinBank}
  {drivers next : DriverTable Pin PinBank.size} {pin : Pin} {level : Level} {world : ω}
  {events : List DriverEvent} {after : PinBank × ω × List DriverEvent}

theorem Accounted.fresh (reserved : List Pin) :
    Accounted reserved (PinBank.full.reserve reserved) (DriverTable.empty (by decide)) [] where
  stocked := .fresh reserved
  spared pin _ inside := by
    have hfull : (PinBank.full.reserve reserved).has pin = PinBank.full.has pin := rfl
    rw [hfull, PinBank.has_full, decide_eq_true inside]
  keeps := .empty _ _
  unclosed _ := List.not_mem_nil

/-- A drive and an opening close nothing. -/
theorem unclosed_concat (h : ∀ pin, .closed pin ∉ events) {event : DriverEvent}
    (hevent : ∀ pin, event ≠ .closed pin) (pin : Pin) : .closed pin ∉ events ++ [event] := by
  rw [List.mem_append, List.mem_singleton, not_or]
  exact ⟨h pin, (hevent pin).symm⟩

/-- Taking a pin takes none that is reserved. -/
theorem Accounted.spared_of_take (h : Accounted reserved bank drivers events) {rest : PinBank}
    (htake : bank.take pin = .ok rest) :
    ∀ other ∈ reserved, other.index < PinBank.size → rest.has other = true := by
  intro other hmem inside
  obtain ⟨hin, hunreserved, -⟩ := PinBank.take_isOk_iff.mp ⟨rest, htake⟩
  rw [h.stocked.reserved_iff pin hin, decide_eq_false_iff_not] at hunreserved
  have hne : other ≠ pin := fun heq => hunreserved (heq ▸ hmem)
  rw [PinBank.has_take htake, h.spared other hmem inside, decide_eq_true hne]
  rfl

/-- A drive of a driver that is held leaves the bank alone and closes nothing. -/
theorem Accounted.of_driven (h : Accounted reserved bank drivers events)
    (hstocked : Stocked reserved after.1 next) (hkeeps : Keeps (fun _ => true) next after.2.2)
    {driver : Pin} (driven : (actions platform.listed).drive driver level (bank, world, events)
      = (.ok (), after)) : Accounted reserved after.1 next after.2.2 := by
  have hevents : after.2.2 = events ++ [.driven driver level] :=
    (listsEvents platform).driven driven
  refine ⟨hstocked, ?_, hkeeps, ?_⟩
  · cases driven
    exact h.spared
  · rw [hevents]
    exact unclosed_concat h.unclosed (by simp)

/-- Configuring keeps all accounted for. -/
theorem Accounted.of_configures {result : Except (DriveFault Empty) Unit}
    (h : Accounted reserved bank drivers events)
    (rule : Configures (actions platform.listed) (claim platform.listed) pin drivers
      (bank, world, events) result next after) :
    Accounted reserved after.1 next after.2.2 := by
  have hstocked := h.stocked.of_configures rule
  have hkeeps := h.keeps.of_configures (listsEvents platform) rfl rule
  cases rule with
  | outside outside => exact h
  | failedAgain held failed => cases failed
  | givenUp inside free claimed failed => cases failed
  | unclaimed inside free failed =>
    obtain ⟨rfl, -⟩ := of_claim_error failed
    exact h
  | drivenAgain held driven configured => exact h.of_driven hstocked hkeeps driven
  | @kept taken lines between _ inside free claimed driven configured =>
    have hopened : between.2.2 = events ++ [.opened pin] :=
      ((listsEvents platform).opened claimed).2
    have hdriven : after.2.2 = between.2.2 ++ [.driven taken .deasserted] :=
      (listsEvents platform).driven driven
    obtain ⟨-, htake⟩ := take_of_claim claimed
    refine ⟨hstocked, ?_, hkeeps, ?_⟩
    · cases driven
      exact h.spared_of_take htake
    · rw [hdriven, hopened]
      exact unclosed_concat (unclosed_concat h.unclosed (by simp)) (by simp)

/-- So does writing. -/
theorem Accounted.of_writes {result : Except (DriveFault Empty) Bool}
    (h : Accounted reserved bank drivers events)
    (rule : Writes (actions platform.listed) pin level drivers (bank, world, events) result next
      after) : Accounted reserved after.1 next after.2.2 := by
  have hstocked := h.stocked.of_writes rule
  have hkeeps := h.keeps.of_writes (listsEvents platform) rule
  cases rule with
  | notConfigured notConfigured => exact h
  | missing configured free => exact h
  | failed configured held failed => cases failed
  | driven configured held driven set => exact h.of_driven hstocked hkeeps driven

/-- Every call keeps all accounted for. -/
theorem accounted_apply {state : Rp2040 × ω × List DriverEvent}
    (h : Accounted reserved state.1.bank state.1.drivers state.2.2) (call : Call) :
    let next := ((indicator platform.listed).apply state call).2
    Accounted reserved next.1.bank next.1.drivers next.2.2 := by
  obtain ⟨⟨bank, drivers⟩, world, events⟩ := state
  cases call with
  | delay ms => exact h
  | report error => exact h
  | configure pin =>
    exact Accounted.of_configures h (drivers.configure_rule (actions platform.listed)
      (claim platform.listed) pin (bank, world, events))
  | write pin level =>
    exact Accounted.of_writes h (drivers.write_rule (actions platform.listed) pin level
      (bank, world, events))

/-- A pin of the bank is there or in its own driver, and nowhere else. -/
theorem Accounted.one_place (h : Accounted reserved bank drivers events)
    (inside : pin.index < PinBank.size) :
    (bank.has pin = true ∧ ∀ holder, drivers.driver? holder ≠ some pin) ∨
      (bank.has pin = false ∧ ∀ holder, drivers.driver? holder = some pin ↔ holder = pin) := by
  have hnamed (holder : Pin) (held : drivers.driver? holder = some pin) : holder = pin :=
    (h.keeps.named holder pin held).symm
  cases hheld : drivers.driver? pin with
  | none =>
    refine .inl ⟨?_, fun holder held => ?_⟩
    · by_cases hmem : pin ∈ reserved
      · exact h.spared pin hmem inside
      · rw [h.stocked.stock pin inside hmem, hheld]
        rfl
    · rw [hnamed holder held, hheld] at held
      cases held
  | some driver =>
    have hdriver := h.keeps.named pin driver hheld
    subst hdriver
    have hfree : driver ∉ reserved := by
      intro hmem
      rw [h.stocked.spared driver hmem] at hheld
      cases hheld
    refine .inr ⟨?_, fun holder => ⟨hnamed holder, ?_⟩⟩
    · rw [h.stocked.stock driver inside hfree, hheld]
      rfl
    · rintro rfl
      exact hheld

/-- A pin was opened at most once. -/
theorem Accounted.opened_once (h : Accounted reserved bank drivers events) (pin : Pin) :
    events.count (.opened pin) ≤ 1 := by
  have hlive := h.keeps.supervised.live_eq pin
  rw [live, List.count_eq_zero.mpr (h.unclosed pin)] at hlive
  have hone : (if (drivers.driver? pin).isSome then 1 else 0 : Int) ≤ 1 := by
    by_cases hheld : (drivers.driver? pin).isSome <;> simp [hheld]
  omega

/-- A pin that has no driver was not taken before. -/
theorem Stocked.not_alreadyTaken (h : Stocked reserved bank drivers)
    (free : drivers.driver? pin = none) : bank.take pin ≠ .error .alreadyTaken := by
  unfold PinBank.take
  by_cases hin : pin.index < PinBank.size
  · rw [if_pos hin, h.reserved_iff pin hin]
    by_cases hmem : pin ∈ reserved
    · simp [hmem]
    · have hhas := h.stock pin hin hmem
      rw [free] at hhas
      simp [hmem, hhas]
  · simp [hin]

/-- What is answered to the configuration of a pin. -/
theorem Stocked.answer {τ : Type} {platform : Rp2040Platform τ} {world : τ} {after : PinBank × τ}
    (h : Stocked reserved bank drivers) {result : Except (DriveFault Empty) Unit}
    (rule : Configures (actions platform) (claim platform) pin drivers (bank, world) result next
      after) :
    (PinBank.size ≤ pin.index ∧ result = .error (.refused (.noSuchPin pin.index))) ∨
      (pin.index < PinBank.size ∧ pin ∈ reserved ∧ result = .error (.refused (.unavailable pin))) ∨
      (pin.index < PinBank.size ∧ pin ∉ reserved ∧ result = .ok ()) := by
  have hok := h.configures_isOk_iff rule
  cases rule with
  | outside outside => exact .inl ⟨outside, rfl⟩
  | failedAgain held failed => cases failed
  | givenUp inside free claimed failed => cases failed
  | drivenAgain held driven configured => exact .inr (.inr ⟨(hok.mp rfl).1, (hok.mp rfl).2, rfl⟩)
  | kept inside free claimed driven configured => exact .inr (.inr ⟨inside, (hok.mp rfl).2, rfl⟩)
  | unclaimed inside free failed =>
    obtain ⟨-, cause, htake, rfl⟩ := of_claim_error failed
    have hmem : pin ∈ reserved := by
      by_contra hfree
      cases hok.mpr ⟨inside, hfree⟩
    have hreserved := h.reserved_iff pin inside
    rw [decide_eq_true hmem] at hreserved
    rw [PinBank.take, if_pos inside, if_pos hreserved] at htake
    cases htake
    exact .inr (.inl ⟨inside, hmem, rfl⟩)

/-- A call that fails leaves the backend, its world and the list as they were. -/
theorem unchanged_of_error {τ : Type} {platform : Rp2040Platform τ} {backend : Rp2040} {world : τ}
    {call : Call} {error : PinError}
    (h : ((indicator platform).apply (backend, world) call).1 = .error error) :
    ((indicator platform).apply (backend, world) call).2 = (backend, world) := by
  obtain ⟨bank, drivers⟩ := backend
  cases call with
  | delay ms => cases h
  | report cause => cases h
  | configure pin =>
    have hrule := drivers.configure_rule (actions platform) (claim platform) pin (bank, world)
    simp only [Indicator.apply, indicator, configure] at h ⊢
    generalize drivers.configure (actions platform) (claim platform) pin (bank, world) = outcome
      at hrule h ⊢
    obtain ⟨result, next, after⟩ := outcome
    cases hrule with
    | outside outside => rfl
    | failedAgain held failed => cases failed
    | givenUp inside free claimed failed => cases failed
    | drivenAgain held driven configured => cases h
    | kept inside free claimed driven configured => cases h
    | unclaimed inside free failed =>
      obtain ⟨rfl, -⟩ := of_claim_error failed
      rfl
  | write pin level =>
    have hrule := drivers.write_rule (actions platform) pin level (bank, world)
    simp only [Indicator.apply, indicator, write] at h ⊢
    generalize drivers.write (actions platform) pin level (bank, world) = outcome at hrule h ⊢
    obtain ⟨result, next, after⟩ := outcome
    cases hrule with
    | notConfigured notConfigured => rfl
    | missing configured free => rfl
    | failed configured held failed => cases failed
    | driven configured held driven set => cases h

end

/-! ## The law -/

/-- Where the pins of an RP2040 backend are whose bank was full but for the pins reserved, and what
it answers to configurations. -/
structure ConservesPins (platform : Rp2040Platform ω) (reserved : List Pin) (backend : Rp2040)
    (world : ω) (events : List DriverEvent) : Prop where
  /-- A pin of the bank is still there and in no driver, or it has left the bank and is in the
  driver that is held for it and in no other. -/
  one_place : ∀ pin : Pin, pin.index < PinBank.size →
    (backend.bank.has pin = true ∧ ∀ holder, backend.drivers.driver? holder ≠ some pin) ∨
      (backend.bank.has pin = false ∧
        ∀ holder, backend.drivers.driver? holder = some pin ↔ holder = pin)
  /-- A pin that is reserved is in the bank. -/
  reserved_stays : ∀ pin ∈ reserved, pin.index < PinBank.size → backend.bank.has pin = true
  /-- The driver that is held for a pin has that pin. -/
  owned : ∀ pin driver, backend.drivers.driver? pin = some driver → driver = pin
  /-- No pin was opened twice. -/
  opened_once : ∀ pin, events.count (.opened pin) ≤ 1
  /-- The pins that do not exist are those past the bank. -/
  noSuchPin_iff : ∀ pin,
    (configure platform pin (backend, world)).1 = .error (.noSuchPin pin.index) ↔
      PinBank.size ≤ pin.index
  /-- The pins that are not available are those reserved. -/
  unavailable_iff : ∀ pin,
    (configure platform pin (backend, world)).1 = .error (.unavailable pin) ↔
      pin.index < PinBank.size ∧ pin ∈ reserved
  /-- The bank is never asked for a pin that was taken: whatever a claim would do then, the table
  does the same. -/
  untaken : ∀ claimed : Pin → PinBank × ω → Except (DriveFault Empty) Pin × PinBank × ω,
    (∀ pin bank world, bank.take pin ≠ .error .alreadyTaken →
      claimed pin (bank, world) = claim platform pin (bank, world)) →
    ∀ pin, backend.drivers.configure (actions platform) claimed pin (backend.bank, world)
      = backend.drivers.configure (actions platform) (claim platform) pin (backend.bank, world)
  /-- A call that fails leaves bank and drivers as they were, and nothing has happened. -/
  unchanged : ∀ call error,
    ((indicator platform.listed).apply (backend, world, events) call).1 = .error error →
      ((indicator platform.listed).apply (backend, world, events) call).2 = (backend, world, events)

section

variable {platform} {reserved : List Pin} {backend : Rp2040} {world : ω}
  {events : List DriverEvent}

/-- What the table answers is what the backend answers. -/
theorem Stocked.configure_answer (h : Stocked reserved backend.bank backend.drivers)
    (platform : Rp2040Platform ω) (world : ω) (pin : Pin) :
    (PinBank.size ≤ pin.index ∧
        (configure platform pin (backend, world)).1 = .error (.noSuchPin pin.index)) ∨
      (pin.index < PinBank.size ∧ pin ∈ reserved ∧
        (configure platform pin (backend, world)).1 = .error (.unavailable pin)) ∨
      (pin.index < PinBank.size ∧ pin ∉ reserved ∧
        (configure platform pin (backend, world)).1 = .ok ()) := by
  have htable : (configure platform pin (backend, world)).1
      = (backend.drivers.configure (actions platform) (claim platform) pin
          (backend.bank, world)).1.mapError DriveFault.toPinError := rfl
  rw [htable]
  rcases h.answer (backend.drivers.configure_rule (actions platform) (claim platform) pin
    (backend.bank, world)) with ⟨hout, hresult⟩ | ⟨hin, hmem, hresult⟩ | ⟨hin, hfree, hresult⟩
  · rw [hresult]
    exact .inl ⟨hout, rfl⟩
  · rw [hresult]
    exact .inr (.inl ⟨hin, hmem, rfl⟩)
  · rw [hresult]
    exact .inr (.inr ⟨hin, hfree, rfl⟩)

/-- A backend with all accounted for conserves its pins. -/
theorem Accounted.conservesPins (h : Accounted reserved backend.bank backend.drivers events)
    (world : ω) : ConservesPins platform reserved backend world events where
  one_place pin inside := h.one_place inside
  reserved_stays := h.spared
  owned := h.keeps.named
  opened_once := h.opened_once
  noSuchPin_iff pin := by
    rcases h.stocked.configure_answer platform world pin
      with ⟨hout, hanswer⟩ | ⟨hin, hmem, hanswer⟩ | ⟨hin, hfree, hanswer⟩
    · rw [hanswer]
      exact iff_of_true rfl hout
    · rw [hanswer]
      exact iff_of_false nofun (Nat.not_le.mpr hin)
    · rw [hanswer]
      exact iff_of_false nofun (Nat.not_le.mpr hin)
  unavailable_iff pin := by
    rcases h.stocked.configure_answer platform world pin
      with ⟨hout, hanswer⟩ | ⟨hin, hmem, hanswer⟩ | ⟨hin, hfree, hanswer⟩
    · rw [hanswer]
      exact iff_of_false nofun fun hreserved => Nat.not_lt.mpr hout hreserved.1
    · rw [hanswer]
      exact iff_of_true rfl ⟨hin, hmem⟩
    · rw [hanswer]
      exact iff_of_false nofun fun hreserved => hfree hreserved.2
  untaken claimed hagree pin :=
    configure_congr fun _ free => hagree pin _ _ (h.stocked.not_alreadyTaken free)
  unchanged call error herror := unchanged_of_error herror

end

/-- Listing what happens to the drivers makes no difference to a run. From a full bank with any
pins reserved, every run leaves each pin either in the bank or in its own driver. -/
theorem run_conserves_pins (platform : Rp2040Platform ω) (reserved : List Pin) (world : ω)
    (calls : List Call) :
    let start := fresh (PinBank.full.reserve reserved)
    let listed := (indicator platform.listed).after (start, world, []) calls
    (indicator platform).after (start, world) calls = (listed.1, listed.2.1) ∧
      (indicator platform).answered (start, world) calls
        = (indicator platform.listed).answered (start, world, []) calls ∧
      ConservesPins platform reserved listed.1 listed.2.1 listed.2.2 := by
  intro start listed
  have hshows := indicator_listed platform
  have haccounted : Accounted reserved listed.1.bank listed.1.drivers listed.2.2 :=
    Indicator.after_induction (motive := fun state : Rp2040 × ω × List DriverEvent =>
      Accounted reserved state.1.bank state.1.drivers state.2.2) (.fresh reserved)
      (fun _ call haccounted => accounted_apply haccounted call) calls
  exact ⟨hshows.after_eq (start, world, []) calls, hshows.answered_eq (start, world, []) calls,
    haccounted.conservesPins listed.2.1⟩

end Rp2040

end PilotLamp
