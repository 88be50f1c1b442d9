import Mathlib.Data.List.Basic
import PilotLamp.Proofs.HeldDrivers

/-!
# Drivers are given up once

Who has a driver, told from the ledger: a driver that was claimed and not given up is held for the
pin that it was claimed for, from the moment of its claim, so there is at most one for a pin. A
request asks for a driver, drives it and gives it up as its account says, and when the table is
given up so is every driver that is still held. Claims that are not made by a table are out of
scope.
-/

namespace PilotLamp.DriverTable

open LedgerEntry

variable {δ ε ω : Type} {n : Nat}

namespace LedgerEntry

/-- The number under which a driver was claimed. -/
def claimed? : LedgerEntry → Option Nat
  | claimed number _ => some number
  | unclaimed _ | driven .. | failed .. | released _ => none

/-- The pin for which a driver was asked, in vain or not. -/
def asked? : LedgerEntry → Option Pin
  | claimed _ pin | unclaimed pin => some pin
  | driven .. | failed .. | released _ => none

/-- The driver that was driven to a level, in vain or not. -/
def drive? : LedgerEntry → Option (Nat × Level)
  | driven number level | failed number level => some (number, level)
  | claimed .. | unclaimed _ | released _ => none

/-- The first drive of a numbered driver, in vain or not. -/
def firstDrive? (number : Nat) (entries : List LedgerEntry) : Option LedgerEntry :=
  entries.find? fun entry => entry.drive?.any (·.1 = number)

/-- A driver was claimed for a pin and is not given up yet. -/
def Alive (entries : List LedgerEntry) (pin : Pin) (number : Nat) : Prop :=
  .claimed number pin ∈ entries ∧ .released number ∉ entries

/-- A claim and a release decide which drivers are alive; another entry changes nothing. -/
theorem alive_concat {entries : List LedgerEntry} {entry : LedgerEntry}
    (hclaimed : entry.claimed? = none) (hreleased : ∀ number, entry ≠ .released number) (pin : Pin)
    (number : Nat) : Alive (entries ++ [entry]) pin number ↔ Alive entries pin number := by
  have hne : LedgerEntry.claimed number pin ≠ entry := by
    rintro rfl
    cases hclaimed
  simp [Alive, hne, (hreleased number).symm]

/-- A claim adds its driver. -/
theorem alive_concat_claimed {entries : List LedgerEntry} {fresh : Nat}
    (hfresh : .released fresh ∉ entries) (owner pin : Pin) (number : Nat) :
    Alive (entries ++ [.claimed fresh owner]) pin number ↔
      Alive entries pin number ∨ (pin = owner ∧ number = fresh) := by
  simp only [Alive, List.mem_append, List.mem_singleton, reduceCtorEq, or_false,
    LedgerEntry.claimed.injEq]
  constructor
  · rintro ⟨hmem | ⟨rfl, rfl⟩, hkept⟩
    · exact .inl ⟨hmem, hkept⟩
    · exact .inr ⟨rfl, rfl⟩
  · rintro (⟨hmem, hkept⟩ | ⟨rfl, rfl⟩)
    · exact ⟨.inl hmem, hkept⟩
    · exact ⟨.inr ⟨rfl, rfl⟩, hfresh⟩

/-- A release takes its driver away. -/
theorem alive_concat_released (entries : List LedgerEntry) (gone : Nat) (pin : Pin)
    (number : Nat) :
    Alive (entries ++ [.released gone]) pin number ↔ Alive entries pin number ∧ number ≠ gone := by
  simp [Alive, and_assoc]

end LedgerEntry

/-! ## Custody -/

/-- The pins for which numbered drivers are held, in a table or by whoever claimed them, are those
that a ledger tells. -/
structure Custody (held : Pin → Option Nat) (entries : List LedgerEntry) : Prop where
  /-- Drivers are numbered in the order of their claims. -/
  numbered : entries.filterMap claimed? = List.range (claims entries)
  /-- A driver is held for the pin that it was claimed for, until it is given up. -/
  alive_iff : ∀ pin number, Alive entries pin number ↔ held pin = some number
  /-- A driver is claimed for one pin. -/
  owner : ∀ number pin other, .claimed number pin ∈ entries → .claimed number other ∈ entries →
    pin = other
  /-- No driver is given up twice. -/
  once : ∀ number, entries.count (.released number) ≤ 1
  /-- A driver that is given up was claimed. -/
  known : ∀ number, .released number ∈ entries → number < claims entries
  /-- At no time there were two drivers for a pin. -/
  alone : ∀ earlier, earlier <+: entries → ∀ pin number other,
    Alive earlier pin number → Alive earlier pin other → number = other

section

variable {held next : Pin → Option Nat} {entries : List LedgerEntry}

theorem Custody.empty : Custody (fun _ => none) [] where
  numbered := rfl
  alive_iff pin number := by simp [Alive]
  owner := nofun
  once number := Nat.zero_le 1
  known := nofun
  alone earlier h pin number other hnumber := by
    rw [List.prefix_nil.mp h] at hnumber
    cases hnumber.1

/-- If there are no two drivers for a pin before and after one more entry, there never were. -/
theorem Custody.alone_concat (h : Custody held entries) {entry : LedgerEntry}
    (halive : ∀ pin number, Alive (entries ++ [entry]) pin number ↔ next pin = some number) :
    ∀ earlier, earlier <+: entries ++ [entry] → ∀ pin number other,
      Alive earlier pin number → Alive earlier pin other → number = other := by
  intro earlier hearlier pin number other hnumber hother
  rcases List.prefix_concat_iff.mp hearlier with rfl | hbefore
  · rw [halive] at hnumber hother
    exact Option.some.inj (hnumber.symm.trans hother)
  · exact h.alone earlier hbefore pin number other hnumber hother

/-- A driver that was claimed has one of the numbers that were given. -/
theorem Custody.number_lt (h : Custody held entries) {number : Nat} {pin : Pin}
    (hmem : .claimed number pin ∈ entries) : number < claims entries := by
  have hnumber : number ∈ entries.filterMap claimed? := List.mem_filterMap.mpr ⟨_, hmem, rfl⟩
  rw [h.numbered] at hnumber
  exact List.mem_range.mp hnumber

/-- An entry that is no claim and no release leaves everything with whom it was. -/
theorem Custody.note (h : Custody held entries) (entry : LedgerEntry)
    (hclaimed : entry.claimed? = none) (hreleased : ∀ number, entry ≠ .released number) :
    Custody held (entries ++ [entry]) := by
  have hclaims : claims (entries ++ [entry]) = claims entries := by
    rw [claims_concat]
    cases entry <;> first | rfl | cases hclaimed
  have halive (pin : Pin) (number : Nat) :
      Alive (entries ++ [entry]) pin number ↔ held pin = some number :=
    (alive_concat hclaimed hreleased pin number).trans (h.alive_iff pin number)
  have hold (number : Nat) (pin : Pin) (hmem : .claimed number pin ∈ entries ++ [entry]) :
      .claimed number pin ∈ entries := by
    rcases List.mem_append.mp hmem with hmem | hmem
    · exact hmem
    · rw [← List.mem_singleton.mp hmem] at hclaimed
      cases hclaimed
  refine ⟨?_, halive, ?_, ?_, ?_, h.alone_concat halive⟩
  · rw [List.filterMap_append, List.filterMap_cons_none hclaimed, List.filterMap_nil,
      List.append_nil, h.numbered, hclaims]
  · intro number pin other hpin hother
    exact h.owner number pin other (hold number pin hpin) (hold number other hother)
  · intro number
    rw [List.count_append, List.count_singleton, beq_eq_false_iff_ne.mpr (hreleased number)]
    exact h.once number
  · intro number hmem
    rw [hclaims]
    rcases List.mem_append.mp hmem with hmem | hmem
    · exact h.known number hmem
    · exact absurd (List.mem_singleton.mp hmem).symm (hreleased number)

/-- A driver that is claimed for a pin without one is held for it. -/
theorem Custody.claim (h : Custody held entries) {pin : Pin} (free : held pin = none)
    (hnext : ∀ other, next other = if other = pin then some (claims entries) else held other) :
    Custody next (entries ++ [.claimed (claims entries) pin]) := by
  have hclaims : claims (entries ++ [.claimed (claims entries) pin]) = claims entries + 1 :=
    claims_concat entries _
  have hfresh : LedgerEntry.released (claims entries) ∉ entries := fun hmem =>
    Nat.lt_irrefl _ (h.known _ hmem)
  have halive (other : Pin) (number : Nat) :
      Alive (entries ++ [.claimed (claims entries) pin]) other number ↔
        next other = some number := by
    rw [alive_concat_claimed hfresh, h.alive_iff, hnext]
    by_cases heq : other = pin
    · rw [if_pos heq, heq, free]
      simp [eq_comm]
    · simp [heq]
  refine ⟨?_, halive, ?_, ?_, ?_, h.alone_concat halive⟩
  · rw [List.filterMap_append, h.numbered, hclaims, List.range_succ]
    rfl
  · intro number one other hone hother
    simp only [List.mem_append, List.mem_singleton, LedgerEntry.claimed.injEq] at hone hother
    rcases hone with hone | ⟨rfl, rfl⟩
    · rcases hother with hother | ⟨rfl, rfl⟩
      · exact h.owner number one other hone hother
      · exact absurd (h.number_lt hone) (Nat.lt_irrefl _)
    · rcases hother with hother | ⟨-, rfl⟩
      · exact absurd (h.number_lt hother) (Nat.lt_irrefl _)
      · rfl
  · intro number
    rw [List.count_append, List.count_singleton]
    exact h.once number
  · intro number hmem
    rcases List.mem_append.mp hmem with hmem | hmem
    · exact hclaims ▸ Nat.lt_succ_of_lt (h.known number hmem)
    · cases List.mem_singleton.mp hmem

/-- A driver that is given up is not held any more. -/
theorem Custody.release (h : Custody held entries) (pin : Pin) {gone : Nat}
    (hheld : held pin = some gone)
    (hnext : ∀ other, next other = if other = pin then none else held other) :
    Custody next (entries ++ [.released gone]) := by
  have hclaims : claims (entries ++ [.released gone]) = claims entries := claims_concat entries _
  have hgone := (h.alive_iff pin gone).mpr hheld
  have halive (other : Pin) (number : Nat) :
      Alive (entries ++ [.released gone]) other number ↔ next other = some number := by
    rw [alive_concat_released, h.alive_iff, hnext]
    by_cases heq : other = pin
    · rw [if_pos heq, heq, hheld]
      simp [eq_comm]
    · rw [if_neg heq]
      refine ⟨And.left, fun hother => ⟨hother, ?_⟩⟩
      rintro rfl
      -- A driver that is held for two pins was claimed for both.
      exact heq (h.owner number other pin ((h.alive_iff other number).mpr hother).1 hgone.1)
  refine ⟨?_, halive, ?_, ?_, ?_, h.alone_concat halive⟩
  · rw [List.filterMap_append, h.numbered, hclaims]
    exact List.append_nil _
  · intro number one other hone hother
    simp only [List.mem_append, List.mem_singleton, reduceCtorEq, or_false] at hone hother
    exact h.owner number one other hone hother
  · intro number
    have honce := h.once number
    rw [List.count_append, List.count_singleton]
    by_cases heq : gone = number
    · have hzero : entries.count (.released number) = 0 :=
        List.count_eq_zero.mpr (heq ▸ hgone.2)
      rw [hzero, heq]
      simp
    · simpa [heq] using honce
  · intro number hmem
    rw [hclaims]
    rcases List.mem_append.mp hmem with hmem | hmem
    · exact h.known number hmem
    · cases List.mem_singleton.mp hmem
      exact h.number_lt hgone.1

end

/-! ## What requests do -/

/-- The pin that a request is about. -/
def Request.pin : Request δ ε ω → Pin
  | configure pin _ | write pin _ => pin

/-- The level to which a request drives. -/
def Request.level : Request δ ε ω → Level
  | configure .. => .deasserted
  | write _ level => level

/-- A request configures a pin of a table that has no driver yet. -/
def Request.Claims (table : DriverTable (Tagged δ) n) : Request δ ε ω → Prop
  | configure pin _ => pin.index < n ∧ table.driver? pin = none
  | write .. => False

/-- The number of the driver that a table holds for a pin. -/
def number? (table : DriverTable (Tagged δ) n) (pin : Pin) : Option Nat :=
  (table.driver? pin).map (·.number)

/-- What a request does with drivers, and what is entered of it. -/
inductive Deals (table : DriverTable (Tagged δ) n) (entries : List LedgerEntry)
    (request : Request δ ε ω) : DriverTable (Tagged δ) n → List LedgerEntry → Prop
  /-- It is refused before a driver is needed. -/
  | refused (noClaim : ¬ request.Claims table) : Deals table entries request table []
  /-- The driver that is held is driven, in vain or not. -/
  | driven {next : DriverTable (Tagged δ) n} {number : Nat} {entry : LedgerEntry}
      (held : table.number? request.pin = some number)
      (drive : entry.drive? = some (number, request.level)) (same : next.number? = table.number?) :
      Deals table entries request next [entry]
  /-- A driver is asked for in vain. -/
  | unclaimed (claims : request.Claims table) :
      Deals table entries request table [.unclaimed request.pin]
  /-- A driver is claimed, driven and kept. -/
  | kept {next : DriverTable (Tagged δ) n} (claims : request.Claims table)
      (added : ∀ other, next.number? other
        = if other = request.pin then some (LedgerEntry.claims entries) else table.number? other) :
      Deals table entries request next
        [.claimed (LedgerEntry.claims entries) request.pin,
          .driven (LedgerEntry.claims entries) request.level]
  /-- A driver is claimed, driven in vain and given up. -/
  | givenUp (claims : request.Claims table) :
      Deals table entries request table
        [.claimed (LedgerEntry.claims entries) request.pin,
          .failed (LedgerEntry.claims entries) request.level,
          .released (LedgerEntry.claims entries)]

section

variable {actions : DriverActions δ ε ω} {claim : Pin → ω → Except (DriveFault ε) δ × ω}
  {pin : Pin} {level : Level} {table next : DriverTable (Tagged δ) n} {ledger after : Ledger ω}

theorem number?_of_driver? {tagged : Tagged δ} (h : table.driver? pin = some tagged) :
    table.number? pin = some tagged.number := by rw [number?, h]; rfl

theorem number?_eq_none_iff : table.number? pin = none ↔ table.driver? pin = none :=
  Option.map_eq_none_iff

/-- Configuring deals with drivers by the rules. -/
theorem Configures.deals {result : Except (DriveFault ε) Unit}
    (rule : Configures (taggedActions actions) (taggedClaim claim) pin table ledger result next
      after) :
    ∃ new, after.entries = ledger.entries ++ new ∧
      Deals table ledger.entries (Request.configure pin claim) next new := by
  cases rule with
  | outside outside =>
    refine ⟨[], (List.append_nil _).symm, .refused ?_⟩
    rintro ⟨inside, -⟩
    omega
  | drivenAgain held driven configured =>
    exact ⟨_, (of_tagged_driven driven).2, .driven (number?_of_driver? held) rfl rfl⟩
  | failedAgain held failed =>
    exact ⟨_, (of_tagged_failed failed).2, .driven (number?_of_driver? held) rfl rfl⟩
  | unclaimed inside free failed =>
    exact ⟨_, (of_tagged_unclaimed failed).2, .unclaimed ⟨inside, free⟩⟩
  | @kept tagged lines between last inside free claimed driven configured =>
    obtain ⟨-, hnumber, hentries⟩ := of_tagged_claimed claimed
    refine ⟨[.claimed tagged.number pin, .driven tagged.number .deasserted], ?_, ?_⟩
    · rw [(of_tagged_driven driven).2, hentries, List.append_assoc]
      rfl
    · rw [hnumber]
      refine .kept ⟨inside, free⟩ fun other => ?_
      rw [number?, driver?_set table inside]
      by_cases heq : other = pin
      · simp [heq, hnumber, Request.pin]
      · simp [heq, number?, Request.pin]
  | @givenUp tagged cause between last inside free claimed failed =>
    obtain ⟨-, hnumber, hentries⟩ := of_tagged_claimed claimed
    refine ⟨[.claimed tagged.number pin, .failed tagged.number .deasserted,
      .released tagged.number], ?_, ?_⟩
    · simp only [taggedActions]
      rw [(of_tagged_failed failed).2, hentries]
      simp
    · rw [hnumber]
      exact .givenUp ⟨inside, free⟩

/-- Writing deals with drivers by the rules. -/
theorem Writes.deals {result : Except (DriveFault ε) Bool}
    (rule : Writes (taggedActions actions) pin level table ledger result next after) :
    ∃ new, after.entries = ledger.entries ++ new ∧
      Deals table ledger.entries (Request.write pin level : Request δ ε ω) next new := by
  cases rule with
  | notConfigured notConfigured => exact ⟨[], (List.append_nil _).symm, .refused nofun⟩
  | missing configured free => exact ⟨[], (List.append_nil _).symm, .refused nofun⟩
  | failed configured held failed =>
    exact ⟨_, (of_tagged_failed failed).2, .driven (number?_of_driver? held) rfl rfl⟩
  | driven configured held driven set =>
    exact ⟨_, (of_tagged_driven driven).2, .driven (number?_of_driver? held) rfl rfl⟩

end

/-- A request deals with drivers by the rules. -/
theorem step_deals (actions : DriverActions δ ε ω) (state : DriverTable (Tagged δ) n × Ledger ω)
    (request : Request δ ε ω) :
    let outcome := step (taggedActions actions) state request.tagged
    ∃ new, outcome.2.2.entries = state.2.entries ++ new ∧
      Deals state.1 state.2.entries request outcome.2.1 new := by
  cases request with
  | configure pin claim => exact (configure_rule _ _ _ _ _).deals
  | write pin level => exact (write_rule _ _ _ _ _).deals

section

variable {table next : DriverTable (Tagged δ) n} {entries new : List LedgerEntry}
  {request : Request δ ε ω}

theorem Request.Claims.free (h : request.Claims table) : table.number? request.pin = none := by
  cases request with
  | configure pin claim => exact number?_eq_none_iff.mpr h.2
  | write pin level => cases h

/-- A request keeps the drivers in custody. -/
theorem Custody.of_deals (h : Custody table.number? entries)
    (deals : Deals table entries request next new) :
    Custody next.number? (entries ++ new) := by
  cases deals with
  | refused noClaim => simpa using h
  | @driven _ number entry held drive same =>
    rw [same]
    apply h.note entry
    · cases entry <;> first | rfl | cases drive
    · rintro number rfl
      cases drive
  | unclaimed claims => exact h.note _ rfl nofun
  | kept claims added =>
    have hclaimed := h.claim claims.free added
    simpa using hclaimed.note (.driven (LedgerEntry.claims entries) request.level) rfl nofun
  | givenUp claims =>
    -- While it is driven the driver is in the hands of the request.
    have hclaimed := h.claim claims.free (fun _ => rfl)
    have hfailed := hclaimed.note (.failed (LedgerEntry.claims entries) request.level) rfl nofun
    have hback (other : Pin) : table.number? other = if other = request.pin then none
        else if other = request.pin then some (LedgerEntry.claims entries)
          else table.number? other := by
      by_cases heq : other = request.pin
      · rw [if_pos heq, heq, claims.free]
      · rw [if_neg heq, if_neg heq]
    simpa using hfailed.release request.pin (if_pos rfl) hback

/-- Requests one after another keep the drivers in custody. -/
theorem Custody.of_run (actions : DriverActions δ ε ω) (requests : List (Request δ ε ω))
    (state : DriverTable (Tagged δ) n × Ledger ω) (h : Custody state.1.number? state.2.entries) :
    let outcome := run (taggedActions actions) state (requests.map Request.tagged)
    Custody outcome.2.1.number? outcome.2.2.entries := by
  induction requests generalizing state with
  | nil => exact h
  | cons request rest ih =>
    have hstep : Custody (step (taggedActions actions) state request.tagged).2.1.number?
        (step (taggedActions actions) state request.tagged).2.2.entries := by
      obtain ⟨new, hentries, hdeals⟩ := step_deals actions state request
      rw [hentries]
      exact h.of_deals hdeals
    exact ih _ hstep

end

/-! ## The account of a request -/

/-- What a request may enter in the ledger of a table. -/
structure Account (table : DriverTable (Tagged δ) n) (request : Request δ ε ω)
    (new : List LedgerEntry) : Prop where
  /-- A pin of the table that is configured and has no driver is asked for one, once. -/
  asked : request.Claims table → new.filterMap asked? = [request.pin]
  /-- Otherwise no driver is asked for. -/
  unasked : ¬ request.Claims table → new.filterMap asked? = []
  /-- What is driven is the driver that is held, or was just claimed, for the pin of the request,
  and it is driven to the level of the request. -/
  drives : ∀ number level, (number, level) ∈ new.filterMap drive? → level = request.level ∧
    (table.number? request.pin = some number ∨ .claimed number request.pin ∈ new)
  /-- A driver that was just claimed is given up exactly if its first drive failed. -/
  released_iff : ∀ number pin, .claimed number pin ∈ new →
    (.released number ∈ new ↔ firstDrive? number new = some (.failed number request.level))
  /-- No other driver is given up. -/
  released : ∀ number, .released number ∈ new → .claimed number request.pin ∈ new

/-- Requests keep to their account. -/
theorem Deals.account {table next : DriverTable (Tagged δ) n} {entries new : List LedgerEntry}
    {request : Request δ ε ω} (deals : Deals table entries request next new) :
    Account table request new := by
  cases deals with
  | refused noClaim => exact ⟨fun claims => absurd claims noClaim, fun _ => rfl, nofun, nofun, nofun⟩
  | @driven _ number entry held drive same =>
    have hnoClaim : ¬ request.Claims table := fun claims => by
      rw [claims.free] at held
      cases held
    refine ⟨fun claims => absurd claims hnoClaim, fun _ => ?_, ?_, ?_, ?_⟩
    · cases entry <;> first | rfl | cases drive
    · intro other level hmem
      rw [List.filterMap_cons_some drive, List.filterMap_nil, List.mem_singleton] at hmem
      cases hmem
      exact ⟨rfl, .inl held⟩
    · intro other pin hmem
      rw [← List.mem_singleton.mp hmem] at drive
      cases drive
    · intro other hmem
      rw [← List.mem_singleton.mp hmem] at drive
      cases drive
  | unclaimed claims =>
    exact ⟨fun _ => rfl, fun noClaim => absurd claims noClaim, nofun, by simp, by simp⟩
  | kept claims added =>
    refine ⟨fun _ => rfl, fun noClaim => absurd claims noClaim, ?_, ?_, by simp⟩
    · simp [drive?]
    · simp [firstDrive?, drive?]
  | givenUp claims =>
    refine ⟨fun _ => rfl, fun noClaim => absurd claims noClaim, ?_, ?_, by simp⟩
    · simp [drive?]
    · simp [firstDrive?, drive?]

/-! ## Giving the table up -/

section

variable (actions : DriverActions δ ε ω)

/-- The slots of a table are the drivers of its pins, in ascending order. -/
theorem toList_drivers (table : DriverTable δ n) :
    table.drivers.toList = (List.range n).map fun index => table.driver? (.ofNat index) := by
  apply List.ext_getElem
  · simp
  · intro index hleft hright
    have hin : index < n := by simpa using hleft
    have hindex : (Pin.ofNat index).index = index :=
      Pin.index_ofNat (Nat.lt_of_lt_of_le hin (Nat.le_trans table.fits (by decide)))
    simp [driver?, hindex, hin]

/-- Gives up what is in a slot. -/
def releaseSlot (actions : DriverActions δ ε ω) (world : ω) : Option δ → ω
  | some driver => actions.release driver world
  | none => world

/-- A table is given up pin by pin. -/
theorem releaseAll_eq_foldl (table : DriverTable δ n) (world : ω) :
    table.releaseAll actions world
      = ((List.range n).map fun index => table.driver? (.ofNat index)).foldl
          (releaseSlot actions) world := by
  rw [← toList_drivers]
  rfl

/-- A table is given up with numbers as without. -/
theorem forget_releaseAll (table : DriverTable (Tagged δ) n) (ledger : Ledger ω) :
    table.forget.releaseAll actions ledger.world
      = (table.releaseAll (taggedActions actions) ledger).world := by
  rw [releaseAll_eq_foldl, releaseAll_eq_foldl]
  induction List.range n generalizing ledger with
  | nil => rfl
  | cons index rest ih =>
    rw [List.map_cons, List.foldl_cons, List.map_cons, List.foldl_cons, forget_driver?, ← ih]
    cases table.driver? (.ofNat index) <;> rfl

/-- After a slot is given up no driver is held for its pin. -/
theorem Custody.of_releaseSlot {held next : Pin → Option Nat} {ledger : Ledger ω}
    {slot : Option (Tagged δ)} (h : Custody held ledger.entries) (pin : Pin)
    (hslot : held pin = slot.map (·.number))
    (hnext : ∀ other, next other = if other = pin then none else held other) :
    Custody next (releaseSlot (taggedActions actions) ledger slot).entries := by
  cases slot with
  | some tagged => exact h.release pin hslot hnext
  | none =>
    have hsame : next = held := by
      funext other
      rw [hnext]
      by_cases heq : other = pin
      · rw [if_pos heq, heq, hslot, Option.map_none]
      · rw [if_neg heq]
    rw [hsame]
    exact h

/-- Giving a table up gives every driver up that it holds. -/
theorem Custody.of_releaseAll {table : DriverTable (Tagged δ) n} {ledger : Ledger ω}
    (h : Custody table.number? ledger.entries) :
    Custody (fun _ => none) (table.releaseAll (taggedActions actions) ledger).entries := by
  -- After some slots the drivers of the pins below are gone.
  suffices hsome : ∀ count, count ≤ n →
      Custody (fun pin => if pin.index < count then none else table.number? pin)
        (((List.range count).map fun index => table.driver? (.ofNat index)).foldl
          (releaseSlot (taggedActions actions)) ledger).entries by
    have hnone : (fun pin => if pin.index < n then none else table.number? pin) = fun _ => none := by
      funext pin
      split
      · rfl
      · exact number?_eq_none_iff.mpr (table.driver?_of_le (by omega))
    rw [releaseAll_eq_foldl, ← hnone]
    exact hsome n (Nat.le_refl n)
  intro count
  induction count with
  | zero => exact fun _ => h
  | succ count ih =>
    intro hcount
    have hindex : (Pin.ofNat count).index = count :=
      Pin.index_ofNat (Nat.lt_of_lt_of_le hcount (Nat.le_trans table.fits (by decide)))
    rw [List.range_succ, List.map_append, List.foldl_append]
    refine (ih (by omega)).of_releaseSlot actions (.ofNat count) ?_ fun other => ?_
    · rw [hindex, if_neg (Nat.lt_irrefl _)]
      rfl
    · by_cases heq : other = .ofNat count
      · rw [if_pos heq, heq, hindex, if_pos (Nat.lt_succ_self count)]
      · have hne : other.index ≠ count := fun hsame => heq (Pin.ext_index (hsame.trans hindex.symm))
        simp only [if_neg heq, Nat.lt_succ_iff_lt_or_eq, hne, or_false]

end

/-! ## The law -/

/-- What holds of the drivers of a table after some requests. -/
structure Conserved (actions : DriverActions δ ε ω) (table : DriverTable (Tagged δ) n)
    (ledger : Ledger ω) : Prop where
  /-- Drivers are numbered in the order of their claims. -/
  numbered : ledger.entries.filterMap claimed? = List.range (claims ledger.entries)
  /-- A driver that was claimed for a pin is held for that pin only and was not given up, or is
  held for no pin and was given up once. -/
  place : ∀ number pin, .claimed number pin ∈ ledger.entries →
    (ledger.entries.count (.released number) = 0 ∧
      ∀ other, table.number? other = some number ↔ other = pin) ∨
    (ledger.entries.count (.released number) = 1 ∧
      ∀ other, table.number? other ≠ some number)
  /-- Every driver that is held was claimed for the pin that it is held for. -/
  claimed : ∀ pin number, table.number? pin = some number → .claimed number pin ∈ ledger.entries
  /-- At no time there were two drivers for a pin. -/
  alone : ∀ earlier, earlier <+: ledger.entries → ∀ pin number other,
    Alive earlier pin number → Alive earlier pin other → number = other
  /-- One more request of any kind keeps to its account. -/
  accounts : ∀ request : Request δ ε ω, ∃ new,
    (step (taggedActions actions) (table, ledger) request.tagged).2.2.entries
        = ledger.entries ++ new ∧ Account table request new

/-- What a ledger says once its table is given up. -/
structure Settled (entries : List LedgerEntry) : Prop where
  /-- Every driver that was claimed was given up once. -/
  released : ∀ number pin, .claimed number pin ∈ entries → entries.count (.released number) = 1
  /-- No other driver was given up. -/
  claimed : ∀ number, .released number ∈ entries → ∃ pin, .claimed number pin ∈ entries
  /-- At no time there were two drivers for a pin. -/
  alone : ∀ earlier, earlier <+: entries → ∀ pin number other,
    Alive earlier pin number → Alive earlier pin other → number = other

section

variable {held : Pin → Option Nat} {entries : List LedgerEntry} {number : Nat} {pin : Pin}

/-- A driver that is not given up is held for its pin only. -/
theorem Custody.held_iff (h : Custody held entries) (hmem : .claimed number pin ∈ entries)
    (hkept : .released number ∉ entries) (other : Pin) :
    held other = some number ↔ other = pin := by
  rw [← h.alive_iff]
  constructor
  · rintro ⟨hother, -⟩
    exact h.owner number other pin hother hmem
  · rintro rfl
    exact ⟨hmem, hkept⟩

/-- A driver that is given up is given up once. -/
theorem Custody.count_released (h : Custody held entries) (hgone : .released number ∈ entries) :
    entries.count (.released number) = 1 :=
  Nat.le_antisymm (h.once number) (List.count_pos_iff.mpr hgone)

/-- Drivers in custody are conserved. -/
theorem Custody.conserved {table : DriverTable (Tagged δ) n} {ledger : Ledger ω}
    (h : Custody table.number? ledger.entries) (actions : DriverActions δ ε ω) :
    Conserved actions table ledger where
  numbered := h.numbered
  place number pin hmem := by
    by_cases hgone : .released number ∈ ledger.entries
    · refine .inr ⟨h.count_released hgone, fun other hheld => ?_⟩
      exact ((h.alive_iff other number).mpr hheld).2 hgone
    · exact .inl ⟨List.count_eq_zero.mpr hgone, h.held_iff hmem hgone⟩
  claimed pin number hheld := ((h.alive_iff pin number).mpr hheld).1
  alone := h.alone
  accounts request := by
    obtain ⟨new, hentries, hdeals⟩ := step_deals actions (table, ledger) request
    exact ⟨new, hentries, hdeals.account⟩

/-- Once no driver is held all of them are given up. -/
theorem Custody.settled (h : Custody (fun _ => none) entries) : Settled entries where
  released number pin hmem := by
    apply h.count_released
    by_contra hkept
    exact nomatch (h.alive_iff pin number).mp ⟨hmem, hkept⟩
  claimed number hgone := by
    have hnumber : number ∈ entries.filterMap claimed? := by
      rw [h.numbered]
      exact List.mem_range.mpr (h.known number hgone)
    obtain ⟨entry, hmem, hentry⟩ := List.mem_filterMap.mp hnumber
    cases entry <;> cases hentry
    exact ⟨_, hmem⟩
  alone := h.alone

end

/-- Numbering the drivers leaves requests from an empty table, and giving it up, as they are. After
the requests every driver is held for its pin or was given up once, and each further request keeps
to its account; in the end every driver was given up once. -/
theorem drivers_are_given_up_once (fits : n ≤ LineTable.capacity) (actions : DriverActions δ ε ω)
    (world : ω) (requests : List (Request δ ε ω)) :
    let plain := run actions (DriverTable.empty fits, world) requests
    let outcome := run (taggedActions actions) (DriverTable.empty (δ := Tagged δ) fits, ⟨world, []⟩)
      (requests.map Request.tagged)
    let final := outcome.2.1.releaseAll (taggedActions actions) outcome.2.2
    plain = (outcome.1, outcome.2.1.forget, outcome.2.2.world) ∧
      plain.2.1.releaseAll actions plain.2.2 = final.world ∧
      Conserved actions outcome.2.1 outcome.2.2 ∧ Settled final.entries := by
  intro plain outcome final
  have hforget : plain = (outcome.1, outcome.2.1.forget, outcome.2.2.world) := by
    have h := forget_run actions (DriverTable.empty (δ := Tagged δ) fits, ⟨world, []⟩) requests
    rw [forget_empty] at h
    exact h
  have hstart : Custody (DriverTable.empty (δ := Tagged δ) fits).number? [] := by
    have hnone : (DriverTable.empty (δ := Tagged δ) fits).number? = fun _ => none :=
      funext fun pin => number?_eq_none_iff.mpr (driver?_empty fits pin)
    rw [hnone]
    exact .empty
  have hcustody := Custody.of_run actions requests (DriverTable.empty fits, ⟨world, []⟩) hstart
  refine ⟨hforget, ?_, hcustody.conserved actions, (hcustody.of_releaseAll actions).settled⟩
  rw [hforget]
  exact forget_releaseAll actions outcome.2.1 outcome.2.2

/-- The last pin of the largest table is configured in vain, configured, configured again in vain
and written. The first driver is given up at once, the second with the table. -/
theorem last_pin_given_up_with_largest_table :
    64 ≤ LineTable.capacity ∧
    let pin := Pin.ofNat 63
    let claim := fun pin faults => (.ok pin, faults)
    let requests := [.configure pin claim, .configure pin claim, .configure pin claim,
      .write pin .asserted]
    let world := [true, false, true, false]
    let plain := run scripted (DriverTable.empty (n := 64) (by decide), world) requests
    let outcome := run (taggedActions scripted)
      (DriverTable.empty (δ := Tagged Pin) (n := 64) (by decide), ⟨world, []⟩)
      (requests.map Request.tagged)
    let final := outcome.2.1.releaseAll (taggedActions scripted) outcome.2.2
    final.entries = [.claimed 0 pin, .failed 0 .deasserted, .released 0, .claimed 1 pin,
        .driven 1 .deasserted, .failed 1 .deasserted, .driven 1 .asserted, .released 1] ∧
      plain = (outcome.1, outcome.2.1.forget, outcome.2.2.world) ∧
      plain.2.1.releaseAll scripted plain.2.2 = final.world ∧
      Conserved scripted outcome.2.1 outcome.2.2 ∧ Settled final.entries :=
  ⟨by decide, by decide, drivers_are_given_up_once (by decide) scripted _ _⟩

end PilotLamp.DriverTable
