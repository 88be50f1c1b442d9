import PilotLamp.Proofs.BusTraces
import PilotLamp.Proofs.HardwareAgreement

/-!
# What happens to output drivers

Beside a world stands a list of what happens in it to the output drivers of pins, and on that list
the live drivers of a pin are counted: those that were opened and not closed yet. A driver table
asks only for drivers of pins that have no live one, and drives and closes live ones alone. Whether
the list is kept makes no difference to what the table does. What a driver does to its line is out
of scope.
-/

namespace PilotLamp

/-- Something that happens to the output driver of a pin. -/
inductive DriverEvent
  /-- It is opened. -/
  | opened (pin : Pin)
  /-- It is asked for in vain. -/
  | unopened (pin : Pin)
  /-- It is driven to a level. -/
  | driven (pin : Pin) (level : Level)
  /-- It fails to be driven to a level. -/
  | failed (pin : Pin) (level : Level)
  /-- It is closed. -/
  | closed (pin : Pin)
deriving DecidableEq, Repr

namespace DriverEvent

/-- The pin whose driver is asked for, if any. -/
def asked? : DriverEvent → Option Pin
  | opened pin | unopened pin => some pin
  | driven .. | failed .. | closed _ => none

/-- The pin whose driver is driven, if any, be it in vain. -/
def driven? : DriverEvent → Option Pin
  | driven pin _ | failed pin _ => some pin
  | opened _ | unopened _ | closed _ => none

/-- How many drivers of a pin are live: opened and not closed yet. -/
def live (pin : Pin) (events : List DriverEvent) : Int :=
  (events.count (.opened pin) : Int) - events.count (.closed pin)

/-- What an event adds to the live drivers of a pin. -/
def change (pin : Pin) : DriverEvent → Int
  | opened other => if other = pin then 1 else 0
  | closed other => if other = pin then -1 else 0
  | unopened _ | driven .. | failed .. => 0

/-- A last event changes what is live. -/
theorem live_concat (pin : Pin) (events : List DriverEvent) (event : DriverEvent) :
    live pin (events ++ [event]) = live pin events + change pin event := by
  rw [live, live, List.count_append, List.count_append, List.count_singleton,
    List.count_singleton]
  cases event with
  | opened other =>
    by_cases h : other = pin
    · simp [change, h]
      omega
    · simp [change, h]
  | closed other =>
    by_cases h : other = pin
    · simp [change, h]
      omega
    · simp [change, h]
  | unopened other => simp [change]
  | driven other level => simp [change]
  | failed other level => simp [change]

/-- What is in order after some events, where only some pins are allowed to have a driver. -/
structure InOrder (allowed : Pin → Bool) (earlier : List DriverEvent) (event : DriverEvent) :
    Prop where
  /-- A driver is asked for if its pin is allowed and no driver of the pin is live. -/
  asked : ∀ pin, event.asked? = some pin → allowed pin = true ∧ live pin earlier = 0
  /-- A driver is driven if its pin is allowed and it is live. -/
  driven : ∀ pin, event.driven? = some pin → allowed pin = true ∧ live pin earlier = 1
  /-- A driver is closed if it is live. -/
  closed : ∀ pin, event = .closed pin → live pin earlier = 1

/-- Events in order, after which drivers are held for some pins. -/
structure Supervised (allowed held : Pin → Bool) (events : List DriverEvent) : Prop where
  /-- The pins with a live driver are those for which a driver is held, and they have one. -/
  live_eq : ∀ pin, live pin events = if held pin then 1 else 0
  /-- Every event was in order. -/
  inOrder : ∀ earlier event later, events = earlier ++ event :: later →
    InOrder allowed earlier event

section

variable {allowed held next : Pin → Bool} {events earlier later : List DriverEvent} {pin : Pin}
  {event : DriverEvent}

theorem Supervised.empty (allowed : Pin → Bool) : Supervised allowed (fun _ => false) [] where
  live_eq _ := rfl
  inOrder earlier event later h := by simp at h

/-- One more event in order. -/
theorem Supervised.concat (h : Supervised allowed held events)
    (inOrder : InOrder allowed events event)
    (hnext : ∀ pin, (if next pin then 1 else 0) = (if held pin then 1 else 0) + change pin event) :
    Supervised allowed next (events ++ [event]) where
  live_eq pin := by rw [live_concat, h.live_eq, hnext]
  inOrder earlier other later hsplit := by
    rcases concat_eq_append_cons_iff.mp hsplit with ⟨rest, -, hevents⟩ | ⟨-, rfl, rfl⟩
    · exact h.inOrder earlier other rest hevents
    · exact inOrder

/-- A pin had at most one live driver at any time. -/
theorem Supervised.alone (h : Supervised allowed held events) (hsplit : events = earlier ++ later)
    (pin : Pin) : live pin earlier = 0 ∨ live pin earlier = 1 := by
  -- The induction takes away the last of the earlier events.
  induction earlier using List.reverseRecOn generalizing later with
  | nil => exact .inl rfl
  | append_singleton before event ih =>
    rw [List.append_assoc, List.singleton_append] at hsplit
    have horder := h.inOrder before event later hsplit
    have hbefore := ih hsplit
    rw [live_concat]
    cases event with
    | opened other =>
      by_cases heq : other = pin
      · subst heq
        have hzero := (horder.asked other rfl).2
        simp [change, hzero]
      · simpa [change, heq] using hbefore
    | closed other =>
      by_cases heq : other = pin
      · subst heq
        have hone := horder.closed other rfl
        simp [change, hone]
      · simpa [change, heq] using hbefore
    | unopened other => simpa [change] using hbefore
    | driven other level => simpa [change] using hbefore
    | failed other level => simpa [change] using hbefore

/-- Drivers are held for allowed pins only, as they were opened at some time. -/
theorem Supervised.allowed_of_held (h : Supervised allowed held events) (hheld : held pin = true) :
    allowed pin = true := by
  have hlive := h.live_eq pin
  rw [if_pos hheld, live] at hlive
  have hpos : 0 < events.count (.opened pin) := by omega
  obtain ⟨before, after, hsplit⟩ := List.append_of_mem (List.count_pos_iff.mp hpos)
  exact ((h.inOrder before _ after hsplit).asked pin rfl).1

/-- Asking in vain for a driver that is not held is in order. -/
theorem Supervised.unopened (h : Supervised allowed held events) (hallowed : allowed pin = true)
    (free : held pin = false) : Supervised allowed held (events ++ [.unopened pin]) := by
  have hlive := h.live_eq pin
  rw [free] at hlive
  refine h.concat ⟨?_, nofun, nofun⟩ fun other => (Int.add_zero _).symm
  rintro other ⟨⟩
  exact ⟨hallowed, hlive⟩

/-- A driver that is not held can be opened, and is held then. -/
theorem Supervised.opened (h : Supervised allowed held events) (hallowed : allowed pin = true)
    (free : held pin = false) (hnext : ∀ other, next other = (decide (other = pin) || held other)) :
    Supervised allowed next (events ++ [.opened pin]) := by
  have hlive := h.live_eq pin
  rw [free] at hlive
  refine h.concat ⟨?_, nofun, nofun⟩ fun other => ?_
  · rintro other ⟨⟩
    exact ⟨hallowed, hlive⟩
  · rw [hnext]
    by_cases heq : other = pin
    · simp [change, heq, free]
    · simp [change, heq, Ne.symm heq]

/-- A driver that is held can be driven, be it in vain. -/
theorem Supervised.driven (h : Supervised allowed held events) {pin : Pin}
    (hevent : event.driven? = some pin) (hheld : held pin = true) :
    Supervised allowed held (events ++ [event]) := by
  have hlive := h.live_eq pin
  rw [hheld] at hlive
  have horder : ∀ other, event.driven? = some other →
      allowed other = true ∧ live other events = 1 := by
    intro other hother
    obtain rfl : pin = other := Option.some.inj (hevent.symm.trans hother)
    exact ⟨h.allowed_of_held hheld, hlive⟩
  cases event with
  | driven other level => exact h.concat ⟨nofun, horder, nofun⟩ fun _ => (Int.add_zero _).symm
  | failed other level => exact h.concat ⟨nofun, horder, nofun⟩ fun _ => (Int.add_zero _).symm
  | opened other => cases hevent
  | unopened other => cases hevent
  | closed other => cases hevent

/-- A driver that is held can be closed, and is not held any more. -/
theorem Supervised.closed (h : Supervised allowed held events) (hheld : held pin = true)
    (hnext : ∀ other, next other = (decide (other ≠ pin) && held other)) :
    Supervised allowed next (events ++ [.closed pin]) := by
  have hlive := h.live_eq pin
  rw [hheld] at hlive
  refine h.concat ⟨nofun, nofun, ?_⟩ fun other => ?_
  · rintro other ⟨⟩
    exact hlive
  · rw [hnext]
    by_cases heq : other = pin
    · simp [change, heq, hheld]
    · simp [change, heq, Ne.symm heq]

end

/-! ## Lists of events beside a world -/

section

variable {α ε ω : Type} {operation : ω → Except ε α × ω} {done failed : DriverEvent}
  {world after : ω}

/-- Carries out an operation and lists what happens, by whether it succeeds. -/
def listing (operation : ω → Except ε α × ω) (done failed : DriverEvent)
    (state : ω × List DriverEvent) : Except ε α × ω × List DriverEvent :=
  match operation state.1 with
  | (.ok value, world) => (.ok value, world, state.2 ++ [done])
  | (.error cause, world) => (.error cause, world, state.2 ++ [failed])

theorem listing_ok {value : α} (h : operation world = (.ok value, after))
    (events : List DriverEvent) :
    listing operation done failed (world, events) = (.ok value, after, events ++ [done]) := by
  simp only [listing, h]

theorem listing_error {cause : ε} (h : operation world = (.error cause, after))
    (events : List DriverEvent) :
    listing operation done failed (world, events) = (.error cause, after, events ++ [failed]) := by
  simp only [listing, h]

/-- What an operation that succeeds has listed. -/
theorem of_listing_ok {value : α} {state next : ω × List DriverEvent}
    (h : listing operation done failed state = (.ok value, next)) : next.2 = state.2 ++ [done] := by
  rcases hoperation : operation state.1 with ⟨cause | other, world⟩
  · simp [listing, hoperation] at h
  · simp only [listing, hoperation] at h
    cases h
    rfl

/-- What an operation that fails has listed. -/
theorem of_listing_error {cause : ε} {state next : ω × List DriverEvent}
    (h : listing operation done failed state = (.error cause, next)) :
    next.2 = state.2 ++ [failed] := by
  rcases hoperation : operation state.1 with ⟨other | value, world⟩
  · simp only [listing, hoperation] at h
    cases h
    rfl
  · simp [listing, hoperation] at h

/-- The list makes no difference to the operation. -/
theorem listing_fst (state : ω × List DriverEvent) :
    operation state.1
      = ((listing operation done failed state).1, (listing operation done failed state).2.1) := by
  rcases hoperation : operation state.1 with ⟨cause | value, next⟩
  · simp only [listing, hoperation]
  · simp only [listing, hoperation]

end

end DriverEvent

/-! ## Machines that show more -/

namespace DriverActions

open DriverTable

variable {δ ε ω τ : Type} {n : Nat}

/-- Actions in a world that shows another world do there what other actions do. -/
structure Shows (rich : DriverActions δ ε τ) (plain : DriverActions δ ε ω) (view : τ → ω) :
    Prop where
  /-- Drives have the same result. -/
  drive : ∀ driver level world, plain.drive driver level (view world)
    = ((rich.drive driver level world).1, view (rich.drive driver level world).2)
  /-- Drivers are given up alike. -/
  release : ∀ driver world, plain.release driver (view world) = view (rich.release driver world)

section

variable {rich : DriverActions δ ε τ} {plain : DriverActions δ ε ω} {view : τ → ω}
  {richClaim : Pin → τ → Except (DriveFault ε) δ × τ}
  {plainClaim : Pin → ω → Except (DriveFault ε) δ × ω}

/-- What is shown of a drive. -/
theorem Shows.drive_eq (h : Shows rich plain view) {driver : δ} {level : Level} {world after : τ}
    {result : Except ε Unit} (hdrive : rich.drive driver level world = (result, after)) :
    plain.drive driver level (view world) = (result, view after) := by
  rw [h.drive, hdrive]

/-- Configuring shows what it does in the world that is shown. -/
theorem Shows.configure_eq (h : Shows rich plain view)
    (hclaim : ∀ pin world,
      plainClaim pin (view world) = ((richClaim pin world).1, view (richClaim pin world).2))
    (pin : Pin) (table : DriverTable δ n) (world : τ) :
    table.configure plain plainClaim pin (view world)
      = let outcome := table.configure rich richClaim pin world
        (outcome.1, outcome.2.1, view outcome.2.2) := by
  have hrule := table.configure_rule rich richClaim pin world
  generalize table.configure rich richClaim pin world = outcome at hrule ⊢
  obtain ⟨result, next, after⟩ := outcome
  have hshown {answer : Except (DriveFault ε) δ} {between : τ}
      (hrich : richClaim pin world = (answer, between)) :
      plainClaim pin (view world) = (answer, view between) := by rw [hclaim, hrich]
  apply Configures.eq
  cases hrule with
  | outside outside => exact .outside outside
  | drivenAgain held driven configured =>
    exact .drivenAgain held (h.drive_eq driven) configured
  | failedAgain held failed => exact .failedAgain held (h.drive_eq failed)
  | unclaimed inside free failed => exact .unclaimed inside free (hshown failed)
  | kept inside free claimed driven configured =>
    exact .kept inside free (hshown claimed) (h.drive_eq driven) configured
  | givenUp inside free claimed failed =>
    simp only [← h.release]
    exact .givenUp inside free (hshown claimed) (h.drive_eq failed)

/-- So does writing. -/
theorem Shows.write_eq (h : Shows rich plain view) (pin : Pin) (level : Level)
    (table : DriverTable δ n) (world : τ) :
    table.write plain pin level (view world)
      = let outcome := table.write rich pin level world
        (outcome.1, outcome.2.1, view outcome.2.2) := by
  have hrule := table.write_rule rich pin level world
  generalize table.write rich pin level world = outcome at hrule ⊢
  obtain ⟨result, next, after⟩ := outcome
  apply Writes.eq
  cases hrule with
  | notConfigured notConfigured => exact .notConfigured notConfigured
  | missing configured free => exact .missing configured free
  | failed configured held failed => exact .failed configured held (h.drive_eq failed)
  | driven configured held driven set => exact .driven configured held (h.drive_eq driven) set

end

end DriverActions

namespace Indicator

variable {σ τ : Type}

/-- A backend on states that show other states does there what another backend does. -/
def Shows (rich : Indicator τ) (plain : Indicator σ) (view : τ → σ) : Prop :=
  ∀ state call, plain.apply (view state) call
    = ((rich.apply state call).1, view (rich.apply state call).2)

section

variable {rich : Indicator τ} {plain : Indicator σ} {view : τ → σ}

/-- What is shown after a list of calls. -/
theorem Shows.after_eq (h : rich.Shows plain view) (state : τ) (calls : List Call) :
    plain.after (view state) calls = view (rich.after state calls) := by
  induction calls generalizing state with
  | nil => rfl
  | cons call rest ih =>
    rw [after, after, List.foldl_cons, List.foldl_cons, h state call]
    exact ih (rich.apply state call).2

/-- The calls are answered alike. -/
theorem Shows.answered_eq (h : rich.Shows plain view) (state : τ) (calls : List Call) :
    plain.answered (view state) calls = rich.answered state calls := by
  induction calls generalizing state with
  | nil => rfl
  | cons call rest ih => rw [answered, answered, h state call, ih]

end

end Indicator

/-! ## Driver tables in worlds with such a list -/

namespace DriverTable

open DriverEvent

variable {ε ω : Type} {n : Nat}

/-- A world in which the drivers of pins are claimed, driven and given up lists what happens. -/
structure ListsEvents (actions : DriverActions Pin ε ω)
    (claim : Pin → ω → Except (DriveFault ε) Pin × ω) (events : ω → List DriverEvent) : Prop where
  /-- A drive is listed. -/
  driven : ∀ {pin level world after}, actions.drive pin level world = (.ok (), after) →
    events after = events world ++ [.driven pin level]
  /-- A drive in vain is listed. -/
  failed : ∀ {pin level world cause after}, actions.drive pin level world = (.error cause, after) →
    events after = events world ++ [.failed pin level]
  /-- A driver that is given up is closed. -/
  closed : ∀ pin world, events (actions.release pin world) = events world ++ [.closed pin]
  /-- A driver that is claimed is that of the pin, and is opened. -/
  opened : ∀ {pin world driver after}, claim pin world = (.ok driver, after) →
    driver = pin ∧ events after = events world ++ [.opened pin]
  /-- A claim that fails has asked for the driver in vain, or not at all. -/
  unopened : ∀ {pin world fault after}, claim pin world = (.error fault, after) →
    events after = events world ++ [.unopened pin] ∨ events after = events world

/-- The drivers that a table holds are the live ones, each for its own pin. -/
structure Keeps (allowed : Pin → Bool) (table : DriverTable Pin n) (events : List DriverEvent) :
    Prop where
  /-- The driver that is held for a pin is the driver of that pin. -/
  named : ∀ pin driver, table.driver? pin = some driver → driver = pin
  /-- The events were in order. -/
  supervised : Supervised allowed (fun pin => (table.driver? pin).isSome) events

section

variable {actions : DriverActions Pin ε ω} {claim : Pin → ω → Except (DriveFault ε) Pin × ω}
  {events : ω → List DriverEvent} {allowed : Pin → Bool} {pin : Pin} {level : Level}
  {table next : DriverTable Pin n} {world after : ω}

theorem Keeps.empty (allowed : Pin → Bool) (fits : n ≤ LineTable.capacity) :
    Keeps allowed (DriverTable.empty (δ := Pin) fits) [] where
  named pin driver held := by
    rw [driver?_empty] at held
    cases held
  supervised := by
    have hnone : (fun pin => ((DriverTable.empty (δ := Pin) fits).driver? pin).isSome)
        = fun _ => false := by
      funext pin
      rw [driver?_empty]
      rfl
    rw [hnone]
    exact .empty allowed

/-- A driver that is held is driven, be it in vain. -/
theorem Keeps.driven {entries : List DriverEvent} {driver : Pin} {event : DriverEvent}
    (h : Keeps allowed table entries) (held : table.driver? pin = some driver)
    (hevent : event.driven? = some driver)
    (hnext : ∀ other, next.driver? other = table.driver? other) :
    Keeps allowed next (entries ++ [event]) where
  named other driver := by
    rw [hnext]
    exact h.named other driver
  supervised := by
    obtain rfl := h.named pin driver held
    simp only [hnext]
    exact h.supervised.driven hevent (by rw [held]; rfl)

/-- A driver that is claimed for a pin without one is live, beside those that are held. -/
theorem Keeps.claimed (h : Keeps allowed table (events world))
    (lists : ListsEvents actions claim events) (hallowed : allowed pin = true)
    (free : table.driver? pin = none) {driver : Pin}
    (claimed : claim pin world = (.ok driver, after)) :
    driver = pin ∧
      Supervised allowed (fun other => decide (other = pin) || (table.driver? other).isSome)
        (events after) := by
  obtain ⟨hdriver, hopened⟩ := lists.opened claimed
  rw [hopened]
  exact ⟨hdriver, h.supervised.opened hallowed (by rw [free]; rfl) fun _ => rfl⟩

/-- Configuring keeps the live drivers of a pin that is allowed. -/
theorem Keeps.of_configures (lists : ListsEvents actions claim events)
    (hallowed : allowed pin = true) (h : Keeps allowed table (events world))
    {result : Except (DriveFault ε) Unit}
    (rule : Configures actions claim pin table world result next after) :
    Keeps allowed next (events after) := by
  cases rule with
  | outside outside => exact h
  | drivenAgain held driven configured =>
    rw [lists.driven driven]
    exact h.driven held rfl fun _ => rfl
  | failedAgain held failed =>
    rw [lists.failed failed]
    exact h.driven held rfl fun _ => rfl
  | unclaimed inside free failed =>
    rcases lists.unopened failed with hevents | hevents
    · rw [hevents]
      exact ⟨h.named, h.supervised.unopened hallowed (by rw [free]; rfl)⟩
    · rw [hevents]
      exact h
  | @kept driver lines between _ inside free claimed driven configured =>
    obtain ⟨rfl, hopen⟩ := h.claimed lists hallowed free claimed
    rw [lists.driven driven]
    have hheld := driver?_set table inside driver lines
    refine ⟨fun other same hsame => ?_, ?_⟩
    · rw [hheld] at hsame
      by_cases heq : other = driver
      · rw [if_pos heq] at hsame
        cases hsame
        exact heq.symm
      · rw [if_neg heq] at hsame
        exact h.named other same hsame
    · have hnext : (fun other => (if other = driver then some driver
            else table.driver? other).isSome)
          = fun other => decide (other = driver) || (table.driver? other).isSome := by
        funext other
        by_cases heq : other = driver <;> simp [heq]
      simp only [hheld, hnext]
      exact hopen.driven rfl (by simp)
  | @givenUp driver cause between last inside free claimed failed =>
    obtain ⟨rfl, hopen⟩ := h.claimed lists hallowed free claimed
    rw [lists.closed, lists.failed failed]
    have hfailed : Supervised allowed
        (fun other => decide (other = driver) || (table.driver? other).isSome)
        (events between ++ [.failed driver .deasserted]) := hopen.driven rfl (by simp)
    refine ⟨h.named, hfailed.closed (by simp) fun other => ?_⟩
    by_cases heq : other = driver
    · simp [heq, free]
    · simp [heq]

/-- So does writing, of any pin. -/
theorem Keeps.of_writes (lists : ListsEvents actions claim events)
    (h : Keeps allowed table (events world)) {result : Except (DriveFault ε) Bool}
    (rule : Writes actions pin level table world result next after) :
    Keeps allowed next (events after) := by
  cases rule with
  | notConfigured notConfigured => exact h
  | missing configured free => exact h
  | failed configured held failed =>
    rw [lists.failed failed]
    exact h.driven held rfl fun _ => rfl
  | driven configured held driven set =>
    rw [lists.driven driven]
    exact h.driven held rfl fun _ => rfl

end

end DriverTable

end PilotLamp
