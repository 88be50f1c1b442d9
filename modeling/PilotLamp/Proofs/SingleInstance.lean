import PilotLamp.Proofs.NumberedBackends

/-!
# One instance behind overlapping calls

All calls on a shared indicator reach the first backend that was built, wherever it is at the
moment, and any other backend serves a single wait. A census says where every numbered backend is
and what was called on it; accounts say what the turns of a run tell about the backends.
-/

namespace PilotLamp.SharedIndicator

/-! ## Where the numbered backends are -/

/-- How often a slot holds the backend with a number. -/
def heldIn {β : Type} (number : Nat) : Slot (Numbered β) → Nat
  | .ready held => if held.number = number then 1 else 0
  | .empty | .checkedOut => 0

/-- How many waits in flight have the backend with a number. -/
def inFlight {β : Type} (number : Nat) (waits : List (CheckOut (Numbered β))) : Nat :=
  waits.countP fun out => out.backend.number = number

/-- Where every backend is, and what was called on it. -/
structure Census {β : Type} (slot : Slot (Numbered β)) (waits : List (CheckOut (Numbered β)))
    (incidents : List Incident) : Prop where
  /-- Numbers are given in order. -/
  inOrder : Incident.builds incidents = List.range (Incident.total incidents)
  /-- The slot is empty until a backend is built. -/
  unused : slot = .empty ↔ Incident.total incidents = 0
  /-- The slot holds no backend but the first one built. -/
  first : ∀ held, slot = .ready held → held.number = 0
  /-- The waits that have the backend of the slot are those that have the first one built. -/
  owned_iff : ∀ out ∈ waits, out.owned = true ↔ out.backend.number = 0
  /-- A backend that was built is in the slot, on a wait or thrown away, and only one of these. -/
  places : ∀ number,
    heldIn number slot + inFlight number waits + Incident.throws number incidents
      = if number < Incident.total incidents then 1 else 0
  /-- The first backend is never thrown away. -/
  kept : Incident.throws 0 incidents = 0
  /-- Every other backend is called for a single wait. -/
  spare : ∀ number, 0 < number → number < Incident.total incidents →
    ∃ ms, Incident.callsOn number incidents = [.delay ms]
  /-- Nothing is called on a backend before it is built. -/
  unbuilt : ∀ number, Incident.total incidents ≤ number →
    Incident.callsOn number incidents = []

section

variable {β ω : Type} {kind : BackendKind β ω} {slot : Slot (Numbered β)}
  {waits : List (CheckOut (Numbered β))} {incidents : List Incident}

theorem Census.empty : Census (β := β) .empty [] [] where
  inOrder := rfl
  unused := ⟨fun _ => rfl, fun _ => rfl⟩
  first := nofun
  owned_iff := nofun
  places number := (if_neg (Nat.not_lt_zero number)).symm
  kept := rfl
  spare number _ hlt := absurd hlt (Nat.not_lt_zero number)
  unbuilt _ _ := rfl

theorem Census.built_pos (h : Census slot waits incidents) (hslot : slot ≠ .empty) :
    0 < Incident.total incidents := by
  have hne : Incident.total incidents ≠ 0 := fun hnone => hslot (h.unused.mpr hnone)
  omega

/-- The backend that a call builds for an empty slot is the first. -/
theorem Census.opened (h : Census .empty waits incidents) (backend : β) :
    Census (.ready ⟨Incident.total incidents, backend⟩) waits
      (incidents ++ [.built (Incident.total incidents)]) := by
  have hnone : Incident.total incidents = 0 := h.unused.mp rfl
  have hbuilds : Incident.builds incidents = [] := List.length_eq_zero_iff.mp hnone
  rw [hnone]
  have hnext : Incident.total (incidents ++ [.built 0]) = 1 := by simp [hnone]
  refine ⟨?_, ?_, ?_, h.owned_iff, ?_, ?_, ?_, ?_⟩
  · rw [hnext, Incident.builds_append, hbuilds]
    rfl
  · rw [hnext]
    exact ⟨nofun, nofun⟩
  · rintro held ⟨⟩
    rfl
  · intro number
    have hplaces := h.places number
    simp only [heldIn, hnone, Nat.not_lt_zero, if_false] at hplaces
    simp only [heldIn, hnext, Incident.throws_append, Incident.throws]
    split <;> split <;> omega
  · simpa using h.kept
  · intro number hpos hlt
    omega
  · intro number hle
    have hzero : Incident.total incidents ≤ number := by omega
    simp [h.unbuilt number hzero]

/-- A call on the backend in the slot leaves it there. -/
theorem Census.called {held next : Numbered β} (h : Census (.ready held) waits incidents)
    (hnext : next.number = held.number) (call : Call) :
    Census (.ready next) waits (incidents ++ [.called held.number call]) := by
  have hzero : held.number = 0 := h.first held rfl
  have hpos := h.built_pos nofun
  have hbuilt : Incident.total (incidents ++ [.called held.number call])
      = Incident.total incidents := by simp
  refine ⟨?_, ?_, ?_, h.owned_iff, ?_, ?_, ?_, ?_⟩
  · rw [hbuilt, Incident.builds_append, h.inOrder]
    exact List.append_nil _
  · rw [hbuilt]
    exact ⟨nofun, fun hnone => by omega⟩
  · rintro other ⟨⟩
    exact hnext.trans hzero
  · intro number
    rw [hbuilt, ← h.places number]
    simp [heldIn, hnext]
  · simpa using h.kept
  · intro number hne hlt
    obtain ⟨ms, hcalls⟩ := h.spare number hne (hbuilt ▸ hlt)
    refine ⟨ms, ?_⟩
    have hother : held.number ≠ number := by omega
    simp [hcalls, hother]
  · intro number hle
    rw [hbuilt] at hle
    have hother : held.number ≠ number := by omega
    simp [h.unbuilt number hle, hother]

/-- A wait that takes the backend of the slot along has it then. -/
theorem Census.lent {held : Numbered β} (h : Census (.ready held) waits incidents) :
    Census .checkedOut (waits ++ [⟨held, true⟩]) incidents := by
  have hpos := h.built_pos nofun
  refine ⟨h.inOrder, ⟨nofun, fun hnone => by omega⟩, nofun, ?_, ?_, h.kept, h.spare, h.unbuilt⟩
  · intro out hout
    rcases List.mem_append.mp hout with hold | hnew
    · exact h.owned_iff out hold
    · rw [List.mem_singleton.mp hnew]
      simpa using h.first held rfl
  · intro number
    have hplaces := h.places number
    simp only [heldIn, inFlight] at hplaces ⊢
    rw [← hplaces, List.countP_append, List.countP_singleton]
    simp only [decide_eq_true_eq]
    omega

/-- A wait that finds no backend builds a spare one and is timed on it. -/
theorem Census.spared {next : Numbered β} (h : Census .checkedOut waits incidents)
    (hnext : next.number = Incident.total incidents) (ms : UInt32) :
    Census .checkedOut (waits ++ [⟨next, false⟩])
      (incidents ++ [.built next.number] ++ [.called next.number (.delay ms)]) := by
  have hpos := h.built_pos nofun
  have htotal : Incident.total (incidents ++ [.built next.number]
      ++ [.called next.number (.delay ms)]) = Incident.total incidents + 1 := by simp
  refine ⟨?_, ⟨nofun, fun hnone => by omega⟩, nofun, ?_, ?_, ?_, ?_, ?_⟩
  · rw [htotal, List.range_succ, ← h.inOrder, ← hnext]
    simp
  · intro out hout
    rcases List.mem_append.mp hout with hold | hnew
    · exact h.owned_iff out hold
    · rw [List.mem_singleton.mp hnew]
      simp only [Bool.false_eq_true, false_iff]
      omega
  · intro number
    have hplaces := h.places number
    rw [htotal]
    simp only [heldIn, inFlight, List.countP_append, List.countP_singleton, decide_eq_true_eq,
      Incident.throws_append, Incident.throws] at hplaces ⊢
    split at hplaces <;> split <;> split <;> omega
  · simpa using h.kept
  · intro number hne hlt
    rw [htotal] at hlt
    by_cases hlast : next.number = number
    · refine ⟨ms, ?_⟩
      have hnone := h.unbuilt number (by omega)
      simp [hlast, hnone]
    · obtain ⟨earlier, hcalls⟩ := h.spare number hne (by omega)
      refine ⟨earlier, ?_⟩
      simp [hlast, hcalls]
  · intro number hle
    rw [htotal] at hle
    have hother : next.number ≠ number := by omega
    have hnone := h.unbuilt number (by omega)
    simp [hother, hnone]

/-- A wait in flight is one of those that have its backend. -/
theorem inFlight_eq_add {position : Nat} {out : CheckOut (Numbered β)}
    (hout : waits[position]? = some out) (number : Nat) :
    inFlight number waits = inFlight number (waits.eraseIdx position)
      + if out.backend.number = number then 1 else 0 := by
  rw [inFlight, (perm_cons_eraseIdx hout).countP_eq, List.countP_cons]
  simp only [decide_eq_true_eq]
  rfl

/-- A wait that puts the backend of the slot back has it no more. -/
theorem Census.returned {position : Nat} {held : Numbered β}
    (h : Census .checkedOut waits incidents) (hout : waits[position]? = some ⟨held, true⟩) :
    Census (.ready held) (waits.eraseIdx position) incidents := by
  have hpos := h.built_pos nofun
  have hzero : held.number = 0 := (h.owned_iff _ (List.mem_of_getElem? hout)).mp rfl
  refine ⟨h.inOrder, ⟨nofun, fun hnone => by omega⟩, ?_, ?_, ?_, h.kept, h.spare, h.unbuilt⟩
  · rintro other ⟨⟩
    exact hzero
  · intro out hmem
    exact h.owned_iff out (List.mem_of_mem_eraseIdx hmem)
  · intro number
    have hplaces := h.places number
    rw [inFlight_eq_add hout number] at hplaces
    simp only [heldIn] at hplaces ⊢
    omega

/-- A wait that throws its spare backend away has it no more. -/
theorem Census.thrown {position : Nat} {out : CheckOut (Numbered β)}
    (h : Census slot waits incidents) (hout : waits[position]? = some out)
    (spare : out.owned = false) :
    Census slot (waits.eraseIdx position) (incidents ++ [.thrownAway out.backend.number]) := by
  have hother : out.backend.number ≠ 0 := fun hzero => by
    have howned := (h.owned_iff out (List.mem_of_getElem? hout)).mpr hzero
    rw [spare] at howned
    cases howned
  have htotal : Incident.total (incidents ++ [.thrownAway out.backend.number])
      = Incident.total incidents := by simp
  refine ⟨?_, ?_, h.first, ?_, ?_, ?_, ?_, ?_⟩
  · simpa [htotal] using h.inOrder
  · simpa [htotal] using h.unused
  · intro other hmem
    exact h.owned_iff other (List.mem_of_mem_eraseIdx hmem)
  · intro number
    have hplaces := h.places number
    rw [inFlight_eq_add hout number] at hplaces
    rw [htotal, ← hplaces, Incident.throws_append]
    simp only [Incident.throws]
    omega
  · simpa [hother] using h.kept
  · intro number hne hlt
    simpa using h.spare number hne (htotal ▸ hlt)
  · intro number hle
    simpa using h.unbuilt number (htotal ▸ hle)

/-- A call finds the first backend, in the slot or built for it. -/
theorem Census.found {chronicle : Chronicle ω} {state : Numbered β × Chronicle ω}
    (h : Census slot waits chronicle.incidents)
    (finds : found kind.numbered.build slot chronicle = some state) :
    Census (.ready state.1) waits state.2.incidents := by
  cases slot with
  | checkedOut => cases finds
  | ready held => cases finds; exact h
  | empty => cases finds; exact h.opened _

/-- Every rule keeps the census. -/
theorem Census.of_rule {before next : Traffic (Numbered β) (Chronicle ω)} {move : Move}
    {reply : Reply (Numbered β)} (tenancy : Tenancy before)
    (h : Census before.slot before.waits before.world.incidents)
    (rule : Rule kind.numbered before move reply next) :
    Census next.slot next.waits next.world.incidents := by
  cases rule with
  | served pinCall finds applied =>
    obtain ⟨hnumber, hincidents⟩ := kind.numbered_of_apply applied
    have hcalled := (h.found finds).called hnumber
    simp only [hincidents]
    exact hcalled _
  | refused pinCall => exact h
  | inspected => exact h
  | tookAlong finds applied =>
    obtain ⟨hnumber, hincidents⟩ := kind.numbered_of_apply applied
    have hcalled := (h.found finds).called hnumber
    simp only [hincidents]
    exact (hcalled _).lent
  | overlapped applied =>
    obtain ⟨hnumber, hincidents⟩ := kind.numbered_of_apply applied
    have hspared := h.spared hnumber
    rw [hnumber] at hspared
    simp only [hincidents]
    exact hspared _
  | returned inFlight => exact h.returned inFlight
  | @thrownAway position slot waits world out inFlight notOwed =>
    have hmem := List.mem_of_getElem? inFlight
    exact h.thrown inFlight (tenancy.not_owned hmem notOwed)
  | idle none => exact h

end

/-! ## What the turns of a run tell -/

/-- Whether a move asks something of a backend. -/
def Turn.calls {β ω : Type} (turn : Turn β ω) : Bool := turn.move.call?.isSome

/-- Whether a wait began that found the slot checked out. -/
def Turn.overlaps {β ω : Type} (turn : Turn β ω) : Bool :=
  match turn.move, turn.before.slot with
  | .checkOut _, .checkedOut => true
  | _, _ => false

/-- A wait began that took the backend with a number out of the slot, or built it for the empty
slot. -/
def Turn.Took {β ω : Type} (turn : Turn (Numbered β) (Chronicle ω)) (number : Nat) : Prop :=
  turn.after.slot = .checkedOut ∧
    ((∃ held, turn.before.slot = .ready held ∧ held.number = number) ∨
      (turn.before.slot = .empty ∧ ∃ ms, turn.after.world.incidents
        = turn.before.world.incidents ++ [.built number, .called number (.delay ms)]))

/-- What the turns of a run tell about the backends at its end. -/
structure Accounts {β ω : Type} (turns : List (Turn (Numbered β) (Chronicle ω)))
    (now : Traffic (Numbered β) (Chronicle ω)) : Prop where
  /-- The slot is empty until a move asks something of a backend. -/
  unused : now.slot = .empty ↔ turns.any Turn.calls = false
  /-- One backend is built for the slot, and one for each wait that overlaps another. -/
  total : Incident.total now.world.incidents
    = turns.countP Turn.overlaps + if turns.any Turn.calls then 1 else 0
  /-- Since the wait that has the backend of the slot began, the slot has been checked out. -/
  origin : ∀ out ∈ now.waits, out.owned = true → ∃ earlier turn later,
    turns = earlier ++ turn :: later ∧ (∀ other ∈ later, other.after.slot = .checkedOut) ∧
      turn.Took out.backend.number

section

variable {β ω : Type} {kind : BackendKind β ω}

theorem Accounts.fresh (world : ω) :
    Accounts [] (Traffic.fresh (β := Numbered β) ⟨world, []⟩) where
  unused := ⟨fun _ => rfl, fun _ => rfl⟩
  total := rfl
  origin := List.forall_mem_nil _

/-- A turn that neither builds a backend for the slot nor takes it along keeps the accounts. -/
theorem Accounts.of_quiet {earlier : List (Turn (Numbered β) (Chronicle ω))}
    {turn : Turn (Numbered β) (Chronicle ω)} (h : Accounts earlier turn.before)
    (tenancy : Tenancy turn.after) (quiet : turn.calls = true → turn.before.slot ≠ .empty)
    (hslot : turn.after.slot = .empty ↔ turn.before.slot = .empty)
    (hwaits : ∀ out ∈ turn.after.waits, out.owned = true → out ∈ turn.before.waits)
    (htotal : Incident.total turn.after.world.incidents
      = Incident.total turn.before.world.incidents + if turn.overlaps then 1 else 0) :
    Accounts (earlier ++ [turn]) turn.after := by
  have hany : (earlier ++ [turn]).any Turn.calls = earlier.any Turn.calls := by
    rw [List.any_append, List.any_cons, List.any_nil, Bool.or_false]
    cases hcalls : turn.calls with
    | false => exact Bool.or_false _
    | true =>
      cases hearlier : earlier.any Turn.calls with
      | true => rfl
      | false => exact absurd (h.unused.mpr hearlier) (quiet hcalls)
  refine ⟨?_, ?_, ?_⟩
  · rw [hany, hslot]
    exact h.unused
  · rw [hany, htotal, h.total, List.countP_append, List.countP_singleton]
    omega
  · intro out hout howned
    obtain ⟨first, took, later, rfl, hlater, htook⟩ := h.origin out (hwaits out hout howned) howned
    refine ⟨first, took, later ++ [turn], by simp, ?_, htook⟩
    intro other hother
    rcases List.mem_append.mp hother with hold | hnew
    · exact hlater other hold
    · rw [List.mem_singleton.mp hnew]
      exact tenancy.slot_of_owned hout howned

/-- A turn that asks something of the backend in the slot keeps the accounts. -/
theorem Accounts.of_call {earlier : List (Turn (Numbered β) (Chronicle ω))}
    {turn : Turn (Numbered β) (Chronicle ω)} (h : Accounts earlier turn.before)
    (calls : turn.calls = true) (hbefore : turn.before.slot ≠ .checkedOut)
    (hafter : turn.after.slot ≠ .empty)
    (hempty : turn.before.slot = .empty → Incident.total turn.after.world.incidents
      = Incident.total turn.before.world.incidents + 1)
    (hready : turn.before.slot ≠ .empty → Incident.total turn.after.world.incidents
      = Incident.total turn.before.world.incidents)
    (horigin : ∀ out ∈ turn.after.waits, out.owned = true → turn.Took out.backend.number) :
    Accounts (earlier ++ [turn]) turn.after := by
  have hany : (earlier ++ [turn]).any Turn.calls = true := by simp [calls]
  have hoverlaps : turn.overlaps = false := by
    unfold Turn.overlaps
    split
    case h_1 _ hslot => exact absurd hslot hbefore
    case h_2 => rfl
  refine ⟨?_, ?_, ?_⟩
  · rw [hany]
    exact ⟨fun hslot => absurd hslot hafter, nofun⟩
  · rw [hany, List.countP_append, List.countP_singleton, hoverlaps]
    have htotal := h.total
    by_cases hslot : turn.before.slot = .empty
    · rw [h.unused.mp hslot] at htotal
      rw [hempty hslot, htotal]
      rfl
    · have hearlier : earlier.any Turn.calls = true := by
        cases hearlier : earlier.any Turn.calls with
        | true => rfl
        | false => exact absurd (h.unused.mpr hearlier) hslot
      rw [hearlier] at htotal
      rw [hready hslot, htotal]
      rfl
  · intro out hout howned
    exact ⟨earlier, turn, [], rfl, List.forall_mem_nil _, horigin out hout howned⟩

/-- What a call finds is in the slot, or was just built for the empty slot. -/
theorem incidents_of_found {slot : Slot (Numbered β)} {chronicle : Chronicle ω}
    {state : Numbered β × Chronicle ω}
    (finds : found kind.numbered.build slot chronicle = some state) :
    (slot = .ready state.1 ∧ state.2.incidents = chronicle.incidents) ∨
      (slot = .empty ∧ state.2.incidents = chronicle.incidents ++ [.built state.1.number]) := by
  cases slot with
  | checkedOut => cases finds
  | ready held => cases finds; exact .inl ⟨rfl, rfl⟩
  | empty => cases finds; exact .inr ⟨rfl, rfl⟩

/-- A call adds a backend to those that were built exactly if the slot is empty. -/
theorem total_of_call {slot : Slot (Numbered β)} {chronicle : Chronicle ω} {call : Call}
    {state next : Numbered β × Chronicle ω} {result : Except PinError Unit}
    (finds : found kind.numbered.build slot chronicle = some state)
    (applied : kind.numbered.indicator.apply state call = (result, next)) :
    (slot = .empty → Incident.total next.2.incidents = Incident.total chronicle.incidents + 1) ∧
      (slot ≠ .empty →
        Incident.total next.2.incidents = Incident.total chronicle.incidents) := by
  obtain ⟨-, hincidents⟩ := kind.numbered_of_apply applied
  have hcalled : Incident.total next.2.incidents = Incident.total state.2.incidents := by
    simp [hincidents]
  rcases incidents_of_found finds with ⟨rfl, hsame⟩ | ⟨rfl, hbuilt⟩
  · exact ⟨nofun, fun _ => by rw [hcalled, hsame]⟩
  · refine ⟨fun _ => ?_, fun hne => absurd rfl hne⟩
    rw [hcalled, hbuilt]
    simp

/-- Every rule keeps the accounts. -/
theorem Accounts.of_rule {earlier : List (Turn (Numbered β) (Chronicle ω))}
    {before next : Traffic (Numbered β) (Chronicle ω)} {move : Move} {reply : Reply (Numbered β)}
    (tenancy : Tenancy before) (h : Accounts earlier before)
    (rule : Rule kind.numbered before move reply next) :
    Accounts (earlier ++ [⟨before, move, reply, next⟩]) next := by
  have hafter := tenancy.of_rule rule
  cases rule with
  | served pinCall finds applied =>
    have hcalls := Move.call?_of_pinCall pinCall
    obtain ⟨hempty, hready⟩ := total_of_call finds applied
    refine h.of_call ?_ (slot_of_found finds) nofun hempty hready ?_
    · rw [Turn.calls, hcalls]
      rfl
    · intro out hout howned
      exact absurd (tenancy.slot_of_owned hout howned) (slot_of_found finds)
  | refused pinCall =>
    refine h.of_quiet hafter (fun _ => nofun) .rfl (fun _ hout _ => hout) ?_
    cases move <;> cases pinCall <;> rfl
  | inspected => exact h.of_quiet hafter nofun .rfl (fun _ hout _ => hout) rfl
  | @tookAlong raw slot waits world state next result finds applied =>
    obtain ⟨hnumber, hincidents⟩ := kind.numbered_of_apply applied
    obtain ⟨hempty, hready⟩ := total_of_call finds applied
    refine h.of_call rfl (slot_of_found finds) nofun hempty hready ?_
    intro out hout howned
    rcases List.mem_append.mp hout with hold | hnew
    · exact absurd (tenancy.slot_of_owned hold howned) (slot_of_found finds)
    · rw [List.mem_singleton.mp hnew]
      refine ⟨rfl, ?_⟩
      rcases incidents_of_found finds with ⟨hslot, -⟩ | ⟨hslot, hbuilt⟩
      · exact .inl ⟨_, hslot, hnumber.symm⟩
      · refine .inr ⟨hslot, .ofNat (max raw.toInt 0).toNat, ?_⟩
        simp only [hincidents, hbuilt, hnumber, List.append_assoc]
        rfl
  | overlapped applied =>
    obtain ⟨-, hincidents⟩ := kind.numbered_of_apply applied
    refine h.of_quiet hafter (fun _ => nofun) .rfl ?_ ?_
    · intro out hout howned
      rcases List.mem_append.mp hout with hold | hnew
      · exact hold
      · rw [List.mem_singleton.mp hnew] at howned
        cases howned
    · simp only [hincidents, BackendKind.numbered]
      simp [Turn.overlaps]
  | returned inFlight =>
    exact h.of_quiet hafter nofun ⟨nofun, nofun⟩
      (fun _ hout _ => List.mem_of_mem_eraseIdx hout) rfl
  | thrownAway inFlight notOwed =>
    refine h.of_quiet hafter nofun .rfl (fun _ hout _ => List.mem_of_mem_eraseIdx hout) ?_
    simp [BackendKind.numbered, Turn.overlaps]
  | idle none => exact h.of_quiet hafter nofun .rfl (fun _ hout _ => hout) rfl

end

/-! ## The law -/

/-- What holds of the numbered backends after a run with some turns. The backend with number zero
is the one that the slot is for; all others are spare. -/
structure SingleInstance {β ω : Type} (kind : BackendKind β ω)
    (turns : List (Turn (Numbered β) (Chronicle ω)))
    (now : Traffic (Numbered β) (Chronicle ω)) : Prop where
  /-- The slot is checked out exactly while one wait in flight has its backend. -/
  checkedOut_iff : now.slot = .checkedOut ↔ now.owners = 1
  /-- Two such waits are never in flight. -/
  owners_le : now.owners ≤ 1
  /-- A slot that is not empty is not empty ever after. -/
  stays : now.slot ≠ .empty → ∀ moves, (kind.numbered.after now moves).slot ≠ .empty
  /-- The slot is empty exactly as long as nothing was asked of a backend. -/
  empty_iff : now.slot = .empty ↔ turns.any Turn.calls = false
  /-- Such a wait has the backend that the slot held last, or that it built for the empty slot. -/
  origin : ∀ out ∈ now.waits, out.owned = true → ∃ earlier turn later,
    turns = earlier ++ turn :: later ∧ (∀ other ∈ later, other.after.slot = .checkedOut) ∧
      turn.Took out.backend.number
  /-- It finds the slot checked out and puts that backend back; nothing is thrown away. -/
  returns : ∀ position out, now.waits[position]? = some out → out.owned = true →
    now.slot = .checkedOut ∧ (kind.numbered.step now (.giveBack position)).2
      = ⟨.ready out.backend, now.waits.eraseIdx position, now.world⟩
  /-- The slot holds no other backend. -/
  first : ∀ held, now.slot = .ready held → held.number = 0
  /-- Every number is given to one backend. -/
  builds : Incident.builds now.world.incidents = List.range (Incident.total now.world.incidents)
  /-- Every backend is in the slot, on one wait or thrown away once. -/
  places : ∀ number < Incident.total now.world.incidents,
    heldIn number now.slot + inFlight number now.waits
      + Incident.throws number now.world.incidents = 1
  /-- The backend of the slot is never thrown away. -/
  kept : Incident.throws 0 now.world.incidents = 0
  /-- Pin calls and reports reach the backend of the slot alone. -/
  reached : ∀ number call, .called number call ∈ now.world.incidents →
    number = 0 ∨ ∃ ms, call = .delay ms
  /-- So do looks. -/
  seen : ∀ held, (kind.numbered.step now .inspect).1 = .seen (some held) → held.number = 0
  /-- The waits that have the backend of the slot are those that give it back. -/
  owned_iff : ∀ out ∈ now.waits, out.owned = true ↔ out.backend.number = 0
  /-- A wait that finds the slot checked out builds a spare backend and waits on it. -/
  spare_begins : now.slot = .checkedOut → ∀ raw, ∃ spare ms,
    (kind.numbered.step now (.checkOut raw)).2.slot = .checkedOut ∧
    (kind.numbered.step now (.checkOut raw)).2.waits = now.waits ++ [⟨spare, false⟩] ∧
    spare.number = Incident.total now.world.incidents ∧
    (kind.numbered.step now (.checkOut raw)).2.world.incidents
      = now.world.incidents ++ [.built spare.number, .called spare.number (.delay ms)]
  /-- That is the only call on it, from when it is built on. -/
  spare_calls : ∀ number, 0 < number → number < Incident.total now.world.incidents →
    ∃ ms, Incident.callsOn number now.world.incidents = [.delay ms]
  /-- When the wait ends the spare backend is thrown away and the slot is left alone. -/
  spare_ends : ∀ position out, now.waits[position]? = some out → out.owned = false →
    (kind.numbered.step now (.giveBack position)).2.slot = now.slot ∧
    (kind.numbered.step now (.giveBack position)).2.waits = now.waits.eraseIdx position ∧
    (kind.numbered.step now (.giveBack position)).2.world.incidents
      = now.world.incidents ++ [.thrownAway out.backend.number]
  /-- One backend is built for each wait that began while the slot was checked out, and one more
  if anything was asked of a backend at all. -/
  total : Incident.total now.world.incidents
    = turns.countP Turn.overlaps + if turns.any Turn.calls then 1 else 0

section

variable {β ω : Type} (kind : BackendKind β ω)

/-- No rule empties a slot. -/
theorem slot_ne_empty_of_rule {before next : Traffic β ω} {move : Move} {reply : Reply β}
    (h : before.slot ≠ .empty) (rule : Rule kind before move reply next) : next.slot ≠ .empty := by
  cases rule with
  | served pinCall finds applied => exact nofun
  | refused pinCall => exact nofun
  | inspected => exact h
  | tookAlong finds applied => exact nofun
  | overlapped applied => exact nofun
  | returned inFlight => exact nofun
  | thrownAway inFlight notOwed => exact h
  | idle none => exact h

/-- A slot that is not empty is not empty ever after. -/
theorem slot_after_ne_empty {now : Traffic β ω} (h : now.slot ≠ .empty) (moves : List Move) :
    (kind.after now moves).slot ≠ .empty :=
  run_induction kind (motive := fun _ traffic => traffic.slot ≠ .empty) h
    (fun _ _ hbefore rule => slot_ne_empty_of_rule kind hbefore rule) moves

/-- Whatever was called on a backend is among the calls on it. -/
theorem Incident.mem_callsOn {number : Nat} {call : Call} {incidents : List Incident}
    (h : .called number call ∈ incidents) : call ∈ Incident.callsOn number incidents := by
  obtain ⟨first, second, rfl⟩ := List.append_of_mem h
  simp

/-- The invariants of a run with numbers. -/
theorem invariants_after_fresh (world : ω) (moves : List Move) :
    let now := kind.numbered.after (.fresh ⟨world, []⟩) moves
    Tenancy now ∧ Census now.slot now.waits now.world.incidents ∧
      Accounts (kind.numbered.turns (.fresh ⟨world, []⟩) moves) now := by
  have hfirst : let start : Traffic (Numbered β) (Chronicle ω) := .fresh ⟨world, []⟩
      Census start.slot start.waits start.world.incidents := Census.empty
  refine run_induction kind.numbered
    (motive := fun turns now => Tenancy now ∧ Census now.slot now.waits now.world.incidents ∧
      Accounts turns now)
    ⟨.fresh _, hfirst, .fresh world⟩ ?_ moves
  rintro earlier turn ⟨htenancy, hcensus, haccounts⟩ rule
  exact ⟨htenancy.of_rule rule, hcensus.of_rule htenancy rule, haccounts.of_rule htenancy rule⟩

/-- A wait that has the backend of the slot puts it back. -/
theorem step_giveBack_owned {now : Traffic β ω} (tenancy : Tenancy now) {position : Nat}
    {out : CheckOut β} (hout : now.waits[position]? = some out) (howned : out.owned = true) :
    now.slot = .checkedOut ∧ (kind.step now (.giveBack position)).2
      = ⟨.ready out.backend, now.waits.eraseIdx position, now.world⟩ := by
  have hslot := tenancy.slot_of_owned (List.mem_of_getElem? hout) howned
  refine ⟨hslot, ?_⟩
  simp only [BackendKind.step, hout, hslot, giveBack, howned]

/-- A wait that has a backend of its own throws it away. -/
theorem step_giveBack_spare {now : Traffic β ω} {position : Nat} {out : CheckOut β}
    (hout : now.waits[position]? = some out) (hspare : out.owned = false) :
    (kind.step now (.giveBack position)).2
      = ⟨now.slot, now.waits.eraseIdx position, kind.discard out.backend now.world⟩ := by
  simp only [BackendKind.step, hout, giveBack, hspare]

/-- Numbers and chronicle leave a run as it is, and with them all calls reach one backend. -/
theorem calls_reach_one_instance (world : ω) (moves : List Move) :
    (kind.numbered.turns (.fresh ⟨world, []⟩) moves).map Turn.forget
        = kind.turns (.fresh world) moves ∧
      SingleInstance kind (kind.numbered.turns (.fresh ⟨world, []⟩) moves)
        (kind.numbered.after (.fresh ⟨world, []⟩) moves) := by
  refine ⟨forget_turns kind _ moves, ?_⟩
  obtain ⟨htenancy, hcensus, haccounts⟩ := invariants_after_fresh kind world moves
  generalize kind.numbered.after (.fresh ⟨world, []⟩) moves = now at htenancy hcensus haccounts ⊢
  generalize kind.numbered.turns (.fresh ⟨world, []⟩) moves = turns at haccounts ⊢
  constructor
  case checkedOut_iff =>
    refine ⟨htenancy.taken, fun howners => ?_⟩
    by_contra hslot
    have hfree := htenancy.free hslot
    omega
  case owners_le =>
    by_cases hslot : now.slot = .checkedOut
    · have htaken := htenancy.taken hslot
      omega
    · have hfree := htenancy.free hslot
      omega
  case stays => exact fun hslot more => slot_after_ne_empty kind.numbered hslot more
  case empty_iff => exact haccounts.unused
  case origin => exact haccounts.origin
  case returns =>
    intro position out hout howned
    exact step_giveBack_owned kind.numbered htenancy hout howned
  case first => exact hcensus.first
  case builds => exact hcensus.inOrder
  case places =>
    intro number hlt
    rw [hcensus.places number, if_pos hlt]
  case kept => exact hcensus.kept
  case reached =>
    intro number call hmem
    have hcalls := Incident.mem_callsOn hmem
    by_cases hzero : number = 0
    · exact .inl hzero
    · by_cases hlt : number < Incident.total now.world.incidents
      · obtain ⟨ms, hspare⟩ := hcensus.spare number (by omega) hlt
        rw [hspare] at hcalls
        exact .inr ⟨ms, List.mem_singleton.mp hcalls⟩
      · rw [hcensus.unbuilt number (by omega)] at hcalls
        cases hcalls
  case seen =>
    intro held hseen
    obtain ⟨slot, waits, chronicle⟩ := now
    cases slot with
    | empty => cases hseen
    | checkedOut => cases hseen
    | ready other =>
      cases hseen
      exact hcensus.first _ rfl
  case owned_iff => exact hcensus.owned_iff
  case spare_begins =>
    intro hslot raw
    obtain ⟨slot, waits, chronicle⟩ := now
    obtain rfl : slot = .checkedOut := hslot
    refine ⟨_, durationOfRaw raw, rfl, rfl, rfl, ?_⟩
    exact List.append_assoc _ [_] [_]
  case spare_calls => exact hcensus.spare
  case spare_ends =>
    intro position out hout hspare
    rw [step_giveBack_spare kind.numbered hout hspare]
    exact ⟨rfl, rfl, rfl⟩
  case total => exact haccounts.total

end

end PilotLamp.SharedIndicator
