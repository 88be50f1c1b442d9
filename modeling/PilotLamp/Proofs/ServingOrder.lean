import PilotLamp.Proofs.OverlappingCalls

/-!
# Overlapping calls served as by one backend

What a shared indicator does is what a single backend does that is built once and asked one thing
after another: each pin call that finds a backend when it is made, and each wait that takes the
backend along when it begins. A wait that overlaps another asks a spare backend and is not among
them, but like all else it acts on the world; so each request is kept with the world it met.
-/

namespace PilotLamp.SharedIndicator

/-- A request that the backend of the slot carried out. -/
structure Service (ω : Type) where
  /-- What was asked. -/
  call : Call
  /-- The world in which it was asked. -/
  world : ω

/-- The request that a turn made of the backend of the slot, if it made one. -/
def Turn.service? {β ω : Type} (build : ω → β × ω) (turn : Turn β ω) : Option (Service ω) :=
  match turn.move.call?, found build turn.before.slot turn.before.world with
  | some call, some state => some ⟨call, state.2⟩
  | _, _ => none

/-- The requests that some turns made of the backend of the slot, in their order. -/
def services {β ω : Type} (build : ω → β × ω) (turns : List (Turn β ω)) : List (Service ω) :=
  turns.filterMap (Turn.service? build)

/-- A backend after some requests, one after another. -/
def serve {β ω : Type} (indicator : Indicator (β × ω)) (start : β)
    (requests : List (Service ω)) : β :=
  requests.foldl
    (fun backend request => (indicator.apply (backend, request.world) request.call).2.1) start

section

variable {β ω : Type} {kind : BackendKind β ω}

/-- A backend serves a last request after the others. -/
theorem serve_append (indicator : Indicator (β × ω)) (start : β) (requests : List (Service ω))
    (request : Service ω) :
    serve indicator start (requests ++ [request])
      = (indicator.apply (serve indicator start requests, request.world) request.call).2.1 :=
  List.foldl_append

/-- A last turn adds the request that it made, if it made one. -/
theorem services_append (earlier : List (Turn β ω)) (turn : Turn β ω) :
    services kind.build (earlier ++ [turn])
      = services kind.build earlier ++ (turn.service? kind.build).toList := by
  rw [services, List.filterMap_append, services]
  cases h : turn.service? kind.build with
  | none => rw [List.filterMap_cons_none h]; rfl
  | some service => rw [List.filterMap_cons_some h]; rfl

/-- A turn that asks something of the backend that it finds adds a request. -/
theorem services_of_call {earlier : List (Turn β ω)} {turn : Turn β ω} {call : Call}
    {state : β × ω} (calls : turn.move.call? = some call)
    (finds : found kind.build turn.before.slot turn.before.world = some state) :
    services kind.build (earlier ++ [turn])
      = services kind.build earlier ++ [⟨call, state.2⟩] := by
  have hservice : turn.service? kind.build = some ⟨call, state.2⟩ := by
    rw [Turn.service?, calls, finds]
  rw [services_append, hservice]
  rfl

/-- A turn that asks nothing of a backend adds no request. -/
theorem services_of_quiet {earlier : List (Turn β ω)} {turn : Turn β ω}
    (quiet : turn.move.call? = none) :
    services kind.build (earlier ++ [turn]) = services kind.build earlier := by
  have hservice : turn.service? kind.build = none := by rw [Turn.service?, quiet]
  rw [services_append, hservice]
  exact List.append_nil _

/-- A turn that finds the slot checked out adds no request. -/
theorem services_of_checkedOut {earlier : List (Turn β ω)} {turn : Turn β ω}
    (hslot : turn.before.slot = .checkedOut) :
    services kind.build (earlier ++ [turn]) = services kind.build earlier := by
  have hfound : found kind.build turn.before.slot turn.before.world = none :=
    found_eq_none_iff.mpr hslot
  have hservice : turn.service? kind.build = none := by
    rw [Turn.service?, hfound]
    cases turn.move.call? <;> rfl
  rw [services_append, hservice]
  exact List.append_nil _

/-- The backend of the slot, wherever it is, after some requests in a world that was fresh. -/
structure Following (kind : BackendKind β ω) (world : ω) (requests : List (Service ω))
    (now : Traffic β ω) : Prop where
  /-- As long as the slot is empty nothing was asked and nothing happened. -/
  unused : now.slot = .empty → now.world = world ∧ requests = []
  /-- The slot holds a backend that served the requests. -/
  ready : ∀ backend, now.slot = .ready backend →
    backend = serve kind.indicator (kind.build world).1 requests
  /-- A wait that has the backend of the slot has one that served the requests. -/
  owed : ∀ out ∈ now.waits, out.owned = true →
    out.backend = serve kind.indicator (kind.build world).1 requests

theorem Following.fresh (world : ω) : Following kind world [] (.fresh world) where
  unused _ := ⟨rfl, rfl⟩
  ready := nofun
  owed := nofun

/-- A call that finds a backend finds one that served the requests. -/
theorem Following.found {world : ω} {requests : List (Service ω)} {now : Traffic β ω}
    {state : β × ω} (h : Following kind world requests now)
    (finds : found kind.build now.slot now.world = some state) :
    state.1 = serve kind.indicator (kind.build world).1 requests := by
  cases hslot : now.slot with
  | checkedOut =>
    rw [hslot] at finds
    cases finds
  | ready backend =>
    rw [hslot] at finds
    cases finds
    exact h.ready backend hslot
  | empty =>
    obtain ⟨hworld, hnone⟩ := h.unused hslot
    rw [hslot] at finds
    cases finds
    rw [hworld, hnone]
    rfl

/-- What a backend becomes by a call is what it becomes by one more request. -/
theorem Following.applied {world : ω} {requests : List (Service ω)} {now : Traffic β ω}
    {state next : β × ω} {call : Call} {result : Except PinError Unit}
    (h : Following kind world requests now)
    (finds : SharedIndicator.found kind.build now.slot now.world = some state)
    (applied : kind.indicator.apply state call = (result, next)) :
    next.1 = serve kind.indicator (kind.build world).1 (requests ++ [⟨call, state.2⟩]) := by
  rw [serve_append, ← h.found finds]
  rw [Prod.eta, applied]

/-- Every rule keeps the backend of the slot to the requests. -/
theorem Following.of_rule {world : ω} {earlier : List (Turn β ω)} {before next : Traffic β ω}
    {move : Move} {reply : Reply β} (tenancy : Tenancy before)
    (h : Following kind world (services kind.build earlier) before)
    (rule : Rule kind before move reply next) :
    Following kind world (services kind.build (earlier ++ [⟨before, move, reply, next⟩])) next := by
  cases rule with
  | served pinCall finds applied =>
    rw [services_of_call (Move.call?_of_pinCall pinCall) finds]
    refine ⟨nofun, ?_, ?_⟩
    · rintro backend ⟨⟩
      exact h.applied finds applied
    · intro out hout howned
      exact absurd (tenancy.slot_of_owned hout howned) (slot_of_found finds)
  | refused pinCall =>
    rw [services_of_checkedOut rfl]
    exact h
  | inspected =>
    rw [services_of_quiet rfl]
    exact h
  | tookAlong finds applied =>
    rw [services_of_call rfl finds]
    refine ⟨nofun, nofun, ?_⟩
    intro out hout howned
    rcases List.mem_append.mp hout with hold | hnew
    · exact absurd (tenancy.slot_of_owned hold howned) (slot_of_found finds)
    · rw [List.mem_singleton.mp hnew]
      exact h.applied finds applied
  | overlapped applied =>
    rw [services_of_checkedOut rfl]
    refine ⟨nofun, nofun, ?_⟩
    intro out hout howned
    rcases List.mem_append.mp hout with hold | hnew
    · exact h.owed out hold howned
    · rw [List.mem_singleton.mp hnew] at howned
      cases howned
  | returned inFlight =>
    rw [services_of_quiet rfl]
    refine ⟨nofun, ?_, fun out hout => h.owed out (List.mem_of_mem_eraseIdx hout)⟩
    rintro backend ⟨⟩
    exact h.owed _ (List.mem_of_getElem? inFlight) rfl
  | thrownAway inFlight notOwed =>
    rw [services_of_quiet rfl]
    refine ⟨fun hslot => ?_, h.ready, fun out hout => h.owed out (List.mem_of_mem_eraseIdx hout)⟩
    exact absurd hslot (tenancy.slot_ne_empty (List.mem_of_getElem? inFlight))
  | idle none =>
    rw [services_of_quiet rfl]
    exact h

/-- The backend of the slot has served the requests after every run. -/
theorem Following.after_fresh (kind : BackendKind β ω) (world : ω) (moves : List Move) :
    Following kind world (services kind.build (kind.turns (.fresh world) moves))
      (kind.after (.fresh world) moves) := by
  have hstart : Tenancy (Traffic.fresh (β := β) world) ∧
      Following kind world (services kind.build []) (.fresh world) :=
    ⟨.fresh world, .fresh world⟩
  have h := run_induction kind
    (motive := fun turns now =>
      Tenancy now ∧ Following kind world (services kind.build turns) now)
    hstart (fun _ _ h rule => ⟨h.1.of_rule rule, h.2.of_rule h.1 rule⟩) moves
  exact h.2

end

/-! ## The law -/

/-- A shared indicator acts as a single backend does that is the given one now. -/
structure ActsAs {β ω : Type} (kind : BackendKind β ω) (reference : β) (now : Traffic β ω) :
    Prop where
  /-- If the slot holds a backend, it is that one. -/
  ready : ∀ backend, now.slot = .ready backend → backend = reference
  /-- If a wait has the backend of the slot, it is that one. -/
  owed : ∀ out ∈ now.waits, out.owned = true → out.backend = reference
  /-- A call that does not find the slot checked out finds that one, in the slot or built. -/
  found : now.slot ≠ .checkedOut → ∃ world,
    found kind.build now.slot now.world = some (reference, world) ∧
    -- A pin call is answered and carried out as by that one.
    (∀ move raw operation, move.pinCall? = some (raw, operation) →
      let outcome := kind.indicator.apply (reference, world) (callOn raw operation)
      kind.step now move = (.pin (answerOn raw outcome.1),
        ⟨.ready outcome.2.1, now.waits, outcome.2.2⟩)) ∧
    -- A wait is timed on that one.
    (∀ raw : Int32,
      let outcome := kind.indicator.delay (.ofNat (max raw.toInt 0).toNat) (reference, world)
      kind.step now (.checkOut raw) = (.nothing,
        ⟨.checkedOut, now.waits ++ [⟨outcome.1, true⟩], outcome.2⟩))
  /-- A pin call that finds the slot checked out is refused, and all is left as it is. -/
  refused : now.slot = .checkedOut → ∀ move raw operation,
    move.pinCall? = some (raw, operation) →
      kind.step now move = (.pin (.error (refusalOn raw)), now)
  /-- A look shows no backend exactly if the slot is empty or checked out. -/
  seen : ∀ {α : Type} (look : β → α), inspect look now.slot = none ↔
    now.slot = .empty ∨ now.slot = .checkedOut
  /-- A look changes nothing. -/
  untouched : kind.step now .inspect = (.seen (inspect id now.slot), now)

section

variable {β ω : Type} (kind : BackendKind β ω)

/-- A wait that does not find the slot checked out is timed on the backend that it finds. -/
theorem step_checkOut_of_found {now : Traffic β ω} {state : β × ω}
    (finds : found kind.build now.slot now.world = some state) (raw : Int32) :
    kind.step now (.checkOut raw)
      = let outcome := kind.indicator.delay (.ofNat (max raw.toInt 0).toNat) state
        (.nothing, ⟨.checkedOut, now.waits ++ [⟨outcome.1, true⟩], outcome.2⟩) := by
  obtain ⟨slot, waits, world⟩ := now
  rw [BackendKind.step]
  simp only [durationOfRaw_eq]
  cases slot with
  | checkedOut => cases finds
  | ready backend => cases finds; rfl
  | empty => cases finds; rfl

/-- After every run a shared indicator acts as a single backend does that was built at first and
then served, in their order, all requests that found the slot not checked out. -/
theorem acts_as_one_backend (world : ω) (moves : List Move) :
    ActsAs kind
      (serve kind.indicator (kind.build world).1
        (services kind.build (kind.turns (.fresh world) moves)))
      (kind.after (.fresh world) moves) := by
  have hfollowing := Following.after_fresh kind world moves
  generalize services kind.build (kind.turns (.fresh world) moves) = requests at hfollowing ⊢
  generalize kind.after (.fresh world) moves = now at hfollowing ⊢
  constructor
  case ready => exact hfollowing.ready
  case owed => exact hfollowing.owed
  case found =>
    intro hslot
    cases hfound : found kind.build now.slot now.world with
    | none => exact absurd (found_eq_none_iff.mp hfound) hslot
    | some state =>
      obtain ⟨backend, seen⟩ := state
      obtain rfl : backend = _ := hfollowing.found hfound
      refine ⟨seen, rfl, ?_, fun raw => step_checkOut_of_found kind hfound raw⟩
      intro move raw operation pinCall
      rw [step_of_pinCall kind pinCall, onPin_of_found hfound]
  case refused =>
    intro hslot move raw operation pinCall
    obtain ⟨slot, waits, world⟩ := now
    obtain rfl : slot = .checkedOut := hslot
    rw [step_of_pinCall kind pinCall]
    simp only [onPin_checkedOut]
  case seen =>
    intro α look
    cases now.slot <;> simp [inspect]
  case untouched => rfl

end

end PilotLamp.SharedIndicator
