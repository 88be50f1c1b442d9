import PilotLamp.Proofs.OverlappingCalls

/-!
# Numbered backends

Every backend that is built gets a number, and a chronicle beside the world notes which one was
built, called or thrown away. Numbers and chronicle change nothing that a caller can see: a run
without them is the run with them, after they are forgotten.
-/

namespace PilotLamp.SharedIndicator

/-- A backend with the number under which it was built. -/
structure Numbered (β : Type) where
  /-- The number. -/
  number : Nat
  /-- The backend. -/
  backend : β

/-- Something that happens to a numbered backend. -/
inductive Incident
  /-- It is built. -/
  | built (number : Nat)
  /-- An operation is called on it. -/
  | called (number : Nat) (call : Call)
  /-- It is thrown away. -/
  | thrownAway (number : Nat)
deriving DecidableEq, Repr

namespace Incident

/-- The numbers of the backends that were built. -/
@[simp]
def builds : List Incident → List Nat
  | [] => []
  | built number :: rest => number :: builds rest
  | called .. :: rest | thrownAway _ :: rest => builds rest

/-- How many backends were built. -/
def total (incidents : List Incident) : Nat := (builds incidents).length

/-- The operations that were called on a backend. -/
@[simp]
def callsOn (number : Nat) : List Incident → List Call
  | [] => []
  | called other call :: rest =>
    if other = number then call :: callsOn number rest else callsOn number rest
  | built _ :: rest | thrownAway _ :: rest => callsOn number rest

/-- How often a backend was thrown away. -/
@[simp]
def throws (number : Nat) : List Incident → Nat
  | [] => 0
  | thrownAway other :: rest => (if other = number then 1 else 0) + throws number rest
  | built _ :: rest | called .. :: rest => throws number rest

@[simp]
theorem builds_append (first second : List Incident) :
    builds (first ++ second) = builds first ++ builds second := by
  induction first with
  | nil => rfl
  | cons incident rest ih => cases incident <;> simp [ih]

@[simp]
theorem total_append (first second : List Incident) :
    total (first ++ second) = total first + (builds second).length := by
  rw [total, builds_append, List.length_append]
  rfl

@[simp]
theorem callsOn_append (number : Nat) (first second : List Incident) :
    callsOn number (first ++ second) = callsOn number first ++ callsOn number second := by
  induction first with
  | nil => rfl
  | cons incident rest ih =>
    cases incident with
    | called other call => by_cases h : other = number <;> simp [h, ih]
    | built other => simp [ih]
    | thrownAway other => simp [ih]

@[simp]
theorem throws_append (number : Nat) (first second : List Incident) :
    throws number (first ++ second) = throws number first + throws number second := by
  induction first with
  | nil => simp
  | cons incident rest ih => cases incident <;> simp [ih, Nat.add_assoc]

end Incident

/-- A world with everything that happened to numbered backends in it, oldest first. -/
structure Chronicle (ω : Type) where
  /-- The world. -/
  world : ω
  /-- What happened. -/
  incidents : List Incident

namespace BackendKind

variable {β ω : Type} (kind : BackendKind β ω)

/-- Carries out an operation on a numbered backend. -/
def onNumbered {α : Type} (operation : β × ω → α × β × ω) (call : Call)
    (state : Numbered β × Chronicle ω) : α × Numbered β × Chronicle ω :=
  let (answer, backend, world) := operation (state.1.backend, state.2.world)
  (answer, ⟨state.1.number, backend⟩,
    ⟨world, state.2.incidents ++ [.called state.1.number call]⟩)

/-- The same kind of backend with numbers and a chronicle. -/
def numbered : BackendKind (Numbered β) (Chronicle ω) where
  indicator := {
    configure := fun pin => onNumbered (kind.indicator.configure pin) (.configure pin)
    write := fun pin level => onNumbered (kind.indicator.write pin level) (.write pin level)
    delay := fun ms state =>
      (onNumbered (fun inner => ((), kind.indicator.delay ms inner)) (.delay ms) state).2
    level := fun state => kind.indicator.level (state.1.backend, state.2.world)
    report := fun error state =>
      (onNumbered (fun inner => ((), kind.indicator.report error inner)) (.report error) state).2 }
  build chronicle :=
    let (backend, world) := kind.build chronicle.world
    let number := Incident.total chronicle.incidents
    (⟨number, backend⟩, ⟨world, chronicle.incidents ++ [.built number]⟩)
  discard thrown chronicle :=
    ⟨kind.discard thrown.backend chronicle.world,
      chronicle.incidents ++ [.thrownAway thrown.number]⟩

/-- Every operation on a numbered backend is noted, and answered as without the number. -/
theorem apply_numbered (state : Numbered β × Chronicle ω) (call : Call) :
    kind.numbered.indicator.apply state call
      = onNumbered (kind.indicator.apply · call) call state := by
  cases call <;> rfl

/-- An operation keeps the number of its backend and adds one incident. -/
theorem numbered_of_apply {state next : Numbered β × Chronicle ω} {call : Call}
    {result : Except PinError Unit}
    (applied : kind.numbered.indicator.apply state call = (result, next)) :
    next.1.number = state.1.number ∧
      next.2.incidents = state.2.incidents ++ [.called state.1.number call] := by
  rw [apply_numbered] at applied
  cases applied
  exact ⟨rfl, rfl⟩

end BackendKind

/-! ## Numbers change nothing -/

/-- A slot without the numbers. -/
def forgetSlot {β : Type} : Slot (Numbered β) → Slot β
  | .empty => .empty
  | .ready held => .ready held.backend
  | .checkedOut => .checkedOut

/-- A shared indicator without the numbers and the chronicle. -/
def Traffic.forget {β ω : Type} (traffic : Traffic (Numbered β) (Chronicle ω)) : Traffic β ω where
  slot := forgetSlot traffic.slot
  waits := traffic.waits.map fun out => ⟨out.backend.backend, out.owned⟩
  world := traffic.world.world

/-- An answer without the numbers. -/
def Reply.forget {β : Type} : Reply (Numbered β) → Reply β
  | .pin result => .pin result
  | .seen held => .seen (held.map (·.backend))
  | .nothing => .nothing

/-- A turn without the numbers and the chronicle. -/
def Turn.forget {β ω : Type} (turn : Turn (Numbered β) (Chronicle ω)) : Turn β ω :=
  ⟨turn.before.forget, turn.move, turn.reply.forget, turn.after.forget⟩

section

variable {β ω : Type} (kind : BackendKind β ω)

/-- A call finds the same backend with numbers as without. -/
theorem forget_found (slot : Slot (Numbered β)) (chronicle : Chronicle ω) :
    found kind.build (forgetSlot slot) chronicle.world
      = (found kind.numbered.build slot chronicle).map
          fun state => (state.1.backend, state.2.world) := by
  cases slot <;> rfl

/-- A pin call does the same with numbers as without. -/
theorem forget_onPin (raw : Int32) (operation : Pin → Call) (slot : Slot (Numbered β))
    (chronicle : Chronicle ω) :
    onPin kind.indicator kind.build (fun pin state => kind.indicator.apply state (operation pin))
        raw (forgetSlot slot) chronicle.world
      = let outcome := onPin kind.numbered.indicator kind.numbered.build
          (fun pin state => kind.numbered.indicator.apply state (operation pin)) raw slot chronicle
        (outcome.1, forgetSlot outcome.2.1, outcome.2.2.world) := by
  have hfound := forget_found kind slot chronicle
  cases hf : found kind.numbered.build slot chronicle with
  | none =>
    obtain rfl := found_eq_none_iff.mp hf
    simp only [forgetSlot, onPin_checkedOut]
  | some state =>
    rw [hf, Option.map_some] at hfound
    rw [onPin_of_found hf, onPin_of_found hfound, BackendKind.apply_numbered]
    rfl

/-- A move that is a pin call does the same with numbers as without. -/
theorem forget_step_of_pinCall {move : Move} {raw : Int32} {operation : Pin → Call}
    (pinCall : move.pinCall? = some (raw, operation))
    (traffic : Traffic (Numbered β) (Chronicle ω)) :
    (kind.numbered.step traffic move).1.forget = (kind.step traffic.forget move).1 ∧
      (kind.numbered.step traffic move).2.forget = (kind.step traffic.forget move).2 := by
  have h := forget_onPin kind raw operation traffic.slot traffic.world
  rw [step_of_pinCall kind pinCall, step_of_pinCall kind.numbered pinCall]
  simp only [Traffic.forget, Reply.forget, h, and_self]

/-- A move does the same with numbers as without. -/
theorem forget_step (traffic : Traffic (Numbered β) (Chronicle ω)) (move : Move) :
    (kind.numbered.step traffic move).1.forget = (kind.step traffic.forget move).1 ∧
      (kind.numbered.step traffic move).2.forget = (kind.step traffic.forget move).2 := by
  obtain ⟨slot, waits, chronicle⟩ := traffic
  cases move with
  | configure raw => exact forget_step_of_pinCall kind rfl _
  | write raw rawLevel => exact forget_step_of_pinCall kind rfl _
  | inspect => cases slot <;> exact ⟨rfl, rfl⟩
  | checkOut raw =>
    refine ⟨rfl, ?_⟩
    cases slot <;>
      simp only [BackendKind.step, Traffic.forget, forgetSlot, checkOut, List.map_append] <;> rfl
  | giveBack position =>
    simp only [BackendKind.step, Traffic.forget, List.getElem?_map]
    cases hw : waits[position]? with
    | none => exact ⟨rfl, rfl⟩
    | some out =>
      obtain ⟨held, owned⟩ := out
      refine ⟨rfl, ?_⟩
      cases owned <;> cases slot <;>
        simp only [giveBack, Option.map_some, forgetSlot, List.eraseIdx_map] <;> rfl

/-- A run does the same with numbers as without. -/
theorem forget_turns (traffic : Traffic (Numbered β) (Chronicle ω)) (moves : List Move) :
    (kind.numbered.turns traffic moves).map Turn.forget = kind.turns traffic.forget moves := by
  induction moves generalizing traffic with
  | nil => rfl
  | cons move rest ih =>
    obtain ⟨hreply, hnext⟩ := forget_step kind traffic move
    rw [BackendKind.turns, BackendKind.turns, List.map_cons, ih, Turn.forget, hreply, hnext]

end

end PilotLamp.SharedIndicator
