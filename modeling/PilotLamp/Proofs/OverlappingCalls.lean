import PilotLamp.SharedIndicator
import Mathlib.Data.List.Perm.Basic

/-!
# Overlapping calls on a shared indicator

A run of a shared indicator is a list of moves, each one atomic: a pin call, a look, the start of
a wait, the end of a wait. Which callers make them is of no matter, so every interleaving of any
number of callers is such a list. What a move can do is said once, by rules; whatever holds of a
run is derived from the rules. The time that a wait takes is out of scope.
-/

namespace PilotLamp.SharedIndicator

/-- A kind of backend that can be shared. -/
structure BackendKind (β ω : Type) where
  /-- The operations of a backend in its world. -/
  indicator : Indicator (β × ω)
  /-- Builds a backend. -/
  build : ω → β × ω
  /-- What happens when a backend is thrown away. -/
  discard : β → ω → ω

/-- One atomic move of some caller. -/
inductive Move
  /-- Configures a pin. -/
  | configure (raw : Int32)
  /-- Drives a pin. -/
  | write (raw rawLevel : Int32)
  /-- Looks at the backend. -/
  | inspect
  /-- Begins a wait, which joins the waits in flight as their last. -/
  | checkOut (raw : Int32)
  /-- Ends the wait at a position among those in flight; other positions are of no effect. -/
  | giveBack (position : Nat)
deriving DecidableEq, Repr

/-- What a caller learns from a move. -/
inductive Reply (β : Type)
  /-- The result of a pin call. -/
  | pin (result : Except PinError Unit)
  /-- The backend that was looked at, if there was one. -/
  | seen (backend : Option β)
  /-- Nothing. -/
  | nothing

/-- A shared indicator between two moves. -/
structure Traffic (β ω : Type) where
  /-- What the slot holds. -/
  slot : Slot β
  /-- The waits in flight, in the order in which they began. -/
  waits : List (CheckOut β)
  /-- The world that all backends act on. -/
  world : ω

/-- A move with what was before it, what it answers and what is after it. -/
structure Turn (β ω : Type) where
  /-- The shared indicator before the move. -/
  before : Traffic β ω
  /-- The move. -/
  move : Move
  /-- The answer. -/
  reply : Reply β
  /-- The shared indicator after the move. -/
  after : Traffic β ω

/-- The operation that a raw number asks of a backend: a number that is no pin is reported. -/
def callOn (raw : Int32) (operation : Pin → Call) : Call :=
  if 0 ≤ raw.toInt ∧ raw.toInt ≤ 255 then operation (.ofNat raw.toInt.toNat)
  else .report (.noSuchPin raw.toInt)

/-- The raw number of a pin call and the operation that it asks for on a pin. -/
def Move.pinCall? : Move → Option (Int32 × (Pin → Call))
  | .configure raw => some (raw, .configure)
  | .write raw rawLevel =>
    some (raw, fun pin => .write pin (if rawLevel = 0 then .deasserted else .asserted))
  | .inspect | .checkOut _ | .giveBack _ => none

/-- The operation that a move asks of the backend in the slot. Less than no time is no time. -/
def Move.call? : Move → Option Call
  | .checkOut raw => some (.delay (.ofNat (max raw.toInt 0).toNat))
  | .configure raw => some (callOn raw .configure)
  | .write raw rawLevel =>
    some (callOn raw fun pin => .write pin (if rawLevel = 0 then .deasserted else .asserted))
  | .inspect | .giveBack _ => none

/-- A pin call asks a backend for the operation of its raw number. -/
theorem Move.call?_of_pinCall {move : Move} {raw : Int32} {operation : Pin → Call}
    (pinCall : move.pinCall? = some (raw, operation)) :
    move.call? = some (callOn raw operation) := by
  cases move <;> cases pinCall <;> rfl

/-- The backend that a call finds in the slot, with its world: an empty slot gets a new one. -/
def found {β ω : Type} (build : ω → β × ω) (slot : Slot β) (world : ω) : Option (β × ω) :=
  match slot with
  | .empty => some (build world)
  | .ready backend => some (backend, world)
  | .checkedOut => none

namespace Traffic

/-- A shared indicator that nobody called yet. -/
def fresh {β ω : Type} (world : ω) : Traffic β ω := ⟨.empty, [], world⟩

/-- How many of the waits in flight have the backend of the slot. -/
def owners {β ω : Type} (traffic : Traffic β ω) : Nat := traffic.waits.countP (·.owned)

end Traffic

namespace BackendKind

variable {β ω : Type} (kind : BackendKind β ω)

/-- Carries out one move. -/
def step (traffic : Traffic β ω) : Move → Reply β × Traffic β ω
  | .configure raw =>
    let (result, slot, world) :=
      SharedIndicator.configure kind.indicator kind.build raw traffic.slot traffic.world
    (.pin result, { traffic with slot, world })
  | .write raw rawLevel =>
    let (result, slot, world) :=
      SharedIndicator.write kind.indicator kind.build raw rawLevel traffic.slot traffic.world
    (.pin result, { traffic with slot, world })
  | .inspect => (.seen (SharedIndicator.inspect id traffic.slot), traffic)
  | .checkOut raw =>
    let (out, slot, world) := SharedIndicator.checkOut kind.build traffic.slot traffic.world
    let (backend, world) := kind.indicator.delay (durationOfRaw raw) (out.backend, world)
    (.nothing, ⟨slot, traffic.waits ++ [{ out with backend }], world⟩)
  | .giveBack position =>
    match traffic.waits[position]? with
    | none => (.nothing, traffic)
    | some out =>
      let (slot, world) :=
        SharedIndicator.giveBack kind.discard out traffic.slot traffic.world
      (.nothing, ⟨slot, traffic.waits.eraseIdx position, world⟩)

/-- The shared indicator after some moves. -/
def after (traffic : Traffic β ω) (moves : List Move) : Traffic β ω :=
  moves.foldl (fun traffic move => (kind.step traffic move).2) traffic

/-- Some moves with what each one did. -/
def turns (traffic : Traffic β ω) : List Move → List (Turn β ω)
  | [] => []
  | move :: rest =>
    ⟨traffic, move, (kind.step traffic move).1, (kind.step traffic move).2⟩
      :: turns (kind.step traffic move).2 rest

end BackendKind

/-! ## Rules -/

/-- The answer to a pin call on a raw number that a backend has carried out with some result. -/
def answerOn (raw : Int32) (result : Except PinError Unit) : Except PinError Unit :=
  if 0 ≤ raw.toInt ∧ raw.toInt ≤ 255 then result else .error (.noSuchPin raw.toInt)

/-- The error that a pin call on a raw number gets while a wait has the backend. -/
def refusalOn (raw : Int32) : PinError :=
  if 0 ≤ raw.toInt ∧ raw.toInt ≤ 255 then .unavailable (.ofNat raw.toInt.toNat)
  else .noSuchPin raw.toInt

/-- What a move can do, with what it answers. -/
inductive Rule {β ω : Type} (kind : BackendKind β ω) :
    Traffic β ω → Move → Reply β → Traffic β ω → Prop
  /-- A pin call is carried out on the backend that it finds. -/
  | served {move : Move} {raw : Int32} {operation : Pin → Call} {slot : Slot β}
      {waits : List (CheckOut β)} {world : ω} {state next : β × ω} {result : Except PinError Unit}
      (pinCall : move.pinCall? = some (raw, operation))
      (finds : found kind.build slot world = some state)
      (applied : kind.indicator.apply state (callOn raw operation) = (result, next)) :
      Rule kind ⟨slot, waits, world⟩ move (.pin (answerOn raw result))
        ⟨.ready next.1, waits, next.2⟩
  /-- A pin call that finds no backend is refused. -/
  | refused {move : Move} {raw : Int32} {operation : Pin → Call} {waits : List (CheckOut β)}
      {world : ω} (pinCall : move.pinCall? = some (raw, operation)) :
      Rule kind ⟨.checkedOut, waits, world⟩ move (.pin (.error (refusalOn raw)))
        ⟨.checkedOut, waits, world⟩
  /-- A look shows the backend in the slot. -/
  | inspected {traffic : Traffic β ω} :
      Rule kind traffic .inspect (.seen (inspect id traffic.slot)) traffic
  /-- A wait takes the backend that it finds along. -/
  | tookAlong {raw : Int32} {slot : Slot β} {waits : List (CheckOut β)} {world : ω}
      {state next : β × ω} {result : Except PinError Unit}
      (finds : found kind.build slot world = some state)
      (applied : kind.indicator.apply state (.delay (.ofNat (max raw.toInt 0).toNat))
        = (result, next)) :
      Rule kind ⟨slot, waits, world⟩ (.checkOut raw) .nothing
        ⟨.checkedOut, waits ++ [⟨next.1, true⟩], next.2⟩
  /-- A wait that finds no backend builds one of its own. -/
  | overlapped {raw : Int32} {waits : List (CheckOut β)} {world : ω} {next : β × ω}
      {result : Except PinError Unit}
      (applied : kind.indicator.apply (kind.build world) (.delay (.ofNat (max raw.toInt 0).toNat))
        = (result, next)) :
      Rule kind ⟨.checkedOut, waits, world⟩ (.checkOut raw) .nothing
        ⟨.checkedOut, waits ++ [⟨next.1, false⟩], next.2⟩
  /-- A wait puts the backend of the slot back. -/
  | returned {position : Nat} {waits : List (CheckOut β)} {world : ω} {backend : β}
      (inFlight : waits[position]? = some ⟨backend, true⟩) :
      Rule kind ⟨.checkedOut, waits, world⟩ (.giveBack position) .nothing
        ⟨.ready backend, waits.eraseIdx position, world⟩
  /-- A wait throws a backend away that it does not owe, or that nobody misses. -/
  | thrownAway {position : Nat} {slot : Slot β} {waits : List (CheckOut β)} {world : ω}
      {out : CheckOut β} (inFlight : waits[position]? = some out)
      (notOwed : ¬ (out.owned = true ∧ slot = .checkedOut)) :
      Rule kind ⟨slot, waits, world⟩ (.giveBack position) .nothing
        ⟨slot, waits.eraseIdx position, kind.discard out.backend world⟩
  /-- No wait ends at a position that has none. -/
  | idle {position : Nat} {traffic : Traffic β ω} (none : traffic.waits[position]? = none) :
      Rule kind traffic (.giveBack position) .nothing traffic

/-- The milliseconds of a wait are the raw number, or zero if it is negative. -/
theorem durationOfRaw_eq (raw : Int32) : durationOfRaw raw = .ofNat (max raw.toInt 0).toNat := by
  unfold durationOfRaw
  apply UInt32.toNat_inj.mp
  rw [UInt32.toNat_ofNat']
  have hlt : (max raw.toInt 0).toNat < 2 ^ 32 := by
    have := raw.toInt_lt
    omega
  rw [Nat.mod_eq_of_lt hlt]
  split
  case isTrue h =>
    rw [Int32.lt_iff_toInt_lt] at h
    have : raw.toInt < 0 := h
    simp
    omega
  case isFalse h =>
    rw [Int32.not_lt] at h
    rw [Int32.toNat_toUInt32_of_le h]
    rw [Int32.le_iff_toInt_le] at h
    have : 0 ≤ raw.toInt := h
    simp only [Int32.toNatClampNeg]
    omega

/-- A raw number is read as a pin exactly if it lies in the range of pins. -/
theorem ofRaw_eq (raw : Int32) :
    Pin.ofRaw raw = if 0 ≤ raw.toInt ∧ raw.toInt ≤ 255 then .ok (.ofNat raw.toInt.toNat)
      else .error (.noSuchPin raw.toInt) := by
  unfold Pin.ofRaw
  have hrange : (0 ≤ raw.toInt ∧ raw.toInt < 256) ↔ (0 ≤ raw.toInt ∧ raw.toInt ≤ 255) := by omega
  simp only [hrange]

section

variable {β ω : Type} {indicator : Indicator (β × ω)} {build : ω → β × ω}

/-- A pin call on a slot that is not checked out is carried out on the backend that it finds. -/
theorem onPin_of_found {slot : Slot β} {world : ω} {state : β × ω}
    (h : found build slot world = some state) (raw : Int32) (operation : Pin → Call) :
    onPin indicator build (fun pin state => indicator.apply state (operation pin)) raw slot world
      = (answerOn raw (indicator.apply state (callOn raw operation)).1,
          .ready (indicator.apply state (callOn raw operation)).2.1,
          (indicator.apply state (callOn raw operation)).2.2) := by
  unfold onPin answerOn callOn
  rw [ofRaw_eq]
  by_cases hr : 0 ≤ raw.toInt ∧ raw.toInt ≤ 255
  · simp only [if_pos hr]
    cases slot with
    | checkedOut => simp [found] at h
    | empty => cases h; rfl
    | ready backend => cases h; rfl
  · simp only [if_neg hr]
    cases slot with
    | checkedOut => simp [found] at h
    | empty => cases h; rfl
    | ready backend => cases h; rfl

/-- A pin call on a slot that is checked out is refused and changes nothing. -/
theorem onPin_checkedOut (operation : Pin → β × ω → Except PinError Unit × β × ω) (raw : Int32)
    (world : ω) :
    onPin indicator build operation raw .checkedOut world
      = (.error (refusalOn raw), .checkedOut, world) := by
  unfold onPin refusalOn
  rw [ofRaw_eq]
  by_cases hr : 0 ≤ raw.toInt ∧ raw.toInt ≤ 255
  · simp only [if_pos hr]
  · simp only [if_neg hr]

/-- A backend that is not owed, or that nobody misses, is thrown away. -/
theorem giveBack_of_not_owed {discard : β → ω → ω} {out : CheckOut β} {slot : Slot β} {world : ω}
    (h : ¬ (out.owned = true ∧ slot = .checkedOut)) :
    giveBack discard out slot world = (slot, discard out.backend world) := by
  obtain ⟨backend, owned⟩ := out
  cases owned with
  | false => rfl
  | true =>
    cases slot with
    | empty => rfl
    | ready other => rfl
    | checkedOut => exact absurd ⟨rfl, rfl⟩ h

/-- A call finds a backend unless the slot is checked out. -/
theorem found_eq_none_iff {slot : Slot β} {world : ω} :
    found build slot world = none ↔ slot = .checkedOut := by
  cases slot <;> simp [found]

theorem slot_of_found {slot : Slot β} {world : ω} {state : β × ω}
    (h : found build slot world = some state) : slot ≠ .checkedOut := by
  rintro rfl
  cases h

end

section

variable {β ω : Type} (kind : BackendKind β ω)

/-- Both pin calls are the same operation of a shared indicator, on what they ask for. -/
theorem step_of_pinCall {move : Move} {raw : Int32} {operation : Pin → Call}
    (pinCall : move.pinCall? = some (raw, operation)) (traffic : Traffic β ω) :
    kind.step traffic move
      = let outcome := onPin kind.indicator kind.build
          (fun pin state => kind.indicator.apply state (operation pin)) raw traffic.slot
          traffic.world
        (.pin outcome.1, ⟨outcome.2.1, traffic.waits, outcome.2.2⟩) := by
  cases move <;> cases pinCall <;> rfl

/-- Every pin call follows one of the two rules for pin calls. -/
theorem rule_of_pinCall {move : Move} {raw : Int32} {operation : Pin → Call}
    (pinCall : move.pinCall? = some (raw, operation)) (traffic : Traffic β ω) :
    Rule kind traffic move (kind.step traffic move).1 (kind.step traffic move).2 := by
  obtain ⟨slot, waits, world⟩ := traffic
  rw [step_of_pinCall kind pinCall]
  cases hf : found kind.build slot world with
  | none =>
    obtain rfl := found_eq_none_iff.mp hf
    simp only [onPin_checkedOut]
    exact .refused pinCall
  | some state =>
    simp only [onPin_of_found hf]
    exact .served pinCall hf rfl

/-- Every move follows a rule. -/
theorem step_rule (traffic : Traffic β ω) (move : Move) :
    Rule kind traffic move (kind.step traffic move).1 (kind.step traffic move).2 := by
  cases move with
  | configure raw => exact rule_of_pinCall kind rfl traffic
  | write raw rawLevel => exact rule_of_pinCall kind rfl traffic
  | inspect => exact .inspected
  | checkOut raw =>
    obtain ⟨slot, waits, world⟩ := traffic
    rw [BackendKind.step]
    simp only [durationOfRaw_eq]
    cases slot with
    | empty => exact .tookAlong rfl rfl
    | ready backend => exact .tookAlong rfl rfl
    | checkedOut => exact .overlapped rfl
  | giveBack position =>
    obtain ⟨slot, waits, world⟩ := traffic
    rw [BackendKind.step]
    cases hw : waits[position]? with
    | none => exact .idle hw
    | some out =>
      obtain ⟨backend, owned⟩ := out
      cases slot with
      | empty => cases owned <;> exact .thrownAway hw (by simp)
      | ready other => cases owned <;> exact .thrownAway hw (by simp)
      | checkedOut =>
        cases owned with
        | true => exact .returned hw
        | false => exact .thrownAway hw (by simp)

/-- The rules say all that a move does. -/
theorem Rule.eq {kind : BackendKind β ω} {traffic next : Traffic β ω} {move : Move}
    {reply : Reply β} (rule : Rule kind traffic move reply next) :
    kind.step traffic move = (reply, next) := by
  cases rule with
  | served pinCall finds applied =>
    simp only [step_of_pinCall kind pinCall, onPin_of_found finds, applied]
  | refused pinCall => simp only [step_of_pinCall kind pinCall, onPin_checkedOut]
  | inspected => rfl
  | @tookAlong raw slot waits world state next result finds applied =>
    obtain rfl : kind.indicator.delay _ state = next := (Prod.ext_iff.mp applied).2
    rw [BackendKind.step, durationOfRaw_eq]
    cases slot with
    | empty => cases finds; rfl
    | ready backend => cases finds; rfl
    | checkedOut => cases finds
  | @overlapped raw waits world next result applied =>
    obtain rfl : kind.indicator.delay _ (kind.build world) = next := (Prod.ext_iff.mp applied).2
    rw [BackendKind.step, durationOfRaw_eq]
    rfl
  | returned inFlight => simp only [BackendKind.step, inFlight, giveBack]
  | thrownAway inFlight notOwed =>
    simp only [BackendKind.step, inFlight, giveBack_of_not_owed notOwed]
  | idle none => simp only [BackendKind.step, none]

/-- When the wait that began last ends, those before it are left in flight. -/
theorem eraseIdx_concat_length (waits : List (CheckOut β)) (out : CheckOut β) :
    (waits ++ [out]).eraseIdx waits.length = waits := by
  rw [List.eraseIdx_append_of_length_le (Nat.le_refl _), Nat.sub_self]
  exact List.append_nil waits

/-- A whole wait that nothing overlaps is its beginning and its end. -/
theorem after_wait (traffic : Traffic β ω) (raw : Int32) :
    kind.after traffic [.checkOut raw, .giveBack traffic.waits.length]
      = let outcome := delay kind.indicator kind.build kind.discard raw traffic.slot traffic.world
        ⟨outcome.1, traffic.waits, outcome.2⟩ := by
  obtain ⟨slot, waits, world⟩ := traffic
  simp only [BackendKind.after, List.foldl_cons, List.foldl_nil, BackendKind.step,
    List.getElem?_concat_length, eraseIdx_concat_length]
  cases slot <;> rfl

/-- Such a wait leaves the backend that it found in the slot. -/
theorem after_wait_of_found {traffic : Traffic β ω} {state : β × ω}
    (finds : found kind.build traffic.slot traffic.world = some state) (raw : Int32) :
    kind.after traffic [.checkOut raw, .giveBack traffic.waits.length]
      = let next := (kind.indicator.apply state (.delay (durationOfRaw raw))).2
        ⟨.ready next.1, traffic.waits, next.2⟩ := by
  obtain ⟨slot, waits, world⟩ := traffic
  have hbegin : kind.step ⟨slot, waits, world⟩ (.checkOut raw)
      = let next := (kind.indicator.apply state (.delay (durationOfRaw raw))).2
        (.nothing, ⟨.checkedOut, waits ++ [⟨next.1, true⟩], next.2⟩) := by
    rw [durationOfRaw_eq]
    exact Rule.eq (.tookAlong finds rfl)
  have hend (backend : β) (world : ω) :
      kind.step ⟨.checkedOut, waits ++ [⟨backend, true⟩], world⟩ (.giveBack waits.length)
        = (.nothing, ⟨.ready backend, waits, world⟩) := by
    rw [Rule.eq (.returned List.getElem?_concat_length), eraseIdx_concat_length]
  simp only [BackendKind.after, List.foldl_cons, List.foldl_nil, hbegin, hend]

/-- So does a pin call. -/
theorem after_pinCall_of_found {traffic : Traffic β ω} {state : β × ω}
    (finds : found kind.build traffic.slot traffic.world = some state) {move : Move} {raw : Int32}
    {operation : Pin → Call} (pinCall : move.pinCall? = some (raw, operation)) :
    kind.after traffic [move]
      = let next := (kind.indicator.apply state (callOn raw operation)).2
        ⟨.ready next.1, traffic.waits, next.2⟩ := by
  simp only [BackendKind.after, List.foldl_cons, List.foldl_nil, step_of_pinCall kind pinCall,
    onPin_of_found finds]

/-- What holds at first and is kept by every rule holds after every run, with all its turns. -/
theorem run_induction {motive : List (Turn β ω) → Traffic β ω → Prop} {start : Traffic β ω}
    (first : motive [] start)
    (next : ∀ earlier turn, motive earlier turn.before →
      Rule kind turn.before turn.move turn.reply turn.after →
      motive (earlier ++ [turn]) turn.after)
    (moves : List Move) : motive (kind.turns start moves) (kind.after start moves) := by
  -- The turns so far are generalised, so that the induction can go from the front.
  suffices h : ∀ earlier traffic, motive earlier traffic →
      motive (earlier ++ kind.turns traffic moves) (kind.after traffic moves) from
    h [] start first
  induction moves with
  | nil =>
    intro earlier traffic h
    simpa [BackendKind.turns, BackendKind.after] using h
  | cons move rest ih =>
    intro earlier traffic h
    have hnext := next earlier
      ⟨traffic, move, (kind.step traffic move).1, (kind.step traffic move).2⟩ h
      (step_rule kind traffic move)
    have hrest := ih _ _ hnext
    rw [List.append_assoc] at hrest
    exact hrest

end

/-! ## Who has the backend of the slot -/

/-- A wait in flight at a position, in front of the others. -/
theorem perm_cons_eraseIdx {α : Type} {waits : List α} {position : Nat} {out : α}
    (h : waits[position]? = some out) : waits.Perm (out :: waits.eraseIdx position) := by
  obtain ⟨hlt, rfl⟩ := List.getElem?_eq_some_iff.mp h
  exact (List.getElem_cons_eraseIdx_perm hlt).symm

/-- The slot tells how many of the waits in flight have its backend. -/
structure Tenancy {β ω : Type} (traffic : Traffic β ω) : Prop where
  /-- While the slot is checked out, one wait has its backend. -/
  taken : traffic.slot = .checkedOut → traffic.owners = 1
  /-- Otherwise none has. -/
  free : traffic.slot ≠ .checkedOut → traffic.owners = 0
  /-- Before the first call there are no waits. -/
  unused : traffic.slot = .empty → traffic.waits = []

section

variable {β ω : Type} {kind : BackendKind β ω}

/-- A wait that has the backend of the slot is in flight only while the slot is checked out. -/
theorem Tenancy.slot_of_owned {traffic : Traffic β ω} (h : Tenancy traffic) {out : CheckOut β}
    (hout : out ∈ traffic.waits) (howned : out.owned = true) : traffic.slot = .checkedOut := by
  by_contra hslot
  have hzero := List.countP_eq_zero.mp (h.free hslot)
  exact hzero out hout howned

/-- A wait that does not owe its backend to the slot does not have that of the slot. -/
theorem Tenancy.not_owned {traffic : Traffic β ω} (h : Tenancy traffic) {out : CheckOut β}
    (hout : out ∈ traffic.waits)
    (notOwed : ¬ (out.owned = true ∧ traffic.slot = .checkedOut)) : out.owned = false := by
  cases howned : out.owned with
  | false => rfl
  | true => exact absurd ⟨howned, h.slot_of_owned hout howned⟩ notOwed

/-- While a wait is in flight the slot is not empty. -/
theorem Tenancy.slot_ne_empty {traffic : Traffic β ω} (h : Tenancy traffic) {out : CheckOut β}
    (hout : out ∈ traffic.waits) : traffic.slot ≠ .empty := by
  intro hslot
  rw [h.unused hslot] at hout
  cases hout

theorem Tenancy.fresh (world : ω) : Tenancy (Traffic.fresh (β := β) world) where
  taken h := nomatch h
  free _ := rfl
  unused _ := rfl

/-- Every rule keeps the tenancy. -/
theorem Tenancy.of_rule {before next : Traffic β ω} {move : Move} {reply : Reply β}
    (h : Tenancy before) (rule : Rule kind before move reply next) : Tenancy next := by
  cases rule with
  | served pinCall finds applied =>
    exact ⟨nofun, fun _ => h.free (slot_of_found finds), nofun⟩
  | refused pinCall => exact h
  | inspected => exact h
  | tookAlong finds applied =>
    have hfree := h.free (slot_of_found finds)
    refine ⟨fun _ => ?_, fun hne => absurd rfl hne, nofun⟩
    simp only [Traffic.owners, List.countP_append] at hfree ⊢
    rw [hfree]
    rfl
  | overlapped applied =>
    have htaken := h.taken rfl
    refine ⟨fun _ => ?_, fun hne => absurd rfl hne, nofun⟩
    simp only [Traffic.owners, List.countP_append] at htaken ⊢
    rw [htaken]
    rfl
  | returned inFlight =>
    have htaken := h.taken rfl
    refine ⟨nofun, fun _ => ?_, nofun⟩
    simp only [Traffic.owners] at htaken ⊢
    rw [(perm_cons_eraseIdx inFlight).countP_eq, List.countP_cons_of_pos rfl] at htaken
    omega
  | @thrownAway position slot waits world out inFlight notOwed =>
    have hmem := List.mem_of_getElem? inFlight
    have hspare : out.owned = false := h.not_owned hmem notOwed
    have hnot : ¬ out.owned = true := by simp [hspare]
    have hsame : waits.countP (·.owned) = (waits.eraseIdx position).countP (·.owned) := by
      rw [(perm_cons_eraseIdx inFlight).countP_eq, List.countP_cons_of_neg hnot]
    refine ⟨fun hs => ?_, fun hs => ?_, fun hs => ?_⟩
    · exact hsame.symm.trans (h.taken hs)
    · exact hsame.symm.trans (h.free hs)
    · exact absurd hs (h.slot_ne_empty hmem)
  | idle none => exact h

end

end PilotLamp.SharedIndicator
