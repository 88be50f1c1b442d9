import PilotLamp.Proofs.PinStock

/-!
# How a bank allocates its pins

Whatever is reserved and taken, in whatever order, a bank refuses a pin that it never had, then one
that is reserved at that moment, then one that was taken before, and hands every other pin out. The
bank keeps one bit for each pin; a cabinet keeps the things themselves, with its reservations in a
word that has more bits than there are pins. Both answer alike, so what a bank hands out under a
number is the thing that was put there at first, and nothing is handed out twice. What becomes of a
pin once it has left the bank is out of scope.
-/

namespace PilotLamp

namespace PinBank

/-- Something that is asked of a bank. -/
inductive Request
  /-- Reserves pins. -/
  | reserve (pins : List Pin)
  /-- Takes a pin. -/
  | take (pin : Pin)
deriving DecidableEq, Repr

/-- The pins that a request reserves. -/
def Request.listed : Request → List Pin
  | .reserve pins => pins
  | .take _ => []

/-- The answer to a request, and the bank from then on. A request that is refused keeps the
bank. -/
def apply (bank : PinBank) : Request → Except PinBankError Unit × PinBank
  | .reserve pins => (.ok (), bank.reserve pins)
  | .take pin => match bank.take pin with
    | .ok next => (.ok (), next)
    | .error cause => (.error cause, bank)

/-- The bank after some requests, in their order. -/
def after (bank : PinBank) (requests : List Request) : PinBank :=
  requests.foldl (fun bank request => (bank.apply request).2) bank

/-- The bank after one more request. -/
theorem after_concat (bank : PinBank) (requests : List Request) (request : Request) :
    bank.after (requests ++ [request]) = ((bank.after requests).apply request).2 :=
  List.foldl_append

/-- The pin that is taken by a request, if it is one that takes a pin and succeeds. -/
def taken? (bank : PinBank) : Request → Option Pin
  | .reserve _ => none
  | .take pin => match bank.take pin with
    | .ok _ => some pin
    | .error _ => none

/-- The pins that are taken by requests, oldest first. -/
def taken (bank : PinBank) : List Request → List Pin
  | [] => []
  | request :: rest => (bank.taken? request).toList ++ taken (bank.apply request).2 rest

/-! ## What a bank answers -/

section

variable {bank next : PinBank} {pin : Pin}

/-- A bank never had the pins past its size. -/
theorem take_noSuchPin_iff : bank.take pin = .error .noSuchPin ↔ size ≤ pin.index := by
  unfold take
  by_cases inside : pin.index < size
  · cases bank.isReserved pin <;> cases bank.has pin <;> simp [inside]
  · simp [inside, Nat.le_of_not_lt inside]

/-- Of its own pins it refuses those that are reserved, there or not. -/
theorem take_reserved_iff :
    bank.take pin = .error .reserved ↔ pin.index < size ∧ bank.isReserved pin = true := by
  unfold take
  by_cases inside : pin.index < size
  · cases bank.isReserved pin <;> cases bank.has pin <;> simp [inside]
  · simp [inside]

/-- Of the others it refuses those that are not there. -/
theorem take_alreadyTaken_iff :
    bank.take pin = .error .alreadyTaken ↔
      pin.index < size ∧ bank.isReserved pin = false ∧ bank.has pin = false := by
  unfold take
  by_cases inside : pin.index < size
  · cases bank.isReserved pin <;> cases bank.has pin <;> simp [inside]
  · simp [inside]

end

/-! ## What a bank keeps -/

/-- A bank from which some pins were taken and of which some lists were reserved. -/
structure Keeps (bank : PinBank) (taken listed : List Pin) : Prop where
  /-- It has the pins that were not taken. -/
  has_eq : ∀ pin, bank.has pin = decide (pin.index < size ∧ pin ∉ taken)
  /-- The pins of the lists are reserved, as far as there are such pins. -/
  reserved_eq : ∀ pin, bank.isReserved pin = decide (pin.index < size ∧ pin ∈ listed)
  /-- No pin was taken twice. -/
  nodup : taken.Nodup

section

variable {bank next : PinBank} {taken listed : List Pin} {pin : Pin}

theorem Keeps.full : full.Keeps [] [] where
  has_eq pin := by simp [has_full]
  reserved_eq pin := by simp [isReserved, PinBank.full]
  nodup := List.nodup_nil

/-- Reserving adds to the lists. -/
theorem Keeps.reserve (h : bank.Keeps taken listed) (pins : List Pin) :
    (bank.reserve pins).Keeps taken (listed ++ pins) where
  has_eq := h.has_eq
  reserved_eq pin := by
    rw [isReserved_reserve, h.reserved_eq]
    by_cases inside : pin.index < size <;> simp [inside]
  nodup := h.nodup

/-- Taking adds a pin that was not taken before. -/
theorem Keeps.take (h : bank.Keeps taken listed) (htake : bank.take pin = .ok next) :
    next.Keeps (taken ++ [pin]) listed where
  has_eq other := by
    rw [has_take htake, h.has_eq]
    by_cases heq : other = pin <;> simp [heq]
  reserved_eq other := by rw [isReserved_take htake, h.reserved_eq]
  nodup := by
    obtain ⟨-, -, hhas⟩ := take_isOk_iff.mp ⟨next, htake⟩
    rw [h.has_eq, decide_eq_true_iff] at hhas
    rw [List.nodup_append]
    refine ⟨h.nodup, List.pairwise_singleton _ pin, fun other hother same hsame heq => ?_⟩
    rw [List.mem_singleton] at hsame
    exact hhas.2 (hsame ▸ heq ▸ hother)

/-- Every request keeps what it should. -/
theorem Keeps.apply (h : bank.Keeps taken listed) (request : Request) :
    (bank.apply request).2.Keeps (taken ++ (bank.taken? request).toList)
      (listed ++ request.listed) := by
  cases request with
  | reserve pins =>
    rw [taken?, Option.toList_none, List.append_nil]
    exact h.reserve pins
  | take pin =>
    rw [Request.listed, List.append_nil]
    cases htake : bank.take pin with
    | ok next =>
      simp only [PinBank.apply, taken?, htake]
      exact h.take htake
    | error cause =>
      simp only [PinBank.apply, taken?, htake, Option.toList_none, List.append_nil]
      exact h

/-- So do requests one after another. -/
theorem Keeps.after (h : bank.Keeps taken listed) (requests : List Request) :
    (bank.after requests).Keeps (taken ++ bank.taken requests)
      (listed ++ requests.flatMap Request.listed) := by
  induction requests generalizing bank taken listed with
  | nil =>
    rw [PinBank.taken, List.flatMap_nil, List.append_nil, List.append_nil]
    exact h
  | cons request rest ih =>
    have hrest := ih (h.apply request)
    rw [List.append_assoc, List.append_assoc] at hrest
    exact hrest

end

/-- A request takes a pin if it asks for that pin and is not refused. -/
theorem taken?_eq_some_iff {bank : PinBank} {request : Request} {pin : Pin} :
    bank.taken? request = some pin ↔
      request = .take pin ∧ ∃ next, bank.take pin = .ok next := by
  cases request with
  | reserve pins => simp [taken?]
  | take other =>
    cases htake : bank.take other with
    | ok next =>
      simp only [taken?, htake, Option.some.injEq, Request.take.injEq]
      exact ⟨fun heq => ⟨heq, next, heq ▸ htake⟩, fun h => h.1⟩
    | error cause =>
      simp only [taken?, htake, Request.take.injEq, false_iff, reduceCtorEq, not_and]
      rintro rfl ⟨next, hnext⟩
      cases htake.symm.trans hnext

/-- A pin is among those taken if some request took it. -/
theorem mem_taken_iff {bank : PinBank} {requests : List Request} {pin : Pin} :
    pin ∈ bank.taken requests ↔ ∃ earlier later next,
      requests = earlier ++ .take pin :: later ∧ (bank.after earlier).take pin = .ok next := by
  induction requests generalizing bank with
  | nil => simp [taken]
  | cons request rest ih =>
    rw [taken, List.mem_append, Option.mem_toList, taken?_eq_some_iff, ih]
    constructor
    · rintro (⟨rfl, next, htake⟩ | ⟨earlier, later, next, rfl, htake⟩)
      · exact ⟨[], rest, next, rfl, htake⟩
      · exact ⟨request :: earlier, later, next, rfl, htake⟩
    · rintro ⟨earlier, later, next, hsplit, htake⟩
      cases earlier with
      | nil =>
        obtain ⟨rfl, -⟩ := List.cons.inj hsplit
        exact .inl ⟨rfl, next, htake⟩
      | cons first earlier =>
        obtain ⟨rfl, hrest⟩ := List.cons.inj hsplit
        exact .inr ⟨earlier, later, next, hrest, htake⟩

/-- A pin is among those listed if some request reserved a list with it. -/
theorem mem_listed_iff {requests : List Request} {pin : Pin} :
    pin ∈ requests.flatMap Request.listed ↔ ∃ pins, .reserve pins ∈ requests ∧ pin ∈ pins := by
  rw [List.mem_flatMap]
  constructor
  · rintro ⟨request, hrequest, hpin⟩
    cases request with
    | reserve pins => exact ⟨pins, hrequest, hpin⟩
    | take other => cases hpin
  · rintro ⟨pins, hrequest, hpin⟩
    exact ⟨.reserve pins, hrequest, hpin⟩

end PinBank

/-! ## A bank with its things -/

/-- A bank that keeps things of a type `π`, one in a place for each pin. -/
structure PinCabinet (π : Type) where
  /-- What is in the place of each pin. -/
  places : Vector (Option π) PinBank.size
  /-- Bit `n` is set once pin `n` is reserved; the highest bits are not used. -/
  reserved : BitVec 32

namespace PinCabinet

open PinBank (size Request)

variable {π : Type}

/-- A cabinet with all its things, none of them reserved. -/
def full (things : Vector π size) : PinCabinet π := ⟨things.map some, 0⟩

/-- The bits once a pin is reserved, if there is such a pin. -/
def withReserved (mask : BitVec 32) (pin : Pin) : BitVec 32 :=
  if pin.index < size then mask ||| 1#32 <<< pin.index else mask

/-- Reserves pins. -/
def reserve (cabinet : PinCabinet π) (pins : List Pin) : PinCabinet π :=
  { cabinet with reserved := pins.foldl withReserved cabinet.reserved }

/-- Whether a pin is reserved. -/
def isReserved (cabinet : PinCabinet π) (pin : Pin) : Bool :=
  decide (pin.index < size) && cabinet.reserved &&& 1#32 <<< pin.index != 0

/-- Takes a thing out of its place. -/
def take (cabinet : PinCabinet π) (pin : Pin) : Except PinBankError π × PinCabinet π :=
  if inside : pin.index < size then
    if cabinet.isReserved pin then (.error .reserved, cabinet)
    else
      let rest := { cabinet with places := cabinet.places.set pin.index none }
      match cabinet.places[pin.index] with
      | some thing => (.ok thing, rest)
      | none => (.error .alreadyTaken, rest)
  else (.error .noSuchPin, cabinet)

/-- The thing that is handed out at a request, if any, and the cabinet from then on. -/
def apply (cabinet : PinCabinet π) : Request → Option π × PinCabinet π
  | .reserve pins => (none, cabinet.reserve pins)
  | .take pin => ((cabinet.take pin).1.toOption, (cabinet.take pin).2)

/-- The cabinet after some requests, in their order. -/
def after (cabinet : PinCabinet π) (requests : List Request) : PinCabinet π :=
  requests.foldl (fun cabinet request => (cabinet.apply request).2) cabinet

/-- The things that are handed out at requests, oldest first. -/
def handedOut (cabinet : PinCabinet π) : List Request → List π
  | [] => []
  | request :: rest =>
    (cabinet.apply request).1.toList ++ handedOut (cabinet.apply request).2 rest

/-- The bits of a word that are looked at are those of the pins. -/
theorem isReserved_eq (cabinet : PinCabinet π) (pin : Pin) :
    cabinet.isReserved pin = (decide (pin.index < size) && cabinet.reserved.getLsbD pin.index) := by
  unfold isReserved
  by_cases inside : pin.index < size
  · have hwidth : pin.index < 32 := Nat.lt_trans inside (by decide)
    have hbit : BitVec.twoPow 32 pin.index ≠ 0#32 := by
      intro h
      have := congrArg (BitVec.getLsbD · pin.index) h
      simp [hwidth] at this
    change (_ && (cabinet.reserved &&& BitVec.twoPow 32 pin.index != 0#32)) = _
    rw [BitVec.and_twoPow]
    cases cabinet.reserved.getLsbD pin.index <;> simp [hbit]
  · simp [inside]

/-- Reserving adds the pins of the list that there are. -/
theorem isReserved_reserve (cabinet : PinCabinet π) (pins : List Pin) (pin : Pin) :
    (cabinet.reserve pins).isReserved pin
      = (cabinet.isReserved pin || (decide (pin ∈ pins) && decide (pin.index < size))) := by
  rw [isReserved_eq, isReserved_eq]
  by_cases inside : pin.index < size
  case neg => simp [inside]
  simp only [inside, decide_true, Bool.true_and, Bool.and_true, reserve]
  generalize cabinet.reserved = mask
  induction pins generalizing mask with
  | nil => simp
  | cons first rest ih =>
    have hfirst : (withReserved mask first).getLsbD pin.index
        = (mask.getLsbD pin.index || decide (pin = first)) := by
      unfold withReserved
      by_cases hin : first.index < size
      · have hwidth : first.index < 32 := Nat.lt_trans hin (by decide)
        have hbit : (1#32 <<< first.index).getLsbD pin.index = decide (pin = first) := by
          change (BitVec.twoPow 32 first.index).getLsbD pin.index = _
          rw [BitVec.getLsbD_twoPow]
          by_cases heq : pin = first
          · simp [heq, hwidth]
          · have hne : first.index ≠ pin.index := fun h => heq (Pin.ext_index h.symm)
            simp [heq, hne]
        rw [if_pos hin, BitVec.getLsbD_or, hbit]
      · have hne : pin ≠ first := by
          rintro rfl
          exact hin inside
        simp [hin, hne]
    rw [List.foldl_cons, ih, hfirst, Bool.or_assoc]
    by_cases heq : pin = first <;> simp [heq]

/-- A cabinet shows what a bank holds: of the things that were there at first, those of the pins
that the bank has. -/
structure Shows (things : Vector π size) (cabinet : PinCabinet π) (bank : PinBank) : Prop where
  /-- A thing is in its place while the bank has its pin. -/
  place_eq : ∀ (pin : Pin) (inside : pin.index < size),
    cabinet.places[pin.index] = if bank.has pin then some things[pin.index] else none
  /-- The same pins are reserved. -/
  reserved_eq : ∀ pin, cabinet.isReserved pin = bank.isReserved pin

/-- What taking a pin comes to, of a bank and of a cabinet. -/
inductive Takes (things : Vector π size) (cabinet : PinCabinet π) (bank : PinBank) (pin : Pin) :
    Prop
  /-- Both refuse the pin for the same cause, and the cabinet stays as it was. -/
  | refused {cause : PinBankError} (refused : bank.take pin = .error cause)
      (take_eq : cabinet.take pin = (.error cause, cabinet))
  /-- The cabinet hands out the thing that was put there for the pin. -/
  | granted {next : PinBank} {rest : PinCabinet π} (inside : pin.index < size)
      (granted : bank.take pin = .ok next)
      (take_eq : cabinet.take pin = (.ok things[pin.index], rest)) (shows : rest.Shows things next)

section

variable {things : Vector π size} {cabinet : PinCabinet π} {bank : PinBank} {pin : Pin}

/-- A full cabinet shows a full bank. -/
theorem shows_full (things : Vector π size) : (full things).Shows things PinBank.full where
  place_eq pin inside := by simp [full, PinBank.has_full, inside]
  reserved_eq pin := by simp [isReserved_eq, full, PinBank.isReserved, PinBank.full]

/-- Reserving is shown. -/
theorem Shows.reserve (h : cabinet.Shows things bank) (pins : List Pin) :
    (cabinet.reserve pins).Shows things (bank.reserve pins) where
  place_eq := h.place_eq
  reserved_eq pin := by rw [isReserved_reserve, h.reserved_eq, PinBank.isReserved_reserve]

/-- So is taking. -/
theorem Shows.takes (h : cabinet.Shows things bank) (pin : Pin) :
    cabinet.Takes things bank pin := by
  by_cases inside : pin.index < size
  case neg =>
    exact .refused (PinBank.take_noSuchPin_iff.mpr (Nat.le_of_not_lt inside)) (dif_neg inside)
  have hplace := h.place_eq pin inside
  cases hreserved : bank.isReserved pin with
  | true =>
    refine .refused (PinBank.take_reserved_iff.mpr ⟨inside, hreserved⟩) ?_
    rw [take, dif_pos inside, h.reserved_eq, hreserved, if_pos rfl]
  | false =>
    cases hhas : bank.has pin with
    | false =>
      -- Nothing is in the place, so that emptying it changes nothing.
      rw [hhas, if_neg Bool.false_ne_true] at hplace
      have hsame : cabinet.places.set pin.index none = cabinet.places := by
        rw [← hplace, Vector.set_getElem_self]
      refine .refused (PinBank.take_alreadyTaken_iff.mpr ⟨inside, hreserved, hhas⟩) ?_
      simp only [take, dif_pos inside, h.reserved_eq, hreserved, hplace, hsame]
      rfl
    | true =>
      rw [hhas, if_pos rfl] at hplace
      obtain ⟨next, htake⟩ := PinBank.take_isOk_iff.mpr ⟨inside, hreserved, hhas⟩
      have htaken : cabinet.take pin = (.ok things[pin.index],
          { cabinet with places := cabinet.places.set pin.index none }) := by
        simp only [take, dif_pos inside, h.reserved_eq, hreserved, hplace]
        rfl
      refine .granted inside htake htaken ⟨?_, ?_⟩
      · intro other hother
        rw [PinBank.has_take htake]
        by_cases heq : other = pin
        · simp [heq]
        · have hne : pin.index ≠ other.index := fun hindex => heq (Pin.ext_index hindex.symm)
          simp [hne, heq, h.place_eq other hother]
      · intro other
        rw [PinBank.isReserved_take htake]
        exact h.reserved_eq other

/-- Every request has its answer shown: what is handed out is the thing of the pin that is taken. -/
theorem Shows.apply (h : cabinet.Shows things bank) (request : Request) :
    (cabinet.apply request).2.Shows things (bank.apply request).2 ∧
      (cabinet.apply request).1.map some = (bank.taken? request).map (things[·.index]?) := by
  cases request with
  | reserve pins => exact ⟨h.reserve pins, rfl⟩
  | take pin =>
    cases h.takes pin with
    | refused refused take_eq =>
      simp only [PinCabinet.apply, PinBank.apply, PinBank.taken?, refused, take_eq]
      exact ⟨h, rfl⟩
    | granted inside granted take_eq shows =>
      simp only [PinCabinet.apply, PinBank.apply, PinBank.taken?, granted, take_eq]
      refine ⟨shows, ?_⟩
      simp [Except.toOption, inside]

/-- So do requests one after another. -/
theorem Shows.after (h : cabinet.Shows things bank) (requests : List Request) :
    (cabinet.after requests).Shows things (bank.after requests) ∧
      (cabinet.handedOut requests).map some = (bank.taken requests).map (things[·.index]?) := by
  induction requests generalizing cabinet bank with
  | nil => exact ⟨h, rfl⟩
  | cons request rest ih =>
    obtain ⟨hnext, hout⟩ := h.apply request
    obtain ⟨hlast, hrest⟩ := ih hnext
    refine ⟨hlast, ?_⟩
    rw [handedOut, PinBank.taken, List.map_append, List.map_append, hrest, ← Option.toList_map,
      ← Option.toList_map, hout]

end

end PinCabinet

/-! ## The law -/

namespace PinBank

/-- How a bank answers once some requests were made of a full one, and how a cabinet does that had
something for each pin. -/
structure Allocates {π : Type} (things : Vector π size) (earlier : List Request) : Prop where
  /-- A pin is reserved if the bank had it and some list named it. -/
  isReserved_iff : ∀ pin, (full.after earlier).isReserved pin = true ↔
    pin.index < size ∧ ∃ pins, .reserve pins ∈ earlier ∧ pin ∈ pins
  /-- The cabinet has the same pins reserved. -/
  isReserved_alike : ∀ pin,
    ((PinCabinet.full things).after earlier).isReserved pin = (full.after earlier).isReserved pin
  /-- A pin that the bank never had does not exist. -/
  noSuchPin_iff : ∀ pin, (full.after earlier).take pin = .error .noSuchPin ↔ size ≤ pin.index
  /-- A pin that is reserved is refused as reserved, even if it was taken before. -/
  reserved_iff : ∀ pin, (full.after earlier).take pin = .error .reserved ↔
    pin.index < size ∧ (full.after earlier).isReserved pin = true
  /-- Any other pin is refused if a request took it before. -/
  alreadyTaken_iff : ∀ pin, (full.after earlier).take pin = .error .alreadyTaken ↔
    pin.index < size ∧ (full.after earlier).isReserved pin = false ∧
      ∃ before later next, earlier = before ++ .take pin :: later ∧
        (full.after before).take pin = .ok next
  /-- Every pin that is not refused is taken, and what is handed out is what was put there for it
  at first. -/
  granted : ∀ pin, (∀ cause, (full.after earlier).take pin ≠ .error cause) →
    ∃ (inside : pin.index < size) (next : PinBank),
      (full.after earlier).take pin = .ok next ∧
      (((PinCabinet.full things).after earlier).take pin).1 = .ok things[pin.index]
  /-- The cabinet refuses the same pins for the same causes. -/
  refused_alike : ∀ pin cause,
    (((PinCabinet.full things).after earlier).take pin).1 = .error cause ↔
      (full.after earlier).take pin = .error cause
  /-- A pin that is refused leaves bank and cabinet as they were. -/
  unchanged : ∀ pin cause, (full.after earlier).take pin = .error cause →
    (full.after (earlier ++ [.take pin])) = full.after earlier ∧
      (((PinCabinet.full things).after earlier).take pin).2
        = (PinCabinet.full things).after earlier
  /-- No pin was taken twice, -/
  taken_once : (full.taken earlier).Nodup
  /-- and what was handed out are the things of the pins that were taken. -/
  handedOut_eq : ((PinCabinet.full things).handedOut earlier).map some
    = (full.taken earlier).map (things[·.index]?)

/-- Whatever was reserved and taken of a full bank, it allocates its pins as it should. -/
theorem hands_out_each_pin_once {π : Type} (things : Vector π size) (earlier : List Request) :
    Allocates things earlier := by
  have hkeeps := Keeps.full.after earlier
  obtain ⟨hshows, hout⟩ := (PinCabinet.shows_full things).after earlier
  constructor
  case isReserved_iff =>
    intro pin
    rw [hkeeps.reserved_eq, decide_eq_true_iff, List.nil_append, mem_listed_iff]
  case isReserved_alike => exact hshows.reserved_eq
  case noSuchPin_iff => exact fun pin => take_noSuchPin_iff
  case reserved_iff => exact fun pin => take_reserved_iff
  case alreadyTaken_iff =>
    intro pin
    rw [take_alreadyTaken_iff, ← mem_taken_iff, hkeeps.has_eq, List.nil_append]
    refine and_congr_right fun inside => and_congr_right fun _ => ?_
    simp [inside]
  case granted =>
    intro pin hgranted
    cases hshows.takes pin with
    | refused refused take_eq => exact absurd refused (hgranted _)
    | granted inside granted take_eq shows => exact ⟨inside, _, granted, by rw [take_eq]⟩
  case refused_alike =>
    intro pin cause
    cases hshows.takes pin with
    | refused refused take_eq => rw [refused, take_eq]; simp
    | granted inside granted take_eq shows => rw [granted, take_eq]; simp
  case unchanged =>
    intro pin cause hrefused
    constructor
    · simp only [after_concat, PinBank.apply, hrefused]
    · cases hshows.takes pin with
      | refused refused take_eq => rw [take_eq]
      | granted inside granted take_eq shows => cases hrefused.symm.trans granted
  case taken_once => exact hkeeps.nodup
  case handedOut_eq => exact hout

end PinBank

end PilotLamp
