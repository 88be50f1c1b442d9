import PilotLamp.Proofs.LevelHistory

/-!
# Calls made until one fails

What it means that some calls were made in order and cut at the first failure: which calls they
are, what is answered and which state is left. Carrying out a list of calls until an error does
exactly that, on every backend, as a note of the calls shows. How long a call takes is out of
scope.
-/

namespace PilotLamp

/-- Of the calls planned, those made from a start, with the result and the state they lead to. -/
structure MakesCalls {σ : Type} (indicator : Indicator σ) (planned made : List Call) (start : σ)
    (result : Except PinError Unit) (final : σ) : Prop where
  /-- The calls made are the first of those planned. -/
  first : made <+: planned
  /-- No call follows one that failed. -/
  cut : ∀ earlier call error later,
    indicator.answered start made = earlier ++ ⟨call, .error error⟩ :: later → later = []
  /-- If no call failed then all that were planned were made. -/
  complete : (∀ answered ∈ indicator.answered start made, answered.answer = .ok ()) →
    made = planned
  /-- The result is a success exactly if no call failed. -/
  ok_iff : result = .ok () ↔ ∀ answered ∈ indicator.answered start made, answered.answer = .ok ()
  /-- Otherwise it is the error of the call that failed. -/
  error_iff : ∀ error, result = .error error ↔
    ∃ call, ⟨call, .error error⟩ ∈ indicator.answered start made
  /-- The state that is left is the one after the calls made. -/
  state : final = indicator.after start made

section

variable {σ : Type} {indicator : Indicator σ} {start next final : σ} {call : Call}
  {planned made : List Call} {result : Except PinError Unit} {error : PinError}

theorem MakesCalls.nil (start : σ) : MakesCalls indicator [] [] start (.ok ()) start where
  first := List.prefix_refl []
  cut earlier call error later h := by simp [Indicator.answered] at h
  complete _ := rfl
  ok_iff := by simp [Indicator.answered]
  error_iff error := by simp [Indicator.answered]
  state := rfl

/-- A call that fails is the last. -/
theorem MakesCalls.failed (applied : indicator.apply start call = (.error error, next))
    (rest : List Call) :
    MakesCalls indicator (call :: rest) [call] start (.error error) next := by
  have hanswered : indicator.answered start [call] = [⟨call, .error error⟩] := by
    rw [Indicator.answered, applied, Indicator.answered]
  constructor
  case first => exact ⟨rest, rfl⟩
  case cut =>
    intro earlier other cause later h
    rw [hanswered] at h
    cases earlier with
    | nil => exact (List.cons.inj h).2.symm
    | cons head tail =>
      have hnil := (List.cons.inj h).2
      simp at hnil
  case complete =>
    intro h
    rw [hanswered] at h
    cases h _ List.mem_cons_self
  case ok_iff => simp [hanswered]
  case error_iff =>
    intro cause
    simp [hanswered, eq_comm]
  case state => rw [Indicator.after, List.foldl_cons, applied, List.foldl_nil]

/-- After a call that succeeds the others go on from where it led. -/
theorem MakesCalls.cons (applied : indicator.apply start call = (.ok (), next))
    (h : MakesCalls indicator planned made next result final) :
    MakesCalls indicator (call :: planned) (call :: made) start result final := by
  have hanswered : indicator.answered start (call :: made)
      = ⟨call, .ok ()⟩ :: indicator.answered next made := by
    rw [Indicator.answered, applied]
  have hall : (∀ answered ∈ indicator.answered start (call :: made), answered.answer = .ok ()) ↔
      ∀ answered ∈ indicator.answered next made, answered.answer = .ok () := by
    rw [hanswered, List.forall_mem_cons]
    exact and_iff_right rfl
  constructor
  case first => exact List.cons_prefix_cons.mpr ⟨rfl, h.first⟩
  case cut =>
    intro earlier other cause later hsplit
    rw [hanswered] at hsplit
    cases earlier with
    | nil => cases hsplit
    | cons head tail => exact h.cut tail other cause later (List.cons.inj hsplit).2
  case complete => exact fun hok => congrArg (call :: ·) (h.complete (hall.mp hok))
  case ok_iff => exact h.ok_iff.trans hall.symm
  case error_iff =>
    intro cause
    rw [h.error_iff, hanswered]
    simp
  case state => rw [h.state, Indicator.after, Indicator.after, List.foldl_cons, applied]

/-- Carrying out calls until an error makes them up to the first that fails, and a note of the
calls has exactly those. -/
theorem makesCalls_applyUntilError (indicator : Indicator σ) (calls : List Call) (start : σ)
    (noted : List Call) : ∃ made,
    MakesCalls indicator calls made start (indicator.applyUntilError calls start).1
      (indicator.applyUntilError calls start).2 ∧
    indicator.noting.applyUntilError calls (start, noted)
      = ((indicator.applyUntilError calls start).1, (indicator.applyUntilError calls start).2,
          noted ++ made) := by
  induction calls generalizing start noted with
  | nil => exact ⟨[], .nil start, by rw [List.append_nil]; rfl⟩
  | cons call rest ih =>
    rw [Indicator.applyUntilError, Indicator.applyUntilError, Indicator.apply_noting]
    cases happly : indicator.apply start call with
    | mk answer next =>
      cases answer with
      | error error => exact ⟨[call], .failed happly rest, rfl⟩
      | ok =>
        obtain ⟨made, hmade, hnoted⟩ := ih next (noted ++ [call])
        refine ⟨call :: made, hmade.cons happly, ?_⟩
        simp only [hnoted, List.append_assoc, List.singleton_append]

end

end PilotLamp
