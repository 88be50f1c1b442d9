import PilotLamp.Proofs.LevelHistory

/-!
# Two runs side by side

Two machines are alike on related states if every input has the same answer on both and leads to
related states. Then an observer sees the same in any two runs that start related. The first pair
are two simulations with the same lines: whatever their sinks take, refuse or flush, and whatever
else their surroundings do, no answer and no level depends on it. What the sinks have taken in the
end is out of scope.
-/

namespace PilotLamp

section

variable {σ τ ι ρ α : Type}

/-- What is seen of a run: the answer to each input, with a view of the state after it. -/
def observed (step : σ → ι → ρ × σ) (view : σ → α) (state : σ) : List ι → List (ρ × α)
  | [] => []
  | input :: rest =>
    ((step state input).1, view (step state input).2)
      :: observed step view (step state input).2 rest

/-- Related states answer every input that is allowed alike and stay related. -/
def StepsAlike (first : σ → ι → ρ × σ) (second : τ → ι → ρ × τ) (allowed : ι → Prop)
    (related : σ → τ → Prop) : Prop :=
  ∀ state other, related state other → ∀ input, allowed input →
    (first state input).1 = (second other input).1 ∧
      related (first state input).2 (second other input).2

/-- Runs from related states look alike in every view that related states have in common. -/
theorem StepsAlike.observed_eq {first : σ → ι → ρ × σ} {second : τ → ι → ρ × τ}
    {allowed : ι → Prop} {related : σ → τ → Prop} {state : σ} {other : τ} {view : σ → α}
    {viewOther : τ → α} (h : StepsAlike first second allowed related)
    (start : related state other)
    (common : ∀ state other, related state other → view state = viewOther other)
    {inputs : List ι} (hallowed : ∀ input ∈ inputs, allowed input) :
    observed first view state inputs = observed second viewOther other inputs := by
  induction inputs generalizing state other with
  | nil => rfl
  | cons input rest ih =>
    rw [List.forall_mem_cons] at hallowed
    obtain ⟨hanswer, hnext⟩ := h state other start input hallowed.1
    have hview := common _ _ hnext
    have hrest := ih hnext hallowed.2
    rw [observed, observed, hanswer, hview, hrest]

end

namespace Simulation

/-- Two simulations with the same lines answer alike and keep the same lines, whatever surrounds
them: no answer of a sink is looked at. -/
theorem alike {ω τ : Type} (first : Surroundings ω) (second : Surroundings τ) :
    StepsAlike (indicator first).apply (indicator second).apply (fun _ => True)
      fun state other => state.1 = other.1 := by
  rintro ⟨simulation, world⟩ ⟨-, other⟩ rfl call -
  cases call with
  | delay ms => exact ⟨rfl, rfl⟩
  | report error => exact ⟨rfl, rfl⟩
  | configure pin =>
    simp only [Indicator.apply, indicator, configure]
    by_cases hin : pin.index < simulation.slots
    · simp only [if_pos hin]
      cases simulation.lines.configure pin with
      | error error => exact ⟨rfl, rfl⟩
      | ok lines => exact ⟨rfl, rfl⟩
    · simp only [if_neg hin]
      exact ⟨rfl, rfl⟩
  | write pin level =>
    simp only [Indicator.apply, indicator, write]
    cases simulation.lines.set pin level with
    | error error => exact ⟨rfl, rfl⟩
    | ok outcome => exact ⟨rfl, rfl⟩

/-- Of two simulations with the same number of slots, in any two surroundings, a caller sees the
same: the answer to every call, and the level of every pin after it. -/
theorem sinks_do_not_interfere {ω τ : Type} (first : Surroundings ω) (second : Surroundings τ)
    (slots : Nat) (world : ω) (other : τ) (calls : List Call) :
    observed (indicator first).apply (indicator first).level (withSlots slots, world) calls
      = observed (indicator second).apply (indicator second).level (withSlots slots, other)
          calls := by
  have hlevels (state : Simulation × ω) (later : Simulation × τ) (same : state.1 = later.1) :
      (indicator first).level state = (indicator second).level later :=
    congrArg (fun simulation => simulation.lines.level) same
  exact (alike first second).observed_eq rfl hlevels fun _ _ => trivial

end Simulation

end PilotLamp
