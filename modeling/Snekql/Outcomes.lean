import Mathlib.Data.List.Basic

/-!
# Computations that fail alike

Two fallible computations agree when both raise the same error or both return, with results
in a given relation. Agreement passes through sequencing, so that two programs of the same
shape are compared step by step.
-/

namespace Snekql.Outcomes

universe u v w
variable {Error : Type u} {α β γ δ : Type v}

theorem ok_bind (value : α) (rest : α → Except Error β) :
    (Except.ok value >>= rest) = rest value := rfl

/-- A sequence returns when its first part does and the rest does after it. -/
theorem bind_eq_ok {first : Except Error α} {rest : α → Except Error β} {result : β} :
    (first >>= rest) = .ok result ↔ ∃ value, first = .ok value ∧ rest value = .ok result := by
  cases first with
  | error failure =>
    constructor
    · intro returned
      cases returned
    · rintro ⟨value, returned, _⟩
      cases returned
  | ok value =>
    constructor
    · intro returned
      exact ⟨value, rfl, returned⟩
    · rintro ⟨_, ⟨⟩, returned⟩
      exact returned

/-- A sequence that starts by raising under a condition. -/
theorem guarded_eq_ok {condition : Prop} [Decidable condition] {failure : Error}
    {rest : PUnit → Except Error β} {result : β} :
    (if condition then (throw failure >>= rest) else rest ⟨⟩) = .ok result ↔
      ¬condition ∧ rest ⟨⟩ = .ok result := by
  by_cases holds : condition
  · rw [if_pos holds]
    constructor
    · intro returned
      cases returned
    · rintro ⟨fails, _⟩
      exact absurd holds fails
  · rw [if_neg holds]
    exact ⟨fun returned => ⟨holds, returned⟩, And.right⟩

/-- What every step of a fallible loop keeps, given the inputs read before it. -/
theorem foldlM_invariant {step : α → β → Except Error α} {holds : List β → α → Prop}
    (each : ∀ read state input next, holds read state → step state input = .ok next →
      holds (read ++ [input]) next)
    {inputs : List β} {first last : α} (initially : holds [] first)
    (returned : inputs.foldlM step first = .ok last) : holds inputs last := by
  have onwards (read rest : List β) (state : α) (before : holds read state)
      (returned : rest.foldlM step state = .ok last) : holds (read ++ rest) last := by
    induction rest generalizing read state with
    | nil =>
      cases returned
      rw [List.append_nil]
      exact before
    | cons input rest ih =>
      rw [List.foldlM_cons] at returned
      obtain ⟨next, stepped, returned⟩ := bind_eq_ok.mp returned
      have joined := ih (read ++ [input]) next
        (each read state input next before stepped) returned
      rw [List.append_assoc] at joined
      exact joined
  exact onwards [] inputs first initially returned

/-- The same error, or related results. -/
inductive Agree (related : α → β → Prop) : Except Error α → Except Error β → Prop where
  | error (failure : Error) : Agree related (.error failure) (.error failure)
  | ok {left : α} {right : β} (results : related left right) : Agree related (.ok left) (.ok right)

namespace Agree

variable {related : α → β → Prop}

/-- A computation agrees with itself. -/
theorem same (computation : Except Error α) : Agree Eq computation computation := by
  cases computation with
  | error failure => exact error failure
  | ok result => exact ok rfl

theorem bind {continued : γ → δ → Prop} {first : Except Error α} {second : Except Error β}
    (agree : Agree related first second) {left : α → Except Error γ} {right : β → Except Error δ}
    (each : ∀ one other, related one other → Agree continued (left one) (right other)) :
    Agree continued (first >>= left) (second >>= right) := by
  cases agree with
  | error failure => exact error failure
  | ok results => exact each _ _ results

/-- Both programs run the same computation first. -/
theorem bind_same {continued : γ → δ → Prop} (computation : Except Error α)
    {left : α → Except Error γ} {right : α → Except Error δ}
    (each : ∀ result, Agree continued (left result) (right result)) :
    Agree continued (computation >>= left) (computation >>= right) := by
  apply (same computation).bind
  rintro result _ rfl
  exact each result

/-- When one computation returns, so does the other. -/
theorem ok_left {first : Except Error α} {second : Except Error β}
    (agree : Agree related first second) {result : α} (returned : first = .ok result) :
    ∃ other, second = .ok other ∧ related result other := by
  cases agree with
  | error failure => cases returned
  | ok results =>
    cases returned
    exact ⟨_, rfl, results⟩

end Agree

end Snekql.Outcomes
