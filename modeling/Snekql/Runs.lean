import Mathlib.Data.List.Basic

/-!
# Finite runs of a partial step function

A system is a function from a state and an event to the next state; an event
that is not enabled has none. A run feeds a list of events to that function and
completes only when every one of them was enabled. A property of all reachable
states is therefore a property of every completed run from the initial state.

Two induction rules follow. The first carries an invariant along any run. The
second carries it along the runs whose steps all satisfy a side condition on the
state before the step, as a conditional guarantee needs. Neither rule mentions
what the states, the events or the invariant are.
-/

namespace Snekql.Runs

universe u v
variable {State : Type u} {Event : Type v}

/-- Take the events in order and stop without a result at the first one that the
current state does not enable. -/
def run (step : State → Event → Option State) : State → List Event → Option State
  | state, [] => some state
  | state, event :: rest => (step state event).bind (fun next => run step next rest)

/-- Every step of the run satisfies the side condition in its own prior state. -/
def Along (step : State → Event → Option State) (allowed : State → Event → Prop) :
    State → List Event → Prop
  | _, [] => True
  | state, event :: rest =>
    allowed state event ∧ ∀ next ∈ step state event, Along step allowed next rest

/-- Whether a concrete run satisfies a decidable side condition can be computed. -/
instance decidableAlong (step : State → Event → Option State) (allowed : State → Event → Prop)
    [∀ state event, Decidable (allowed state event)] :
    (state : State) → (events : List Event) → Decidable (Along step allowed state events)
  | _, [] => isTrue trivial
  | state, event :: rest =>
    letI := fun next => decidableAlong step allowed next rest
    inferInstanceAs (Decidable (allowed state event ∧ ∀ next ∈ step state event,
      Along step allowed next rest))

variable {step : State → Event → Option State}

/-- A completed nonempty run exposes its first step and the run after it. -/
theorem run_cons {state final : State} {event : Event} {rest : List Event}
    (completed : run step state (event :: rest) = some final) :
    ∃ next, step state event = some next ∧ run step next rest = some final := by
  simpa only [run, Option.bind_eq_some_iff] using completed

/-- What every step keeps, every completed run keeps. -/
theorem run_invariant (Invariant : State → Prop)
    (preserved : ∀ state event next, Invariant state → step state event = some next →
      Invariant next)
    {state final : State} {events : List Event} (initial : Invariant state)
    (completed : run step state events = some final) : Invariant final := by
  induction events generalizing state with
  | nil =>
    have same : state = final := Option.some.inj completed
    exact same ▸ initial
  | cons event rest ih =>
    obtain ⟨next, stepped, following⟩ := run_cons completed
    exact ih (preserved state event next initial stepped) following

/-- What every step keeps under the side condition is kept by every completed run
whose steps all satisfy it. -/
theorem run_invariant_along (Invariant : State → Prop) (allowed : State → Event → Prop)
    (preserved : ∀ state event next, Invariant state → allowed state event →
      step state event = some next → Invariant next)
    {state final : State} {events : List Event} (initial : Invariant state)
    (admissible : Along step allowed state events)
    (completed : run step state events = some final) : Invariant final := by
  induction events generalizing state with
  | nil =>
    have same : state = final := Option.some.inj completed
    exact same ▸ initial
  | cons event rest ih =>
    obtain ⟨next, stepped, following⟩ := run_cons completed
    obtain ⟨permitted, later⟩ := admissible
    exact ih (preserved state event next initial permitted stepped)
      (later next stepped) following

end Snekql.Runs
