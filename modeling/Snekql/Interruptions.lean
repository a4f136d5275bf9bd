import Mathlib.Logic.Basic

/-!
# Programs that may be interrupted

A program works on a state in atomic steps. It may raise an error, and it may be interrupted
before any of its steps. In both cases the state stays as the steps before left it. A triple
says what holds when the program returns, when it raises, and when it is interrupted. It also
says that a program is interrupted only if an interruption was due.
-/

namespace Snekql.Interruption

universe u v w
variable {State : Type u} {Error : Type v} {α β : Type w}

/-- Why a program stops early. -/
inductive Stop (Error : Type v) where
  | interrupted
  | raised (error : Error)
deriving DecidableEq, Repr

/-- The state, and the number of steps before the interruption if one is due. -/
structure Process (State : Type u) where
  state : State
  patience : Option Nat
deriving DecidableEq, Repr

def Action (State : Type u) (Error : Type v) (α : Type w) :=
  Process State → Except (Stop Error) α × Process State

instance : Monad (Action State Error) where
  pure value := fun process => (.ok value, process)
  bind first rest := fun process =>
    match first process with
    | (.ok value, next) => rest value next
    | (.error stop, next) => (.error stop, next)

/-- An atomic operation, before which the program can be interrupted. -/
def step (operation : State → Except Error α × State) : Action State Error α := fun process =>
  match process.patience with
  | some 0 => (.error .interrupted, process)
  | patience =>
    ((operation process.state).1.mapError Stop.raised,
      { state := (operation process.state).2, patience := patience.map (· - 1) })

def fail (error : Error) : Action State Error α := fun process => (.error (.raised error), process)

/-- A change of the state that nothing can come before. -/
def change (f : State → State) : Action State Error Unit := fun process =>
  (.ok (), { process with state := f process.state })

/-- If the program stops early, clean up and pass the stop on; an error may get another name. -/
def cleaning (cleanup : State → State) (relabel : Error → Error) (action : Action State Error α) :
    Action State Error α := fun process =>
  match action process with
  | (.ok value, next) => (.ok value, next)
  | (.error .interrupted, next) =>
    (.error .interrupted, { next with state := cleanup next.state })
  | (.error (.raised error), next) =>
    (.error (.raised (relabel error)), { next with state := cleanup next.state })

/-- What is promised of each way to end. -/
structure Promise (State : Type u) (Error : Type v) (α : Type w) where
  returned : α → State → Prop
  raised : Error → State → Prop
  interrupted : State → Prop

/-- The promise holds of an end that was reached with the given patience. -/
def Promise.Kept (promise : Promise State Error α) (patience : Option Nat) :
    Except (Stop Error) α × Process State → Prop
  | (.ok value, next) =>
    promise.returned value next.state ∧ (patience = none → next.patience = none)
  | (.error (.raised error), next) =>
    promise.raised error next.state ∧ (patience = none → next.patience = none)
  | (.error .interrupted, next) => promise.interrupted next.state ∧ patience ≠ none

/-- From every state that meets the condition the program keeps the promise. -/
def Triple (before : State → Prop) (action : Action State Error α)
    (promise : Promise State Error α) : Prop :=
  ∀ process, before process.state → promise.Kept process.patience (action process)

namespace Triple

variable {before : State → Prop} {promise : Promise State Error α} {action : Action State Error α}

theorem pure {value : α} (holds : ∀ state, before state → promise.returned value state) :
    Triple before (Pure.pure value) promise :=
  fun process start => ⟨holds process.state start, id⟩

theorem fail {error : Error} (holds : ∀ state, before state → promise.raised error state) :
    Triple before (Interruption.fail error) promise :=
  fun process start => ⟨holds process.state start, id⟩

theorem change {f : State → State} {promise : Promise State Error Unit}
    (holds : ∀ state, before state → promise.returned () (f state)) :
    Triple before (Interruption.change f) promise :=
  fun process start => ⟨holds process.state start, id⟩

/-- First one program, then another on what it returned. -/
theorem bind {rest : α → Action State Error β} {final : Promise State Error β}
    (middle : α → State → Prop)
    (first : Triple before action
      { returned := middle, raised := final.raised, interrupted := final.interrupted })
    (second : ∀ value, Triple (middle value) (rest value) final) :
    Triple before (action >>= rest) final := by
  intro process start
  have kept := first process start
  show final.Kept process.patience (match action process with
    | (.ok value, next) => rest value next
    | (.error stop, next) => (.error stop, next))
  match ended : action process with
  | (.ok value, next) =>
    rw [ended] at kept
    obtain ⟨reached, steady⟩ := kept
    have later := second value next reached
    show final.Kept process.patience (rest value next)
    match finished : rest value next with
    | (.ok result, last) =>
      rw [finished] at later
      exact ⟨later.1, fun free => later.2 (steady free)⟩
    | (.error (.raised error), last) =>
      rw [finished] at later
      exact ⟨later.1, fun free => later.2 (steady free)⟩
    | (.error .interrupted, last) =>
      rw [finished] at later
      exact ⟨later.1, fun free => later.2 (steady free)⟩
  | (.error (.raised error), next) =>
    rw [ended] at kept
    exact kept
  | (.error .interrupted, next) =>
    rw [ended] at kept
    exact kept

/-- A step is interrupted where it starts, or happens. -/
theorem step {operation : State → Except Error α × State}
    (stays : ∀ state, before state → promise.interrupted state)
    (returns : ∀ state value, before state → (operation state).1 = .ok value →
      promise.returned value (operation state).2)
    (raises : ∀ state error, before state → (operation state).1 = .error error →
      promise.raised error (operation state).2) :
    Triple before (Interruption.step operation) promise := by
  intro process start
  obtain ⟨state, patience⟩ := process
  have happens (left : Option Nat) (steady : patience = none → left = none) :
      promise.Kept patience ((operation state).1.mapError Stop.raised,
        { state := (operation state).2, patience := left }) := by
    cases ended : (operation state).1 with
    | ok value => exact ⟨returns state value start ended, steady⟩
    | error error => exact ⟨raises state error start ended, steady⟩
  match patience with
  | none => exact happens none id
  | some 0 => exact ⟨stays state start, nofun⟩
  | some (left + 1) => exact happens (some left) nofun

theorem cleaning {cleanup : State → State} {relabel : Error → Error}
    (inner : Triple before action
      { returned := promise.returned
        raised := fun error state => promise.raised (relabel error) (cleanup state)
        interrupted := fun state => promise.interrupted (cleanup state) }) :
    Triple before (Interruption.cleaning cleanup relabel action) promise := by
  intro process start
  have kept := inner process start
  unfold Interruption.cleaning
  match ended : action process with
  | (.ok value, next) =>
    rw [ended] at kept
    exact kept
  | (.error (.raised error), next) =>
    rw [ended] at kept
    exact kept
  | (.error .interrupted, next) =>
    rw [ended] at kept
    exact kept

theorem weaken {weaker : Promise State Error α} {earlier : State → Prop}
    (triple : Triple before action promise) (start : ∀ state, earlier state → before state)
    (returned : ∀ value state, promise.returned value state → weaker.returned value state)
    (raised : ∀ error state, promise.raised error state → weaker.raised error state)
    (interrupted : ∀ state, promise.interrupted state → weaker.interrupted state) :
    Triple earlier action weaker := by
  intro process ready
  have kept := triple process (start process.state ready)
  match ended : action process with
  | (.ok value, next) =>
    rw [ended] at kept
    exact ⟨returned value next.state kept.1, kept.2⟩
  | (.error (.raised error), next) =>
    rw [ended] at kept
    exact ⟨raised error next.state kept.1, kept.2⟩
  | (.error .interrupted, next) =>
    rw [ended] at kept
    exact ⟨interrupted next.state kept.1, kept.2⟩

/-- The program starts from less. -/
theorem strengthen {earlier : State → Prop} (triple : Triple before action promise)
    (start : ∀ state, earlier state → before state) : Triple earlier action promise :=
  fun process ready => triple process (start process.state ready)

/-- From a known state the program is interrupted there, or goes on from the next one. -/
theorem step_at {operation : State → Except Error α × State} {state next : State} {value : α}
    {rest : α → Action State Error β} {final : Promise State Error β}
    (happens : operation state = (.ok value, next)) (stays : final.interrupted state)
    (later : Triple (fun reached => reached = next) (rest value) final) :
    Triple (fun reached => reached = state) (Interruption.step operation >>= rest) final := by
  refine bind (fun found reached => found = value ∧ reached = next) (step ?_ ?_ ?_) ?_
  · rintro _ rfl
    exact stays
  · rintro _ found rfl ended
    rw [happens] at ended ⊢
    cases ended
    exact ⟨rfl, rfl⟩
  · rintro _ error rfl ended
    rw [happens] at ended
    cases ended
  · rintro _ process ⟨rfl, start⟩
    exact later process start

/-- A program that never raises returns, unless an interruption is due. -/
theorem returns {after : α → State → Prop} {interrupted : State → Prop}
    (triple : Triple before action
      { returned := after, raised := fun _ _ => False, interrupted }) {state : State}
    (start : before state) :
    ∃ value next, action { state, patience := none } = (.ok value, next) ∧
      after value next.state := by
  have kept := triple { state, patience := none } start
  match ended : action { state, patience := none } with
  | (.ok value, next) =>
    rw [ended] at kept
    exact ⟨value, next, rfl, kept.1⟩
  | (.error (.raised error), next) =>
    rw [ended] at kept
    exact kept.1.elim
  | (.error .interrupted, next) =>
    rw [ended] at kept
    exact absurd rfl kept.2

/-- A program that never returns raises, unless an interruption is due. -/
theorem raises {raised : Error → State → Prop} {interrupted : State → Prop}
    (triple : Triple before action { returned := fun _ _ => False, raised, interrupted })
    {state : State} (start : before state) :
    ∃ error next, action { state, patience := none } = (.error (.raised error), next) ∧
      raised error next.state := by
  have kept := triple { state, patience := none } start
  match ended : action { state, patience := none } with
  | (.ok value, next) =>
    rw [ended] at kept
    exact kept.1.elim
  | (.error (.raised error), next) =>
    rw [ended] at kept
    exact ⟨error, next, rfl, kept.1⟩
  | (.error .interrupted, next) =>
    rw [ended] at kept
    exact absurd rfl kept.2

/-- However the program ends, what all three parts of the promise imply holds. -/
theorem ends {holds : State → Prop} (triple : Triple before action promise)
    (returned : ∀ value state, promise.returned value state → holds state)
    (raised : ∀ error state, promise.raised error state → holds state)
    (interrupted : ∀ state, promise.interrupted state → holds state) {process : Process State}
    (start : before process.state) : holds (action process).2.state := by
  have kept := triple process start
  match ended : action process with
  | (.ok value, next) =>
    rw [ended] at kept
    exact returned value next.state kept.1
  | (.error (.raised error), next) =>
    rw [ended] at kept
    exact raised error next.state kept.1
  | (.error .interrupted, next) =>
    rw [ended] at kept
    exact interrupted next.state kept.1

end Triple

end Snekql.Interruption
