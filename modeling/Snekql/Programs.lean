import Mathlib.Logic.Basic

/-!
# Programs that make calls

A routine returns, raises, or makes a call and goes on with the reply. It is a tree, so it can be
taken apart one call at a time by whatever runs it. Rules say which calls are allowed and how
they may be answered, seen from the routine. A routine obeys the rules if all its calls are allowed
however the calls before were answered. Triples compose such facts along the structure of a
routine.
-/

namespace Snekql.Programs

universe u
variable {Call Reply Stop : Type u} {α β : Type u}

inductive Routine (Call Reply Stop : Type u) (α : Type u) where
  | ret (value : α)
  | raise (stop : Stop)
  | call (request : Call) (next : Reply → Routine Call Reply Stop α)

namespace Routine

def bind : Routine Call Reply Stop α → (α → Routine Call Reply Stop β) → Routine Call Reply Stop β
  | .ret value, rest => rest value
  | .raise stop, _ => .raise stop
  | .call request next, rest => .call request (fun reply => (next reply).bind rest)

instance : Monad (Routine Call Reply Stop) where
  pure := .ret
  bind := bind

/-- `try … except`. -/
def handle (handler : Stop → Routine Call Reply Stop α) :
    Routine Call Reply Stop α → Routine Call Reply Stop α
  | .ret value => .ret value
  | .raise stop => handler stop
  | .call request next => .call request (fun reply => (next reply).handle handler)

/-- `try … finally`. The clean-up is told whether the routine failed; what it raises itself replaces
the outcome of the routine. -/
def ensuring (cleanup : Bool → Routine Call Reply Stop PUnit) :
    Routine Call Reply Stop α → Routine Call Reply Stop α
  | .ret value => (cleanup false).bind (fun _ => .ret value)
  | .raise stop => (cleanup true).bind (fun _ => .raise stop)
  | .call request next => .call request (fun reply => (next reply).ensuring cleanup)

/-- The outcome of a computation that makes no calls. -/
def ofExcept : Except Stop α → Routine Call Reply Stop α
  | .ok value => .ret value
  | .error stop => .raise stop

/-- One routine for each element, in order. -/
def each {ι : Type u} (body : ι → Routine Call Reply Stop PUnit) :
    List ι → Routine Call Reply Stop PUnit
  | [] => .ret ⟨⟩
  | first :: rest => (body first).bind (fun _ => each body rest)

/-- How a routine ends whose calls are answered by a fixed environment. -/
def outcome (respond : Call → Reply) : Routine Call Reply Stop α → Except Stop α
  | .ret value => .ok value
  | .raise stop => .error stop
  | .call request next => (next (respond request)).outcome respond

theorem outcome_bind (respond : Call → Reply) (routine : Routine Call Reply Stop α)
    (rest : α → Routine Call Reply Stop β) :
    (routine >>= rest).outcome respond =
      routine.outcome respond >>= fun value => (rest value).outcome respond := by
  induction routine with
  | ret value => rfl
  | raise stop => rfl
  | call request next ih => exact ih (respond request)

/-- A loop returns if and only if each of its rounds does. -/
theorem outcome_each_eq_ok {ι : Type u} (respond : Call → Reply)
    (body : ι → Routine Call Reply Stop PUnit) (elements : List ι) :
    (each body elements).outcome respond = .ok ⟨⟩ ↔
      ∀ element ∈ elements, (body element).outcome respond = .ok ⟨⟩ := by
  induction elements with
  | nil =>
    constructor
    · intro _ element listed
      cases listed
    · intro _
      rfl
  | cons first rest ih =>
    have unfolded : (each body (first :: rest)).outcome respond =
        (body first).outcome respond >>= fun _ => (each body rest).outcome respond :=
      outcome_bind respond (body first) (fun _ => each body rest)
    rw [unfolded, List.forall_mem_cons, ← ih]
    cases (body first).outcome respond with
    | error stop =>
      constructor
      · intro returned
        cases returned
      · rintro ⟨returned, _⟩
        cases returned
    | ok value => exact ⟨fun returned => ⟨rfl, returned⟩, And.right⟩

end Routine

/-- Which calls are allowed, and how a call may be answered, as far as a routine can see. -/
structure Rules (Call Reply View : Type u) where
  allowed : Call → View → Prop
  answers : Call → View → Reply → View → Prop

variable {View : Type u} {rules : Rules Call Reply View}

/-- All calls are allowed, and the routine can only end as told. -/
def Obeys (rules : Rules Call Reply View) :
    Routine Call Reply Stop α → (Except Stop α → View → Prop) → View → Prop
  | .ret value, ending, view => ending (.ok value) view
  | .raise stop, ending, view => ending (.error stop) view
  | .call request next, ending, view =>
    rules.allowed request view ∧
      ∀ reply after, rules.answers request view reply after →
        Obeys rules (next reply) ending after

/-- From every view that meets the condition the routine obeys the rules and ends as told. -/
def Triple (rules : Rules Call Reply View) (before : View → Prop)
    (routine : Routine Call Reply Stop α) (returned : α → View → Prop) (raised : Stop → View → Prop) : Prop :=
  ∀ view, before view → Obeys rules routine
    (fun | .ok value => returned value | .error stop => raised stop) view

theorem Obeys.weaken {routine : Routine Call Reply Stop α}
    {ending weaker : Except Stop α → View → Prop}
    (implies : ∀ outcome view, ending outcome view → weaker outcome view) {view : View}
    (obeys : Obeys rules routine ending view) : Obeys rules routine weaker view := by
  induction routine generalizing view with
  | ret | raise => exact implies _ _ obeys
  | call request next ih =>
    exact ⟨obeys.1, fun reply after answered =>
      ih reply (obeys.2 reply after answered)⟩

theorem Obeys.bind {routine : Routine Call Reply Stop α} {rest : α → Routine Call Reply Stop β}
    {ending : Except Stop β → View → Prop} {view : View}
    (obeys : Obeys rules routine
      (fun
        | .ok value => Obeys rules (rest value) ending
        | .error stop => ending (.error stop)) view) :
    Obeys rules (routine.bind rest) ending view := by
  induction routine generalizing view with
  | ret | raise => exact obeys
  | call request next ih =>
    exact ⟨obeys.1, fun reply after answered =>
      ih reply (obeys.2 reply after answered)⟩

theorem Obeys.handle {routine : Routine Call Reply Stop α}
    {handler : Stop → Routine Call Reply Stop α}
    {ending : Except Stop α → View → Prop} {view : View}
    (obeys : Obeys rules routine
      (fun
        | .ok value => ending (.ok value)
        | .error stop => Obeys rules (handler stop) ending) view) :
    Obeys rules (routine.handle handler) ending view := by
  induction routine generalizing view with
  | ret | raise => exact obeys
  | call request next ih =>
    exact ⟨obeys.1, fun reply after answered =>
      ih reply (obeys.2 reply after answered)⟩

theorem Obeys.ensuring {routine : Routine Call Reply Stop α}
    {cleanup : Bool → Routine Call Reply Stop PUnit} {ending : Except Stop α → View → Prop}
    {view : View}
    (obeys : Obeys rules routine
      (fun
        | .ok value =>
          Obeys rules (cleanup false)
            (fun
              | .ok _ => ending (.ok value)
              | .error stop => ending (.error stop))
        | .error stop =>
          Obeys rules (cleanup true)
            (fun
              | .ok _ => ending (.error stop)
              | .error other => ending (.error other))) view) :
    Obeys rules (routine.ensuring cleanup) ending view := by
  induction routine generalizing view with
  | ret value | raise stop =>
    refine Obeys.bind (Obeys.weaken ?_ obeys)
    rintro (stop | _) view ends <;> exact ends
  | call request next ih =>
    exact ⟨obeys.1, fun reply after answered =>
      ih reply (obeys.2 reply after answered)⟩

namespace Triple

variable {before : View → Prop} {routine : Routine Call Reply Stop α} {returned : α → View → Prop}
  {raised : Stop → View → Prop}

theorem ret {value : α} (holds : ∀ view, before view → returned value view) :
    Triple rules before (.ret value) returned raised :=
  holds

theorem raise {stop : Stop} (holds : ∀ view, before view → raised stop view) :
    Triple rules before (.raise stop) returned raised :=
  holds

theorem weaken {earlier : View → Prop} {later : α → View → Prop} {failed : Stop → View → Prop}
    (triple : Triple rules before routine returned raised)
    (start : ∀ view, earlier view → before view)
    (ends : ∀ value view, returned value view → later value view)
    (fails : ∀ stop view, raised stop view → failed stop view) :
    Triple rules earlier routine later failed := by
  intro view begun
  refine Obeys.weaken ?_ (triple view (start view begun))
  rintro (stop | value) after ended
  · exact fails stop after ended
  · exact ends value after ended

/-- First one routine, then another on what it returned. -/
theorem bind {rest : α → Routine Call Reply Stop β} {final : β → View → Prop}
    (middle : α → View → Prop) (first : Triple rules before routine middle raised)
    (second : ∀ value, Triple rules (middle value) (rest value) final raised) :
    Triple rules before (routine.bind rest) final raised := by
  intro view begun
  refine Obeys.bind (Obeys.weaken ?_ (first view begun))
  rintro (stop | value) after ended
  · exact ended
  · exact second value after ended

/-- The handler starts where the routine raised. -/
theorem handle {handler : Stop → Routine Call Reply Stop α} (trouble : Stop → View → Prop)
    (tried : Triple rules before routine returned trouble)
    (handled : ∀ stop, Triple rules (trouble stop) (handler stop) returned raised) :
    Triple rules before (routine.handle handler) returned raised := by
  intro view begun
  refine Obeys.handle (Obeys.weaken ?_ (tried view begun))
  rintro (stop | value) after ended
  · exact handled stop after ended
  · exact ended

/-- The clean-up follows both ways to end. -/
theorem ensuring {cleanup : Bool → Routine Call Reply Stop PUnit} (done : α → View → Prop)
    (trouble : Stop → View → Prop) (tried : Triple rules before routine done trouble)
    (completed : ∀ value, Triple rules (done value) (cleanup false)
      (fun _ => returned value) raised)
    (failed : ∀ stop, Triple rules (trouble stop) (cleanup true) (fun _ => raised stop) raised) :
    Triple rules before (routine.ensuring cleanup) returned raised := by
  intro view begun
  refine Obeys.ensuring (Obeys.weaken ?_ (tried view begun))
  rintro (stop | value) after ended
  · refine Obeys.weaken ?_ (failed stop after ended)
    rintro (other | _) last holds <;> exact holds
  · refine Obeys.weaken ?_ (completed value after ended)
    rintro (other | _) last holds <;> exact holds

end Triple

end Snekql.Programs
