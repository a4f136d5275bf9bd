import Mathlib.Data.List.Count
import Snekql.GateInvariant

/-!
# Bookings of admission slots

A connection pool keeps one record for each acquirer of its gate. The bookings tie the two
together: the records in use are those of the acquirers that hold a slot, and exactly the
finished records have given their slot back, once. The kind of record is a parameter, so that
both pools share the laws of arrival, admission, change of use and release.
-/

namespace Snekql.PoolGate

variable {Record : Type} [DecidableEq Record]

/-- The gate's slots are those of the active records, and exactly the finished ones have given
theirs back, once. -/
structure Bookings (active : Record → Bool) (finished : Record) (capacity : Nat) (gate : State)
    (records : List Record) (accepting : Bool) (returns : List Nat) : Prop where
  fair : Invariant capacity gate
  synchronized : gate.accepting = accepting
  aligned : records.map active = gate.tasks.map Phase.holdsSlot
  returned : ∀ task, returns.count task = if records[task]? = some finished then 1 else 0

namespace Bookings

variable {active : Record → Bool} {finished : Record} {capacity : Nat} {gate after : State}
  {records : List Record} {accepting : Bool} {returns : List Nat} {task : Nat} {old new : Record}

section

variable (bookings : Bookings active finished capacity gate records accepting returns)
include bookings

/-- An active acquirer holds a slot of the gate. -/
theorem admitted_of_active (current : records[task]? = some old) (busy : active old = true) :
    ∃ ticket, gate.tasks[task]? = some (.admitted ticket) := by
  have slot : (gate.tasks.map Phase.holdsSlot)[task]? = some true := by
    rw [← bookings.aligned, List.getElem?_map, current, Option.map_some, busy]
  rw [List.getElem?_map, Option.map_eq_some_iff] at slot
  obtain ⟨phase, found, holds⟩ := slot
  cases phase with
  | admitted ticket => exact ⟨ticket, found⟩
  | _ => simp [Phase.holdsSlot] at holds

/-- An inactive acquirer holds none. -/
theorem waiting_of_inactive (current : records[task]? = some old) (inactive : active old = false) :
    ∃ phase, gate.tasks[task]? = some phase ∧ phase.holdsSlot = false := by
  have slot : (gate.tasks.map Phase.holdsSlot)[task]? = some false := by
    rw [← bookings.aligned, List.getElem?_map, current, Option.map_some, inactive]
  rw [List.getElem?_map, Option.map_eq_some_iff] at slot
  exact slot

/-- The count of slots is the number of active records. -/
theorem admitted_eq : gate.admitted = records.countP active := by
  have counted := congrArg (List.countP id) bookings.aligned
  rw [List.countP_map, List.countP_map] at counted
  rw [bookings.fair.counted, State.holders]
  exact congrArg Int.ofNat counted.symm

theorem returned_set (current : records[task]? = some old) (before : old ≠ finished)
    (now : new ≠ finished) :
    ∀ other, returns.count other =
      if (records.set task new)[other]? = some finished then 1 else 0 := by
  intro other
  have inside : task < records.length := (List.getElem?_eq_some_iff.mp current).1
  rw [bookings.returned other]
  by_cases same : task = other
  · subst same
    rw [current, List.getElem?_set_self inside]
    simp [before, now]
  · rw [List.getElem?_set_ne same]

/-- The slot is put to another use. -/
theorem replace (current : records[task]? = some old) (same : active new = active old)
    (before : old ≠ finished) (now : new ≠ finished) :
    Bookings active finished capacity gate (records.set task new) accepting returns := by
  obtain ⟨inside, found⟩ := List.getElem?_eq_some_iff.mp current
  refine ⟨bookings.fair, bookings.synchronized, ?_, bookings.returned_set current before now⟩
  rw [← bookings.aligned, List.map_set, same, ← found, ← List.getElem_map active,
    List.set_getElem_self]
  simpa using inside

/-- `gate.release()` on behalf of an active acquirer. -/
theorem giveBack (current : records[task]? = some old) (busy : active old = true)
    (idle : active finished = false) :
    Bookings active finished capacity (gate.release task (gate.ticketAt task) .released)
        (records.set task finished) accepting (returns ++ [task]) ∧
      (gate.release task (gate.ticketAt task) .released).admitted = gate.admitted - 1 ∧
      (gate.release task (gate.ticketAt task) .released).served = gate.served := by
  obtain ⟨ticket, held⟩ := bookings.admitted_of_active current busy
  have inside : task < records.length := (List.getElem?_eq_some_iff.mp current).1
  have own : gate.ticketAt task = ticket := by
    simp [State.ticketAt, held, Phase.ticket]
  have released : gate.release task (gate.ticketAt task) .released =
      ({ gate with admitted := gate.admitted - 1 }).notifyAll.put task
        (.left .released ticket) := by
    simp [own, State.release, lockFor_free bookings.fair.unlocked, State.freeSlot,
      State.notifyAll, State.unlock, State.put, bookings.fair.unlocked]
  rw [released]
  refine ⟨⟨(Move.release held).preserves bookings.fair, bookings.synchronized, ?_, ?_⟩, rfl, rfl⟩
  · rw [slots_put (Or.inr rfl), List.map_set, idle]
    exact congrArg (List.set · task false) bookings.aligned
  · intro other
    have unfinished : old ≠ finished := fun same => by simp [same, idle] at busy
    rw [List.count_append, bookings.returned other]
    by_cases same : task = other
    · subst same
      rw [current, List.getElem?_set_self inside]
      simp [unfinished]
    · simp [List.getElem?_set_ne same, same]

/-- The pool changes its mind about accepting work and wakes everyone. -/
theorem regulate (flag : Bool) : Bookings active finished capacity ({ gate with accepting := flag }).notifyAll records flag
      returns := by
  refine ⟨(Move.regulate flag true).preserves bookings.fair, rfl, ?_, bookings.returned⟩
  rw [bookings.aligned]
  simp [State.notifyAll, Function.comp_def]

theorem arrive (inactive : active new = false) (unfinished : new ≠ finished) :
    Bookings active finished capacity { gate with tasks := gate.tasks ++ [.checkpoint none] }
      (records ++ [new]) accepting returns := by
  refine ⟨arrive_preserves bookings.fair, bookings.synchronized, ?_, ?_⟩
  · simp [bookings.aligned, inactive, Phase.holdsSlot]
  · intro other
    rw [bookings.returned other]
    rcases Nat.lt_trichotomy other records.length with inside | last | beyond
    · rw [List.getElem?_append_left inside]
    · simp [last, unfinished]
    · rw [List.getElem?_eq_none (by omega), List.getElem?_eq_none (by simp; omega)]

/-- A turn at the gate that admits nobody. -/
theorem pass (fair : Invariant capacity after) (flag : after.accepting = gate.accepting)
    (slots : after.tasks.map Phase.holdsSlot = gate.tasks.map Phase.holdsSlot) :
    Bookings active finished capacity after records accepting returns :=
  ⟨fair, flag.trans bookings.synchronized, bookings.aligned.trans slots.symm, bookings.returned⟩

/-- A turn at the gate that admits the acquirer, whose slot is then put to use. -/
theorem grant (fair : Invariant capacity after) (flag : after.accepting = gate.accepting)
    (current : records[task]? = some old) (before : old ≠ finished) (now : new ≠ finished)
    (slots : after.tasks.map Phase.holdsSlot = (gate.tasks.map Phase.holdsSlot).set task true)
    (busy : active new = true) :
    Bookings active finished capacity after (records.set task new) accepting returns := by
  refine ⟨fair, flag.trans bookings.synchronized, ?_, bookings.returned_set current before now⟩
  rw [List.map_set, busy, bookings.aligned, slots]

/-- An active record means an occupied slot. -/
theorem occupied (current : records[task]? = some old) (busy : active old = true) :
    1 ≤ gate.admitted := by
  rw [bookings.admitted_eq]
  have positive : 0 < records.countP active :=
    List.countP_pos_iff.mpr ⟨old, List.mem_of_getElem? current, busy⟩
  omega

end

end Bookings

end Snekql.PoolGate
