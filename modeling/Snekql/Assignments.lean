import Mathlib.Data.List.Basic

/-!
# Assignments evaluated at once and in order

A row is a function from keys to cells, and an assignment computes the new cell of one key
from a row. A list of assignments can be evaluated at once, all on the row before the list,
or in order, each on the row that the earlier ones left. The two agree when no assignment
changes what a later one computes.
-/

namespace Snekql.Assignments

universe u v
variable {Key : Type u} {Cell : Type v} [DecidableEq Key]

/-- One key of a row and the computation of its new cell. -/
structure Write (Key : Type u) (Cell : Type v) where
  key : Key
  value : (Key → Cell) → Cell

/-- The row in which the key has the cell that a base row gives. -/
def Write.perform (write : Write Key Cell) (base row : Key → Cell) : Key → Cell :=
  Function.update row write.key (write.value base)

/-- Every assignment reads the row before the list; the last one for a key decides. -/
def atOnce (writes : List (Write Key Cell)) (row : Key → Cell) : Key → Cell :=
  writes.foldl (fun current write => write.perform row current) row

/-- Every assignment reads the row that the earlier ones left. -/
def inOrder (writes : List (Write Key Cell)) (row : Key → Cell) : Key → Cell :=
  writes.foldl (fun current write => write.perform current current) row

/-- The earlier assignment changes nothing that the later one computes. -/
def Undisturbed (earlier later : Write Key Cell) : Prop :=
  ∀ row, later.value (earlier.perform row row) = later.value row

/-- A value that does not depend on the earlier key is undisturbed. -/
theorem Undisturbed.of_ignores {earlier later : Write Key Cell}
    (ignores : ∀ (row : Key → Cell) (cell : Cell),
      later.value (Function.update row earlier.key cell) = later.value row) :
    Undisturbed earlier later :=
  fun row => ignores row (earlier.value row)

/-- Evaluation in order gives what evaluation at once gives, if no assignment disturbs a
later one. -/
theorem inOrder_eq_atOnce {writes : List (Write Key Cell)}
    (undisturbed : writes.Pairwise Undisturbed) (row : Key → Cell) :
    inOrder writes row = atOnce writes row := by
  -- The current row gives the remaining assignments the values that the first row gives.
  have onwards (rest : List (Write Key Cell)) (current : Key → Cell)
      (undisturbed : rest.Pairwise Undisturbed)
      (same : ∀ write ∈ rest, write.value current = write.value row) :
      rest.foldl (fun current write => write.perform current current) current =
        rest.foldl (fun current write => write.perform row current) current := by
    induction rest generalizing current with
    | nil => rfl
    | cons first rest ih =>
      obtain ⟨firstUndisturbs, restUndisturbed⟩ := List.pairwise_cons.mp undisturbed
      have firstSame : first.perform current current = first.perform row current := by
        rw [Write.perform, Write.perform, same first List.mem_cons_self]
      rw [List.foldl_cons, List.foldl_cons, firstSame]
      apply ih _ restUndisturbed
      intro write member
      rw [← firstSame, firstUndisturbs write member current]
      exact same write (List.mem_cons_of_mem _ member)
  exact onwards writes row undisturbed (fun _ _ => rfl)

/-- Assignments of other keys leave a cell alone, whatever row they read. -/
theorem foldl_perform_of_ne (base : (Key → Cell) → Key → Cell) {later : List (Write Key Cell)}
    {key : Key} (others : ∀ write ∈ later, write.key ≠ key) (current : Key → Cell) :
    later.foldl (fun current write => write.perform (base current) current) current key =
      current key := by
  induction later generalizing current with
  | nil => rfl
  | cons first rest ih =>
    rw [List.foldl_cons, ih (fun write member =>
      others write (List.mem_cons_of_mem _ member)), Write.perform,
      Function.update_of_ne (others first List.mem_cons_self).symm]

/-- The last assignment of a key decides its cell, at once from the first row. -/
theorem atOnce_of_last {later : List (Write Key Cell)} {last : Write Key Cell}
    (others : ∀ write ∈ later, write.key ≠ last.key) (earlier : List (Write Key Cell))
    (row : Key → Cell) :
    atOnce (earlier ++ last :: later) row last.key = last.value row := by
  rw [atOnce, List.foldl_append, List.foldl_cons,
    foldl_perform_of_ne (fun _ => row) others, Write.perform, Function.update_self]

/-- The last assignment of a key decides its cell, in order from the row before it. -/
theorem inOrder_of_last {later : List (Write Key Cell)} {last : Write Key Cell}
    (others : ∀ write ∈ later, write.key ≠ last.key) (earlier : List (Write Key Cell))
    (row : Key → Cell) :
    inOrder (earlier ++ last :: later) row last.key = last.value (inOrder earlier row) := by
  rw [inOrder, List.foldl_append, List.foldl_cons]
  refine (foldl_perform_of_ne (fun current => current) others _).trans ?_
  rw [Write.perform, Function.update_self, inOrder]

/-- A key that is assigned has a last assignment. -/
theorem exists_last {writes : List (Write Key Cell)} {key : Key}
    (assigned : ∃ write ∈ writes, write.key = key) :
    ∃ earlier last later, writes = earlier ++ last :: later ∧ last.key = key ∧
      ∀ write ∈ later, write.key ≠ last.key := by
  induction writes with
  | nil =>
    obtain ⟨write, member, _⟩ := assigned
    cases member
  | cons first rest ih =>
    by_cases restAssigns : ∃ write ∈ rest, write.key = key
    · obtain ⟨earlier, last, later, rfl, lastKey, others⟩ := ih restAssigns
      exact ⟨first :: earlier, last, later, rfl, lastKey, others⟩
    · obtain ⟨write, member, writeKey⟩ := assigned
      obtain rfl | member := List.mem_cons.mp member
      · refine ⟨[], write, rest, rfl, writeKey, fun other otherMember same => ?_⟩
        exact restAssigns ⟨other, otherMember, same.trans writeKey⟩
      · exact absurd ⟨write, member, writeKey⟩ restAssigns

/-- A key that is assigned in order has a property that each of its assignments ensures. -/
theorem inOrder_ensures (holds : Cell → Prop) {writes : List (Write Key Cell)} {key : Key}
    (assigned : ∃ write ∈ writes, write.key = key)
    (ensured : ∀ write ∈ writes, write.key = key → ∀ row, holds (write.value row))
    (row : Key → Cell) : holds (inOrder writes row key) := by
  obtain ⟨earlier, last, later, rfl, rfl, others⟩ := exists_last assigned
  rw [inOrder_of_last others]
  exact ensured last (List.mem_append_right _ List.mem_cons_self) rfl _

end Snekql.Assignments
