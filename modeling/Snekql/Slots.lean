import Mathlib.Data.List.Basic
import Mathlib.Data.List.Count

/-!
# Resources held in slots

A system of indexed slots, each holding some resources, is a list together with a
function from a slot's content to the resources it holds. Storing a new content in
one slot trades the resources of the old content for those of the new one. Both
the multiplicity of a single resource and the number of slots with a property
obey that exchange law, so an ownership invariant stated by counting needs no
argument about positions.
-/

namespace Snekql.Slots

universe u v
variable {Content : Type u} {Resource : Type v} [DecidableEq Resource]

/-- All resources held in the slots, with multiplicity. -/
def contents (holds : Content → List Resource) (slots : List Content) : List Resource :=
  slots.flatMap holds

section Exchange

variable (holds : Content → List Resource) {slots : List Content} {index : Nat} {old : Content}

/-- Storing in a slot exchanges one resource's multiplicity in the old content for
the one in the new content. -/
theorem count_contents_set (current : slots[index]? = some old) (new : Content)
    (resource : Resource) :
    (contents holds (slots.set index new)).count resource + (holds old).count resource =
      (contents holds slots).count resource + (holds new).count resource := by
  induction slots generalizing index with
  | nil => simp at current
  | cons first rest ih =>
    cases index with
    | zero =>
      have same : first = old := by simpa using current
      simp only [contents, List.set_cons_zero, List.flatMap_cons, List.count_append, same]
      omega
    | succ index =>
      have there : rest[index]? = some old := by simpa using current
      have exchanged := ih there
      simp only [contents, List.set_cons_succ, List.flatMap_cons, List.count_append] at exchanged ⊢
      omega

/-- A resource of some slot's content is among the contents. -/
theorem count_le_contents (current : slots[index]? = some old) (resource : Resource) :
    (holds old).count resource ≤ (contents holds slots).count resource := by
  induction slots generalizing index with
  | nil => simp at current
  | cons first rest ih =>
    simp only [contents, List.flatMap_cons, List.count_append]
    cases index with
    | zero =>
      have same : first = old := by simpa using current
      rw [same]
      omega
    | succ index =>
      have there : rest[index]? = some old := by simpa using current
      have inside := ih there
      simp only [contents] at inside
      omega

/-- A resource that two slots hold is among the contents at least twice. -/
theorem two_le_contents {other : Nat} {second : Content} {resource : Resource}
    (current : slots[index]? = some old) (different : slots[other]? = some second)
    (apart : index ≠ other) (held : resource ∈ holds old) (shared : resource ∈ holds second) :
    2 ≤ (contents holds slots).count resource := by
  induction slots generalizing index other with
  | nil => simp at current
  | cons first rest ih =>
    have one : 1 ≤ (holds old).count resource := List.one_le_count_iff.mpr held
    have another : 1 ≤ (holds second).count resource := List.one_le_count_iff.mpr shared
    simp only [contents, List.flatMap_cons, List.count_append]
    cases index with
    | zero =>
      cases other with
      | zero => exact absurd rfl apart
      | succ other =>
        have same : first = old := by simpa using current
        have there : rest[other]? = some second := by simpa using different
        have inside : _ ≤ (contents holds rest).count resource :=
          count_le_contents holds there resource
        simp only [contents] at inside
        rw [same]
        omega
    | succ index =>
      cases other with
      | zero =>
        have same : first = second := by simpa using different
        have there : rest[index]? = some old := by simpa using current
        have inside : _ ≤ (contents holds rest).count resource :=
          count_le_contents holds there resource
        simp only [contents] at inside
        rw [same]
        omega
      | succ other =>
        have here : rest[index]? = some old := by simpa using current
        have there : rest[other]? = some second := by simpa using different
        have inside := ih here there (by omega)
        simp only [contents] at inside
        omega

end Exchange

end Snekql.Slots
