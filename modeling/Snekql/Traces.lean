import Mathlib.Data.List.Basic

/-!
# What must follow what in a trace

A trace lists what happened, oldest first. Many properties of one say that each of its
entries is followed by something: a request by its answer, an opening by its closing.
`Followed` says so entry by entry, with the trace after each entry. As a trace grows at its
end, every entry sees one more follower, and the new entry sees none yet; that is the
induction which carries such a property along a run.
-/

namespace Snekql.Traces

universe u
variable {α : Type u} {fine finer : α → List α → Prop} {trace : List α}

/-- Every entry is fine with what comes after it. -/
def Followed (fine : α → List α → Prop) : List α → Prop
  | [] => True
  | entry :: after => fine entry after ∧ Followed fine after

theorem Followed.mono (followed : Followed fine trace)
    (kept : ∀ entry after, fine entry after → finer entry after) : Followed finer trace := by
  induction trace with
  | nil => trivial
  | cons entry after ih =>
    exact ⟨kept entry after followed.1, ih followed.2⟩

/-- Two requirements on the same trace. -/
theorem Followed.and (followed : Followed fine trace) (also : Followed finer trace) :
    Followed (fun entry after => fine entry after ∧ finer entry after) trace := by
  induction trace with
  | nil => trivial
  | cons entry after ih =>
    exact ⟨⟨followed.1, also.1⟩, ih followed.2 also.2⟩

/-- One more entry at the end: the old ones have a new follower, the new one has none. -/
theorem Followed.snoc {last : α} (followed : Followed fine trace)
    (kept : ∀ entry after, fine entry after → finer entry (after ++ [last]))
    (new : finer last []) : Followed finer (trace ++ [last]) := by
  induction trace with
  | nil => exact ⟨new, trivial⟩
  | cons entry after ih =>
    exact ⟨kept entry after followed.1, ih followed.2⟩

end Snekql.Traces
