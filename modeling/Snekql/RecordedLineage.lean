import Snekql.Outcomes
import Snekql.RecordedTarget

/-!
# The lineage of applied packages

The history table has no order of its own. `checkHistory` finds the one row that is nobody's
predecessor, and accepts a package only as the successor of that row. If the rows record a
lineage, in whatever order the query returns them, an accepted package prolongs it.
-/

namespace Snekql.RecordedTarget

open Snekql.Recorded

/-! ## Chains -/

section Chains

variable {α : Type} {related : α → α → Prop}

/-- Every element of a chain but the last has a successor. -/
theorem exists_next : ∀ {chain : List α}, chain.IsChain related →
    ∀ earlier ∈ chain.dropLast, ∃ later ∈ chain, related earlier later
  | [], _, _, inside => nomatch inside
  | [_], _, _, inside => nomatch inside
  | first :: second :: rest, linked, earlier, inside => by
    rw [List.isChain_cons_cons] at linked
    rw [List.dropLast_cons_of_ne_nil (List.cons_ne_nil second rest)] at inside
    obtain rfl | further := List.mem_cons.mp inside
    · exact ⟨second, by simp, linked.1⟩
    · obtain ⟨later, listed, follows⟩ := exists_next linked.2 earlier further
      exact ⟨later, List.mem_cons_of_mem _ listed, follows⟩

/-- Every element of a chain but the first follows one that is not the last. -/
theorem exists_previous : ∀ {chain : List α}, chain.IsChain related →
    ∀ later ∈ chain.tail, ∃ earlier ∈ chain.dropLast, related earlier later
  | [], _, _, inside => nomatch inside
  | [_], _, _, inside => nomatch inside
  | first :: second :: rest, linked, later, inside => by
    rw [List.isChain_cons_cons] at linked
    rw [List.dropLast_cons_of_ne_nil (List.cons_ne_nil second rest)]
    obtain rfl | further := List.mem_cons.mp inside
    · exact ⟨first, List.mem_cons_self .., linked.1⟩
    · obtain ⟨earlier, listed, follows⟩ := exists_previous linked.2 later further
      exact ⟨earlier, List.mem_cons_of_mem _ listed, follows⟩

end Chains

variable (engine : Engine)

/-- The row of a plan that has reached a phase. -/
structure Records (phase : Phase) (prepared : Prepared) (row : Row) : Prop where
  digest : row.digest = engine.packageDigest prepared.package
  revision : row.revision = prepared.package.draft.revision
  predecessor : row.predecessor = prepared.package.draft.predecessor
  phase : row.phase = phase
  state : row.state = engine.grammar.digest prepared.package.draft.target
  plan : row.plan = engine.planDigest prepared

/-- A package names the one before it, and starts from its recorded target. -/
structure Succeeds (earlier later : Package) : Prop where
  predecessor : later.draft.predecessor = some (engine.packageDigest earlier)
  before : engine.grammar.digest later.draft.before = engine.grammar.digest earlier.draft.target

/-- The packages form one chain from an empty state; an empty name counts as no predecessor. -/
structure Lineage (packages : List Package) : Prop where
  founded : ∀ first, packages.head? = some first →
    (first.draft.predecessor = none ∨ first.draft.predecessor = some "") ∧
      first.draft.before.tables = []
  chained : packages.IsChain (Succeeds engine)
  distinct : (packages.map engine.packageDigest).Nodup

theorem lineage_nil : Lineage engine [] :=
  ⟨nofun, List.isChain_nil, List.nodup_nil⟩

section Rows

variable {engine} {plans : List Prepared} {rows : List Row}

section

variable (recorded : List.Forall₂ (Records engine .complete) plans rows)
include recorded

theorem rows_digests :
    rows.map Row.digest = (plans.map Prepared.package).map engine.packageDigest := by
  induction recorded with
  | nil => rfl
  | cons records _ ih =>
    simp only [List.map_cons, records.digest, ih]

theorem rows_chained (chained : (plans.map Prepared.package).IsChain (Succeeds engine)) :
    rows.IsChain (fun earlier later => later.predecessor = some earlier.digest) := by
  induction recorded with
  | nil => exact List.isChain_nil
  | cons records others ih =>
    cases others with
    | nil => exact List.isChain_singleton _
    | cons next more =>
      simp only [List.map_cons, List.isChain_cons_cons] at chained ih ⊢
      refine ⟨?_, ih chained.2⟩
      rw [next.predecessor, chained.1.predecessor, records.digest]

/-- The first row names no predecessor. -/
theorem rows_founded (lineage : Lineage engine (plans.map Prepared.package)) :
    ∀ first, rows.head? = some first →
      first.predecessor = none ∨ first.predecessor = some "" := by
  intro first head
  cases recorded with
  | nil => cases head
  | cons records others =>
    cases head
    rw [records.predecessor]
    exact (lineage.founded _ rfl).1

/-- Nobody succeeds the last row. -/
theorem last_unnamed (lineage : Lineage engine (plans.map Prepared.package)) {last : Row}
    (final : rows.getLast? = some last) : some last.digest ∉ rows.map Row.predecessor := by
  intro named
  obtain ⟨row, listed, names⟩ := List.mem_map.mp named
  obtain ⟨front, rfl⟩ := List.getLast?_eq_some_iff.mp final
  have nonempty : last.digest ≠ "" := by
    have recordedDigest : last.digest ∈ (front ++ [last]).map Row.digest :=
      List.mem_map_of_mem (by simp)
    rw [rows_digests recorded] at recordedDigest
    obtain ⟨package, -, same⟩ := List.mem_map.mp recordedDigest
    exact same ▸ engine.packageDigest_nonempty package
  have chained := rows_chained recorded lineage.chained
  have distinct : ((front ++ [last]).map Row.digest).Nodup := by
    rw [rows_digests recorded]
    exact lineage.distinct
  obtain first | further : (front ++ [last]).head? = some row ∨ row ∈ (front ++ [last]).tail := by
    cases whole : front ++ [last] with
    | nil => rw [whole] at listed; cases listed
    | cons head rest =>
      rw [whole] at listed
      obtain rfl | inside := List.mem_cons.mp listed
      · exact Or.inl rfl
      · exact Or.inr inside
  · obtain none | blank := rows_founded recorded lineage row first
    · rw [none] at names
      cases names
    · rw [blank] at names
      exact nonempty (Option.some.inj names).symm
  · obtain ⟨earlier, inside, follows⟩ := exists_previous chained row further
    rw [List.dropLast_concat] at inside
    rw [follows] at names
    rw [List.map_append, List.nodup_append] at distinct
    exact distinct.2.2 _ (List.mem_map_of_mem inside) _ (by simp) (Option.some.inj names)

/-- The only head of a lineage is its last row. -/
theorem heads_eq (lineage : Lineage engine (plans.map Prepared.package)) {last : Row}
    (final : rows.getLast? = some last) : heads rows = [last] := by
  have unnamed := last_unnamed recorded lineage final
  have chained := rows_chained recorded lineage.chained
  obtain ⟨front, rfl⟩ := List.getLast?_eq_some_iff.mp final
  unfold heads
  rw [List.filter_append]
  have named : ∀ row ∈ front, ¬ (!((front ++ [last]).map Row.predecessor).contains
      (some row.digest)) = true := by
    intro row inside
    obtain ⟨later, listed, follows⟩ :=
      exists_next chained row (by rw [List.dropLast_concat]; exact inside)
    have found : some row.digest ∈ (front ++ [last]).map Row.predecessor :=
      follows ▸ List.mem_map_of_mem listed
    rw [List.contains_iff_mem.mpr found]
    exact Bool.false_ne_true
  rw [List.filter_eq_nil_iff.mpr named, List.nil_append]
  simpa using unnamed

end

/-- The order in which the rows were read does not matter for the heads. -/
theorem heads_perm {read : List Row} (same : read.Perm rows) : (heads read).Perm (heads rows) := by
  have named : (fun row : Row => !(read.map Row.predecessor).contains (some row.digest)) =
      fun row => !(rows.map Row.predecessor).contains (some row.digest) := by
    funext row
    rw [Bool.eq_iff_iff]
    simp only [Bool.not_eq_true', Bool.eq_false_iff, ne_eq, List.contains_iff_mem,
      (same.map Row.predecessor).mem_iff]
  unfold heads
  rw [named]
  exact same.filter _

/-- What an accepting `checkHistory` has found. -/
theorem checkHistory_accepts {package : Package} {read : List Row}
    (accepted : checkHistory engine package read = .ok false) :
    (heads read).map Row.digest = expectedHeads package ∧
      match read.find? (fun row => some row.digest == package.draft.predecessor) with
      | none => package.draft.before.tables = []
      | some prior => prior.state = engine.grammar.digest package.draft.before := by
  unfold checkHistory at accepted
  obtain ⟨applied, -, accepted⟩ := Outcomes.bind_eq_ok.mp accepted
  dsimp only at accepted
  split at accepted
  · cases accepted
  · split at accepted
    · cases accepted
    · rename_i heads
      refine ⟨not_not.mp heads, ?_⟩
      cases found : read.find? (fun row => some row.digest == package.draft.predecessor) with
      | none =>
        rw [found] at accepted
        dsimp only at accepted ⊢
        split at accepted
        · rename_i empty
          exact List.isEmpty_iff.mp empty
        · cases accepted
      | some prior =>
        rw [found] at accepted
        dsimp only at accepted ⊢
        split at accepted
        · assumption
        · cases accepted

theorem expectedHeads_eq {package : Package} {digest : String}
    (expected : expectedHeads package = [digest]) : package.draft.predecessor = some digest := by
  unfold expectedHeads at expected
  cases named : package.draft.predecessor with
  | none => simp [named] at expected
  | some name =>
    by_cases blank : name = ""
    · simp [named, blank] at expected
    · simp [named, blank] at expected
      rw [expected]

/-- The plan that the last row records. -/
theorem last_plan (recorded : List.Forall₂ (Records engine .complete) plans rows) {last : Row}
    (final : rows.getLast? = some last) :
    ∃ plan, plans.getLast? = some plan ∧ Records engine .complete plan last := by
  rw [← List.forall₂_reverse_iff] at recorded
  rw [List.getLast?_eq_head?_reverse] at final ⊢
  generalize rows.reverse = back at recorded final
  generalize plans.reverse = backwards at recorded
  cases recorded with
  | nil => cases final
  | cons records others =>
    cases final
    exact ⟨_, rfl, records⟩

/-- An accepted package prolongs the lineage. -/
theorem Lineage.prolong (lineage : Lineage engine (plans.map Prepared.package))
    (recorded : List.Forall₂ (Records engine .complete) plans rows) {package : Package}
    {read : List Row} (same : read.Perm rows)
    (accepted : checkHistory engine package read = .ok false)
    (fresh : engine.packageDigest package ∉ rows.map Row.digest) :
    Lineage engine (plans.map Prepared.package ++ [package]) := by
  obtain ⟨expected, before⟩ := checkHistory_accepts accepted
  have distinct : ((plans.map Prepared.package ++ [package]).map engine.packageDigest).Nodup := by
    rw [rows_digests recorded] at fresh
    rw [List.map_append, List.nodup_append]
    refine ⟨lineage.distinct, List.nodup_singleton _, ?_⟩
    intro digest listed other isNew
    rw [List.map_singleton, List.mem_singleton] at isNew
    rintro rfl
    exact fresh (isNew ▸ listed)
  cases final : rows.getLast? with
  | none =>
    rw [List.getLast?_eq_none_iff] at final
    subst final
    cases recorded
    have empty : read = [] := same.eq_nil
    subst empty
    refine ⟨?_, List.isChain_singleton _, distinct⟩
    intro first head
    cases head
    refine ⟨?_, before⟩
    cases named : package.draft.predecessor with
    | none => exact Or.inl rfl
    | some name =>
      right
      simp only [expectedHeads, named, heads, List.filter_nil, List.map_nil, Option.toList_some]
        at expected
      have blank := List.filter_eq_nil_iff.mp expected.symm name (List.mem_singleton.mpr rfl)
      simpa using blank
  | some last =>
    obtain ⟨plan, ending, records⟩ := last_plan recorded final
    have listed : last ∈ rows := List.mem_of_getLast? final
    have digests : (rows.map Row.digest).Nodup := rows_digests recorded ▸ lineage.distinct
    have head : heads read = [last] :=
      List.perm_singleton.mp (heads_eq recorded lineage final ▸ heads_perm same)
    have named : package.draft.predecessor = some last.digest := by
      rw [head, List.map_singleton] at expected
      exact expectedHeads_eq expected.symm
    have prior : read.find? (fun row => some row.digest == package.draft.predecessor) =
        some last := by
      cases found : read.find? (fun row => some row.digest == package.draft.predecessor) with
      | none =>
        have missing := List.find?_eq_none.mp found last (same.mem_iff.mpr listed)
        simp [named] at missing
      | some prior =>
        have matching := List.find?_some found
        rw [named, beq_iff_eq] at matching
        have inside : prior ∈ rows := same.mem_iff.mp (List.mem_of_find?_eq_some found)
        rw [List.inj_on_of_nodup_map digests inside listed (Option.some.inj matching)]
    rw [prior] at before
    refine ⟨?_, ?_, distinct⟩
    · intro first begins
      refine lineage.founded first ?_
      cases plans with
      | nil => cases ending
      | cons earliest others => exact begins
    · rw [List.isChain_append]
      refine ⟨lineage.chained, List.isChain_singleton _, ?_⟩
      intro earlier isLast later isNew
      rw [List.getLast?_map, ending] at isLast
      cases isLast
      cases isNew
      exact ⟨by rw [named, records.digest], by rw [← before, records.state]⟩

end Rows

end Snekql.RecordedTarget
