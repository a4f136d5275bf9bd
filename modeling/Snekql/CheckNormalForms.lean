import Snekql.CheckNormalization

/-!
# Normal forms of checks

Normalization rebuilds a negated connective and normalizes the result again, so its recursion is
not structural. It returns at every depth from the weight of the expression on, and always the
same result. In a result negations stand only before columns, literals and ranges, and no
connective is a member of the same connective. Such an expression is its own normal form.
-/

namespace Snekql.Checks

open Snekql.Query (CompoundOperator)

/-! ## Depth -/

theorem bind_kept {α β : Type} {first second : Option α} {rest other : α → Option β} {result : β}
    (kept : ∀ value, first = some value → second = some value)
    (each : ∀ value result, rest value = some result → other value = some result)
    (computed : first >>= rest = some result) : second >>= other = some result := by
  obtain ⟨value, found, computed⟩ := Option.bind_eq_some_iff.mp computed
  rw [kept value found]
  exact each value result computed

theorem mapM_kept {α β : Type} {compute other : α → Option β} {inputs : List α} {results : List β}
    (kept : ∀ input result, compute input = some result → other input = some result)
    (computed : inputs.mapM compute = some results) : inputs.mapM other = some results := by
  induction inputs generalizing results with
  | nil => exact computed
  | cons first rest ih =>
    rw [List.mapM_cons] at computed ⊢
    exact bind_kept (kept first) (fun _ _ => bind_kept (fun _ => ih) (fun _ _ same => same)) computed

theorem normalizeFor_succ {depth : Nat} {expression result : CheckExpression}
    (normalized : normalizeFor depth expression = some result) :
    normalizeFor (depth + 1) expression = some result := by
  induction depth generalizing expression result with
  | zero => cases normalized
  | succ depth ih =>
    have each {before : List CheckExpression} (after : List CheckExpression) :
        before.mapM (normalizeFor depth) = some after →
          before.mapM (normalizeFor (depth + 1)) = some after := mapM_kept (fun _ _ => ih)
    cases expression with
    | column | literal => exact normalized
    | null negated operand => exact bind_kept (fun _ => ih) (fun _ _ => id) normalized
    | membership negated operand values =>
      exact bind_kept (fun _ => ih) (fun _ _ => bind_kept each (fun _ _ => id)) normalized
    | between operand low high =>
      exact bind_kept (fun _ => ih) (fun _ _ => bind_kept (fun _ => ih)
        (fun _ _ => bind_kept (fun _ => ih) (fun _ _ => id))) normalized
    | comparison operator left right =>
      exact bind_kept (fun _ => ih) (fun _ _ => bind_kept (fun _ => ih) (fun _ _ => id)) normalized
    | negation child =>
      refine bind_kept (fun _ => ih) (fun inner result pushed => ?_) normalized
      cases inner with
      | junction connective members => exact ih pushed
      | column | literal | null | membership | between | comparison | negation => exact pushed
    | junction connective members => exact bind_kept each (fun _ _ => id) normalized

/-- More depth than the weight changes nothing. -/
theorem normalizeFor_add (expression : CheckExpression) (further : Nat) :
    normalizeFor (expression.weight + further) expression = some (normalizeCheck expression) := by
  induction further with
  | zero => exact normalizeFor_weight expression
  | succ further ih => exact normalizeFor_succ ih

/-! ## Normal forms -/

/-- Nothing that a negation is moved into or cancelled with. -/
def CheckExpression.keepsNegation : CheckExpression → Bool
  | .column _ | .literal _ | .between _ _ _ => true
  | _ => false

inductive NormalForm : CheckExpression → Prop where
  | column (name : Splicing.Text) : NormalForm (.column name)
  | literal (value : Literal) : NormalForm (.literal value)
  | null {operand : CheckExpression} (negated : Bool) (inner : NormalForm operand) :
      NormalForm (.null negated operand)
  | membership {operand : CheckExpression} {values : List CheckExpression} (negated : Bool)
      (inner : NormalForm operand) (each : ∀ value ∈ values, NormalForm value) :
      NormalForm (.membership negated operand values)
  | between {operand low high : CheckExpression} (inner : NormalForm operand)
      (least : NormalForm low) (greatest : NormalForm high) :
      NormalForm (.between operand low high)
  | comparison {left right : CheckExpression} (operator : Query.ComparisonOperator)
      (first : NormalForm left) (second : NormalForm right) :
      NormalForm (.comparison operator left right)
  | negation {child : CheckExpression} (inner : NormalForm child)
      (kept : child.keepsNegation = true) : NormalForm (.negation child)
  | junction {connective : CompoundOperator} {members : List CheckExpression}
      (each : ∀ member ∈ members, NormalForm member)
      (flat : ∀ member ∈ members, absorbed connective member = [member]) :
      NormalForm (.junction connective members)

theorem NormalForm.negate {child : CheckExpression} (normal : NormalForm child)
    (noConnective : ∀ connective members, child ≠ .junction connective members) :
    NormalForm (Checks.negate child) := by
  cases normal with
  | column name => exact .negation (.column name) rfl
  | literal value => exact .negation (.literal value) rfl
  | null negated inner => exact .null (!negated) inner
  | membership negated inner each => exact .membership (!negated) inner each
  | between inner least greatest => exact .negation (.between inner least greatest) rfl
  | comparison operator first second => exact .comparison _ first second
  | negation inner kept => exact inner
  | junction each flat => exact absurd rfl (noConnective _ _)

theorem absorbed_cases (connective : CompoundOperator) (child : CheckExpression) :
    absorbed connective child = [child] ∨
      ∃ members, child = .junction connective members ∧ absorbed connective child = members := by
  cases child with
  | junction inner members =>
    by_cases same : inner = connective
    · subst same
      exact .inr ⟨members, rfl, if_pos rfl⟩
    · exact .inl (if_neg same)
  | column | literal | null | membership | between | comparison | negation => exact .inl rfl

/-- A member that a connective takes over is normal, and is taken over as it is. -/
theorem NormalForm.absorbed {connective : CompoundOperator} {child member : CheckExpression}
    (normal : NormalForm child) (listed : member ∈ Checks.absorbed connective child) :
    NormalForm member ∧ Checks.absorbed connective member = [member] := by
  obtain single | ⟨members, rfl, taken⟩ := absorbed_cases connective child
  · rw [single] at listed
    obtain rfl := List.mem_singleton.mp listed
    exact ⟨normal, single⟩
  · rw [taken] at listed
    cases normal with
    | junction each flat => exact ⟨each member listed, flat member listed⟩

/-- Every result is a normal form. -/
theorem normalForm_of_normalizeFor {depth : Nat} {expression result : CheckExpression}
    (normalized : normalizeFor depth expression = some result) : NormalForm result := by
  induction depth generalizing expression result with
  | zero => cases normalized
  | succ depth ih =>
    have each {before after : List CheckExpression}
        (computed : before.mapM (normalizeFor depth) = some after) :
        ∀ member ∈ after, NormalForm member :=
      forall_mem_right (forall₂_of_mapM computed) (fun _ _ => ih)
    cases expression with
    | column name =>
      cases normalized
      exact .column name
    | literal value =>
      cases normalized
      exact .literal value
    | null negated operand =>
      obtain ⟨_, operandNormalized, ⟨⟩⟩ := Option.bind_eq_some_iff.mp normalized
      exact .null negated (ih operandNormalized)
    | membership negated operand values =>
      obtain ⟨_, operandNormalized, normalized⟩ := Option.bind_eq_some_iff.mp normalized
      obtain ⟨_, valuesNormalized, ⟨⟩⟩ := Option.bind_eq_some_iff.mp normalized
      exact .membership negated (ih operandNormalized) (each valuesNormalized)
    | between operand low high =>
      obtain ⟨_, operandNormalized, normalized⟩ := Option.bind_eq_some_iff.mp normalized
      obtain ⟨_, lowNormalized, normalized⟩ := Option.bind_eq_some_iff.mp normalized
      obtain ⟨_, highNormalized, ⟨⟩⟩ := Option.bind_eq_some_iff.mp normalized
      exact .between (ih operandNormalized) (ih lowNormalized) (ih highNormalized)
    | comparison operator left right =>
      obtain ⟨_, leftNormalized, normalized⟩ := Option.bind_eq_some_iff.mp normalized
      obtain ⟨_, rightNormalized, ⟨⟩⟩ := Option.bind_eq_some_iff.mp normalized
      exact .comparison operator (ih leftNormalized) (ih rightNormalized)
    | negation child =>
      obtain ⟨inner, childNormalized, normalized⟩ := Option.bind_eq_some_iff.mp normalized
      have childNormal := ih childNormalized
      cases inner with
      | junction connective members => exact ih normalized
      | column | literal | null | membership | between | comparison | negation =>
        cases normalized
        exact childNormal.negate (by simp)
    | junction connective members =>
      obtain ⟨results, membersNormalized, ⟨⟩⟩ := Option.bind_eq_some_iff.mp normalized
      have taken : ∀ member ∈ results.flatMap (absorbed connective),
          NormalForm member ∧ absorbed connective member = [member] := by
        intro member listed
        obtain ⟨child, childListed, listed⟩ := List.mem_flatMap.mp listed
        exact (each membersNormalized child childListed).absorbed listed
      exact .junction (fun member listed => (taken member listed).1)
        (fun member listed => (taken member listed).2)

theorem mapM_fixed {compute : CheckExpression → Option CheckExpression}
    {members : List CheckExpression} (fixed : ∀ member ∈ members, compute member = some member) :
    members.mapM compute = some members := by
  induction members with
  | nil => rfl
  | cons first rest ih =>
    rw [List.forall_mem_cons] at fixed
    rw [List.mapM_cons, fixed.1, ih fixed.2]
    rfl

/-- A normal form is returned unchanged. -/
theorem NormalForm.fixed {expression : CheckExpression} (normal : NormalForm expression)
    {depth : Nat} (deep : expression.weight ≤ depth) :
    normalizeFor depth expression = some expression := by
  induction normal generalizing depth with
  | column | literal =>
    rw [CheckExpression.weight] at deep
    obtain ⟨depth, rfl⟩ := Nat.exists_eq_add_of_le' deep
    rfl
  | null negated inner ih =>
    rw [CheckExpression.weight] at deep
    obtain ⟨depth, rfl⟩ := Nat.exists_eq_add_of_le' (Nat.le_of_add_left_le deep)
    rw [normalizeFor, ih (by omega)]
    rfl
  | membership negated inner each ih values =>
    rw [CheckExpression.weight] at deep
    obtain ⟨depth, rfl⟩ := Nat.exists_eq_add_of_le' (Nat.le_of_add_left_le deep)
    rw [normalizeFor, ih (by omega), mapM_fixed]
    · rfl
    · intro value listed
      have lighter := weight_le_weights listed
      exact values value listed (by omega)
  | between inner least greatest ih low high =>
    rw [CheckExpression.weight] at deep
    obtain ⟨depth, rfl⟩ := Nat.exists_eq_add_of_le' (Nat.le_of_add_left_le deep)
    rw [normalizeFor, ih (by omega), low (by omega), high (by omega)]
    rfl
  | comparison operator first second left right =>
    rw [CheckExpression.weight] at deep
    obtain ⟨depth, rfl⟩ := Nat.exists_eq_add_of_le' (Nat.le_of_add_left_le deep)
    rw [normalizeFor, left (by omega), right (by omega)]
    rfl
  | @negation child inner kept ih =>
    have positive := child.weight_pos
    rw [CheckExpression.weight] at deep
    obtain ⟨depth, rfl⟩ := Nat.exists_eq_add_of_le' (show 1 ≤ depth by omega)
    rw [normalizeFor, ih (by omega)]
    cases child with
    | column | literal | between => rfl
    | null | membership | comparison | negation | junction => cases kept
  | @junction connective members each flat ih =>
    rw [CheckExpression.weight] at deep
    obtain ⟨depth, rfl⟩ := Nat.exists_eq_add_of_le' (Nat.le_of_add_left_le deep)
    have same : members.flatMap (Checks.absorbed connective) = members := by
      rw [List.flatMap_congr flat, List.flatMap_singleton']
    rw [normalizeFor, mapM_fixed]
    · exact congrArg (fun taken => some (CheckExpression.junction connective taken)) same
    · intro member listed
      have lighter := weight_le_weights listed
      exact ih member listed (by omega)

/-- Normalization returns for every expression, at every depth that its weight allows, and leaves
what it returned unchanged. -/
theorem normalization_settles (expression : CheckExpression) :
    (∀ further, normalizeFor (expression.weight + further) expression =
      some (normalizeCheck expression)) ∧
    normalizeCheck (normalizeCheck expression) = normalizeCheck expression := by
  refine ⟨normalizeFor_add expression, ?_⟩
  have normal := normalForm_of_normalizeFor (normalizeFor_weight expression)
  rw [normalizeCheck, normal.fixed (Nat.le_refl _), Option.getD_some]

/-- Normalization gives a normal form that weighs no more. It is true on the same rows if the
compared operands are kept. -/
theorem normal_forms_keep_the_truth (expression : CheckExpression) :
    NormalForm (normalizeCheck expression) ∧
    (normalizeCheck expression).weight ≤ expression.weight ∧
    (expression.KeepsOperands →
      ∀ (Cell : Type) (semantics : Semantics Cell) (row : Splicing.Text → Cell),
        (normalizeCheck expression).truth semantics row = expression.truth semantics row) := by
  have found := normalizeFor_weight expression
  exact ⟨normalForm_of_normalizeFor found, weight_le_of_normalizeFor found,
    fun kept => (normalized_of_normalizeFor found kept).truth⟩

theorem negated_test_keeps_the_truth :
    normalizeCheck (.negation (.null false (.column []))) = .null true (.column []) ∧
      ∀ (Cell : Type) (semantics : Semantics Cell) (row : Splicing.Text → Cell),
        (normalizeCheck (.negation (.null false (.column [])))).truth semantics row =
          CheckExpression.truth semantics row (.negation (.null false (.column []))) :=
  ⟨rfl, (normal_forms_keep_the_truth _).2.2 trivial⟩

end Snekql.Checks
