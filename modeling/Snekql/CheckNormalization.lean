import Snekql.CheckCatalog
import Snekql.Truth

/-!
# What normalization keeps

Two check expressions with one normal form should be true on the same rows. A row gives each
column a value, and every value but `NULL` counts as true or false. Comparisons may depend on
the columns that they compare, since these bring a collation and an affinity.

Normalization drops a pair of negations. Under a connective only the truth of what remains
matters, and it is kept. As the operand of a comparison, of `IN` or of `BETWEEN`, a column or
literal below a pair of negations is a truth value before the pair is dropped, and its own
value after that: there the meaning changes.
-/

namespace Snekql.Checks

open Snekql.Splicing
open Snekql.Query (ComparisonOperator CompoundOperator Predicate)

/-! ## Meaning -/

/-- The values of a backend. Only `NULL` is neither true nor false. -/
structure Semantics (Value : Type) where
  literal : Literal → Value
  truth : Value → Truth
  ofTruth : Truth → Value
  truth_ofTruth : ∀ answer, truth (ofTruth answer) = answer
  /-- The order of two values, given the columns they come from; nothing if one is `NULL`. -/
  compare : Option Text → Option Text → Value → Value → Option Ordering
  /-- The equality of `IN`, given the column on its left. -/
  same : Option Text → Value → Value → Truth

/-- A comparison holds for an order of its sides. -/
def holdsFor : ComparisonOperator → Ordering → Bool
  | .eq, order => order == .eq
  | .ne, order => order != .eq
  | .gt, order => order == .gt
  | .gte, order => order != .lt
  | .lt, order => order == .lt
  | .lte, order => order != .gt

/-- The column that an operand is. -/
def CheckExpression.source : CheckExpression → Option Text
  | .column name => some name
  | _ => none

def negateIf (negated : Bool) (answer : Truth) : Truth := if negated then answer.not else answer

def connect : CompoundOperator → Truth → Truth → Truth
  | .and => Truth.and
  | .or => Truth.or

/-- The truth of a connective without members. -/
def neutral : CompoundOperator → Truth
  | .and => some true
  | .or => some false

section Meaning

variable {Value : Type} (semantics : Semantics Value) (row : Text → Value)

/-- The truth of a comparison of two evaluated operands. -/
def compared (operator : ComparisonOperator) (left right : CheckExpression)
    (first second : Value) : Truth :=
  (semantics.compare left.source right.source first second).map (holdsFor operator)

mutual

/-- The value of an expression on a row. -/
def CheckExpression.value : CheckExpression → Value
  | .column name => row name
  | .literal value => semantics.literal value
  | .null negated operand =>
    semantics.ofTruth (some ((semantics.truth operand.value).isNone != negated))
  | .membership negated operand values =>
    semantics.ofTruth (negateIf negated (foundIn operand.source operand.value values))
  | .between operand low high =>
    semantics.ofTruth
      ((compared semantics .gte operand low operand.value low.value).and
        (compared semantics .lte operand high operand.value high.value))
  | .comparison operator left right =>
    semantics.ofTruth (compared semantics operator left right left.value right.value)
  | .negation child => semantics.ofTruth (semantics.truth child.value).not
  | .junction connective members => semantics.ofTruth (connected connective members)

/-- The truth of `IN` for an evaluated operand. -/
def foundIn (source : Option Text) (operand : Value) : List CheckExpression → Truth
  | [] => some false
  | first :: rest => (semantics.same source operand first.value).or (foundIn source operand rest)

/-- The truth of a connective. -/
def connected (connective : CompoundOperator) : List CheckExpression → Truth
  | [] => neutral connective
  | first :: rest =>
    connect connective (semantics.truth first.value) (connected connective rest)

end

/-- The truth of a check on a row. -/
def CheckExpression.truth (expression : CheckExpression) : Truth :=
  semantics.truth (expression.value semantics row)

end Meaning

/-! ## Where a pair of negations is kept -/

/-- A column or a literal. -/
def CheckExpression.isLeaf : CheckExpression → Bool
  | .column _ => true
  | .literal _ => true
  | _ => false

mutual

/-- An odd number of negations of a column or literal. -/
def CheckExpression.oddlyNegated : CheckExpression → Bool
  | .negation inner => inner.isLeaf || inner.doublyNegated
  | _ => false

/-- An even number of negations, two or more, of a column or literal. -/
def CheckExpression.doublyNegated : CheckExpression → Bool
  | .negation inner => inner.oddlyNegated
  | _ => false

end

mutual

/-- No operand that is compared is a doubly negated column or literal. -/
def CheckExpression.KeepsOperands : CheckExpression → Prop
  | .column _ => True
  | .literal _ => True
  | .null _ operand => operand.KeepsOperands
  | .membership _ operand values =>
    (operand.doublyNegated = false ∧ operand.KeepsOperands) ∧ allOperandsKept values
  | .between operand low high =>
    (operand.doublyNegated = false ∧ operand.KeepsOperands) ∧
    (low.doublyNegated = false ∧ low.KeepsOperands) ∧
    (high.doublyNegated = false ∧ high.KeepsOperands)
  | .comparison _ left right =>
    (left.doublyNegated = false ∧ left.KeepsOperands) ∧
    (right.doublyNegated = false ∧ right.KeepsOperands)
  | .negation child => child.KeepsOperands
  | .junction _ members => allKept members

def allOperandsKept : List CheckExpression → Prop
  | [] => True
  | first :: rest =>
    (first.doublyNegated = false ∧ first.KeepsOperands) ∧ allOperandsKept rest

def allKept : List CheckExpression → Prop
  | [] => True
  | first :: rest => first.KeepsOperands ∧ allKept rest

end

-- Realized here, the equations are shared by the proofs below.
attribute [grind =] CheckExpression.weight weights CheckExpression.value foundIn connected
  CheckExpression.KeepsOperands allOperandsKept allKept

theorem allKept_iff {members : List CheckExpression} :
    allKept members ↔ ∀ member ∈ members, member.KeepsOperands := by
  induction members with
  | nil => simp [allKept]
  | cons first rest ih =>
    rw [allKept, ih, List.forall_mem_cons]

theorem allOperandsKept_iff {values : List CheckExpression} :
    allOperandsKept values ↔
      ∀ value ∈ values, value.doublyNegated = false ∧ value.KeepsOperands := by
  induction values with
  | nil => simp [allOperandsKept]
  | cons first rest ih =>
    rw [allOperandsKept, ih, List.forall_mem_cons]

/-! ## Lists of fallible results -/

theorem forall₂_of_mapM {α β : Type} {compute : α → Option β} {inputs : List α}
    {results : List β} (computed : inputs.mapM compute = some results) :
    List.Forall₂ (fun input result => compute input = some result) inputs results := by
  induction inputs generalizing results with
  | nil =>
    cases computed
    exact .nil
  | cons first rest ih =>
    rw [List.mapM_cons] at computed
    obtain ⟨head, headComputed, computed⟩ := Option.bind_eq_some_iff.mp computed
    obtain ⟨tail, tailComputed, ⟨⟩⟩ := Option.bind_eq_some_iff.mp computed
    exact .cons headComputed (ih tailComputed)

theorem exists_mapM {α β : Type} {compute : α → Option β} {inputs : List α}
    (each : ∀ input ∈ inputs, ∃ result, compute input = some result) :
    ∃ results, inputs.mapM compute = some results := by
  induction inputs with
  | nil => exact ⟨[], rfl⟩
  | cons first rest ih =>
    obtain ⟨head, headComputed⟩ := each first List.mem_cons_self
    obtain ⟨tail, tailComputed⟩ := ih
      (fun input member => each input (List.mem_cons_of_mem _ member))
    exact ⟨head :: tail, by simp [List.mapM_cons, headComputed, tailComputed]⟩

/-! ## The depth suffices -/

theorem CheckExpression.weight_pos (expression : CheckExpression) : 1 ≤ expression.weight := by
  cases expression with
  | negation child =>
    have childPositive := child.weight_pos
    rw [weight]
    omega
  | column | literal | null | membership | between | comparison | junction =>
    simp only [weight]
    omega

theorem weights_append (first second : List CheckExpression) :
    weights (first ++ second) = weights first + weights second := by
  induction first with
  | nil => simp [weights]
  | cons head tail ih =>
    simp only [List.cons_append, weights, ih]
    omega

theorem weight_le_weights {member : CheckExpression} {members : List CheckExpression}
    (listed : member ∈ members) : member.weight ≤ weights members := by
  induction members with
  | nil => cases listed
  | cons first rest ih =>
    rw [weights]
    obtain rfl | listed := List.mem_cons.mp listed
    · omega
    · have := ih listed
      omega

theorem weights_map_negation (members : List CheckExpression) :
    weights (members.map .negation) = 2 * weights members := by
  induction members with
  | nil => rfl
  | cons first rest ih =>
    simp only [List.map_cons, weights, CheckExpression.weight, ih]
    omega

theorem weights_absorbed_le (connective : CompoundOperator) (child : CheckExpression) :
    weights (absorbed connective child) ≤ child.weight := by
  unfold absorbed
  split
  · split <;> simp [weights, CheckExpression.weight]
  · simp [weights]

theorem weights_flatMap_absorbed_le (connective : CompoundOperator)
    (members : List CheckExpression) :
    weights (members.flatMap (absorbed connective)) ≤ weights members := by
  induction members with
  | nil => simp
  | cons first rest ih =>
    have firstShorter := weights_absorbed_le connective first
    simp only [List.flatMap_cons, weights_append, weights]
    omega

theorem weight_negate_le (child : CheckExpression) : (negate child).weight ≤ 2 * child.weight := by
  unfold negate
  split <;> simp only [CheckExpression.weight] <;> omega

theorem weights_le_of_forall₂ {before after : List CheckExpression}
    (lighter : List.Forall₂ (fun one other => other.weight ≤ one.weight) before after) :
    weights after ≤ weights before := by
  induction lighter with
  | nil => exact Nat.le_refl _
  | cons headLighter _ ih =>
    simp only [weights]
    omega

variable {expression : CheckExpression} {depth : Nat}

/-- Normalization does not add weight. -/
theorem weight_le_of_normalizeFor {result : CheckExpression}
    (normalized : normalizeFor depth expression = some result) :
    result.weight ≤ expression.weight := by
  induction depth generalizing expression result with
  | zero => cases normalized
  | succ depth ih =>
    have each {before after : List CheckExpression}
        (computed : before.mapM (normalizeFor depth) = some after) :
        weights after ≤ weights before :=
      weights_le_of_forall₂ ((forall₂_of_mapM computed).imp
        (fun _ _ memberNormalized => ih memberNormalized))
    cases expression with
    | column | literal =>
      cases normalized
      exact Nat.le_refl _
    | null negated operand =>
      obtain ⟨_, operandNormalized, ⟨⟩⟩ := Option.bind_eq_some_iff.mp normalized
      have := ih operandNormalized
      simp only [CheckExpression.weight]
      omega
    | membership negated operand values =>
      obtain ⟨_, operandNormalized, normalized⟩ := Option.bind_eq_some_iff.mp normalized
      obtain ⟨_, valuesNormalized, ⟨⟩⟩ := Option.bind_eq_some_iff.mp normalized
      have := ih operandNormalized
      have := each valuesNormalized
      simp only [CheckExpression.weight]
      omega
    | between operand low high =>
      obtain ⟨_, operandNormalized, normalized⟩ := Option.bind_eq_some_iff.mp normalized
      obtain ⟨_, lowNormalized, normalized⟩ := Option.bind_eq_some_iff.mp normalized
      obtain ⟨_, highNormalized, ⟨⟩⟩ := Option.bind_eq_some_iff.mp normalized
      have := ih operandNormalized
      have := ih lowNormalized
      have := ih highNormalized
      simp only [CheckExpression.weight]
      omega
    | comparison operator left right =>
      obtain ⟨_, leftNormalized, normalized⟩ := Option.bind_eq_some_iff.mp normalized
      obtain ⟨_, rightNormalized, ⟨⟩⟩ := Option.bind_eq_some_iff.mp normalized
      have := ih leftNormalized
      have := ih rightNormalized
      simp only [CheckExpression.weight]
      omega
    | negation child =>
      obtain ⟨inner, childNormalized, normalized⟩ := Option.bind_eq_some_iff.mp normalized
      have childLighter := ih childNormalized
      simp only [CheckExpression.weight]
      cases inner with
      | junction connective members =>
        have pushed := ih normalized
        simp only [CheckExpression.weight, weights_map_negation] at pushed childLighter
        omega
      | column | literal | null | membership | between | comparison | negation =>
        cases normalized
        exact (weight_negate_le _).trans (by omega)
    | junction connective members =>
      obtain ⟨inner, membersNormalized, ⟨⟩⟩ := Option.bind_eq_some_iff.mp normalized
      have := each membersNormalized
      have := weights_flatMap_absorbed_le connective inner
      simp only [CheckExpression.weight]
      omega

/-- An expression whose weight is within the depth has a normal form. -/
theorem exists_normalizeFor (deep : expression.weight ≤ depth) :
    ∃ result, normalizeFor depth expression = some result := by
  induction depth generalizing expression with
  | zero =>
    have := expression.weight_pos
    omega
  | succ depth ih =>
    have part (part : CheckExpression) (light : part.weight ≤ depth) :
        ∃ result, normalizeFor depth part = some result := ih light
    have each (members : List CheckExpression) (light : weights members ≤ depth) :
        ∃ results, members.mapM (normalizeFor depth) = some results :=
      exists_mapM (fun member listed =>
        ih ((weight_le_weights listed).trans light))
    cases expression with
    | column | literal => exact ⟨_, rfl⟩
    | null negated operand =>
      rw [CheckExpression.weight] at deep
      obtain ⟨_, operandNormalized⟩ := part operand (by omega)
      exact ⟨_, by simp only [normalizeFor, operandNormalized]; rfl⟩
    | membership negated operand values =>
      rw [CheckExpression.weight] at deep
      obtain ⟨_, operandNormalized⟩ := part operand (by omega)
      obtain ⟨_, valuesNormalized⟩ := each values (by omega)
      exact ⟨_, by simp only [normalizeFor, operandNormalized, valuesNormalized]; rfl⟩
    | between operand low high =>
      rw [CheckExpression.weight] at deep
      obtain ⟨_, operandNormalized⟩ := part operand (by omega)
      obtain ⟨_, lowNormalized⟩ := part low (by omega)
      obtain ⟨_, highNormalized⟩ := part high (by omega)
      exact ⟨_, by
        simp only [normalizeFor, operandNormalized, lowNormalized, highNormalized]; rfl⟩
    | comparison operator left right =>
      rw [CheckExpression.weight] at deep
      obtain ⟨_, leftNormalized⟩ := part left (by omega)
      obtain ⟨_, rightNormalized⟩ := part right (by omega)
      exact ⟨_, by simp only [normalizeFor, leftNormalized, rightNormalized]; rfl⟩
    | negation child =>
      rw [CheckExpression.weight] at deep
      have positive := child.weight_pos
      obtain ⟨inner, childNormalized⟩ := part child (by omega)
      have lighter := weight_le_of_normalizeFor childNormalized
      cases inner with
      | junction connective members =>
        obtain ⟨result, pushed⟩ := part
          (.junction (dual connective) (members.map .negation)) (by
            simp only [CheckExpression.weight, weights_map_negation] at lighter ⊢
            omega)
        exact ⟨result, by simp only [normalizeFor, childNormalized]; exact pushed⟩
      | column | literal | null | membership | between | comparison | negation =>
        exact ⟨_, by simp only [normalizeFor, childNormalized]; rfl⟩
    | junction connective members =>
      rw [CheckExpression.weight] at deep
      obtain ⟨_, membersNormalized⟩ := each members (by omega)
      exact ⟨_, by simp only [normalizeFor, membersNormalized]; rfl⟩

/-- `normalizeCheck` always finds the normal form. -/
theorem normalizeFor_weight (expression : CheckExpression) :
    normalizeFor expression.weight expression = some (normalizeCheck expression) := by
  obtain ⟨result, normalized⟩ := exists_normalizeFor (Nat.le_refl expression.weight)
  rw [normalizeCheck, normalized, Option.getD_some]

/-! ## Truth under the rewrites -/

section Truth

variable {Value : Type} (semantics : Semantics Value) (row : Text → Value)

/-- What is no column or literal is a truth value. -/
theorem value_eq_ofTruth (noLeaf : expression.isLeaf = false) :
    expression.value semantics row = semantics.ofTruth (expression.truth semantics row) := by
  cases expression with
  | column | literal => cases noLeaf
  | null | membership | between | comparison | negation | junction =>
    simp only [CheckExpression.truth, CheckExpression.value, semantics.truth_ofTruth]

theorem source_eq_none (noLeaf : expression.isLeaf = false) : expression.source = none := by
  cases expression with
  | column => cases noLeaf
  | literal | null | membership | between | comparison | negation | junction => rfl

theorem truth_negation (child : CheckExpression) :
    (CheckExpression.negation child).truth semantics row = (child.truth semantics row).not := by
  simp only [CheckExpression.truth, CheckExpression.value, semantics.truth_ofTruth]

theorem truth_junction (connective : CompoundOperator) (members : List CheckExpression) :
    (CheckExpression.junction connective members).truth semantics row =
      connected semantics row connective members := by
  simp only [CheckExpression.truth, CheckExpression.value, semantics.truth_ofTruth]

theorem holdsFor_complement (operator : ComparisonOperator) (order : Ordering) :
    holdsFor (complementOperator operator) order = ! holdsFor operator order := by
  cases operator <;> cases order <;> rfl

theorem negateIf_not (negated : Bool) (answer : Truth) :
    negateIf (!negated) answer = (negateIf negated answer).not := by
  cases negated <;> simp [negateIf]

/-- A negation that is merged with its child keeps its truth. -/
theorem truth_negate (child : CheckExpression) :
    (negate child).truth semantics row = (child.truth semantics row).not := by
  cases child with
  | comparison operator left right =>
    simp only [negate, CheckExpression.truth, CheckExpression.value, semantics.truth_ofTruth,
      compared, Truth.not, Option.map_map]
    congr 1
    funext order
    exact holdsFor_complement operator order
  | null negated operand =>
    simp only [negate, CheckExpression.truth, CheckExpression.value, semantics.truth_ofTruth,
      Truth.not_some]
    cases negated <;> simp
  | membership negated operand values =>
    simp only [negate, CheckExpression.truth, CheckExpression.value, semantics.truth_ofTruth,
      negateIf_not]
  | negation inner => rw [negate, truth_negation, Truth.not_not]
  | column | literal | between | junction => exact truth_negation semantics row _

theorem connect_assoc (connective : CompoundOperator) (first second third : Truth) :
    connect connective (connect connective first second) third =
      connect connective first (connect connective second third) := by
  cases connective with
  | and => exact Truth.and_assoc first second third
  | or => exact Truth.or_assoc first second third

theorem neutral_connect (connective : CompoundOperator) (answer : Truth) :
    connect connective (neutral connective) answer = answer := by
  cases connective <;> revert answer <;> decide

theorem connect_dual_not (connective : CompoundOperator) (first second : Truth) :
    connect (dual connective) first.not second.not = (connect connective first second).not := by
  cases connective with
  | and => exact (Truth.not_and first second).symm
  | or => exact (Truth.not_or first second).symm

theorem connected_append (connective : CompoundOperator) (first second : List CheckExpression) :
    connected semantics row connective (first ++ second) =
      connect connective (connected semantics row connective first)
        (connected semantics row connective second) := by
  induction first with
  | nil => rw [List.nil_append, connected, neutral_connect]
  | cons head tail ih =>
    rw [List.cons_append, connected, connected, ih, connect_assoc]

theorem connected_absorbed (connective : CompoundOperator) (child : CheckExpression) :
    connected semantics row connective (absorbed connective child) =
      connect connective (child.truth semantics row) (neutral connective) := by
  have single (member : CheckExpression) :
      connected semantics row connective [member] =
        connect connective (member.truth semantics row) (neutral connective) := rfl
  unfold absorbed
  split
  · rename_i inner members
    split
    · rename_i same
      obtain rfl := same
      rw [truth_junction]
      generalize connected semantics row inner members = answer
      cases inner <;> revert answer <;> decide
    · exact single _
  · exact single _

/-- The members of a nested connective of the same kind may stand in its place. -/
theorem connected_flatMap_absorbed (connective : CompoundOperator)
    (members : List CheckExpression) :
    connected semantics row connective (members.flatMap (absorbed connective)) =
      connected semantics row connective members := by
  induction members with
  | nil => rfl
  | cons first rest ih =>
    rw [List.flatMap_cons, connected_append, connected_absorbed, connect_assoc,
      neutral_connect, ih, connected, CheckExpression.truth]

/-- A negation is pushed through a connective. -/
theorem connected_map_negation (connective : CompoundOperator) (members : List CheckExpression) :
    connected semantics row (dual connective) (members.map .negation) =
      (connected semantics row connective members).not := by
  induction members with
  | nil => cases connective <;> rfl
  | cons first rest ih =>
    have firstNegated := truth_negation semantics row first
    unfold CheckExpression.truth at firstNegated
    rw [List.map_cons, connected, connected, ih, firstNegated, connect_dual_not]

theorem connected_congr {connective : CompoundOperator} {before after : List CheckExpression}
    (same : List.Forall₂ (fun one other => other.truth semantics row = one.truth semantics row)
      before after) :
    connected semantics row connective after = connected semantics row connective before := by
  induction same with
  | nil => rfl
  | cons headSame _ ih =>
    unfold CheckExpression.truth at headSame
    rw [connected, connected, headSame, ih]

theorem foundIn_congr {source : Option Text} {operand : Value}
    {before after : List CheckExpression}
    (same : List.Forall₂ (fun one other => other.value semantics row = one.value semantics row)
      before after) :
    foundIn semantics row source operand after = foundIn semantics row source operand before := by
  induction same with
  | nil => rfl
  | cons headSame _ ih => rw [foundIn, foundIn, headSame, ih]

end Truth

/-! ## Soundness -/

/-- What is known about an expression and its normal form. -/
structure Normalized (expression result : CheckExpression) : Prop where
  kept : result.KeepsOperands
  /-- A normal form has no pair of negations on top. -/
  single : ∀ inner deeper, result = .negation inner → inner ≠ .negation deeper
  ofLeaf : expression.isLeaf = true → result = expression
  leaf : result.isLeaf = true → expression = result ∨ expression.doublyNegated = true
  negatedLeaf : ∀ inner, result = .negation inner → inner.isLeaf = true →
    expression.oddlyNegated = true
  truth : ∀ (Value : Type) (semantics : Semantics Value) (row : Text → Value),
    result.truth semantics row = expression.truth semantics row

namespace Normalized

variable {expression result : CheckExpression}

theorem doublyNegated_eq_false (normalized : Normalized expression result) :
    result.doublyNegated = false := by
  cases result with
  | negation inner =>
    cases inner with
    | negation deeper => exact absurd rfl (normalized.single _ deeper rfl)
    | column | literal | null | membership | between | comparison | junction => rfl
  | column | literal | null | membership | between | comparison | junction => rfl

/-- An operand that is not doubly negated stays as it is, or is a truth value before and
after. -/
theorem same_or_truth (normalized : Normalized expression result)
    (kept : expression.doublyNegated = false) :
    result = expression ∨ result.isLeaf = false ∧ expression.isLeaf = false := by
  cases isLeaf : result.isLeaf with
  | true =>
    obtain rfl | doubly := normalized.leaf isLeaf
    · exact .inl rfl
    · rw [kept] at doubly
      cases doubly
  | false =>
    cases wasLeaf : expression.isLeaf with
    | true => exact .inl (normalized.ofLeaf wasLeaf)
    | false => exact .inr ⟨rfl, rfl⟩

theorem source (normalized : Normalized expression result)
    (kept : expression.doublyNegated = false) : result.source = expression.source := by
  obtain rfl | ⟨isTruth, wasTruth⟩ := normalized.same_or_truth kept
  · rfl
  · rw [source_eq_none isTruth, source_eq_none wasTruth]

theorem value (normalized : Normalized expression result)
    (kept : expression.doublyNegated = false) {Value : Type} (semantics : Semantics Value)
    (row : Text → Value) : result.value semantics row = expression.value semantics row := by
  obtain rfl | ⟨isTruth, wasTruth⟩ := normalized.same_or_truth kept
  · rfl
  · rw [value_eq_ofTruth semantics row isTruth, value_eq_ofTruth semantics row wasTruth,
      normalized.truth]

/-- A comparison of normalized operands. -/
theorem compared {operator : ComparisonOperator} {left right left' right' : CheckExpression}
    (leftNormalized : Normalized left left') (rightNormalized : Normalized right right')
    (leftKept : left.doublyNegated = false) (rightKept : right.doublyNegated = false)
    {Value : Type} (semantics : Semantics Value) (row : Text → Value) :
    Checks.compared semantics operator left' right' (left'.value semantics row)
        (right'.value semantics row) =
      Checks.compared semantics operator left right (left.value semantics row)
        (right.value semantics row) := by
  simp only [Checks.compared, leftNormalized.source leftKept, rightNormalized.source rightKept,
    leftNormalized.value leftKept, rightNormalized.value rightKept]

/-- A node that is neither a leaf nor a negation, before and after. -/
theorem ofNode (kept : result.KeepsOperands)
    (isNode : result.isLeaf = false ∧ ∀ inner, result ≠ .negation inner)
    (wasTruth : expression.isLeaf = false)
    (truth : ∀ (Value : Type) (semantics : Semantics Value) (row : Text → Value),
      result.truth semantics row = expression.truth semantics row) :
    Normalized expression result where
  kept := kept
  single := fun inner _ negated => absurd negated (isNode.2 inner)
  ofLeaf := fun wasLeaf => absurd wasLeaf (by rw [wasTruth]; exact Bool.false_ne_true)
  leaf := fun isLeaf => absurd isLeaf (by rw [isNode.1]; exact Bool.false_ne_true)
  negatedLeaf := fun inner negated => absurd negated (isNode.2 inner)
  truth := truth

theorem ofLeaves {leaf : CheckExpression} (isLeaf : leaf.isLeaf = true) : Normalized leaf leaf := by
  constructor
  · cases leaf <;> first | trivial | cases isLeaf
  · rintro inner _ rfl
    cases isLeaf
  · exact fun _ => rfl
  · exact fun _ => .inl rfl
  · rintro inner rfl
    cases isLeaf
  · exact fun _ _ _ => rfl

/-- A negation of a normal form that is no connective. -/
theorem negated {child : CheckExpression} (normalized : Normalized child result)
    (noJunction : ∀ connective members, result ≠ .junction connective members) :
    Normalized (.negation child) (negate result) := by
  have truth (Value : Type) (semantics : Semantics Value) (row : Text → Value) :
      (negate result).truth semantics row =
        (CheckExpression.negation child).truth semantics row := by
    rw [truth_negate, truth_negation, normalized.truth]
  cases result with
  | comparison | null | membership =>
    exact ofNode normalized.kept ⟨rfl, nofun⟩ rfl truth
  | junction connective members => exact absurd rfl (noJunction connective members)
  | negation inner =>
    -- The pair is dropped; what remains is a leaf only if the expression is doubly negated.
    constructor
    · exact normalized.kept
    · rintro deeper deepest rfl
      exact absurd rfl (normalized.single _ deeper rfl)
    · nofun
    · exact fun isLeaf => .inr (normalized.negatedLeaf inner rfl isLeaf)
    · rintro deeper rfl
      exact absurd rfl (normalized.single _ deeper rfl)
    · exact truth
  | column | literal | between =>
    constructor
    · exact normalized.kept
    · rintro inner deeper ⟨⟩
      exact nofun
    · nofun
    · nofun
    · rintro inner ⟨⟩ isLeaf
      obtain rfl | doubly := normalized.leaf isLeaf
      · rw [CheckExpression.oddlyNegated, isLeaf, Bool.true_or]
      · rw [CheckExpression.oddlyNegated, doubly, Bool.or_true]
    · exact truth

end Normalized

/-- The members that are taken from a nested connective keep their operands. -/
theorem allKept_flatMap_absorbed {connective : CompoundOperator}
    {members : List CheckExpression} (kept : allKept members) :
    allKept (members.flatMap (absorbed connective)) := by
  rw [allKept_iff] at kept ⊢
  intro member listed
  obtain ⟨child, childListed, member⟩ := List.mem_flatMap.mp listed
  have childKept := kept child childListed
  unfold absorbed at member
  split at member
  · split at member
    · exact allKept_iff.mp childKept _ member
    · rw [List.mem_singleton.mp member]
      exact childKept
  · rw [List.mem_singleton.mp member]
    exact childKept

theorem forall_mem_right {α β : Type} {related : α → β → Prop} {holds : β → Prop}
    {before : List α} {after : List β} (each : List.Forall₂ related before after)
    (implies : ∀ one other, related one other → holds other) : ∀ other ∈ after, holds other := by
  induction each with
  | nil => nofun
  | cons head _ ih =>
    exact List.forall_mem_cons.mpr ⟨implies _ _ head, ih⟩

/-- Normalization keeps the truth of an expression whose compared operands are kept. -/
theorem normalized_of_normalizeFor {result : CheckExpression}
    (found : normalizeFor depth expression = some result) (kept : expression.KeepsOperands) :
    Normalized expression result := by
  induction depth generalizing expression result with
  | zero => cases found
  | succ depth ih =>
    have each {before after : List CheckExpression}
        (computed : before.mapM (normalizeFor depth) = some after)
        (kept : ∀ member ∈ before, member.KeepsOperands) :
        List.Forall₂ Normalized before after :=
      ((List.forall₂_and_left _ _).mpr ⟨kept, forall₂_of_mapM computed⟩).imp
        (fun _ _ both => ih both.2 both.1)
    cases expression with
    | column | literal =>
      cases found
      exact .ofLeaves rfl
    | null negated operand =>
      obtain ⟨operand', operandFound, ⟨⟩⟩ := Option.bind_eq_some_iff.mp found
      have normalized := ih operandFound kept
      refine .ofNode normalized.kept ⟨rfl, nofun⟩ rfl (fun Value semantics row => ?_)
      have same := normalized.truth Value semantics row
      unfold CheckExpression.truth at same ⊢
      simp only [CheckExpression.value, same]
    | membership negated operand values =>
      obtain ⟨operand', operandFound, found⟩ := Option.bind_eq_some_iff.mp found
      obtain ⟨values', valuesFound, ⟨⟩⟩ := Option.bind_eq_some_iff.mp found
      obtain ⟨⟨operandKept, operandKeeps⟩, valuesKept⟩ := kept
      rw [allOperandsKept_iff] at valuesKept
      have operands := ih operandFound operandKeeps
      have values := each valuesFound (fun value listed => (valuesKept value listed).2)
      have valuesKeep : allOperandsKept values' := by
        rw [allOperandsKept_iff]
        exact forall_mem_right values (fun _ _ value => ⟨value.doublyNegated_eq_false, value.kept⟩)
      refine .ofNode ⟨⟨operands.doublyNegated_eq_false, operands.kept⟩, valuesKeep⟩
        ⟨rfl, nofun⟩ rfl (fun Value semantics row => ?_)
      have sameValues := ((List.forall₂_and_left _ _).mpr ⟨valuesKept, values⟩).imp
        (fun _ _ both => both.2.value both.1.1 semantics row)
      simp only [CheckExpression.truth, CheckExpression.value, operands.source operandKept,
        operands.value operandKept, foundIn_congr semantics row sameValues]
    | between operand low high =>
      obtain ⟨operand', operandFound, found⟩ := Option.bind_eq_some_iff.mp found
      obtain ⟨low', lowFound, found⟩ := Option.bind_eq_some_iff.mp found
      obtain ⟨high', highFound, ⟨⟩⟩ := Option.bind_eq_some_iff.mp found
      obtain ⟨⟨operandKept, operandKeeps⟩, ⟨lowKept, lowKeeps⟩, highKept, highKeeps⟩ := kept
      have operands := ih operandFound operandKeeps
      have lows := ih lowFound lowKeeps
      have highs := ih highFound highKeeps
      refine .ofNode ⟨⟨operands.doublyNegated_eq_false, operands.kept⟩,
        ⟨lows.doublyNegated_eq_false, lows.kept⟩, highs.doublyNegated_eq_false, highs.kept⟩
        ⟨rfl, nofun⟩ rfl (fun Value semantics row => ?_)
      simp only [CheckExpression.truth, CheckExpression.value,
        operands.compared lows operandKept lowKept,
        operands.compared highs operandKept highKept]
    | comparison operator left right =>
      obtain ⟨left', leftFound, found⟩ := Option.bind_eq_some_iff.mp found
      obtain ⟨right', rightFound, ⟨⟩⟩ := Option.bind_eq_some_iff.mp found
      obtain ⟨⟨leftKept, leftKeeps⟩, rightKept, rightKeeps⟩ := kept
      have lefts := ih leftFound leftKeeps
      have rights := ih rightFound rightKeeps
      refine .ofNode ⟨⟨lefts.doublyNegated_eq_false, lefts.kept⟩,
        rights.doublyNegated_eq_false, rights.kept⟩ ⟨rfl, nofun⟩ rfl
        (fun Value semantics row => ?_)
      simp only [CheckExpression.truth, CheckExpression.value,
        lefts.compared rights leftKept rightKept]
    | negation child =>
      obtain ⟨inner, childFound, found⟩ := Option.bind_eq_some_iff.mp found
      have normalized := ih childFound kept
      cases inner with
      | junction connective members =>
        have membersKept : allKept (members.map .negation) := by
          rw [allKept_iff, List.forall_mem_map]
          exact allKept_iff.mp normalized.kept
        have pushed := ih found membersKept
        constructor
        · exact pushed.kept
        · exact pushed.single
        · nofun
        · intro isLeaf
          obtain rfl | doubly := pushed.leaf isLeaf
          · cases isLeaf
          · cases doubly
        · exact fun inner same isLeaf => nomatch pushed.negatedLeaf inner same isLeaf
        · intro Value semantics row
          rw [pushed.truth, truth_junction, connected_map_negation, truth_negation,
            ← normalized.truth, truth_junction]
      | column | literal | null | membership | between | comparison | negation =>
        cases found
        exact normalized.negated nofun
    | junction connective members =>
      obtain ⟨members', membersFound, ⟨⟩⟩ := Option.bind_eq_some_iff.mp found
      have normalized := each membersFound (allKept_iff.mp kept)
      have membersKept : allKept members' :=
        allKept_iff.mpr (forall_mem_right normalized (fun _ _ member => member.kept))
      refine .ofNode (allKept_flatMap_absorbed membersKept) ⟨rfl, nofun⟩ rfl
        (fun Value semantics row => ?_)
      rw [truth_junction, truth_junction, connected_flatMap_absorbed]
      exact connected_congr semantics row
        (normalized.imp (fun _ _ member => member.truth Value semantics row))

/-- Declared checks compare columns with literals and columns only. -/
theorem Declared.keepsOperands (declared : Declared expression) : expression.KeepsOperands := by
  induction declared with
  | null | comparison | columns | between =>
    simp [CheckExpression.KeepsOperands, CheckExpression.doublyNegated]
  | membership negated name first others =>
    refine ⟨⟨rfl, trivial⟩, allOperandsKept_iff.mpr ?_⟩
    rw [List.forall_mem_map]
    exact fun value _ => ⟨rfl, trivial⟩
  | negation _ ih => exact ih
  | junction connective _ _ leftKept rightKept => exact ⟨leftKept, rightKept, trivial⟩

/-! ## Where the meaning changes -/

/-- A doubly negated column or literal is normalized to the column or literal. -/
theorem isLeaf_of_doublyNegated {result : CheckExpression}
    (found : normalizeFor depth expression = some result) :
    (expression.isLeaf = true → result = expression) ∧
    (expression.doublyNegated = true → result.isLeaf = true) ∧
    (expression.oddlyNegated = true → ∃ inner, result = .negation inner ∧ inner.isLeaf = true) := by
  induction depth generalizing expression result with
  | zero => cases found
  | succ depth ih =>
    cases expression with
    | column | literal =>
      cases found
      exact ⟨fun _ => rfl, nofun, nofun⟩
    | null | membership | between | comparison | junction => exact ⟨nofun, nofun, nofun⟩
    | negation child =>
      obtain ⟨inner, childFound, found⟩ := Option.bind_eq_some_iff.mp found
      obtain ⟨ofLeaf, ofDoubly, ofOddly⟩ := ih childFound
      refine ⟨nofun, fun doubly => ?_, fun oddly => ?_⟩
      · obtain ⟨leaf, rfl, isLeaf⟩ := ofOddly doubly
        cases found
        exact isLeaf
      · have innerLeaf : inner.isLeaf = true := by
          rw [CheckExpression.oddlyNegated, Bool.or_eq_true] at oddly
          obtain childLeaf | doubly := oddly
          · rw [ofLeaf childLeaf]
            exact childLeaf
          · exact ofDoubly doubly
        cases inner with
        | column | literal =>
          cases found
          exact ⟨_, rfl, rfl⟩
        | null | membership | between | comparison | junction | negation => cases innerLeaf

/-- Orders for which a comparison has different answers. -/
def telling : ComparisonOperator → Ordering × Ordering
  | .eq | .ne => (.eq, .lt)
  | .gt | .gte => (.gt, .lt)
  | .lt | .lte => (.lt, .gt)

theorem holdsFor_telling (operator : ComparisonOperator) :
    holdsFor operator (telling operator).1 ≠ holdsFor operator (telling operator).2 := by
  cases operator <;> decide

/-- Truth values and one further value, which is true. Comparisons tell it from the others. -/
def apart (operator : ComparisonOperator) : Semantics (Option Truth) where
  literal _ := none
  truth value := value.getD (some true)
  ofTruth := some
  truth_ofTruth _ := rfl
  compare _ _ left _ := some (if left.isNone then (telling operator).1 else (telling operator).2)
  same _ _ _ := none

/-- Rows of the further value tell a doubly negated operand from its normal form. -/
theorem truth_ne_of_doublyNegated (operator : ComparisonOperator) {operand : CheckExpression}
    (value : Literal) (doubly : operand.doublyNegated = true) :
    (normalizeCheck (.comparison operator operand (.literal value))).truth (apart operator)
        (fun _ => none) ≠
      (CheckExpression.comparison operator operand (.literal value)).truth (apart operator)
        (fun _ => none) := by
  have found := normalizeFor_weight (.comparison operator operand (.literal value))
  obtain ⟨depth, isDepth⟩ : ∃ depth,
      (CheckExpression.comparison operator operand (.literal value)).weight = depth + 1 := ⟨_, rfl⟩
  rw [isDepth] at found
  obtain ⟨leaf, operandFound, found⟩ := Option.bind_eq_some_iff.mp found
  obtain ⟨literal, literalFound, result⟩ := Option.bind_eq_some_iff.mp found
  have isLeaf := (isLeaf_of_doublyNegated operandFound).2.1 doubly
  rw [← Option.some.inj result]
  have leafValue : leaf.value (apart operator) (fun _ => none) = none := by
    cases leaf with
    | column | literal => rfl
    | null | membership | between | comparison | negation | junction => cases isLeaf
  have operandValue : ∃ answer, operand.value (apart operator) (fun _ => none) = some answer := by
    cases operand with
    | negation child => exact ⟨_, rfl⟩
    | column | literal | null | membership | between | comparison | junction => cases doubly
  obtain ⟨answer, operandValue⟩ := operandValue
  intro same
  simp only [CheckExpression.truth, CheckExpression.value, (apart operator).truth_ofTruth, compared,
    leafValue, operandValue] at same
  exact holdsFor_telling operator (Option.some.inj same)

/-- A catalog check with the normal form of a declared check is true on the same rows, if it
keeps its compared operands. A comparison with a literal that does not is told apart from the
declared check by some values. -/
theorem matched_checks_agree {Value : Type} {binder : CheckBinder Value}
    {predicate : Predicate Value} {declared catalog : CheckExpression}
    (bound : binder.bind predicate = .ok declared)
    (matched : normalizeCheck catalog = normalizeCheck declared) :
    (catalog.KeepsOperands →
      ∀ (Cell : Type) (semantics : Semantics Cell) (row : Text → Cell),
        catalog.truth semantics row = declared.truth semantics row) ∧
    (∀ operator operand value, catalog = .comparison operator operand (.literal value) →
      operand.KeepsOperands →
      (∀ (Cell : Type) (semantics : Semantics Cell) (row : Text → Cell),
        catalog.truth semantics row = declared.truth semantics row) →
      catalog.KeepsOperands) := by
  have ofDeclared := normalized_of_normalizeFor (normalizeFor_weight declared)
    (CheckBinder.declared_of_bind predicate bound).keepsOperands
  constructor
  · intro kept Cell semantics row
    have ofCatalog := normalized_of_normalizeFor (normalizeFor_weight catalog) kept
    rw [← ofCatalog.truth, matched, ofDeclared.truth]
  · rintro operator operand value rfl operandKept agree
    cases doubly : operand.doublyNegated with
    | false => exact ⟨⟨doubly, operandKept⟩, rfl, trivial⟩
    | true =>
      refine absurd ?_ (truth_ne_of_doublyNegated operator value doubly)
      rw [matched, ofDeclared.truth, agree]

/-! A table with one integer column. -/

namespace OneColumn

def integer : Query.Column where
  name := "a"
  nullable := true
  storageType := "Integer"
  logical := [.int]
  native := some .int
  datetimePrecision := Query.wholeSeconds

def table : Query.Table where
  ident := 0
  name := "t"
  backend := .sqlite
  columns := [integer]

def binder : CheckBinder Int where
  owner := table
  isJson _ := false
  textCollation _ := none
  typeOf _ := .int
  encode _ value := some (.integer value)

/-- Whole numbers and `NULL`; zero is false. -/
def integers : Semantics (Option Int) where
  literal
    | .integer value => some value
    | .text _ => some 0
  truth value := value.map (· != 0)
  ofTruth answer := answer.map (if · then 1 else 0)
  truth_ofTruth answer := by
    revert answer
    decide
  compare _ _ left right := do return Ord.compare (← left) (← right)
  same _ left right := do return decide ((← left) = (← right))

/-- `a = 5`. -/
def predicate : Predicate Int :=
  .comparison (.column (.attr (.table table) integer)) .eq (some 5)

def isFive : CheckExpression := .comparison .eq (.column ['a']) (.literal (.integer 5))

/-- `(NOT (NOT a)) = 5`. -/
def truthIsFive : CheckExpression :=
  .comparison .eq (.negation (.negation (.column ['a']))) (.literal (.integer 5))

/-- `NOT (a <> 5)`. -/
def isNotOther : CheckExpression :=
  .negation (.comparison .ne (.column ['a']) (.literal (.integer 5)))

end OneColumn

/-- A catalog check that compares a doubly negated column matches the declared comparison of
the column. It rejects the row that the declared check asks for. -/
theorem double_negation_is_matched :
    sqliteChecks asciiCharacters 40
        "CREATE TABLE \"t\" (\"a\" INTEGER, CONSTRAINT c CHECK ((NOT (NOT a)) = 5))".toList =
      some [{ name := some ['c'], expression := some OneColumn.truthIsFive }] ∧
    OneColumn.binder.bind OneColumn.predicate = .ok OneColumn.isFive ∧
    normalizeCheck OneColumn.truthIsFive = normalizeCheck OneColumn.isFive ∧
    OneColumn.truthIsFive.truth OneColumn.integers (fun _ => some 5) = some false ∧
    OneColumn.isFive.truth OneColumn.integers (fun _ => some 5) = some true := by
  refine ⟨?_, ?_, ?_, ?_, ?_⟩
  · decide +kernel
  · rfl
  · rfl
  · rfl
  · rfl

/-- A negated comparison matches its complement and agrees with it. -/
theorem negated_comparison_agrees :
    OneColumn.isNotOther.truth OneColumn.integers (fun _ => some 7) =
      OneColumn.isFive.truth OneColumn.integers (fun _ => some 7) := by
  have bound : OneColumn.binder.bind OneColumn.predicate = .ok OneColumn.isFive := rfl
  have matched : normalizeCheck OneColumn.isNotOther = normalizeCheck OneColumn.isFive := by
    rfl
  exact (matched_checks_agree bound matched).1 ⟨⟨rfl, trivial⟩, rfl, trivial⟩ _ _ _

end Snekql.Checks
