import Snekql.Outcomes
import Snekql.QueryDialect

/-!
# Check expressions

The expression trees of `CHECK` constraints: how a declared predicate is bound to one, how a
tree is rendered for a backend, and how trees are normalized before they are compared.
-/

namespace Snekql.Checks

open Snekql.Splicing Snekql.Outcomes
open Snekql.Query (BackendFamily Column ColumnRef ComparisonOperator CompoundOperator CoreType
  Predicate Relation Selectable Table)

/-- The value of a literal. -/
inductive Literal where
  | integer (value : Int)
  | text (value : Text)
deriving DecidableEq, Repr

/-- `CheckExpression`, with one constructor for each group of operators. -/
inductive CheckExpression where
  | column (name : Text)
  | literal (value : Literal)
  /-- `IS NULL`, or `IS NOT NULL` if negated. -/
  | null (negated : Bool) (operand : CheckExpression)
  /-- `IN`, or `NOT IN` if negated. -/
  | membership (negated : Bool) (operand : CheckExpression) (values : List CheckExpression)
  | between (operand low high : CheckExpression)
  | comparison (operator : ComparisonOperator) (left right : CheckExpression)
  | negation (child : CheckExpression)
  | junction (connective : CompoundOperator) (members : List CheckExpression)
deriving Repr

mutual

/-- Equality of two trees. -/
def CheckExpression.equals : CheckExpression → CheckExpression → Bool
  | .column name, .column other => name == other
  | .literal value, .literal other => value == other
  | .null negated operand, .null negated' operand' =>
    negated == negated' && operand.equals operand'
  | .membership negated operand values, .membership negated' operand' values' =>
    negated == negated' && operand.equals operand' && allEqual values values'
  | .between operand low high, .between operand' low' high' =>
    operand.equals operand' && low.equals low' && high.equals high'
  | .comparison operator left right, .comparison operator' left' right' =>
    operator == operator' && left.equals left' && right.equals right'
  | .negation child, .negation child' => child.equals child'
  | .junction connective members, .junction connective' members' =>
    connective == connective' && allEqual members members'
  | _, _ => false

def allEqual : List CheckExpression → List CheckExpression → Bool
  | [], [] => true
  | first :: rest, other :: others => first.equals other && allEqual rest others
  | _, _ => false

end

mutual

theorem CheckExpression.equals_iff : (one other : CheckExpression) →
    (one.equals other = true ↔ one = other)
  | .column _, other => by cases other <;> simp [CheckExpression.equals]
  | .literal _, other => by cases other <;> simp [CheckExpression.equals]
  | .null _ operand, other => by cases other <;> simp [CheckExpression.equals, operand.equals_iff]
  | .membership _ operand values, other => by
    cases other <;>
      simp [CheckExpression.equals, operand.equals_iff, allEqual_iff values, and_assoc]
  | .between operand low high, other => by
    cases other <;>
      simp [CheckExpression.equals, operand.equals_iff, low.equals_iff, high.equals_iff, and_assoc]
  | .comparison _ left right, other => by
    cases other <;> simp [CheckExpression.equals, left.equals_iff, right.equals_iff, and_assoc]
  | .negation child, other => by cases other <;> simp [CheckExpression.equals, child.equals_iff]
  | .junction _ members, other => by
    cases other <;> simp [CheckExpression.equals, allEqual_iff members]

theorem allEqual_iff : (one other : List CheckExpression) →
    (allEqual one other = true ↔ one = other)
  | [], other => by cases other <;> simp [allEqual]
  | first :: rest, other => by cases other <;> simp [allEqual, first.equals_iff, allEqual_iff rest]

end

instance : DecidableEq CheckExpression :=
  fun one other => decidable_of_iff _ (one.equals_iff other)

/-! ## Binding -/

inductive DeclarationError where
  | model (message : String)
deriving DecidableEq, Repr

/-- What `Attr.encode` may return. -/
inductive Wire where
  | integer (value : Int)
  | boolean (value : Bool)
  | text (value : Text)
  | other
deriving DecidableEq, Repr

/-- `_CheckBinder`: the declaring table, and what its columns and the literals say about
themselves. -/
structure CheckBinder (Value : Type) where
  owner : Table
  isJson : Column → Bool
  textCollation : Column → Option String
  typeOf : Value → CoreType
  /-- Nothing if the value does not fit the storage or is no UTF-8 text. -/
  encode : Column → Value → Option Wire

namespace CheckBinder

variable {Value : Type} (binder : CheckBinder Value)

def boolean : CoreType := .other "bool"

/-- The storage types that a logical type may have. -/
def storages : CoreType → List String
  | .str => ["Text"]
  | _ => ["Integer", "Boolean"]

/-- `_column`, with the logical type. -/
def column (operand : Selectable Value) : Except DeclarationError (Column × CoreType) :=
  match operand with
  | .column (.attr (.table owner) column) =>
    if owner ≠ binder.owner ∨ binder.owner.columns.find? (·.name == column.name) ≠ some column
    then .error (.model "CHECK requires local columns")
    else if binder.isJson column then
      .error (.model "CHECK requires ordinary, non-JSON storage")
    else match column.logical with
      | [logical] =>
        if logical ∉ [.int, boolean, .str] then .error (.model
          "CHECK requires integer, boolean, or ordinary text logical types")
        else if column.storageType ∉ storages logical then
          .error (.model "unsupported CHECK column storage")
        else .ok (column, logical)
      | _ => .error (.model
          "CHECK requires integer, boolean, or ordinary text logical types")
  | _ => .error (.model "CHECK requires local columns")

/-- `_literal`. -/
def literal (column : Column) (logical : CoreType) (value : Option Value) :
    Except DeclarationError CheckExpression :=
  match value with
  | none => .error (.model "unsupported CHECK literal")
  | some value =>
    if binder.typeOf value ≠ logical then .error (.model "unsupported CHECK literal")
    else match binder.encode column value with
      | none => .error (.model "invalid CHECK literal for column storage")
      | some .other => .error (.model "unsupported CHECK wire literal")
      | some (.integer encoded) => .ok (.literal (.integer encoded))
      | some (.boolean encoded) => .ok (.literal (.integer (if encoded then 1 else 0)))
      | some (.text encoded) => .ok (.literal (.text encoded))

/-- The literals of `IN` and `BETWEEN`; all types are checked before any value is encoded. -/
def literals (column : Column) (logical : CoreType) (values : List (Option Value)) :
    Except DeclarationError (List CheckExpression) :=
  if values.isEmpty ∨ values.any (fun value => value.map binder.typeOf != some logical) then
    .error (.model "unsupported CHECK literal")
  else values.mapM (binder.literal column logical)

def name (column : Column) : CheckExpression := .column column.name.toList

/-- `_CheckBinder.bind`. -/
def bind : Predicate Value → Except DeclarationError CheckExpression
  | .compound operator left right => do
      let first ← bind left
      let second ← bind right
      return .junction operator [first, second]
  | .negated child => do return .negation (← bind child)
  | .null operand negated => do
      let (left, _) ← binder.column operand
      return .null negated (name left)
  | .membership operand values negated => do
      let (left, logical) ← binder.column operand
      return .membership negated (name left) (← binder.literals left logical values)
  | .between operand low high => do
      let (left, logical) ← binder.column operand
      match ← binder.literals left logical [low, high] with
      | [first, second] => return .between (name left) first second
      | _ => throw (.model "unsupported CHECK literal")
  | .columnComparison operand operator other => do
      let (left, logical) ← binder.column operand
      let (right, otherLogical) ← binder.column other
      if otherLogical ≠ logical ∨ left.storageType ≠ right.storageType ∨
          binder.textCollation left ≠ binder.textCollation right then
        throw (.model "CHECK column comparison requires matching storage and logical types")
      return .comparison operator (name left) (name right)
  | .comparison operand operator value => do
      let (left, logical) ← binder.column operand
      return .comparison operator (name left) (← binder.literal left logical value)
  | _ => .error (.model "unsupported CHECK predicate")

end CheckBinder

/-! ## What the binder produces -/

/-- The expressions of declared checks: columns are compared with literals or columns, and
connectives have two members. -/
inductive Declared : CheckExpression → Prop where
  | null (negated : Bool) (name : Text) : Declared (.null negated (.column name))
  | membership (negated : Bool) (name : Text) (first : Literal) (others : List Literal) :
      Declared (.membership negated (.column name) ((first :: others).map .literal))
  | between (name : Text) (low high : Literal) :
      Declared (.between (.column name) (.literal low) (.literal high))
  | comparison (operator : ComparisonOperator) (name : Text) (value : Literal) :
      Declared (.comparison operator (.column name) (.literal value))
  | columns (operator : ComparisonOperator) (name other : Text) :
      Declared (.comparison operator (.column name) (.column other))
  | negation {child : CheckExpression} (declared : Declared child) : Declared (.negation child)
  | junction (connective : CompoundOperator) {left right : CheckExpression}
      (leftDeclared : Declared left) (rightDeclared : Declared right) :
      Declared (.junction connective [left, right])

namespace CheckBinder

variable {Value : Type} {binder : CheckBinder Value}

theorem literal_of_ok {column : Column} {logical : CoreType} {value : Option Value}
    {expression : CheckExpression} (bound : binder.literal column logical value = .ok expression) :
    ∃ held, expression = .literal held := by
  unfold literal at bound
  split at bound
  · cases bound
  split at bound
  · cases bound
  split at bound <;> cases bound <;> exact ⟨_, rfl⟩

theorem literals_of_ok {column : Column} {logical : CoreType} {values : List (Option Value)}
    {expressions : List CheckExpression}
    (bound : binder.literals column logical values = .ok expressions) :
    ∃ first others, expressions = (first :: others).map .literal := by
  have each (values : List (Option Value)) (expressions : List CheckExpression)
      (bound : values.mapM (binder.literal column logical) = .ok expressions) :
      expressions.length = values.length ∧
        ∃ held : List Literal, expressions = held.map .literal := by
    induction values generalizing expressions with
    | nil =>
      cases bound
      exact ⟨rfl, [], rfl⟩
    | cons value rest ih =>
      rw [List.mapM_cons] at bound
      obtain ⟨head, headBound, bound⟩ := bind_eq_ok.mp bound
      obtain ⟨tail, tailBound, ⟨⟩⟩ := bind_eq_ok.mp bound
      obtain ⟨held, rfl⟩ := literal_of_ok headBound
      obtain ⟨length, others, rfl⟩ := ih tail tailBound
      exact ⟨congrArg (· + 1) length, held :: others, rfl⟩
  unfold literals at bound
  split at bound
  · cases bound
  · rename_i nonempty
    obtain ⟨length, held, rfl⟩ := each values expressions bound
    cases held with
    | nil =>
      simp only [List.map_nil, List.length_nil] at length
      simp [List.length_eq_zero_iff.mp length.symm] at nonempty
    | cons first others => exact ⟨first, others, rfl⟩

/-- A bound predicate is a declared expression. -/
theorem declared_of_bind : (predicate : Predicate Value) → {expression : CheckExpression} →
    binder.bind predicate = .ok expression → Declared expression
  | .compound operator left right, _, bound => by
    obtain ⟨first, leftBound, bound⟩ := bind_eq_ok.mp bound
    obtain ⟨second, rightBound, ⟨⟩⟩ := bind_eq_ok.mp bound
    exact .junction operator (declared_of_bind left leftBound) (declared_of_bind right rightBound)
  | .negated child, _, bound => by
    obtain ⟨inner, childBound, ⟨⟩⟩ := bind_eq_ok.mp bound
    exact .negation (declared_of_bind child childBound)
  | .null operand negated, _, bound => by
    obtain ⟨⟨left, logical⟩, _, ⟨⟩⟩ := bind_eq_ok.mp bound
    exact .null negated _
  | .membership operand values negated, _, bound => by
    obtain ⟨⟨left, logical⟩, _, bound⟩ := bind_eq_ok.mp bound
    obtain ⟨literals, literalsBound, ⟨⟩⟩ := bind_eq_ok.mp bound
    obtain ⟨first, others, rfl⟩ := literals_of_ok literalsBound
    exact .membership negated _ first others
  | .between operand low high, _, bound => by
    obtain ⟨⟨left, logical⟩, _, bound⟩ := bind_eq_ok.mp bound
    obtain ⟨literals, literalsBound, bound⟩ := bind_eq_ok.mp bound
    obtain ⟨first, others, rfl⟩ := literals_of_ok literalsBound
    cases others with
    | nil => cases bound
    | cons second rest =>
      cases rest with
      | nil =>
        cases bound
        exact .between _ first second
      | cons => cases bound
  | .columnComparison operand operator other, _, bound => by
    obtain ⟨⟨left, logical⟩, _, bound⟩ := bind_eq_ok.mp bound
    obtain ⟨⟨right, otherLogical⟩, _, bound⟩ := bind_eq_ok.mp bound
    dsimp only at bound
    split at bound
    · cases bound
    · cases bound
      exact .columns operator _ _
  | .comparison operand operator value, _, bound => by
    obtain ⟨⟨left, logical⟩, _, bound⟩ := bind_eq_ok.mp bound
    obtain ⟨literal, literalBound, ⟨⟩⟩ := bind_eq_ok.mp bound
    obtain ⟨held, rfl⟩ := literal_of_ok literalBound
    exact .comparison operator _ held
  | .like _ _ _, _, bound => by cases bound
  | .subqueryMembership _ _ _, _, bound => by cases bound
  | .existence _ _, _, bound => by cases bound

end CheckBinder

/-! ## Rendering -/

/-- The two digits of a byte, as `bytes.hex` writes them. -/
def hexByte (byte : UInt8) : Text :=
  [Nat.digitChar (byte.toNat / 16), Nat.digitChar (byte.toNat % 16)]

/-- `value.encode("utf-8").hex()`. -/
def hexText (value : Text) : Text := (value.flatMap String.utf8EncodeChar).flatMap hexByte

/-- `str` of an integer. -/
def integerText : Int → Text
  | .ofNat value => Nat.toDigits 10 value
  | .negSucc value => '-' :: Nat.toDigits 10 (value + 1)

/-- The apostrophe, which delimits text literals. -/
def textQuote : Char := Char.ofNat 39

def renderLiteral (backend : BackendFamily) : Literal → Text
  | .integer value => integerText value
  | .text value =>
    match backend with
    | .mariadb => "CONVERT(X'".toList ++ hexText value ++ "' USING utf8mb4)".toList
    | .sqlite =>
      if Char.ofNat 0 ∈ value then
        "CAST(X'".toList ++ hexText value ++ "' AS TEXT)".toList
      else textQuote :: Query.doubled textQuote value ++ [textQuote]

/-- `quote_identifier` of the backend. -/
def quoteName (backend : BackendFamily) (name : Text) : Text :=
  match backend with
  | .sqlite => Query.Sqlite.quoteIdentifier (String.ofList name)
  | .mariadb => Query.Mariadb.quoteIdentifier (String.ofList name)

def comparisonSql : ComparisonOperator → Text
  | .eq => "=".toList
  | .ne => "<>".toList
  | .gt => ">".toList
  | .gte => ">=".toList
  | .lt => "<".toList
  | .lte => "<=".toList

def connectiveSql : CompoundOperator → Text
  | .and => "AND".toList
  | .or => "OR".toList

mutual

/-- `render_check`; a connective with other than two members has no text. -/
def renderCheck (backend : BackendFamily) : CheckExpression → Option Text
  | .column name => some (quoteName backend name)
  | .literal value => some (renderLiteral backend value)
  | .null negated operand => do
      let rendered ← renderCheck backend operand
      return rendered ++ (if negated then " IS NOT NULL" else " IS NULL").toList
  | .membership negated operand values => do
      let rendered ← renderCheck backend operand
      let listed ← renderChecks backend values
      return rendered ++ (if negated then " NOT IN (" else " IN (").toList ++
        joinWith ", ".toList listed ++ ")".toList
  | .between operand low high => do
      let rendered ← renderCheck backend operand
      let lower ← renderCheck backend low
      let upper ← renderCheck backend high
      return rendered ++ " BETWEEN ".toList ++ lower ++ " AND ".toList ++ upper
  | .comparison operator left right => do
      let first ← renderCheck backend left
      let second ← renderCheck backend right
      return first ++ " ".toList ++ comparisonSql operator ++ " ".toList ++ second
  | .negation child => do
      let rendered ← renderCheck backend child
      return "NOT (".toList ++ rendered ++ ")".toList
  | .junction connective members => do
      match ← renderChecks backend members with
      | [left, right] => return "(".toList ++ left ++ ") ".toList ++ connectiveSql connective ++
          " (".toList ++ right ++ ")".toList
      | _ => none

def renderChecks (backend : BackendFamily) : List CheckExpression → Option (List Text)
  | [] => some []
  | first :: rest => do
      let rendered ← renderCheck backend first
      let others ← renderChecks backend rest
      return rendered :: others

end

/-! ## Normalization -/

mutual

/-- How often `normalize_check` can be entered for an expression. A negation counts twice,
since it is pushed into every member of a connective. -/
def CheckExpression.weight : CheckExpression → Nat
  | .column _ => 1
  | .literal _ => 1
  | .null _ operand => operand.weight + 1
  | .membership _ operand values => operand.weight + weights values + 1
  | .between operand low high => operand.weight + low.weight + high.weight + 1
  | .comparison _ left right => left.weight + right.weight + 1
  | .negation child => 2 * child.weight
  | .junction _ members => weights members + 1

def weights : List CheckExpression → Nat
  | [] => 0
  | first :: rest => first.weight + weights rest

end

/-- The operator that is true exactly when the other one is false. -/
def complementOperator : ComparisonOperator → ComparisonOperator
  | .eq => .ne
  | .ne => .eq
  | .gt => .lte
  | .gte => .lt
  | .lt => .gte
  | .lte => .gt

def dual : CompoundOperator → CompoundOperator
  | .and => .or
  | .or => .and

/-- A negated node in normal form whose child is no connective. -/
def negate : CheckExpression → CheckExpression
  | .comparison operator left right => .comparison (complementOperator operator) left right
  | .null negated operand => .null (!negated) operand
  | .membership negated operand values => .membership (!negated) operand values
  | .negation inner => inner
  | child => .negation child

/-- The members of a connective that a normalized child contributes. -/
def absorbed (connective : CompoundOperator) : CheckExpression → List CheckExpression
  | .junction inner members =>
    if inner = connective then members else [.junction inner members]
  | child => [child]

/-- `normalize_check`, entered to a limited depth. -/
def normalizeFor : Nat → CheckExpression → Option CheckExpression
  | 0, _ => none
  | _ + 1, .column name => some (.column name)
  | _ + 1, .literal value => some (.literal value)
  | depth + 1, .null negated operand => do
      return .null negated (← normalizeFor depth operand)
  | depth + 1, .membership negated operand values => do
      let operand ← normalizeFor depth operand
      return .membership negated operand (← values.mapM (normalizeFor depth))
  | depth + 1, .between operand low high => do
      let operand ← normalizeFor depth operand
      let low ← normalizeFor depth low
      return .between operand low (← normalizeFor depth high)
  | depth + 1, .comparison operator left right => do
      let left ← normalizeFor depth left
      return .comparison operator left (← normalizeFor depth right)
  | depth + 1, .negation child => do
      match ← normalizeFor depth child with
      | .junction connective members =>
        normalizeFor depth (.junction (dual connective) (members.map .negation))
      | child => return negate child
  | depth + 1, .junction connective members => do
      let members ← members.mapM (normalizeFor depth)
      return .junction connective (members.flatMap (absorbed connective))

/-- `normalize_check`; the weight is deep enough. -/
def normalizeCheck (expression : CheckExpression) : CheckExpression :=
  (normalizeFor expression.weight expression).getD expression

end Snekql.Checks
