import Snekql.CteGraph
import Snekql.QueryDialect

/-!
# Query compilation

Every function of the compiler returns a text and the values bound in it, and joins the
texts and the values of its parts separately. The text of a bound value is a parameter: the
compiler emits the dialect's placeholder there, whatever the value, and `mark` is that
constant. Another `mark` shows what the statement says with its values in place.

Nested selects are compiled under the scope around them, so a layer receives the compilers
of the older states as functions of the outer scope and the name of a presence column. The
codecs that turn a Python value into a bound one are a parameter.
-/

namespace Snekql.Query

open Snekql.Splicing

variable {Value : Type}

/-- The codecs behind `value_encoder` and `encode_write_value`. -/
structure Encoders (Value : Type) where
  comparison : Selectable Value → Option Value → Except QueryError (Option Value)
  write : Column → Option Value → Except QueryError (Option Value)

/-- Compile the elements in order. -/
def compileEach {α β : Type} (compile : α → Except QueryError β) : List α → Except QueryError (List β)
  | [] => .ok []
  | first :: rest => do
      let head ← compile first
      let tail ← compileEach compile rest
      return head :: tail

/-- `separator.join` of the texts, with the values of all parts. -/
def Fragment.join {Bound : Type} (separator : String) (parts : List (Fragment Bound)) :
    Fragment Bound where
  sql := joinWith separator.toList (parts.map Fragment.sql)
  params := parts.flatMap Fragment.params

/-! ## Names -/

/-- The loop that appends underscores until a name is free. A candidate that is taken uses
up one of the names. -/
def freshName (casefold : String → String) (taken : List String) : Nat → String → String
  | 0, name => name
  | fuel + 1, name =>
    if casefold name ∈ taken then freshName casefold taken fuel (name ++ "_") else name

def presenceNameAmong (casefold : String → String) (names : List String) : String :=
  freshName casefold (names.map casefold) names.length "__snekql_present"

/-- `_CteDefinition.presence_name` of the definition behind a reference. -/
def Heap.presenceName (heap : Heap Value) (casefold : String → String) (relation : Relation) :
    String :=
  presenceNameAmong casefold ((heap.definitionState relation).elim [] SelectState.labels)

/-- The marker of `SourceRowShape.for_source` for a physical source with presence. -/
def Table.presenceMarker (table : Table) (casefold : String → String) : Option String :=
  if table.columns.all Column.nullable then
    some (presenceNameAmong casefold (table.columns.map Column.name))
  else none

def ComparisonOperator.sql : ComparisonOperator → Text
  | .eq => "=".toList
  | .ne => "!=".toList
  | .gt => ">".toList
  | .gte => ">=".toList
  | .lt => "<".toList
  | .lte => "<=".toList

def CompoundOperator.sql : CompoundOperator → Text
  | .and => "AND".toList
  | .or => "OR".toList

def AggregateFunction.sql : AggregateFunction → Text
  | .avg => "AVG".toList
  | .count => "COUNT".toList
  | .max => "MAX".toList
  | .min => "MIN".toList
  | .sum => "SUM".toList

def Direction.sql : Direction → Text
  | .asc => "ASC".toList
  | .desc => "DESC".toList

def JoinType.sql : JoinType → Text
  | .inner => "INNER".toList
  | .left => "LEFT".toList

def SetOperator.sql : SetOperator → Text
  | .union => "UNION".toList
  | .unionAll => "UNION ALL".toList

/-! ## Columns -/

section Compile

variable (heap : Heap Value) (casefold : String → String) (dialect : QueryDialect)

/-- `quote(owner).quote(name)`. -/
def qualifiedName (owner name : String) : Text :=
  dialect.quoteIdentifier owner ++ ".".toList ++ dialect.quoteIdentifier name

/-- `_render_grouping_column`, with `_render_column_ref` and `_CteOutput.__compile_sql__`. -/
def renderColumn (qualified : Bool) : ColumnRef → Text
  | .attr relation column =>
    if qualified then qualifiedName dialect relation.tableName column.name
    else dialect.quoteIdentifier column.name
  | .output relation position =>
    qualifiedName dialect relation.tableName (heap.outputLabel relation position)

/-- `_render_aggregate`. -/
def renderAggregate (qualified : Bool) (aggregate : Aggregate) : Text :=
  match aggregate.column with
  | none => aggregate.func.sql ++ "(*)".toList
  | some column =>
    aggregate.func.sql ++ "(".toList ++ renderColumn heap dialect qualified column ++ ")".toList

/-- The operand whose domain `ensure_comparable` reads on the right. -/
def comparedOperand : Selectable Value → Except QueryError (Selectable Value)
  | .scalar subquery => do
      let state ← heap.requireSingleColumnSubquery subquery
      return state.fields.headD (.scalar subquery)
  | operand => .ok operand

def isTemporal : CoreType → Bool
  | .utcDatetime => true
  | .localDatetime => true
  | .zonedDatetime => true
  | _ => false

/-- `ensure_comparable`: known temporal meanings must agree. -/
def ensureComparable (left right : Selectable Value) : Except QueryError Unit := do
  let compared ← comparedOperand heap right
  let leftTypes := (heap.outputDomain heap.fieldDomains left).logical
  let rightTypes := (heap.outputDomain heap.fieldDomains compared).logical
  if (leftTypes ++ rightTypes).any isTemporal && leftTypes != rightTypes &&
      !leftTypes.contains .any && !rightTypes.contains .any then
    throw (.compilation "comparison operands have incompatible temporal meanings")

/-! ## Expressions and predicates -/

variable (encoders : Encoders Value) (mark : Option Value → Text) (scope : ScopeResolver)
  (subquery : Bool → Nat → Except QueryError (Fragment (Option Value)))

/-- A placeholder and its value. -/
def boundValue (value : Option Value) : Fragment (Option Value) where
  sql := mark value
  params := [value]

def plain (sql : Text) : Fragment (Option Value) where
  sql := sql
  params := []

/-- `_compile_scalar_sql`. -/
def compileScalar (includeCtes : Bool) (nested : Nat) :
    Except QueryError (Fragment (Option Value)) := do
  let _ ← heap.requireSingleColumnSubquery nested
  let select ← subquery includeCtes nested
  return { sql := "(".toList ++ select.sql ++ ")".toList, params := select.params }

def ComparisonOperator.noneMessage : ComparisonOperator → String
  | .eq => "eq(None) is invalid; use is_null()"
  | .ne => "ne(None) is invalid; use is_not_null()"
  | .gt => "gt(None) is invalid; use is_not_null()"
  | .gte => "gte(None) is invalid; use is_not_null()"
  | .lt => "lt(None) is invalid; use is_not_null()"
  | .lte => "lte(None) is invalid; use is_not_null()"

/-- The storage types that `LIKE` accepts. -/
def Selectable.isText : Selectable Value → Bool
  | .column (.attr _ declared) =>
    declared.storageType == "Text" || declared.storageType == "LongText"
  | _ => false

def BinaryOperator.sql : BinaryOperator → Text
  | .add => "+".toList
  | .sub => "-".toList
  | .mul => "*".toList
  | .coalesce => "COALESCE".toList

/-- The text of an operation of a value expression. -/
def operationSql : BinaryOperator → Text → Text → Text
  | .coalesce, left, right =>
    "COALESCE(".toList ++ left ++ ", ".toList ++ right ++ ")".toList
  | operator, left, right =>
    "(".toList ++ left ++ " ".toList ++ operator.sql ++ " ".toList ++ right ++ ")".toList

/-- The SQL name of a text function. -/
def functionSql : TextFunction → Except QueryError Text
  | .lower => .ok "LOWER".toList
  | .charLength =>
    match dialect.charLengthFunction with
    | some function => .ok function
    | none => .error
        (.compilation "this backend does not support character-length expressions")

mutual

/-- `ValueExpression.__compile_sql__`, with that of `CaseRoot`. -/
def compileExpression : ValueExpression Value → Except QueryError (Fragment (Option Value))
  | .column column _ => .ok (plain (renderColumn heap dialect scope.qualified column))
  | .case condition _ consequent otherwise _ => do
      let test ← compilePredicate false condition
      let first ← compileOperand consequent
      let second ← compileOperand otherwise
      return {
        sql := "CASE WHEN ".toList ++ test.sql ++ " THEN ".toList ++ first.sql ++
          " ELSE ".toList ++ second.sql ++ " END".toList,
        params := test.params ++ first.params ++ second.params }
  | .binary operator left right _ => do
      let first ← compileExpression left
      let second ← compileOperand right
      return {
        sql := operationSql operator first.sql second.sql,
        params := first.params ++ second.params }
  | .function function argument _ => do
      let inner ← compileExpression argument
      let name ← functionSql dialect function
      return { sql := name ++ "(".toList ++ inner.sql ++ ")".toList, params := inner.params }

def compileOperand : ValueOperand Value → Except QueryError (Fragment (Option Value))
  | .expression expression => compileExpression expression
  | .literal value => .ok (boundValue mark value)

/-- `_render_selectable`. -/
def renderSelectable : Selectable Value → Except QueryError (Fragment (Option Value))
  | .scalar _ => .error
      (.compilation "scalar subqueries cannot be rendered without their parameters")
  | .aggregate aggregate => .ok (plain (renderAggregate heap dialect scope.qualified aggregate))
  | .column column => .ok (plain (renderColumn heap dialect scope.qualified column))
  | .expression expression => compileExpression expression
  | .integerLiteral backend value =>
    .ok { sql := (backend.queryDialect.integerLiteralSql.getD id) (mark (some value)),
          params := [some value] }
  | .jsonExtractInt column path => .ok {
      sql := "JSON_EXTRACT(".toList ++ renderColumn heap dialect scope.qualified column ++
        ", ".toList ++ mark (some path) ++ ")".toList,
      params := [some path] }
  | .tablePresence source name => .ok (plain (qualifiedName dialect source.tableName name))
  | .ctePresence relation => .ok (plain
      (qualifiedName dialect relation.tableName (heap.presenceName casefold relation)))

/-- `__compile_predicate_sql__` of every predicate node. -/
def compilePredicate (includeCtes : Bool) :
    Predicate Value → Except QueryError (Fragment (Option Value))
  | .comparison operand operator value => do
      if value.isNone then
        throw (.compilation operator.noneMessage)
      let rendered ← renderSelectable operand
      let encoded ← encoders.comparison operand value
      return {
        sql := rendered.sql ++ " ".toList ++ operator.sql ++ " ".toList ++ mark encoded,
        params := rendered.params ++ [encoded] }
  | .null operand negated => do
      let rendered ← renderSelectable operand
      return {
        sql := rendered.sql ++ " ".toList ++
          (if negated then "IS NOT NULL" else "IS NULL").toList,
        params := rendered.params }
  | .membership operand values negated => do
      if values.isEmpty then
        throw (.compilation "IN predicates require at least one value")
      if values.any Option.isNone then
        throw (.compilation "IN predicate values cannot be None")
      let rendered ← renderSelectable operand
      let encoded ← compileEach (encoders.comparison operand) values
      return {
        sql := rendered.sql ++ " ".toList ++ (if negated then "NOT IN" else "IN").toList ++
          " (".toList ++ joinWith ", ".toList (encoded.map mark) ++ ")".toList,
        params := rendered.params ++ encoded }
  | .between operand low high => do
      if low.isNone || high.isNone then
        throw (.compilation "between() bounds cannot be None; use is_null()/is_not_null()")
      let rendered ← renderSelectable operand
      let lower ← encoders.comparison operand low
      let upper ← encoders.comparison operand high
      return {
        sql := rendered.sql ++ " BETWEEN ".toList ++ mark lower ++ " AND ".toList ++ mark upper,
        params := rendered.params ++ [lower, upper] }
  | .like operand pattern negated => do
      if !operand.isText then
        throw (.compilation ((if negated then "not_like" else "like") ++
          "() is only valid for text columns"))
      let rendered ← renderSelectable operand
      let encoded ← encoders.comparison operand (some pattern)
      return {
        sql := rendered.sql ++ " ".toList ++ (if negated then "NOT LIKE" else "LIKE").toList ++
          " ".toList ++ mark encoded,
        params := rendered.params ++ [encoded] }
  | .columnComparison operand operator other => do
      ensureComparable heap operand other
      let rendered ← renderSelectable operand
      let right ← match other with
        | .scalar nested => compileScalar heap subquery includeCtes nested
        | other => do
            scope.ensureOperandInScope other "comparison" .compilation false
            renderSelectable other
      return {
        sql := rendered.sql ++ " ".toList ++ operator.sql ++ " ".toList ++ right.sql,
        params := rendered.params ++ right.params }
  | .subqueryMembership operand nested negated => do
      ensureComparable heap operand (.scalar nested)
      let rendered ← renderSelectable operand
      let select ← compileScalar heap subquery includeCtes nested
      return {
        sql := rendered.sql ++ " ".toList ++ (if negated then "NOT IN" else "IN").toList ++
          " ".toList ++ select.sql,
        params := rendered.params ++ select.params }
  | .existence nested negated => do
      let _ ← heap.requireSubqueryState nested
      let select ← subquery includeCtes nested
      return {
        sql := (if negated then "NOT EXISTS" else "EXISTS").toList ++ " (".toList ++ select.sql ++
          ")".toList,
        params := select.params }
  | .compound operator left right => do
      let first ← compilePredicate includeCtes left
      let second ← compilePredicate includeCtes right
      return {
        sql := "(".toList ++ first.sql ++ ") ".toList ++ operator.sql ++ " (".toList ++
          second.sql ++ ")".toList,
        params := first.params ++ second.params }
  | .negated child => do
      let inner ← compilePredicate includeCtes child
      return { sql := "NOT (".toList ++ inner.sql ++ ")".toList, params := inner.params }

end

/-- The right side of a column comparison: `compile_scalar` or `render_comparison_operand`. -/
def compileRightOperand (includeCtes : Bool) :
    Selectable Value → Except QueryError (Fragment (Option Value))
  | .scalar nested => compileScalar heap subquery includeCtes nested
  | other => do
      scope.ensureOperandInScope other "comparison" .compilation false
      renderSelectable heap casefold dialect encoders mark scope subquery other

theorem compilePredicate_columnComparison (includeCtes : Bool) (operand other : Selectable Value)
    (operator : ComparisonOperator) :
    compilePredicate heap casefold dialect encoders mark scope subquery includeCtes
        (.columnComparison operand operator other) = (do
      ensureComparable heap operand other
      let rendered ← renderSelectable heap casefold dialect encoders mark scope subquery operand
      let right ← compileRightOperand heap casefold dialect encoders mark scope subquery
        includeCtes other
      return {
        sql := rendered.sql ++ " ".toList ++ operator.sql ++ " ".toList ++ right.sql,
        params := rendered.params ++ right.params }) := by
  cases other <;> simp [compilePredicate, compileRightOperand]

end Compile

end Snekql.Query
