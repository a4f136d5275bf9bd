import Snekql.Outcomes
import Snekql.Placeholders
import Snekql.WriteCompile

/-!
# The order of bound values

The compiler joins the texts of its parts and, separately, their values. Run it once with
the dialect's placeholder at every bound value and once with the value itself, rendered by
an arbitrary `literal`. Every function of the compiler makes the same decisions in both
runs, and replacing the placeholders of the first text by the values it returned gives the
second text.
-/

namespace Snekql.Query

open Snekql.Splicing Snekql.Outcomes

variable {Value Mode : Type}

theorem agree_compileEach {α β γ : Type} {related : β → γ → Prop}
    {left : α → Except QueryError β} {right : α → Except QueryError γ}
    (each : ∀ element, Agree related (left element) (right element)) (elements : List α) :
    Agree (List.Forall₂ related) (compileEach left elements) (compileEach right elements) := by
  induction elements with
  | nil => exact .ok .nil
  | cons first rest ih =>
    apply (each first).bind
    intro head head' heads
    apply ih.bind
    intro tail tail' tails
    exact .ok (.cons heads tails)

section Expressions

variable {heap : Heap Value} {casefold : String → String} {dialect : QueryDialect}
  {encoders : Encoders Value} {scope : ScopeResolver} {lexer : Lexer Mode}
  {literal : Option Value → Text}

/-- Words between the parts of a statement. -/
theorem Lexed.word (lexed : Lexed lexer dialect) (word : String)
    (ordinary : word.toList.all isOrdinary = true) :
    Splices lexer literal word.toList [] word.toList :=
  (lexed.ordinary _ ordinary).splices

theorem splicesTo_plain {text : Text} (inert : Inert lexer text) :
    SplicesTo lexer literal (plain text) (plain text) :=
  ⟨rfl, inert.splices⟩

section

variable (lexed : Lexed lexer dialect)
include lexed

theorem splicesTo_boundValue (value : Option Value) :
    SplicesTo lexer literal (boundValue (fun _ => dialect.placeholder) value)
      (boundValue literal value) :=
  ⟨rfl, lexed.placeholder literal value⟩

/-- One placeholder for each value of a list. -/
theorem splicesEach_marks (literal : Option Value → Text) (values : List (Option Value)) :
    SplicesEach lexer literal (values.map (fun _ => dialect.placeholder)) values
      (values.map literal) := by
  induction values with
  | nil => exact .nil
  | cons value rest ih =>
    exact .cons (lexed.placeholder literal value) ih

/-! ## Names -/

theorem inert_qualifiedName (owner name : String) :
    Inert lexer (qualifiedName dialect owner name) :=
  ((lexed.quoteIdentifier owner).append (lexed.ordinary _ (by decide))).append
    (lexed.quoteIdentifier name)

theorem inert_renderColumn (qualified : Bool) (column : ColumnRef) :
    Inert lexer (renderColumn heap dialect qualified column) := by
  cases column with
  | attr relation column =>
    simp only [renderColumn]
    split
    · exact inert_qualifiedName lexed _ _
    · exact lexed.quoteIdentifier _
  | output relation position => exact inert_qualifiedName lexed _ _

theorem inert_aggregateFunction (function : AggregateFunction) : Inert lexer function.sql := by
  cases function with
  | avg | count | max | min | sum => exact lexed.ordinary _ (by decide)

theorem inert_renderAggregate (qualified : Bool) (aggregate : Aggregate) :
    Inert lexer (renderAggregate heap dialect qualified aggregate) := by
  have function := inert_aggregateFunction lexed aggregate.func
  unfold renderAggregate
  split
  · exact function.append (lexed.ordinary _ (by decide))
  · exact ((function.append (lexed.ordinary _ (by decide))).append
      (inert_renderColumn lexed qualified _)).append (lexed.ordinary _ (by decide))

theorem inert_comparisonOperator (operator : ComparisonOperator) : Inert lexer operator.sql := by
  cases operator with
  | eq | ne | gt | gte | lt | lte => exact lexed.ordinary _ (by decide)

theorem inert_compoundOperator (operator : CompoundOperator) : Inert lexer operator.sql := by
  cases operator with
  | and | or => exact lexed.ordinary _ (by decide)

/-- One of two words. -/
theorem Lexed.choice (condition : Bool) (first second : String)
    (firstOrdinary : first.toList.all isOrdinary = true)
    (secondOrdinary : second.toList.all isOrdinary = true) :
    Splices lexer literal (if condition then first else second).toList []
      (if condition then first else second).toList := by
  cases condition with
  | false => exact lexed.word second secondOrdinary
  | true => exact lexed.word first firstOrdinary

/-! ## Operations -/

theorem splices_operation (operator : BinaryOperator) {first second firstText secondText : Text}
    {values others : List (Option Value)} (left : Splices lexer literal first values firstText)
    (right : Splices lexer literal second others secondText) :
    Splices lexer literal (operationSql operator first second) (values ++ others)
      (operationSql operator firstText secondText) := by
  have arithmetic (sign : Text) (inert : Inert lexer sign) :
      Splices lexer literal
        ("(".toList ++ first ++ " ".toList ++ sign ++ " ".toList ++ second ++ ")".toList)
        (values ++ others)
        ("(".toList ++ firstText ++ " ".toList ++ sign ++ " ".toList ++ secondText ++
          ")".toList) :=
    ((((((lexed.word "(" (by decide)).after left).followed (lexed.word " " (by decide))).followed
      inert.splices).followed (lexed.word " " (by decide))).append right).followed
        (lexed.word ")" (by decide))
  cases operator with
  | add | sub | mul => exact arithmetic _ (lexed.ordinary _ (by decide))
  | coalesce =>
    exact ((((lexed.word "COALESCE(" (by decide)).after left).followed
      (lexed.word ", " (by decide))).append right).followed (lexed.word ")" (by decide))

theorem inert_functionSql {function : TextFunction} {name : Text}
    (found : functionSql dialect function = .ok name) : Inert lexer name := by
  cases function with
  | lower =>
    cases found
    exact lexed.ordinary _ (by decide)
  | charLength =>
    cases known : dialect.charLengthFunction with
    | none => simp [functionSql, known] at found
    | some declared =>
      simp only [functionSql, known, Except.ok.injEq] at found
      subst found
      exact lexed.charLengthFunction _ known

/-- The rendering of an integer constant wraps its placeholder in words. -/
theorem splices_integerLiteral (backend : BackendFamily) {sql text : Text}
    {values : List (Option Value)} (value : Splices lexer literal sql values text) :
    Splices lexer literal (backend.queryDialect.integerLiteralSql.getD id sql) values
      (backend.queryDialect.integerLiteralSql.getD id text) := by
  cases backend with
  | sqlite => exact value
  | mariadb =>
    exact ((lexed.word "CAST(CAST(" (by decide)).after value).followed
      (lexed.word " AS DECIMAL(19, 0)) AS SIGNED)" (by decide))

end

/-! ## Expressions and predicates -/

variable {coded shown : Bool → Nat → Except QueryError (Fragment (Option Value))}

/-- Nested selects that agree in the two runs. -/
def SubqueriesAgree (lexer : Lexer Mode) (literal : Option Value → Text)
    (coded shown : Bool → Nat → Except QueryError (Fragment (Option Value))) : Prop :=
  ∀ includeCtes nested, Agree (SplicesTo lexer literal) (coded includeCtes nested)
    (shown includeCtes nested)

theorem agree_compileScalar (lexed : Lexed lexer dialect)
    (subqueries : SubqueriesAgree lexer literal coded shown) (includeCtes : Bool) (nested : Nat) :
    Agree (SplicesTo lexer literal) (compileScalar heap coded includeCtes nested)
      (compileScalar heap shown includeCtes nested) := by
  apply Agree.bind_same
  intro _
  apply (subqueries includeCtes nested).bind
  intro select select' selects
  refine .ok ⟨selects.params, ?_⟩
  exact ((lexed.word "(" (by decide)).after selects.sql).followed (lexed.word ")" (by decide))

mutual

theorem agree_compileExpression (lexed : Lexed lexer dialect)
    (subqueries : SubqueriesAgree lexer literal coded shown) (expression : ValueExpression Value) :
    Agree (SplicesTo lexer literal)
      (compileExpression heap casefold dialect encoders (fun _ => dialect.placeholder) scope coded
        expression)
      (compileExpression heap casefold dialect encoders literal scope shown expression) := by
  cases expression with
  | column column facts =>
    exact .ok (splicesTo_plain (inert_renderColumn lexed _ _))
  | case condition conditionColumns consequent otherwise facts =>
    apply (agree_compilePredicate lexed subqueries false condition).bind
    intro test test' tests
    apply (agree_compileOperand lexed subqueries consequent).bind
    intro first first' firsts
    apply (agree_compileOperand lexed subqueries otherwise).bind
    intro second second' seconds
    refine .ok ⟨by simp only [tests.params, firsts.params, seconds.params], ?_⟩
    exact ((((((lexed.word "CASE WHEN " (by decide)).after tests.sql).followed
      (lexed.word " THEN " (by decide))).append firsts.sql).followed
        (lexed.word " ELSE " (by decide))).append seconds.sql).followed
          (lexed.word " END" (by decide))
  | binary operator left right facts =>
    apply (agree_compileExpression lexed subqueries left).bind
    intro first first' firsts
    apply (agree_compileOperand lexed subqueries right).bind
    intro second second' seconds
    refine .ok ⟨by simp only [firsts.params, seconds.params], ?_⟩
    exact splices_operation lexed operator firsts.sql seconds.sql
  | function function argument facts =>
    apply (agree_compileExpression lexed subqueries argument).bind
    intro inner inner' inners
    cases found : functionSql dialect function with
    | error failure => exact .error failure
    | ok name =>
      refine .ok ⟨inners.params, ?_⟩
      exact (((inert_functionSql lexed found).splices.followed
        (lexed.word "(" (by decide))).after inners.sql).followed (lexed.word ")" (by decide))

theorem agree_compileOperand (lexed : Lexed lexer dialect)
    (subqueries : SubqueriesAgree lexer literal coded shown) (operand : ValueOperand Value) :
    Agree (SplicesTo lexer literal)
      (compileOperand heap casefold dialect encoders (fun _ => dialect.placeholder) scope coded
        operand)
      (compileOperand heap casefold dialect encoders literal scope shown operand) := by
  cases operand with
  | expression expression => exact agree_compileExpression lexed subqueries expression
  | literal value => exact .ok (splicesTo_boundValue lexed value)

theorem agree_renderSelectable (lexed : Lexed lexer dialect)
    (subqueries : SubqueriesAgree lexer literal coded shown) (operand : Selectable Value) :
    Agree (SplicesTo lexer literal)
      (renderSelectable heap casefold dialect encoders (fun _ => dialect.placeholder) scope coded
        operand)
      (renderSelectable heap casefold dialect encoders literal scope shown operand) := by
  cases operand with
  | column column => exact .ok (splicesTo_plain (inert_renderColumn lexed _ _))
  | aggregate aggregate => exact .ok (splicesTo_plain (inert_renderAggregate lexed _ _))
  | scalar subquery => exact .error _
  | expression expression => exact agree_compileExpression lexed subqueries expression
  | integerLiteral backend value =>
    exact .ok ⟨rfl, splices_integerLiteral lexed backend (lexed.placeholder literal (some value))⟩
  | jsonExtractInt column path =>
    refine .ok ⟨rfl, ?_⟩
    exact ((((lexed.word "JSON_EXTRACT(" (by decide)).followed
      (inert_renderColumn lexed _ _).splices).followed (lexed.word ", " (by decide))).after
        (lexed.placeholder literal (some path))).followed (lexed.word ")" (by decide))
  | tablePresence | ctePresence => exact .ok (splicesTo_plain (inert_qualifiedName lexed _ _))

theorem agree_compilePredicate (lexed : Lexed lexer dialect)
    (subqueries : SubqueriesAgree lexer literal coded shown) (includeCtes : Bool)
    (predicate : Predicate Value) :
    Agree (SplicesTo lexer literal)
      (compilePredicate heap casefold dialect encoders (fun _ => dialect.placeholder) scope coded
        includeCtes predicate)
      (compilePredicate heap casefold dialect encoders literal scope shown includeCtes
        predicate) := by
  have blank : Splices lexer literal " ".toList [] " ".toList := lexed.word " " (by decide)
  cases predicate with
  | comparison operand operator value =>
    cases value with
    | none => exact .error _
    | some value =>
      apply (agree_renderSelectable lexed subqueries operand).bind
      intro rendered rendered' renders
      apply Agree.bind_same
      intro encoded
      refine .ok ⟨by simp only [renders.params], ?_⟩
      exact (((renders.sql.followed blank).followed
        (inert_comparisonOperator lexed operator).splices).followed blank).append
          (lexed.placeholder literal encoded)
  | null operand negated =>
    apply (agree_renderSelectable lexed subqueries operand).bind
    intro rendered rendered' renders
    refine .ok ⟨renders.params, ?_⟩
    exact (renders.sql.followed blank).followed
      (lexed.choice negated "IS NOT NULL" "IS NULL" (by decide) (by decide))
  | membership operand values negated =>
    by_cases empty : values.isEmpty
    · simp only [compilePredicate, empty, if_true]
      exact .error _
    · by_cases missing : values.any Option.isNone
      · simp only [compilePredicate, empty, missing, if_true]
        exact .error _
      · simp only [compilePredicate, empty, missing]
        apply (agree_renderSelectable lexed subqueries operand).bind
        intro rendered rendered' renders
        apply Agree.bind_same
        intro encoded
        refine .ok ⟨by simp only [renders.params], ?_⟩
        have marks := (splicesEach_marks lexed literal encoded).join (lexed.word ", " (by decide))
        exact (((((renders.sql.followed blank).followed
          (lexed.choice negated "NOT IN" "IN" (by decide) (by decide))).followed
            (lexed.word " (" (by decide))).append marks).followed (lexed.word ")" (by decide)))
  | between operand low high =>
    by_cases missing : low.isNone || high.isNone
    · simp only [compilePredicate, missing, if_true]
      exact .error _
    · simp only [compilePredicate, missing]
      apply (agree_renderSelectable lexed subqueries operand).bind
      intro rendered rendered' renders
      apply Agree.bind_same
      intro lower
      apply Agree.bind_same
      intro upper
      refine .ok ⟨by simp only [renders.params], ?_⟩
      have bounds := ((lexed.placeholder literal lower).followed
        (lexed.word " AND " (by decide))).append (lexed.placeholder literal upper)
      have whole := (renders.sql.followed (lexed.word " BETWEEN " (by decide))).append bounds
      simpa only [List.append_assoc, List.singleton_append] using whole
  | like operand pattern negated =>
    by_cases text : operand.isText
    · simp only [compilePredicate, text, Bool.not_true]
      apply (agree_renderSelectable lexed subqueries operand).bind
      intro rendered rendered' renders
      apply Agree.bind_same
      intro encoded
      refine .ok ⟨by simp only [renders.params], ?_⟩
      exact (((renders.sql.followed blank).followed
        (lexed.choice negated "NOT LIKE" "LIKE" (by decide) (by decide))).followed blank).append
          (lexed.placeholder literal encoded)
    · simp only [compilePredicate, text, Bool.not_false, if_true]
      exact .error _
  | columnComparison operand operator other =>
    have rightOperand : Agree (SplicesTo lexer literal)
        (compileRightOperand heap casefold dialect encoders (fun _ => dialect.placeholder) scope
          coded includeCtes other)
        (compileRightOperand heap casefold dialect encoders literal scope shown includeCtes
          other) := by
      have rendered := agree_renderSelectable lexed subqueries other
      unfold compileRightOperand
      split
      · exact agree_compileScalar lexed subqueries includeCtes _
      · exact Agree.bind_same _ (fun _ => rendered)
    rw [compilePredicate_columnComparison, compilePredicate_columnComparison]
    apply Agree.bind_same
    intro _
    apply (agree_renderSelectable lexed subqueries operand).bind
    intro rendered rendered' renders
    apply rightOperand.bind
    intro right right' rights
    refine .ok ⟨by simp only [renders.params, rights.params], ?_⟩
    exact (((renders.sql.followed blank).followed
      (inert_comparisonOperator lexed operator).splices).followed blank).append rights.sql
  | subqueryMembership operand nested negated =>
    apply Agree.bind_same
    intro _
    apply (agree_renderSelectable lexed subqueries operand).bind
    intro rendered rendered' renders
    apply (agree_compileScalar lexed subqueries includeCtes nested).bind
    intro select select' selects
    refine .ok ⟨by simp only [renders.params, selects.params], ?_⟩
    exact (((renders.sql.followed blank).followed
      (lexed.choice negated "NOT IN" "IN" (by decide) (by decide))).followed blank).append
        selects.sql
  | existence nested negated =>
    apply Agree.bind_same
    intro _
    apply (subqueries includeCtes nested).bind
    intro select select' selects
    refine .ok ⟨selects.params, ?_⟩
    exact (((lexed.choice negated "NOT EXISTS" "EXISTS" (by decide) (by decide)).followed
      (lexed.word " (" (by decide))).after selects.sql).followed (lexed.word ")" (by decide))
  | compound operator left right =>
    apply (agree_compilePredicate lexed subqueries includeCtes left).bind
    intro first first' firsts
    apply (agree_compilePredicate lexed subqueries includeCtes right).bind
    intro second second' seconds
    refine .ok ⟨by simp only [firsts.params, seconds.params], ?_⟩
    exact ((((((lexed.word "(" (by decide)).after firsts.sql).followed
      (lexed.word ") " (by decide))).followed (inert_compoundOperator lexed operator).splices).followed
        (lexed.word " (" (by decide))).append seconds.sql).followed (lexed.word ")" (by decide))
  | negated child =>
    apply (agree_compilePredicate lexed subqueries includeCtes child).bind
    intro inner inner' inners
    refine .ok ⟨inners.params, ?_⟩
    exact ((lexed.word "NOT (" (by decide)).after inners.sql).followed (lexed.word ")" (by decide))

end

end Expressions

/-! ## Selects -/

section Selects

variable {heap : Heap Value} {casefold : String → String} {dialect : QueryDialect}
  {encoders : Encoders Value} {lexer : Lexer Mode} {literal : Option Value → Text}
  {coded shown : Nat → SelectCompiler Value}

/-- Compilers of selects that agree in the two runs. -/
def SelectsAgree (lexer : Lexer Mode) (literal : Option Value → Text)
    (coded shown : Nat → SelectCompiler Value) : Prop :=
  ∀ index outer presenceName, Agree (SplicesTo lexer literal) (coded index outer presenceName)
    (shown index outer presenceName)

theorem SelectsAgree.nested (selects : SelectsAgree lexer literal coded shown)
    (scope : ScopeResolver) :
    SubqueriesAgree lexer literal (nestedSelect coded scope) (nestedSelect shown scope) :=
  fun _ nested => selects nested (some scope) none

section

variable (lexed : Lexed lexer dialect)
include lexed

theorem inert_compileSourceSql {marker : Option String} {source : Relation} {text : Text}
    (compiled : compileSourceSql heap dialect marker source = .ok text) : Inert lexer text := by
  have name := lexed.quoteIdentifier source.tableName
  have renamed {physical : String} :
      Inert lexer (dialect.quoteIdentifier physical ++ " AS ".toList ++
        dialect.quoteIdentifier source.tableName) :=
    ((lexed.quoteIdentifier physical).append (lexed.ordinary _ (by decide))).append name
  unfold compileSourceSql at compiled
  cases physical : source.physical with
  | none =>
    cases found : source.definition.bind (fun position => heap.definitions[position]?) with
    | none => simp [physical, found] at compiled
    | some definition =>
      simp only [physical, found, Except.ok.injEq] at compiled
      subst compiled
      split
      · exact lexed.quoteIdentifier _
      · exact renamed
  | some table =>
    cases marker with
    | none =>
      simp only [physical, Except.ok.injEq] at compiled
      subst compiled
      split
      · exact renamed
      · exact name
    | some marker =>
      simp only [physical, Except.ok.injEq] at compiled
      subst compiled
      have columns : Inert lexer (joinWith ", ".toList
          (table.columns.map (fun column => dialect.quoteIdentifier column.name))) := by
        apply (lexed.ordinary ", ".toList (by decide)).join
        intro part listed
        obtain ⟨column, _, rfl⟩ := List.mem_map.mp listed
        exact lexed.quoteIdentifier _
      exact ((((((lexed.ordinary "(SELECT ".toList (by decide)).append columns).append
        (lexed.ordinary ", 1 AS ".toList (by decide))).append (lexed.quoteIdentifier _)).append
          (lexed.ordinary " FROM ".toList (by decide))).append (lexed.quoteIdentifier _)).append
            (lexed.ordinary ") AS ".toList (by decide)) |>.append name

theorem inert_setOperator (operator : SetOperator) : Inert lexer operator.sql := by
  cases operator with
  | union | unionAll => exact lexed.ordinary _ (by decide)

theorem inert_joinType (joinType : JoinType) : Inert lexer joinType.sql := by
  cases joinType with
  | inner | left => exact lexed.ordinary _ (by decide)

theorem inert_direction (direction : Direction) : Inert lexer direction.sql := by
  cases direction with
  | asc | desc => exact lexed.ordinary _ (by decide)

theorem agree_compileSelectSource (selects : SelectsAgree lexer literal coded shown)
    (state : SelectState Value) (marker : Option String) :
    Agree (SplicesTo lexer literal) (compileSelectSource heap dialect coded state marker)
      (compileSelectSource heap dialect shown state marker) := by
  have blank : Splices lexer literal " ".toList [] " ".toList := lexed.word " " (by decide)
  unfold compileSelectSource
  cases state.compound with
  | none =>
    cases compiled : compileSourceSql heap dialect marker state.model with
    | error failure => exact .error failure
    | ok text => exact .ok (splicesTo_plain (inert_compileSourceSql lexed compiled))
  | some compound =>
    apply (selects compound.left none none).bind
    intro left left' lefts
    apply (selects compound.right none none).bind
    intro right right' rights
    refine .ok ⟨by simp only [lefts.params, rights.params], ?_⟩
    exact (((((((lexed.word "(" (by decide)).after lefts.sql).followed blank).followed
      (inert_setOperator lexed compound.operator).splices).followed blank).append rights.sql).followed
        (lexed.word ") AS " (by decide))).followed (lexed.quoteIdentifier _).splices

/-! ## Projections -/

theorem agree_compileField (selects : SelectsAgree lexer literal coded shown)
    (scope : ScopeResolver) (field : Selectable Value) :
    Agree (SplicesTo lexer literal)
      (compileField heap casefold dialect encoders (fun _ => dialect.placeholder) coded scope field)
      (compileField heap casefold dialect encoders literal shown scope field) := by
  unfold compileField
  split
  · exact agree_compileScalar lexed (selects.nested scope) false _
  · exact agree_renderSelectable lexed (selects.nested scope) field

theorem splicesEach_labelled {parts texts : List Text} {values : List (Option Value)}
    (each : SplicesEach lexer literal parts values texts) (labels : List String)
    (width : parts.length = labels.length) :
    SplicesEach lexer literal (labelled dialect parts labels) values
      (labelled dialect texts labels) := by
  induction each generalizing labels with
  | nil => exact .nil
  | cons head tail ih =>
    cases labels with
    | nil => cases width
    | cons label labels =>
      refine .cons ?_ (ih labels (Nat.succ.inj width))
      exact (head.followed (lexed.word " AS " (by decide))).followed
        (lexed.quoteIdentifier label).splices

theorem agree_nameColumns (state : SelectState Value) {parts texts : List Text}
    {values : List (Option Value)} (each : SplicesEach lexer literal parts values texts) :
    Agree (fun named named' => SplicesEach lexer literal named values named')
      (nameColumns dialect state parts) (nameColumns dialect state texts) := by
  unfold nameColumns
  cases state.namedProjection with
  | none => exact .ok each
  | some projection =>
    simp only [each.length_eq]
    split
    · next width => exact .ok (splicesEach_labelled lexed each _ width)
    · exact .error _

theorem agree_compileSelectList (selects : SelectsAgree lexer literal coded shown)
    (scope : ScopeResolver) (presenceName : Option String) (state : SelectState Value) :
    Agree (SplicesTo lexer literal)
      (compileSelectList heap casefold dialect encoders (fun _ => dialect.placeholder) coded scope
        presenceName state)
      (compileSelectList heap casefold dialect encoders literal shown scope presenceName state) := by
  apply (agree_compileEach (agree_compileField lexed selects scope) state.fields).bind
  intro fields fields' each
  apply (agree_nameColumns lexed state (SplicesEach.of_fragments each)).bind
  intro named named' columns
  refine .ok ⟨params_of_fragments each, ?_⟩
  have presence : SplicesEach lexer literal
      (presenceName.toList.map (fun name => "1 AS ".toList ++ dialect.quoteIdentifier name)) []
      (presenceName.toList.map (fun name => "1 AS ".toList ++ dialect.quoteIdentifier name)) := by
    apply SplicesEach.of_inert
    intro part listed
    obtain ⟨name, _, rfl⟩ := List.mem_map.mp listed
    exact (lexed.word "1 AS " (by decide)).followed (lexed.quoteIdentifier name).splices
  have all := columns.append presence
  rw [List.append_nil] at all
  exact all.join (lexed.word ", " (by decide))

/-! ## Clauses -/

theorem agree_compileJoins (selects : SelectsAgree lexer literal coded shown)
    (outerModels visible : List Relation) (markers : List (Option String))
    (joins : List (JoinSpec Value)) :
    Agree (ClausesTo lexer literal)
      (compileJoins heap casefold dialect encoders (fun _ => dialect.placeholder) coded outerModels
        visible markers joins)
      (compileJoins heap casefold dialect encoders literal shown outerModels visible markers
        joins) := by
  induction joins generalizing visible markers with
  | nil => exact .ok ⟨rfl, .nil⟩
  | cons join rest ih =>
    simp only [compileJoins]
    cases compiled : compileSourceSql heap dialect (markers.headD none) join.model with
    | error failure => exact .error failure
    | ok table =>
      have source := inert_compileSourceSql lexed compiled
      apply (agree_compilePredicate lexed (selects.nested _) false join.predicate).bind
      intro on on' ons
      apply (ih (visible ++ [join.model]) markers.tail).bind
      intro after after' afters
      refine .ok ⟨by simp only [ons.params, afters.params], .cons ?_ afters.parts⟩
      exact ((((inert_joinType lexed join.joinType).splices.followed
        (lexed.word " JOIN " (by decide))).followed source.splices).followed
          (lexed.word " ON " (by decide))).after ons.sql

theorem agree_compilePredicates (scope : ScopeResolver)
    {codedNested shownNested : Bool → Nat → Except QueryError (Fragment (Option Value))}
    (subqueries : SubqueriesAgree lexer literal codedNested shownNested) (includeCtes : Bool)
    (predicates : List (Predicate Value)) :
    Agree (SplicesTo lexer literal)
      (compilePredicates heap casefold dialect encoders (fun _ => dialect.placeholder) scope
        codedNested includeCtes predicates)
      (compilePredicates heap casefold dialect encoders literal scope shownNested includeCtes
        predicates) := by
  apply (agree_compileEach (agree_compilePredicate lexed subqueries includeCtes) predicates).bind
  intro compiled compiled' each
  refine .ok ⟨params_of_fragments each, ?_⟩
  have bracketed := (SplicesEach.of_fragments each).map
    (fun sql values text (part : Splices lexer literal sql values text) =>
      ((lexed.word "(" (by decide)).after part).followed (lexed.word ")" (by decide)))
  simp only [List.map_map] at bracketed
  exact bracketed.join (lexed.word " AND " (by decide))

theorem agree_compileFilter (selects : SelectsAgree lexer literal coded shown) (keyword : String)
    (ordinary : keyword.toList.all isOrdinary = true) (scope : ScopeResolver)
    (predicates : List (Predicate Value)) :
    Agree (ClausesTo lexer literal)
      (compileFilter heap casefold dialect encoders (fun _ => dialect.placeholder) coded keyword
        scope predicates)
      (compileFilter heap casefold dialect encoders literal shown keyword scope predicates) := by
  unfold compileFilter
  split
  · exact .ok ⟨rfl, .nil⟩
  · apply (agree_compilePredicates lexed scope (selects.nested scope) false predicates).bind
    intro filter filter' filters
    refine .ok ⟨filters.params, .single ?_⟩
    exact ((lexed.word keyword ordinary).followed (lexed.word " " (by decide))).after filters.sql

theorem splicesEach_compileGroupBy (heap : Heap Value) (scope : ScopeResolver)
    (groupings : List ColumnRef) :
    SplicesEach lexer literal (compileGroupBy heap dialect scope groupings) []
      (compileGroupBy heap dialect scope groupings) := by
  apply SplicesEach.of_inert
  intro part listed
  unfold compileGroupBy at listed
  split at listed
  · cases listed
  · obtain rfl := List.mem_singleton.mp listed
    have columns : Inert lexer (joinWith ", ".toList
        (groupings.map (renderColumn heap dialect scope.qualified))) := by
      apply (lexed.ordinary ", ".toList (by decide)).join
      intro part listed
      obtain ⟨column, _, rfl⟩ := List.mem_map.mp listed
      exact inert_renderColumn lexed _ _
    exact ((lexed.ordinary "GROUP BY ".toList (by decide)).append columns).splices

/-- An ordering binds no value. -/
theorem agree_compileOrdering (selects : SelectsAgree lexer literal coded shown)
    (scope : ScopeResolver) (ordering : OrderBy Value) :
    Agree (fun sql text => Splices lexer literal sql [] text)
      (compileOrdering heap casefold dialect encoders (fun _ => dialect.placeholder) coded scope
        ordering)
      (compileOrdering heap casefold dialect encoders literal shown scope ordering) := by
  apply Agree.bind_same
  intro _
  apply (agree_renderSelectable lexed (selects.nested scope) ordering.column).bind
  intro rendered rendered' renders
  rw [renders.params]
  split
  · next unbound =>
    have sql := renders.sql
    rw [List.isEmpty_iff.mp unbound] at sql
    exact .ok ((sql.followed (lexed.word " " (by decide))).followed
      (inert_direction lexed ordering.direction).splices)
  · exact .error _

theorem agree_compileOrderBy (selects : SelectsAgree lexer literal coded shown)
    (scope : ScopeResolver) (orderings : List (OrderBy Value)) :
    Agree (fun parts texts => SplicesEach lexer literal parts [] texts)
      (compileOrderBy heap casefold dialect encoders (fun _ => dialect.placeholder) coded scope
        orderings)
      (compileOrderBy heap casefold dialect encoders literal shown scope orderings) := by
  unfold compileOrderBy
  split
  · exact .ok .nil
  · apply (agree_compileEach (agree_compileOrdering lexed selects scope) orderings).bind
    intro parts texts each
    have joined := (SplicesEach.of_texts each).join (lexed.word ", " (by decide))
    exact .ok (.single ((lexed.word "ORDER BY " (by decide)).after joined))

theorem clausesTo_compileLimitOffset (literal : Option Value → Text) (state : SelectState Value) :
    ClausesTo lexer literal (compileLimitOffset dialect (fun _ => dialect.placeholder) state)
      (compileLimitOffset dialect literal state) := by
  have limited (value : Value) : Splices lexer literal ("LIMIT ".toList ++ dialect.placeholder)
      [some value] ("LIMIT ".toList ++ literal (some value)) :=
    (lexed.word "LIMIT " (by decide)).after (lexed.placeholder literal (some value))
  have skipped (value : Value) : Splices lexer literal ("OFFSET ".toList ++ dialect.placeholder)
      [some value] ("OFFSET ".toList ++ literal (some value)) :=
    (lexed.word "OFFSET " (by decide)).after (lexed.placeholder literal (some value))
  unfold compileLimitOffset
  split
  · exact ⟨rfl, .nil⟩
  · exact ⟨rfl, .single (limited _)⟩
  · exact ⟨rfl, .cons lexed.offsetOnlyLimit.splices (.single (skipped _))⟩
  · exact ⟨rfl, .cons (limited _) (.single (skipped _))⟩

theorem splicesEach_compileLockingClause {state : SelectState Value} {nested : Bool}
    {locking : List Text} (compiled : compileLockingClause dialect state nested = .ok locking) :
    SplicesEach lexer literal locking [] locking := by
  apply SplicesEach.of_inert
  unfold compileLockingClause at compiled
  split at compiled
  · cases compiled
    intro part listed
    cases listed
  · cases compiled
  · next wait forUpdateSql waits known =>
    split at compiled
    · cases compiled
    · split at compiled
      · cases compiled
      · split at compiled
        · cases compiled
        · cases compiled
          intro part listed
          obtain rfl := List.mem_singleton.mp listed
          exact (lexed.forUpdate _ known wait).splices

/-! ## States -/

theorem agree_compileClauses (selects : SelectsAgree lexer literal coded shown)
    (state : SelectState Value) (shape : List (Option String)) (scope : ScopeResolver)
    (nested : Bool) (presenceName : Option String) :
    Agree (SplicesTo lexer literal)
      (compileClauses heap casefold dialect encoders (fun _ => dialect.placeholder) coded state
        shape scope nested presenceName)
      (compileClauses heap casefold dialect encoders literal shown state shape scope nested
        presenceName) := by
  unfold compileClauses
  apply (agree_compileSelectList lexed selects scope presenceName state).bind
  intro columns columns' columnsTo
  apply (agree_compileSelectSource lexed selects state (shape.headD none)).bind
  intro source source' sourceTo
  apply (agree_compileJoins lexed selects scope.outerModels [state.model] shape.tail
    state.joins).bind
  intro joins joins' joinsTo
  apply (agree_compileFilter lexed selects "WHERE" (by decide) scope state.predicates).bind
  intro filter filter' filterTo
  apply Agree.bind_same
  intro _
  apply (agree_compileFilter lexed selects "HAVING" (by decide) scope state.having).bind
  intro having having' havingTo
  apply (agree_compileOrderBy lexed selects scope state.orderings).bind
  intro orderBy orderBy' orderByTo
  cases locked : compileLockingClause dialect state nested with
  | error failure => exact .error failure
  | ok locking =>
    have limit := clausesTo_compileLimitOffset lexed literal state
    refine .ok ⟨by simp only [columnsTo.params, sourceTo.params, joinsTo.params, filterTo.params,
      havingTo.params, limit.params], ?_⟩
    -- The values of the clauses, in the order of their texts.
    have first : Splices lexer literal
        ((if state.distinct then "SELECT DISTINCT" else "SELECT").toList ++ " ".toList ++
          columns.sql ++ " FROM ".toList ++ source.sql) (columns.params ++ source.params)
        ((if state.distinct then "SELECT DISTINCT" else "SELECT").toList ++ " ".toList ++
          columns'.sql ++ " FROM ".toList ++ source'.sql) :=
      ((((lexed.choice state.distinct "SELECT DISTINCT" "SELECT" (by decide) (by decide)).followed
        (lexed.word " " (by decide))).after columnsTo.sql).followed
          (lexed.word " FROM " (by decide))).append sourceTo.sql
    have clauses := (((((((SplicesEach.single first).append joinsTo.parts).append
      filterTo.parts).append (splicesEach_compileGroupBy lexed heap scope state.groupings)).append
        havingTo.parts).append orderByTo).append limit.parts).append
          (splicesEach_compileLockingClause lexed locked)
    simp only [List.append_nil] at clauses
    exact clauses.join (lexed.word " " (by decide))

theorem agree_compileSelectStep (selects : SelectsAgree lexer literal coded shown) (index : Nat)
    (outer : Option ScopeResolver) (presenceName : Option String) :
    Agree (SplicesTo lexer literal)
      (compileSelectStep heap casefold dialect encoders (fun _ => dialect.placeholder) coded index
        outer presenceName)
      (compileSelectStep heap casefold dialect encoders literal shown index outer presenceName) := by
  unfold compileSelectStep
  cases heap.states[index]? with
  | none => exact .error _
  | some state =>
    apply Agree.bind_same
    intro shape
    apply Agree.bind_same
    intro scope
    apply Agree.bind_same
    intro _
    apply Agree.bind_same
    intro _
    apply Agree.bind_same
    intro _
    exact agree_compileClauses lexed selects state shape scope outer.isSome presenceName

/-- Every select, however deep its nested ones are. -/
theorem agree_compileSelectState :
    SelectsAgree lexer literal
      (compileSelectState heap casefold dialect encoders (fun _ => dialect.placeholder))
      (compileSelectState heap casefold dialect encoders literal) := by
  intro index
  apply Creation.value_related (fun _ (coded shown : SelectCompiler Value) =>
    ∀ outer presenceName, Agree (SplicesTo lexer literal) (coded outer presenceName)
      (shown outer presenceName))
  · intro _ outer presenceName
    exact .error _
  · intro index coded shown older outer presenceName
    exact agree_compileSelectStep lexed older index outer presenceName

theorem agree_compileMember (presenceName : String) (recursiveStep : Option Nat)
    {body body' : Fragment (Option Value)} (bodies : SplicesTo lexer literal body body') :
    Agree (SplicesTo lexer literal)
      (compileMember heap casefold dialect encoders (fun _ => dialect.placeholder) presenceName
        recursiveStep body)
      (compileMember heap casefold dialect encoders literal presenceName recursiveStep body') := by
  unfold compileMember
  cases recursiveStep with
  | none => exact .ok bodies
  | some member =>
    apply (agree_compileSelectState lexed member none (some presenceName)).bind
    intro step step' steps
    refine .ok ⟨by simp only [bodies.params, steps.params], ?_⟩
    exact (bodies.sql.followed (lexed.word " UNION ALL " (by decide))).append steps.sql

theorem agree_compileDefinition (position : Nat) :
    Agree (SplicesTo lexer literal)
      (compileDefinition heap casefold dialect encoders (fun _ => dialect.placeholder) position)
      (compileDefinition heap casefold dialect encoders literal position) := by
  unfold compileDefinition
  cases heap.definitions[position]? with
  | none => exact .error _
  | some definition =>
    apply (agree_compileSelectState lexed definition.state none _).bind
    intro anchor anchor' anchors
    apply (agree_compileMember lexed _ definition.recursiveStep anchors).bind
    intro body body' bodies
    refine .ok ⟨bodies.params, ?_⟩
    exact (((lexed.quoteIdentifier definition.name).splices.followed
      (lexed.word " AS (" (by decide))).after bodies.sql).followed (lexed.word ")" (by decide))

theorem agree_compileSelect (outer : Option ScopeResolver) (index : Nat) :
    Agree (SplicesTo lexer literal)
      (compileSelect heap casefold dialect encoders (fun _ => dialect.placeholder) outer index)
      (compileSelect heap casefold dialect encoders literal outer index) := by
  unfold compileSelect
  apply Agree.bind_same
  intro definitions
  apply (agree_compileSelectState lexed index outer none).bind
  intro main main' mains
  split
  · exact .ok mains
  · apply (agree_compileEach (agree_compileDefinition lexed) definitions).bind
    intro parts parts' each
    refine .ok ⟨by simp only [params_of_fragments each, mains.params], ?_⟩
    have listed := (SplicesEach.of_fragments each).join (lexed.word ", " (by decide))
    exact ((((lexed.choice _ "WITH RECURSIVE" "WITH" (by decide) (by decide)).followed
      (lexed.word " " (by decide))).after listed).followed (lexed.word " " (by decide))).append
        mains.sql

end

end Selects

end Snekql.Query
