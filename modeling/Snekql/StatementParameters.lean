import Snekql.ParameterOrder

/-!
# Statements and their values

Inserts, updates and deletes bind their values in the order of their text too, and so does
every statement on both backends: replacing the placeholders from left to right by the
returned values gives the text that renders each value where it belongs.
-/

namespace Snekql.Query

open Snekql.Splicing Snekql.Outcomes

variable {Value Mode : Type}

section Writes

variable {heap : Heap Value} {casefold : String → String} {dialect : QueryDialect}
  {encoders : Encoders Value} {lexer : Lexer Mode} {literal : Option Value → Text}

section

variable (lexed : Lexed lexer dialect)
include lexed

theorem inert_labelled {parts : List Text} (labels : List String)
    (each : ∀ part ∈ parts, Inert lexer part) :
    ∀ part ∈ labelled dialect parts labels, Inert lexer part := by
  induction parts generalizing labels with
  | nil =>
    intro part listed
    cases listed
  | cons first rest ih =>
    cases labels with
    | nil =>
      intro part listed
      cases listed
    | cons label labels =>
      intro part listed
      obtain rfl | later := List.mem_cons.mp listed
      · exact ((each first List.mem_cons_self).append (lexed.ordinary _ (by decide))).append
          (lexed.quoteIdentifier label)
      · exact ih labels
          (fun part listed => each part (List.mem_cons_of_mem _ listed)) part later

theorem inert_returningClause {model : Table} {fields : List (Selectable Value)}
    {projection : Option NamedProjection} {text : Text}
    (compiled : returningClause dialect model fields projection = .ok text) : Inert lexer text := by
  have quoted (columns : List Column) : ∀ part ∈
      columns.map (fun column => dialect.quoteIdentifier column.name), Inert lexer part := by
    intro part listed
    obtain ⟨column, _, rfl⟩ := List.mem_map.mp listed
    exact lexed.quoteIdentifier _
  have clause {parts : List Text} (each : ∀ part ∈ parts, Inert lexer part) :
      Inert lexer (" RETURNING ".toList ++ joinWith ", ".toList parts) :=
    (lexed.ordinary " RETURNING ".toList (by decide)).append
      ((lexed.ordinary ", ".toList (by decide)).join each)
  obtain ⟨columns, _, returned⟩ := bind_eq_ok.mp compiled
  cases projection with
  | none =>
    cases returned
    exact clause (quoted columns)
  | some projection =>
    dsimp only at returned
    split at returned
    · cases returned
      exact clause (inert_labelled lexed _ (quoted columns))
    · cases returned

theorem inert_compileReturning {model : Table} {returning : Bool} {fields : List (Selectable Value)}
    {projection : Option NamedProjection} {text : Text}
    (compiled : compileReturning dialect model returning fields projection = .ok text) :
    Inert lexer text := by
  unfold compileReturning at compiled
  split at compiled
  · exact inert_returningClause lexed compiled
  · cases compiled
    exact Inert.nil

/-- `name = text`. -/
theorem splicesTo_assigned (name : String) {text : Text} (inert : Inert lexer text) :
    SplicesTo lexer literal (plain (dialect.quoteIdentifier name ++ " = ".toList ++ text))
      (plain (dialect.quoteIdentifier name ++ " = ".toList ++ text)) :=
  splicesTo_plain (((lexed.quoteIdentifier name).append (lexed.ordinary _ (by decide))).append
    inert)

/-- `name = value`. -/
theorem splices_assignment (name : String) {sql text : Text} {values : List (Option Value)}
    (value : Splices lexer literal sql values text) :
    Splices lexer literal (dialect.quoteIdentifier name ++ " = ".toList ++ sql) values
      (dialect.quoteIdentifier name ++ " = ".toList ++ text) :=
  ((lexed.quoteIdentifier name).splices.followed (lexed.word " = " (by decide))).after value

/-! ## Inserts -/

theorem agree_compileConflictAssignment (model : Table) (assignment : Assignment Value) :
    Agree (SplicesTo lexer literal)
      (compileConflictAssignment dialect encoders (fun _ => dialect.placeholder) model assignment)
      (compileConflictAssignment dialect encoders literal model assignment) := by
  unfold compileConflictAssignment
  split
  · exact .error _
  · apply Agree.bind_same
    intro column
    exact .ok (splicesTo_assigned lexed column.name
      (lexed.insertedValue _ (lexed.quoteIdentifier column.name)))
  · apply Agree.bind_same
    intro column
    cases now : dialect.currentTimestampSql column with
    | error failure => exact .error failure
    | ok text => exact .ok (splicesTo_assigned lexed column.name (lexed.currentTimestamp _ _ now))
  · apply Agree.bind_same
    intro column
    apply Agree.bind_same
    intro encoded
    exact .ok ⟨rfl, splices_assignment lexed column.name (lexed.placeholder literal encoded)⟩

theorem agree_compileInsertConflict (model : Table) (state : InsertState Value) :
    Agree (SplicesTo lexer literal)
      (compileInsertConflict dialect encoders (fun _ => dialect.placeholder) model state)
      (compileInsertConflict dialect encoders literal model state) := by
  have targets : ∀ target ∈
      state.conflictTargets.map (fun column => dialect.quoteIdentifier column.name),
      Inert lexer target := by
    intro target listed
    obtain ⟨column, _, rfl⟩ := List.mem_map.mp listed
    exact lexed.quoteIdentifier _
  unfold compileInsertConflict
  cases state.conflictAction with
  | none => exact .ok (splicesTo_plain Inert.nil)
  | some action =>
    cases action with
    | doNothing =>
      simp only
      split
      · exact .error _
      · exact .ok (splicesTo_plain (lexed.conflictDoNothing _ targets))
    | doUpdate assignments =>
      apply (agree_compileEach (agree_compileConflictAssignment lexed model) assignments).bind
      intro parts parts' each
      refine .ok ⟨params_of_fragments each, ?_⟩
      have listed := (SplicesEach.of_fragments each).join (lexed.word ", " (by decide))
      obtain ⟨before, inert, shape⟩ := lexed.conflictUpdate _ targets
      simp only [shape]
      exact inert.splices.after listed

/-- The groups of placeholders of the rows. -/
theorem splicesEach_groups (literal : Option Value → Text) (rows : List (List (Option Value))) :
    SplicesEach lexer literal
      (rows.map (fun values => "(".toList ++
        joinWith ", ".toList (values.map (fun _ => dialect.placeholder)) ++ ")".toList))
      rows.flatten
      (rows.map (fun values => "(".toList ++
        joinWith ", ".toList (values.map literal) ++ ")".toList)) := by
  induction rows with
  | nil => exact .nil
  | cons values rest ih =>
    have marks := (splicesEach_marks lexed literal values).join (lexed.word ", " (by decide))
    exact .cons (((lexed.word "(" (by decide)).after marks).followed (lexed.word ")" (by decide)))
      ih

theorem agree_compileValues (model : Table) (state : InsertState Value) (names : List String)
    (rows : List (List (Option Value))) {returning : Text} (inert : Inert lexer returning) :
    Agree (SplicesTo lexer literal)
      (compileValues dialect encoders (fun _ => dialect.placeholder) model state names rows
        returning)
      (compileValues dialect encoders literal model state names rows returning) := by
  apply (agree_compileInsertConflict lexed model state).bind
  intro conflict conflict' conflicts
  refine .ok ⟨by simp only [conflicts.params], ?_⟩
  have columns : Inert lexer (joinWith ", ".toList (names.map dialect.quoteIdentifier)) := by
    apply (lexed.ordinary ", ".toList (by decide)).join
    intro part listed
    obtain ⟨name, _, rfl⟩ := List.mem_map.mp listed
    exact lexed.quoteIdentifier name
  have values := (splicesEach_groups lexed literal rows).join (lexed.word ", " (by decide))
  exact (((((((lexed.word "INSERT INTO " (by decide)).followed
    (lexed.quoteIdentifier model.name).splices).followed (lexed.word " (" (by decide))).followed
      columns.splices).followed (lexed.word ") VALUES " (by decide))).after values).append
        conflicts.sql).followed inert.splices

theorem agree_compileInsert (state : InsertState Value) :
    Agree (SplicesTo lexer literal)
      (compileInsert dialect encoders (fun _ => dialect.placeholder) state)
      (compileInsert dialect encoders literal state) := by
  unfold compileInsert
  split
  · exact .error _
  · exact .error _
  · next model first rest _ _ =>
    apply Agree.bind_same
    intro head
    apply Agree.bind_same
    intro others
    dsimp only
    split
    · exact .error _
    · cases compiled : compileReturning dialect model state.returning state.returningFields
          state.namedProjection with
      | error failure => exact .error failure
      | ok returning =>
        have inert := inert_compileReturning lexed compiled
        dsimp only [Bind.bind, Except.bind]
        split
        · unfold compileEmptyInsert
          split
          · exact .error _
          · split
            · exact .error _
            · exact .ok (splicesTo_plain
                ((lexed.emptyInsert _ (lexed.quoteIdentifier model.name)).append inert))
        · exact agree_compileValues lexed model state _ _ inert

/-! ## Updates and deletes -/

theorem agree_writeSubquery (scope : ScopeResolver) :
    SubqueriesAgree lexer literal
      (writeSubquery heap casefold dialect encoders (fun _ => dialect.placeholder) scope)
      (writeSubquery heap casefold dialect encoders literal scope) := by
  intro includeCtes nested
  cases includeCtes with
  | false => exact agree_compileSelectState lexed nested (some scope) none
  | true => exact agree_compileSelect lexed (some scope) nested

theorem agree_compileAssignment (model : Table) (assignment : Assignment Value) :
    Agree (SplicesTo lexer literal)
      (compileAssignment heap casefold dialect encoders (fun _ => dialect.placeholder) model
        assignment)
      (compileAssignment heap casefold dialect encoders literal model assignment) := by
  apply Agree.bind_same
  intro column
  dsimp only
  cases assignment.value with
  | inserted => exact .error _
  | expression expression =>
    apply (agree_compileExpression lexed (agree_writeSubquery lexed _) expression).bind
    intro value value' values
    exact .ok ⟨values.params, splices_assignment lexed column.name values.sql⟩
  | currentTimestamp =>
    cases now : dialect.currentTimestampSql column with
    | error failure => exact .error failure
    | ok text => exact .ok (splicesTo_assigned lexed column.name (lexed.currentTimestamp _ _ now))
  | literal value =>
    apply Agree.bind_same
    intro encoded
    exact .ok ⟨rfl, splices_assignment lexed column.name (lexed.placeholder literal encoded)⟩

theorem agree_compileWriteFilter (model : Table) (predicates : List (Predicate Value)) :
    Agree (SplicesTo lexer literal)
      (compileWriteFilter heap casefold dialect encoders (fun _ => dialect.placeholder) model
        predicates)
      (compileWriteFilter heap casefold dialect encoders literal model predicates) := by
  unfold compileWriteFilter
  split
  · exact .ok (splicesTo_plain Inert.nil)
  · apply (agree_compilePredicates lexed _ (agree_writeSubquery lexed _) true predicates).bind
    intro filter filter' filters
    exact .ok ⟨filters.params, (lexed.word " WHERE " (by decide)).after filters.sql⟩

theorem agree_compileUpdate (state : UpdateState Value) :
    Agree (SplicesTo lexer literal)
      (compileUpdate heap casefold dialect encoders (fun _ => dialect.placeholder) state)
      (compileUpdate heap casefold dialect encoders literal state) := by
  unfold compileUpdate
  dsimp only
  split
  · exact .error _
  · split
    · exact .error _
    · apply Agree.bind_same
      intro _
      apply (agree_compileEach (agree_compileAssignment lexed state.model) state.assignments).bind
      intro parts parts' each
      apply (agree_compileWriteFilter lexed state.model state.predicates).bind
      intro filter filter' filters
      split
      · exact .error _
      · cases compiled : compileReturning dialect state.model state.returning state.returningFields
            state.namedProjection with
        | error failure => exact .error failure
        | ok returning =>
          have inert := inert_compileReturning lexed compiled
          refine .ok ⟨by simp only [params_of_fragments each, filters.params], ?_⟩
          have assigned := (SplicesEach.of_fragments each).join (lexed.word ", " (by decide))
          exact (((((lexed.word "UPDATE " (by decide)).followed
            (lexed.quoteIdentifier state.model.name).splices).followed
              (lexed.word " SET " (by decide))).after assigned).append filters.sql).followed
                inert.splices

theorem agree_compileDelete (state : DeleteState Value) :
    Agree (SplicesTo lexer literal)
      (compileDelete heap casefold dialect encoders (fun _ => dialect.placeholder) state)
      (compileDelete heap casefold dialect encoders literal state) := by
  unfold compileDelete
  dsimp only
  split
  · exact .error _
  · apply (agree_compileWriteFilter lexed state.model state.predicates).bind
    intro filter filter' filters
    split
    · exact .error _
    · cases compiled : compileReturning dialect state.model state.returning state.returningFields
          state.namedProjection with
      | error failure => exact .error failure
      | ok returning =>
        have inert := inert_compileReturning lexed compiled
        refine .ok ⟨filters.params, ?_⟩
        exact (((lexed.word "DELETE FROM " (by decide)).followed
          (lexed.quoteIdentifier state.model.name).splices).after filters.sql).followed inert.splices

/-! ## Statements -/

theorem agree_compileStatement (literal : Option Value → Text) (statement : Statement Value) :
    Agree (SplicesTo lexer literal)
      (compileStatement heap casefold dialect encoders (fun _ => dialect.placeholder) statement)
      (compileStatement heap casefold dialect encoders literal statement) := by
  cases statement with
  | select state => exact agree_compileSelect lexed none state
  | insert state => exact agree_compileInsert lexed state
  | update state => exact agree_compileUpdate lexed state
  | delete state => exact agree_compileDelete lexed state

end

end Writes

/-- The placeholders of a compiled statement can be replaced, each by the literal of its value. -/
theorem replacePlaceholders_compiled {heap : Heap Value} {casefold : String → String}
    {encoders : Encoders Value} (literal : Option Value → Text) {backend : BackendFamily}
    {statement : Statement Value} {coded : Fragment (Option Value)}
    (compiled : compileStatement heap casefold backend.queryDialect encoders
      (fun _ => backend.queryDialect.placeholder) statement = .ok coded) :
    ∃ shown,
      compileStatement heap casefold backend.queryDialect encoders literal statement =
        .ok shown ∧
      backend.replacePlaceholders literal coded.sql coded.params = some shown.sql := by
  cases backend with
  | sqlite =>
    obtain ⟨shown, returned, spliced⟩ :=
      (agree_compileStatement Sqlite.lexed literal statement).ok_left compiled
    exact ⟨shown, returned, spliced.sql.complete⟩
  | mariadb =>
    obtain ⟨shown, returned, spliced⟩ :=
      (agree_compileStatement Mariadb.lexed literal statement).ok_left compiled
    exact ⟨shown, returned, spliced.sql.complete⟩

/-- A statement that compiles takes its values in the order of its placeholders: replaced
from left to right they give the text with every value rendered at its own node, and there
are as many placeholders as values. -/
theorem parameters_follow_their_placeholders (heap : Heap Value) (casefold : String → String)
    (encoders : Encoders Value) (literal : Option Value → Text) (backend : BackendFamily)
    (statement : Statement Value) (coded : Fragment (Option Value))
    (compiled : compileStatement heap casefold backend.queryDialect encoders
      (fun _ => backend.queryDialect.placeholder) statement = .ok coded) :
    ∃ shown,
      compileStatement heap casefold backend.queryDialect encoders literal statement =
        .ok shown ∧
      backend.replacePlaceholders literal coded.sql coded.params = some shown.sql ∧
      backend.countPlaceholders coded.sql = coded.params.length := by
  obtain ⟨shown, returned, replaced⟩ := replacePlaceholders_compiled literal compiled
  refine ⟨shown, returned, replaced, ?_⟩
  cases backend with
  | sqlite | mariadb => exact holes_of_replace replaced

/-! An update of a table whose name holds a question mark. Its condition reads a definition
and compares with the updated row. -/

namespace StockUpdate

def idColumn : Column where
  name := "id"
  nullable := false
  storageType := "Integer"
  logical := [.int]
  native := some .int
  datetimePrecision := wholeSeconds

def items : Table where
  ident := 0
  name := "items?"
  backend := .sqlite
  columns := [idColumn]

def itemId : ColumnRef := .attr (.table items) idColumn

def recent : Relation := .cte 1 0 0 "recent" .sqlite

def heap : Heap Nat where
  states := [
    { model := .table items,
      fields := [.column itemId],
      namedProjection := some { labels := ["n"], resultType := 0 },
      predicates := [.comparison (.column itemId) .gt (some 5)] },
    { model := recent,
      fields := [.column (.output recent 0)],
      predicates := [.compound .or (.comparison (.column (.output recent 0)) .lt (some 7))
        (.columnComparison (.column (.output recent 0)) .eq (.column itemId))] }]
  definitions := [{ name := "recent", state := 0 }]

def encoders : Encoders Nat where
  comparison := fun _ value => .ok value
  write := fun _ value => .ok value

def statement : Statement Nat := .update {
  model := items
  assignments := [{ ident := 0, column := itemId, value := .literal (some 9) }]
  predicates := [.subqueryMembership (.column itemId) 1 false] }

def compiled (mark : Option Nat → Text) : Except QueryError (Fragment (Option Nat)) :=
  compileStatement heap id BackendFamily.sqlite.queryDialect encoders mark statement

/-- The assigned value, the one of the definition and that of the condition, in this order. -/
theorem params_compiled : (compiled (fun _ => BackendFamily.sqlite.queryDialect.placeholder)).map
    Fragment.params = .ok [some 9, some 5, some 7] := by
  decide

end StockUpdate

theorem parameters_follow_their_placeholders_in_update :
    ∃ coded shown,
      StockUpdate.compiled (fun _ => BackendFamily.sqlite.queryDialect.placeholder) = .ok coded ∧
      StockUpdate.compiled (fun value => Nat.toDigits 10 (value.getD 0)) = .ok shown ∧
      BackendFamily.sqlite.replacePlaceholders (fun value => Nat.toDigits 10 (value.getD 0))
        coded.sql [some 9, some 5, some 7] = some shown.sql ∧
      BackendFamily.sqlite.countPlaceholders coded.sql = 3 := by
  have params := StockUpdate.params_compiled
  cases returned : StockUpdate.compiled
      (fun _ => BackendFamily.sqlite.queryDialect.placeholder) with
  | error failure =>
    rw [returned] at params
    cases params
  | ok coded =>
    rw [returned] at params
    have values : coded.params = [some 9, some 5, some 7] := Except.ok.inj params
    obtain ⟨shown, reference, replaced, counted⟩ :=
      parameters_follow_their_placeholders StockUpdate.heap id StockUpdate.encoders
        (fun value => Nat.toDigits 10 (value.getD 0)) .sqlite StockUpdate.statement coded returned
    rw [values] at replaced counted
    exact ⟨coded, shown, rfl, reference, replaced, counted⟩

end Snekql.Query
