import Mathlib
import Snekql.Dictionaries
import Snekql.SqlTokens

/-!
# Recorded states and their transitions

A recorded state lists the managed tables with the SQL that constructs them. Each operation
of a draft edits that text within bounds and refuses everything else. `contractDigest`
replays a draft up to a named checkpoint, one operation at a time.
-/

namespace Snekql.Recorded

open Snekql.Splicing (Text joinWith)

inductive Backend where
  | sqlite
  | mariadb
deriving DecidableEq, Repr

def Backend.mysql (backend : Backend) : Bool := backend == .mariadb

structure ColumnState where
  name : Text
  definition : Text
  nullable : Bool
  queryType : Option Text
  storage : Text
deriving DecidableEq, Repr

structure TableState where
  name : Text
  sql : Text
  indexes : List Text
  columns : List ColumnState
  quotedName : Text
deriving DecidableEq, Repr

structure State where
  backend : Backend
  tables : List TableState
deriving DecidableEq, Repr

/-- A scalar binding; a float is its bit pattern. -/
inductive Parameter where
  | text (value : Text)
  | integer (value : Int)
  | real (bits : UInt64)
  | boolean (value : Bool)
  | null
deriving DecidableEq, Repr

/-- `RequireNotNull | AllowNull | DropColumn | ChangeDefault`, on one table. -/
inductive ColumnChange where
  | requireNotNull (columnName : Text)
  | allowNull (columnName : Text)
  | dropColumn (columnName : Text)
  | changeDefault (column : ColumnState)
deriving DecidableEq, Repr

/-- The `column_name` of a change. -/
def ColumnChange.columnName : ColumnChange → Text
  | .requireNotNull name => name
  | .allowNull name => name
  | .dropColumn name => name
  | .changeDefault column => column.name

/-- `AddCheck | DropCheck | CreateIndex | DropIndex`, on one table. -/
inductive AuxiliaryChange where
  | addCheck (definition : Text)
  | dropCheck (checkName : Text)
  | createIndex (sql : Text)
  | dropIndex (indexName : Text)
deriving DecidableEq, Repr

structure DataChange where
  checkpoint : Text
  contractDigest : String
  backend : Backend
  sql : Text
  params : List Parameter
deriving DecidableEq, Repr

inductive Operation where
  | createTable (table : TableState)
  | adoptTable (table : TableState)
  | auxiliary (tableName : Text) (change : AuxiliaryChange)
  | addColumn (tableName : Text) (column : ColumnState)
  | contract (tableName : Text) (change : ColumnChange)
  | relinquishTable (tableName : Text)
  | checkpoint (name : Text)
  | dataChange (change : DataChange)
deriving DecidableEq, Repr

structure Draft where
  revision : Text
  predecessor : Option String
  before : State
  target : State
  operations : List Operation
  unresolved : List Text
deriving DecidableEq, Repr

/-- The expression of a CHECK, as far as its column references are read. -/
inductive CheckExpression where
  | node (operator : String) (value : Option Text) (arguments : List CheckExpression)

/-- The grammars of defaults and checks and the agreement checks between a declaration and
its recorded claims, which live outside the compiler, and the digest of a state. -/
structure Grammar where
  unicode : Unicode
  mariadbDefaultParts : Text → Except MigrationError (Text × Option Text)
  boundedCheckExpression : Text → List Token → Except MigrationError CheckExpression
  /-- `validate_nullability_claims` to `validate_inline_reference_claims`, in order. -/
  tableClaims : List (TableState → Backend → Except MigrationError Unit)
  /-- `validate_column_nullability` to `validate_column_inline_reference`, in order. -/
  columnClaims : List (ColumnState → Backend → Except MigrationError Unit)
  digest : State → String

variable (grammar : Grammar)

/-- `raise PackageError(str(error)) from error`, for a `SchemaError`. -/
def asPackage {α : Type} : Except MigrationError α → Except MigrationError α
  | .error (.schema message) => .error (.package message [])
  | outcome => outcome

/-! ## Indexes -/

def tokenAt (stream : List Token) (index : Nat) : Except MigrationError Token :=
  match stream[index]? with
  | some token => .ok token
  | none => .error .index

/-- Quoted columns of the table, separated by commas. -/
def areMembers (columns : List Text) : List Token → Bool
  | [] => false
  | [member] => member.kind == .identifier && columns.contains member.value
  | member :: comma :: rest =>
    member.kind == .identifier && columns.contains member.value && comma.isPunct ',' &&
      areMembers columns rest

/-- `_parse_index_name`. -/
def parseIndexName (sql : Text) (table : TableState) (backend : Backend) :
    Except MigrationError Text := do
  let stream ← tokens grammar.unicode sql backend.mysql
  if !(blankGaps sql 0 stream && isBlank (trailing sql stream)) then
    throw (.value "comments require an explicit adapter")
  let second ← tokenAt stream 1
  let offset := if second.isWord "unique" then 1 else 0
  let expected : MigrationError := .value "expected unconditional CREATE INDEX"
  if !(← tokenAt stream 0).isWord "create" then throw expected
  if !(← tokenAt stream (1 + offset)).isWord "index" then throw expected
  if !(← tokenAt stream (3 + offset)).isWord "on" then throw expected
  let name ← tokenAt stream (2 + offset)
  let owner ← tokenAt stream (4 + offset)
  if name.kind != .identifier || name.value.isEmpty || owner.kind != .identifier ||
      owner.value != table.name then
    throw (.value "index name or owner differs")
  let opening ← tokenAt stream (5 + offset)
  let last ← tokenAt stream (stream.length - 1)
  if !opening.isPunct '(' || !last.isPunct ')' then
    throw (.value "expected whole-column index members")
  if !areMembers (table.columns.map ColumnState.name) (stream.dropLast.drop (6 + offset)) then
    throw (.value "unsupported index members, predicate or options")
  return name.value

/-- `_index_name`. -/
def indexName (sql : Text) (table : TableState) (backend : Backend) : Except MigrationError Text :=
  match parseIndexName grammar sql table backend with
  | .ok name => .ok name
  | .error error =>
    .error (.package "unsupported index addition: %; explicit adapter required"
      [error.message.toList])

/-- `add_index`. -/
def addIndex (table : TableState) (sql : Text) (backend : Backend) :
    Except MigrationError TableState := do
  let name ← indexName grammar sql table backend
  let names ← table.indexes.mapM (fun existing => indexName grammar existing table backend)
  if (names.map asciiLower).contains (asciiLower name) then
    throw (.package "index addition requires a new managed index name" [])
  return { table with indexes := table.indexes ++ [sql] }

/-- `drop_index`. -/
def dropIndex (table : TableState) (name : Text) (backend : Backend) :
    Except MigrationError TableState := do
  let named ← table.indexes.mapM (fun sql => do
    return (sql, ← indexName grammar sql table backend))
  match named.filter (fun index => index.2 == name) with
  | [(sql, _)] => return { table with indexes := table.indexes.filter (· != sql) }
  | _ => throw (.package "index removal requires exactly one explicitly managed index" [])

/-! ## Checks -/

mutual

/-- A column reference outside the given columns. -/
def CheckExpression.leaves (columns : List Text) : CheckExpression → Bool
  | .node operator value arguments =>
    (operator == "column" && !(columns.map some).contains value) || anyLeaves columns arguments

def CheckExpression.anyLeaves (columns : List Text) : List CheckExpression → Bool
  | [] => false
  | first :: rest => CheckExpression.leaves columns first || anyLeaves columns rest

end

/-- `_check_name`. -/
def checkName (table : TableState) (definition : Text) (backend : Backend) :
    Except MigrationError Text := do
  let stream ← tokens grammar.unicode definition backend.mysql
  if !blankGaps definition 0 stream then
    throw (.package "CHECK addition comments require an explicit adapter" [])
  let malformed : MigrationError :=
    .package "CHECK addition requires one named table constraint without suffixes" []
  match stream with
  | constraint :: name :: check :: opening :: body =>
    if !isBlank (trailing definition stream) || stream.length < 6 ||
        !constraint.isWord "constraint" || name.kind != .identifier || name.value.isEmpty ||
        !check.isWord "check" || !opening.isPunct '(' ||
        !(body.getLast?.map (Token.isPunct · ')')).getD false then
      throw malformed
    let expression ← grammar.boundedCheckExpression definition body.dropLast
    if expression.leaves (table.columns.map ColumnState.name) then
      throw (.package "CHECK addition references an unmanaged column" [])
    return name.value
  | _ => throw malformed

/-- The names given to constraints, in ASCII lower case. -/
def constraintNames : List Token → List Text
  | token :: next :: rest =>
    if token.isWord "constraint" then asciiLower next.value :: constraintNames (next :: rest)
    else constraintNames (next :: rest)
  | _ => []

/-- The text of a table around its declarations. -/
def TableParts.withParts (split : TableParts) (parts : List Text) : Text :=
  split.header ++ "(".toList ++ joinWith ", ".toList parts ++ ")".toList ++ split.suffix

/-- `add_check`. -/
def addCheck (table : TableState) (definition : Text) (backend : Backend) :
    Except MigrationError TableState :=
  asPackage do
    let name ← checkName grammar table definition backend
    let stream ← tokens grammar.unicode table.sql backend.mysql
    if (constraintNames stream).contains (asciiLower name) then
      throw (.package "CHECK addition requires a new constraint name" [])
    let split ← splitTable grammar.unicode table.sql backend.mysql
    return { table with sql := split.withParts (split.parts ++ [definition]) }

/-- A declaration that names a CHECK. -/
def namesCheck (stream : List Token) (name : Text) : Bool :=
  match stream with
  | constraint :: named :: check :: _ =>
    constraint.isWord "constraint" && named.value == name && check.isWord "check"
  | _ => false

/-- The declarations of one CHECK name, each validated. -/
def selectedChecks (table : TableState) (name : Text) (backend : Backend) :
    List Text → Except MigrationError (List Text)
  | [] => .ok []
  | part :: rest => do
      let stream ← tokens grammar.unicode part backend.mysql
      if namesCheck stream name then
        let _ ← checkName grammar table part backend
        return part :: (← selectedChecks table name backend rest)
      else selectedChecks table name backend rest

/-- `drop_check`. -/
def dropCheck (table : TableState) (name : Text) (backend : Backend) :
    Except MigrationError TableState :=
  asPackage do
    let split ← splitTable grammar.unicode table.sql backend.mysql
    let selected ← selectedChecks grammar table name backend split.parts
    let stream ← tokens grammar.unicode table.sql backend.mysql
    match selected, (constraintNames stream).count (asciiLower name) with
    | [part], 1 => return { table with sql := split.withParts (split.parts.filter (· != part)) }
    | _, _ => throw (.package
        "CHECK removal requires exactly one explicitly managed named table CHECK" [])

/-! ## Columns -/

/-- The construction of a table up to the end of its column declarations. -/
def constructionPrefix (table : TableState) (columns : List ColumnState) : Text :=
  "CREATE TABLE ".toList ++ table.quotedName ++ " (".toList ++
    joinWith ", ".toList (columns.map ColumnState.definition)

/-- `text.split(" | ")`. -/
def splitBars : Text → List Text
  | ' ' :: '|' :: ' ' :: rest => [] :: splitBars rest
  | char :: rest =>
    match splitBars rest with
    | first :: more => (char :: first) :: more
    | [] => [[char]]
  | [] => [[]]

/-- A query type that is present and not empty. -/
def ColumnState.typed (column : ColumnState) : Option Text :=
  column.queryType.filter (fun type => !type.isEmpty)

/-- `_relaxed_column`. -/
def relaxedColumn (column : ColumnState) (tail : Text) (backend : Backend) :
    Except MigrationError ColumnState := do
  let refused : MigrationError :=
    .package "AllowNull requires a required column without table-constraint dependencies" []
  if column.nullable then throw refused
  if ← references grammar.unicode tail [column.name] backend.mysql then throw refused
  let definition ← asPackage (nullableDefinition grammar.unicode column.definition backend.mysql)
  return { column with
    nullable := true
    definition := definition
    queryType := column.typed.map (· ++ " | None".toList) }

/-- The declaration without its default. -/
def defaultless (definition : Text) (backend : Backend) : Except MigrationError Text :=
  match backend with
  | .mariadb => do return (← grammar.mariadbDefaultParts definition).1
  | .sqlite => withoutDefault grammar.unicode definition

/-- `_changed_default_column`. -/
def changedDefaultColumn (column replacement : ColumnState) (backend : Backend) :
    Except MigrationError ColumnState := do
  let before ← asPackage (defaultless grammar column.definition backend)
  let after ← asPackage (defaultless grammar replacement.definition backend)
  if before != after || column == replacement ||
      { column with definition := replacement.definition } != replacement then
    throw (.package "ChangeDefault must change only the default of an existing column" [])
  return replacement

/-- The branch of `_contract_table` that requires a column. -/
def requiredColumn (table : TableState) (column : ColumnState) (backend : Backend) :
    Except MigrationError ColumnState := do
  if !column.nullable then
    throw (.package "%.% is already required" [table.name, column.name])
  let definition ← requiredDefinition grammar.unicode column.definition backend.mysql
  return { column with
    nullable := false
    definition := definition
    queryType := column.typed.map (fun type =>
      joinWith " | ".toList ((splitBars type).filter (· != "None".toList))) }

/-- The texts mention the name. -/
def anyReferences (name : Text) (mysql : Bool) : List Text → Except MigrationError Bool
  | [] => .ok false
  | sql :: rest => do
      if ← references grammar.unicode sql [name] mysql then return true
      else anyReferences name mysql rest

/-- The branch of `_contract_table` that removes a column: nothing else may mention it. -/
def independentColumn (table : TableState) (column : ColumnState) (tail : Text)
    (backend : Backend) : Except MigrationError Unit := do
  let dependent : MigrationError :=
    .package "%.%: remove dependent constraints/indexes explicitly" [table.name, column.name]
  if ← references grammar.unicode column.definition
      ["primary".toList, "unique".toList, "references".toList] backend.mysql then
    throw dependent
  if ← anyReferences grammar column.name backend.mysql
      (tail :: table.indexes ++
        (table.columns.filter (· != column)).map ColumnState.definition) then
    throw dependent

/-- The columns after a change of one of them. -/
def changedColumns (table : TableState) (column : ColumnState) (tail : Text)
    (backend : Backend) (change : ColumnChange) : Except MigrationError (List ColumnState) :=
  let replaced (replacement : ColumnState) : List ColumnState :=
    table.columns.map (fun item => if item = column then replacement else item)
  match change with
  | .changeDefault replacement =>
    replaced <$> changedDefaultColumn grammar column replacement backend
  | .allowNull _ => replaced <$> relaxedColumn grammar column tail backend
  | .dropColumn _ => do
      independentColumn grammar table column tail backend
      return table.columns.filter (· != column)
  | .requireNotNull _ => replaced <$> requiredColumn grammar table column backend

/-- `_contract_table`. -/
def contractTable (table : TableState) (change : ColumnChange) (backend : Backend) :
    Except MigrationError TableState := do
  match table.columns.find? (fun item => item.name == change.columnName) with
  | none => throw (.package "unknown managed column %.%" [table.name, change.columnName])
  | some column =>
    let start := constructionPrefix table table.columns
    if !start.isPrefixOf table.sql then
      throw (.package "recorded table and column definitions disagree" [])
    let tail := table.sql.drop start.length
    let columns ← changedColumns grammar table column tail backend change
    if columns.isEmpty then throw (.package "cannot remove every column from a table" [])
    return { table with columns := columns, sql := constructionPrefix table columns ++ tail }

/-- The text holds the part. -/
def containsText (text part : Text) : Bool := text.tails.any part.isPrefixOf

/-- `_add_column`. -/
def addColumn (table : TableState) (column : ColumnState) : Except MigrationError TableState := do
  if !column.nullable || ["PRIMARY", "UNIQUE", "DEFAULT", "REFERENCES", "CHECK", "GENERATED"].any
      (fun word => containsText (grammar.unicode.upper column.definition) word.toList) then
    throw (.package
      "only unconstrained nullable additions are supported in this prototype" [])
  if (table.columns.map ColumnState.name).contains column.name then
    throw (.package "column % already exists" [column.name])
  let start := constructionPrefix table table.columns
  if !start.isPrefixOf table.sql then
    throw (.package "table construction and column state disagree" [])
  return { table with
    sql := start ++ ", ".toList ++ column.definition ++ table.sql.drop start.length
    columns := table.columns ++ [column] }

/-! ## Whole states -/

abbrev Tables := List (Text × TableState)

/-- A dictionary of the tables by name. -/
def State.byName (state : State) : Tables :=
  Dictionary.ofItems (state.tables.map (fun table => (table.name, table)))

/-- `_managed_table`. -/
def managedTable (tables : Tables) (name : Text) : Except MigrationError TableState :=
  match Dictionary.get tables name with
  | some table => .ok table
  | none => .error (.package "table % is not managed at this point in the route" [name])

/-- `_relinquish`. -/
def relinquish (tables : Tables) (name : Text) : Except MigrationError Tables :=
  match Dictionary.get tables name with
  | some _ => .ok (Dictionary.remove tables name)
  | none => .error (.package "cannot relinquish unmanaged table %" [name])

/-- `_auxiliary_change`. -/
def auxiliaryChange (table : TableState) (change : AuxiliaryChange) (backend : Backend) :
    Except MigrationError TableState :=
  match change with
  | .dropCheck name => dropCheck grammar table name backend
  | .addCheck definition => addCheck grammar table definition backend
  | .dropIndex name => dropIndex grammar table name backend
  | .createIndex sql => addIndex grammar table sql backend

/-- `_state_digest`. -/
def stateDigest (backend : Backend) (tables : Tables) : String :=
  grammar.digest {
    backend
    tables := (tables.insertionSort (fun left right => left.1 ≤ right.1)).map Prod.snd }

/-- What one operation does to the tables in the replay of `contract_digest`. -/
def replayOperation (backend : Backend) (tables : Tables) :
    Operation → Except MigrationError Tables
  | .relinquishTable name => relinquish tables name
  | .createTable table => .ok (Dictionary.set tables table.name table)
  | .adoptTable table => .ok (Dictionary.set tables table.name table)
  | .auxiliary name change => do
      let table ← managedTable tables name
      return Dictionary.set tables name (← auxiliaryChange grammar table change backend)
  | .addColumn name column => do
      let table ← managedTable tables name
      return Dictionary.set tables name (← addColumn grammar table column)
  | .contract name change => do
      let table ← managedTable tables name
      return Dictionary.set tables name (← contractTable grammar table change backend)
  | .checkpoint _ => .ok tables
  | .dataChange _ => .ok tables

/-- Apply the operations one by one. -/
def replay (backend : Backend) (tables : Tables) (operations : List Operation) :
    Except MigrationError Tables :=
  operations.foldlM (replayOperation grammar backend) tables

/-- The loop of `contract_digest`. -/
def digestAt (backend : Backend) (point : Text) :
    Tables → List Operation → Except MigrationError String
  | _, [] => .error (.package "unknown checkpoint %" [point])
  | tables, operation :: rest =>
    if operation = .checkpoint point then .ok (stateDigest grammar backend tables)
    else do
      let tables ← replayOperation grammar backend tables operation
      digestAt backend point tables rest

/-- `contract_digest`. -/
def contractDigest (draft : Draft) (point : Text) : Except MigrationError String :=
  digestAt grammar draft.target.backend point draft.before.byName draft.operations

end Snekql.Recorded
