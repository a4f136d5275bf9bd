import Snekql.CheckCatalog
import Snekql.Dictionaries

/-!
# Table definitions of SQLite

What a model declares about its table, the declaration rules that bear on its columns and
checks, the plan of the table, and the `CREATE TABLE` statement that is compiled from the plan.
-/

namespace Snekql.Schema

open Snekql.Splicing Snekql.Checks
open Snekql.Query (Predicate)

/-! ## Declarations -/

/-- `storage_class` of the SQLite columns. -/
inductive StorageClass where
  | integer
  | real
  | text
  | blob
deriving DecidableEq, Repr

def StorageClass.sql : StorageClass → String
  | .integer => "INTEGER"
  | .real => "REAL"
  | .text => "TEXT"
  | .blob => "BLOB"

/-- The collations of `Text`. -/
inductive Collation where
  | binary
  | nocase
  | rtrim
deriving DecidableEq, Repr

def Collation.sql : Collation → String
  | .binary => "BINARY"
  | .nocase => "NOCASE"
  | .rtrim => "RTRIM"

/-- `ReferentialAction`. -/
inductive ReferentialAction where
  | cascade
  | restrict
  | setNull
  | noAction
deriving DecidableEq, Repr

def ReferentialAction.sql : ReferentialAction → String
  | .cascade => "CASCADE"
  | .restrict => "RESTRICT"
  | .setNull => "SET NULL"
  | .noAction => "NO ACTION"

/-- `CurrentTimestamp`, or a `LiteralDefault` with its encoded value. -/
inductive ServerDefault where
  | currentTimestamp
  | literal (value : Option Literal)
deriving DecidableEq, Repr

/-- An `Attr` as it is declared; a column that has a server default gave it as its default. -/
structure Column where
  name : Text
  storageClass : StorageClass
  storageTypeName : String
  textCollation : Option Collation
  primaryKey : Bool
  autoIncrement : Bool
  unique : Bool
  index : Bool
  nullable : Option Bool
  isGenerated : Bool
  hasDefaultFactory : Bool
  serverDefault : Option ServerDefault
deriving DecidableEq, Repr

/-- `ModelDeclarationError`, one constructor for each message. -/
inductive DeclarationError where
  /-- "invalid table identifier: …" -/
  | invalidTable (name : Text)
  /-- "invalid column identifier: …" -/
  | invalidColumn (name : Text)
  /-- "primary-key columns cannot be unique: …" -/
  | primaryKeyUnique (name : Text)
  /-- "unique columns are already indexed: …" -/
  | uniqueIndexed (name : Text)
  /-- "primary-key columns are already indexed: …" -/
  | primaryKeyIndexed (name : Text)
  /-- "auto-increment requires an integer primary-key column: …" -/
  | autoIncrementStorage (name : Text)
  /-- "Server defaults require a generated (GenCol) column: …" -/
  | defaultNotGenerated (name : Text)
  /-- "Server defaults cannot be combined with default_factory: …" -/
  | defaultWithFactory (name : Text)
  /-- "column … cannot use auto_increment as part of a composite primary key on table …" -/
  | compositeAutoIncrement (name table : Text)
  /-- "column … cannot be nullable as part of a composite primary key on table …" -/
  | compositeNullable (name table : Text)
  /-- "CHECK name must be a SQL identifier" -/
  | checkName
  /-- "CHECK names must be unique within a table" -/
  | checkNamesUnique
  /-- An error of the binder of checks. -/
  | check (error : Checks.DeclarationError)
deriving DecidableEq, Repr

/-- `_is_sql_identifier`. -/
def isSqlIdentifier (characters : Characters) : Text → Bool
  | [] => false
  | first :: rest =>
    (characters.isAlpha first || first = '_') &&
      (first :: rest).all (fun char => characters.isAlnum char || char = '_')

/-- `_validate_column_declaration`. -/
def validateColumnDeclaration (column : Column) : Except DeclarationError Unit := do
  if column.unique && column.primaryKey then throw (.primaryKeyUnique column.name)
  if column.index && column.unique then throw (.uniqueIndexed column.name)
  if column.index && column.primaryKey then throw (.primaryKeyIndexed column.name)
  if column.autoIncrement && (!column.primaryKey || column.storageTypeName != "Integer") then
    throw (.autoIncrementStorage column.name)
  if column.serverDefault.isSome then
    if !column.isGenerated then throw (.defaultNotGenerated column.name)
    if column.hasDefaultFactory then throw (.defaultWithFactory column.name)

/-- `_bind_columns`. -/
def bindColumns (characters : Characters) (columns : List Column) :
    Except DeclarationError Unit :=
  columns.forM (fun column => do
    if !isSqlIdentifier characters column.name then throw (.invalidColumn column.name)
    validateColumnDeclaration column)

/-- `CheckConstraint`. -/
structure CheckConstraint (Value : Type) where
  predicate : Predicate Value
  name : Text

/-- `BoundCheck`. -/
structure BoundCheck where
  name : Text
  expression : CheckExpression
deriving DecidableEq

/-- The loop of `bind_checks`, with the case-folded names that were used. -/
def bindChecks {Value : Type} (characters : Characters) (casefold : Text → Text)
    (binder : CheckBinder Value) :
    List Text → List (CheckConstraint Value) → Except DeclarationError (List BoundCheck)
  | _, [] => .ok []
  | names, declaration :: rest => do
      if !isSqlIdentifier characters declaration.name then throw .checkName
      if names.contains (casefold declaration.name) then throw .checkNamesUnique
      let expression ← (binder.bind declaration.predicate).mapError .check
      let others ← bindChecks characters casefold binder (casefold declaration.name :: names) rest
      return ⟨declaration.name, expression⟩ :: others

/-! ## Plans -/

/-- `PlannedColumn`. -/
structure PlannedColumn where
  column : Column
  compositePk : Bool
deriving DecidableEq, Repr

/-- `PlannedForeignKey`. -/
structure PlannedForeignKey where
  columnNames : List Text
  targetTable : Text
  targetColumns : List Text
  onDelete : Option ReferentialAction
  onUpdate : Option ReferentialAction
deriving DecidableEq, Repr

/-- `PlannedModel`, without the indexes, which are statements of their own. -/
structure PlannedModel where
  columns : List PlannedColumn
  foreignKeys : List PlannedForeignKey
  tableName : Text
  checks : List BoundCheck
deriving DecidableEq

/-- The declaration of a table. Its columns are the items of a class dictionary, and its
foreign keys have their target columns resolved. -/
structure Model (Value : Type) where
  tableName : Text
  columns : List Column
  distinct : (columns.map Column.name).Nodup
  foreignKeys : List PlannedForeignKey
  binder : CheckBinder Value
  checks : List (CheckConstraint Value)

/-- `_plan_columns`. -/
def planColumns (tableName : Text) (columns : List Column) :
    Except DeclarationError (List PlannedColumn) := do
  let composite := decide ((columns.filter Column.primaryKey).length > 1)
  if composite then
    columns.forM (fun column => do
      if column.primaryKey then
        if column.autoIncrement then throw (.compositeAutoIncrement column.name tableName)
        if column.nullable = some true then throw (.compositeNullable column.name tableName))
  return columns.map (fun column => ⟨column, composite && column.primaryKey⟩)

/-- The declaration rules and `_plan_model`. -/
def planModel {Value : Type} (characters : Characters) (casefold : Text → Text)
    (model : Model Value) : Except DeclarationError PlannedModel := do
  if !isSqlIdentifier characters model.tableName then throw (.invalidTable model.tableName)
  bindColumns characters model.columns
  let checks ← bindChecks characters casefold model.binder [] model.checks
  let columns ← planColumns model.tableName model.columns
  return { columns, foreignKeys := model.foreignKeys, tableName := model.tableName, checks }

/-! ## Statements -/

/-- `_requires_not_null`. -/
def requiresNotNull (planned : PlannedColumn) : Bool :=
  if planned.compositePk then true
  else if planned.column.primaryKey then planned.column.storageClass != .integer
  else planned.column.nullable == some false

/-- `render_literal_default` for SQLite. -/
def renderLiteralDefault : Option Literal → Text
  | none => "NULL".toList
  | some (.integer value) => integerText value
  | some (.text value) =>
    if Char.ofNat 0 ∈ value then "(CAST(X'".toList ++ hexText value ++ "' AS TEXT))".toList
    else [textQuote] ++ Query.doubled textQuote value ++ [textQuote]

/-- `current_timestamp_sql`. -/
def currentTimestampSql : Text := "strftime('%Y-%m-%dT%H:%M:%f', 'now') || '000Z'".toList

/-- The `DEFAULT` clause. -/
def defaultClause : ServerDefault → Text
  | .currentTimestamp => "DEFAULT (".toList ++ currentTimestampSql ++ ")".toList
  | .literal value => "DEFAULT ".toList ++ renderLiteralDefault value

/-- The `COLLATE` clause of a column that does not have the default collation. -/
def collateClause (column : Column) : List Text :=
  match column.textCollation with
  | none | some .binary => []
  | some collation => ["COLLATE ".toList ++ collation.sql.toList]

/-- `_compile_column_definition`. -/
def compileColumnDefinition (planned : PlannedColumn) : Text :=
  let column := planned.column
  joinWith " ".toList (
    [quoteName .sqlite column.name, column.storageClass.sql.toList] ++
    collateClause column ++
    (if column.primaryKey && !planned.compositePk then ["PRIMARY KEY".toList] else []) ++
    (if column.autoIncrement then ["AUTOINCREMENT".toList] else []) ++
    (if requiresNotNull planned then ["NOT NULL".toList] else []) ++
    column.serverDefault.toList.map defaultClause)

/-- Names in parentheses. -/
def nameList (names : List Text) : Text :=
  "(".toList ++ joinWith ", ".toList (names.map (quoteName .sqlite)) ++ ")".toList

/-- `compile_foreign_key_constraint`. -/
def compileForeignKeyConstraint (foreignKey : PlannedForeignKey) : Text :=
  "FOREIGN KEY ".toList ++ nameList foreignKey.columnNames ++ " REFERENCES ".toList ++
    quoteName .sqlite foreignKey.targetTable ++ " ".toList ++ nameList foreignKey.targetColumns ++
    (foreignKey.onDelete.toList.flatMap (fun action => " ON DELETE ".toList ++ action.sql.toList) ++
      foreignKey.onUpdate.toList.flatMap (fun action => " ON UPDATE ".toList ++ action.sql.toList))

/-- One `CONSTRAINT` clause of `compile_create_table_sql`. -/
def compileCheck (check : BoundCheck) : Option Text := do
  let text ← renderCheck .sqlite check.expression
  return "CONSTRAINT ".toList ++ quoteName .sqlite check.name ++ " CHECK (".toList ++ text ++
    ")".toList

/-- The table-level primary key of several columns. -/
def compositeKey (columns : List PlannedColumn) : List Text :=
  let names := (columns.filter PlannedColumn.compositePk).map (·.column.name)
  if names.isEmpty then [] else ["PRIMARY KEY ".toList ++ nameList names]

/-- `compile_create_table_sql`; nothing if a check cannot be rendered. -/
def compileCreateTableSql (planned : PlannedModel) : Option Text := do
  let checks ← planned.checks.mapM compileCheck
  let definitions := planned.columns.map compileColumnDefinition ++
    compositeKey planned.columns ++ planned.foreignKeys.map compileForeignKeyConstraint ++ checks
  return "CREATE TABLE ".toList ++ quoteName .sqlite planned.tableName ++ " (".toList ++
    joinWith ", ".toList definitions ++ ") STRICT".toList

end Snekql.Schema
