import Snekql.QueryScope
import Snekql.Splicing

/-!
# Query dialects

The SQL facts that differ between the two backends, and the texts they contribute.
-/

namespace Snekql.Query

open Snekql.Splicing

/-- `QueryDialect`, without its codecs and plan inspection. -/
structure QueryDialect where
  conflictDoNothingSql : List Text → Text
  conflictUpdateSql : List Text → Text → Text
  currentTimestampSql : Column → Except QueryError Text
  emptyInsertSql : Text → Text
  insertedValueSql : Text → Text
  offsetOnlyLimitSql : Text
  placeholder : Text
  quoteIdentifier : String → Text
  integerLiteralSql : Option (Text → Text)
  charLengthFunction : Option Text
  forUpdateSql : Option (LockWait → Text)
  supportsDeleteReturning : Bool
  supportsUpdateReturning : Bool

/-- `text.replace(char, char * 2)`. -/
def doubled (char : Char) (text : Text) : Text :=
  text.flatMap (fun read => if read = char then [char, char] else [read])

/-- `Attr.require_current_timestamp`. -/
def Column.requireCurrentTimestamp (column : Column) : Except QueryError Unit :=
  if .utcDatetime ∈ column.logical then .ok ()
  else .error (.construction "CurrentTimestamp requires a UtcDatetime column")

/-! ## SQLite -/

namespace Sqlite

def quoteIdentifier (identifier : String) : Text :=
  '"' :: doubled '"' identifier.toList ++ ['"']

def currentTimestampSql (column : Column) : Except QueryError Text := do
  column.requireCurrentTimestamp
  return "strftime('%Y-%m-%dT%H:%M:%f', 'now') || '000Z'".toList

def conflictDoNothingSql (targets : List Text) : Text :=
  " ON CONFLICT (".toList ++ joinWith ", ".toList targets ++ ") DO NOTHING".toList

def conflictUpdateSql (targets : List Text) (assignments : Text) : Text :=
  " ON CONFLICT (".toList ++ joinWith ", ".toList targets ++ ") DO UPDATE SET ".toList ++
    assignments

def queryDialect : QueryDialect where
  conflictDoNothingSql := conflictDoNothingSql
  conflictUpdateSql := conflictUpdateSql
  currentTimestampSql := currentTimestampSql
  emptyInsertSql := fun quotedTable =>
    "INSERT INTO ".toList ++ quotedTable ++ " DEFAULT VALUES".toList
  insertedValueSql := fun quotedColumn => "excluded.".toList ++ quotedColumn
  offsetOnlyLimitSql := "LIMIT -1".toList
  placeholder := "?".toList
  quoteIdentifier := quoteIdentifier
  integerLiteralSql := none
  charLengthFunction := some "LENGTH".toList
  forUpdateSql := none
  supportsDeleteReturning := true
  supportsUpdateReturning := true

end Sqlite

/-! ## MariaDB -/

namespace Mariadb

/-- The code point of the backtick, MariaDB's identifier quote. -/
def identifierQuote : Char := Char.ofNat 96

def quoteIdentifier (identifier : String) : Text :=
  identifierQuote :: doubled identifierQuote identifier.toList ++ [identifierQuote]

/-- `_quote_query_identifier`: the driver formats the text with percent signs. -/
def quoteQueryIdentifier (identifier : String) : Text :=
  doubled '%' (quoteIdentifier identifier)

def currentTimestampSql (column : Column) : Except QueryError Text := do
  column.requireCurrentTimestamp
  if column.storageType = "DateTime" then
    return "CURRENT_TIMESTAMP(".toList ++ (Nat.toDigits 10 column.datetimePrecision.val) ++
      ")".toList
  else return "CONCAT(REPLACE(CURRENT_TIMESTAMP(6), ' ', 'T'), 'Z')".toList

def conflictDoNothingSql (targets : List Text) : Text :=
  let target := targets.headD []
  " ON DUPLICATE KEY UPDATE ".toList ++ target ++ " = ".toList ++ target

def forUpdateSql : LockWait → Text
  | .block => "FOR UPDATE".toList
  | .nowait => "FOR UPDATE NOWAIT".toList
  | .skipLocked => "FOR UPDATE SKIP LOCKED".toList

def queryDialect : QueryDialect where
  conflictDoNothingSql := conflictDoNothingSql
  conflictUpdateSql := fun _ assignments => " ON DUPLICATE KEY UPDATE ".toList ++ assignments
  currentTimestampSql := currentTimestampSql
  emptyInsertSql := fun quotedTable =>
    "INSERT INTO ".toList ++ quotedTable ++ " () VALUES ()".toList
  insertedValueSql := fun quotedColumn => "VALUES(".toList ++ quotedColumn ++ ")".toList
  offsetOnlyLimitSql := "LIMIT 18446744073709551615".toList
  placeholder := "%s".toList
  quoteIdentifier := quoteQueryIdentifier
  integerLiteralSql := some (fun placeholder =>
    "CAST(CAST(".toList ++ placeholder ++ " AS DECIMAL(19, 0)) AS SIGNED)".toList)
  charLengthFunction := some "CHAR_LENGTH".toList
  forUpdateSql := some forUpdateSql
  supportsDeleteReturning := false
  supportsUpdateReturning := false

end Mariadb

/-- `query_dialect_for_backend`. -/
def BackendFamily.queryDialect : BackendFamily → QueryDialect
  | .sqlite => Sqlite.queryDialect
  | .mariadb => Mariadb.queryDialect

end Snekql.Query
