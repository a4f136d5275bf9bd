import Snekql.MariadbBodies

/-!
# Migration bodies for SQLite

The splitter and the statement validator of SQLite migration bodies, and next to them what
SQLite's own tokenizer and completeness scanner read in the same text. SQLite ends comments and
quoted tokens where the validator does. It takes only five characters for spaces, skips a
byte-order mark between tokens, and lets identifiers hold every character outside ASCII.
-/

namespace Snekql.SqliteBodies

open Snekql.Splicing (Text)
open Snekql.Migrations (isSpace Migration)
open Snekql.MariadbMigrations (CharacterData afterLine afterLine_suffix commentParts
  commentParts_eq stringQuote backtick startsComment)
open Snekql.MariadbMigrations.Server (isIdentifierChar)
open Snekql.Scanning

def byteOrderMark : Char := Char.ofNat 0xFEFF

/-- The byte-order mark is not a letter, and no word becomes a semicolon in upper case. -/
structure Unicode extends CharacterData where
  isAlpha_byteOrderMark : isAlpha byteOrderMark = false
  upper_word : ∀ char rest, isAlpha char = true ∨ char = '_' → upper (char :: rest) ≠ [';']

/-! ## Extents -/

/-- The characters up to the closing quote, and what follows it if there is one. A doubled
quote does not close, except that brackets have no doubled form. -/
def quotedParts (closing : Char) : Text → Text × Option Text
  | [] => ([], none)
  | char :: rest =>
    if char ≠ closing then (char :: (quotedParts closing rest).1, (quotedParts closing rest).2)
    else
      match rest with
      | [] => ([], some [])
      | next :: rest =>
        if closing ≠ ']' ∧ next = closing then
          (char :: next :: (quotedParts closing rest).1, (quotedParts closing rest).2)
        else ([], some (next :: rest))

def isOpening (char : Char) : Bool :=
  char == stringQuote || char == '"' || char == backtick || char == '['

def closingOf (char : Char) : Char := if char = '[' then ']' else char

/-- `sql[quoted_start : index - 1]`, which loses a character of an unclosed token. -/
def quotedContent (char : Char) (rest : Text) : Text :=
  match quotedParts (closingOf char) rest with
  | (content, some _) => content
  | (content, none) => content.dropLast

def afterQuoted (char : Char) (rest : Text) : Text :=
  (quotedParts (closingOf char) rest).2.getD []

/-- The text after the first `*/`. -/
def afterComment (text : Text) : Text := ((commentParts text).map Prod.snd).getD []

/-- What starts at a character: a comment, a quoted token, or the character alone. -/
inductive Extent where
  | comment (after : Text)
  | quoted (content after : Text)
  | plain
deriving DecidableEq, Repr

def extent (char : Char) (rest : Text) : Extent :=
  if char == '-' && rest.head? == some '-' then .comment (afterLine rest.tail)
  else if startsComment char rest then .comment (afterComment rest.tail)
  else if isOpening char then .quoted (quotedContent char rest) (afterQuoted char rest)
  else .plain

/-- Where the text goes on, given where it goes on after a plain character. -/
def Extent.remaining (next : Text) : Extent → Text
  | .comment after => after
  | .quoted _ after => after
  | .plain => next

theorem quotedParts_length {closing : Char} {text content after : Text}
    (parts : quotedParts closing text = (content, some after)) : after.length ≤ text.length := by
  fun_induction quotedParts closing text generalizing content with
  | case1 => cases parts
  | case2 char rest other ih =>
    cases parts' : quotedParts closing rest with
    | mk inner last =>
      rw [parts'] at parts
      cases parts
      exact Nat.le_succ_of_le (ih parts')
  | case3 =>
    cases parts
    exact Nat.zero_le _
  | case4 char same next rest doubled ih =>
    cases parts' : quotedParts closing rest with
    | mk inner last =>
      rw [parts'] at parts
      cases parts
      exact Nat.le_succ_of_le (Nat.le_succ_of_le (ih parts'))
  | case5 =>
    cases parts
    exact Nat.le_succ _

theorem afterQuoted_length (char : Char) (rest : Text) :
    (afterQuoted char rest).length ≤ rest.length := by
  unfold afterQuoted
  cases parts : quotedParts (closingOf char) rest with
  | mk content after =>
    cases after with
    | none => exact Nat.zero_le _
    | some after => exact quotedParts_length parts

theorem afterComment_length (text : Text) : (afterComment text).length ≤ text.length := by
  unfold afterComment
  cases found : commentParts text with
  | none => exact Nat.zero_le _
  | some parts =>
    have closed := congrArg List.length (commentParts_eq found)
    simp only [List.length_append, List.length_cons] at closed
    show parts.2.length ≤ text.length
    omega

theorem extent_shrinks (char : Char) {rest next : Text} (shorter : next.length ≤ rest.length) :
    ((extent char rest).remaining next).length ≤ rest.length := by
  have tail : rest.tail.length ≤ rest.length := (List.tail_suffix rest).length_le
  unfold extent
  split
  · exact (afterLine_suffix rest.tail).length_le.trans tail
  · split
    · exact (afterComment_length rest.tail).trans tail
    · split
      · exact afterQuoted_length char rest
      · exact shorter

/-! ## The validator -/

variable (python : CharacterData)

def startsWord (char : Char) : Bool := python.isAlpha char || char == '_'

def continuesWord (char : Char) : Bool := python.isAlnum char || char == '_'

/-- The token at a plain character: a word, or the character itself. -/
def plainToken (char : Char) (rest : Text) : Text :=
  if startsWord python char then python.upper (char :: rest.takeWhile (continuesWord python))
  else [char]

def afterPlainToken (char : Char) (rest : Text) : Text :=
  if startsWord python char then rest.dropWhile (continuesWord python) else rest

/-- One round of the loop of `_sql_tokens`. -/
def tokenStep (_ : Unit) (char : Char) (rest : Text) : Step Unit Text :=
  if isSpace char then ⟨[], (), rest⟩
  else
    ⟨match extent char rest with
      | .comment _ => []
      | .quoted content _ => [python.upper content]
      | .plain => [plainToken python char rest],
      (), (extent char rest).remaining (afterPlainToken python char rest)⟩

theorem tokenStep_shrinks (place : Unit) (char : Char) (rest : Text) :
    (tokenStep python place char rest).remaining.length ≤ rest.length := by
  unfold tokenStep
  split
  · exact Nat.le_refl _
  · refine extent_shrinks char ?_
    unfold afterPlainToken
    split
    · exact (List.dropWhile_suffix _).length_le
    · exact Nat.le_refl _

def tokenScanner : Scanner Unit Text where
  step := tokenStep python
  shrinks := tokenStep_shrinks python

/-- `_sql_tokens`. -/
def sqlTokens (sql : Text) : List Text := scan (tokenScanner python) () sql

/-- The keywords that may follow a `WITH` clause. -/
def cteOperations : List Text :=
  ["DELETE", "INSERT", "REPLACE", "SELECT", "UPDATE"].map String.toList

/-- The loop of `_operation_index` behind `WITH`. -/
def cteOperation (depth : Int) (completedCte : Bool) (candidate : Nat) : List Text → Option Nat
  | [] => none
  | token :: rest =>
    if token = ['('] then cteOperation (depth + 1) completedCte (candidate + 1) rest
    else if token = [')'] then
      cteOperation (depth - 1) (completedCte || depth - 1 == 0) (candidate + 1) rest
    else if completedCte && depth == 0 && token == [','] then
      cteOperation depth false (candidate + 1) rest
    else if completedCte && depth == 0 && cteOperations.contains token then some candidate
    else cteOperation depth completedCte (candidate + 1) rest

/-- Where the statement under an optional `EXPLAIN` or `EXPLAIN QUERY PLAN` starts. -/
def explainedIndex (tokens : List Text) : Nat :=
  if tokens.head? = some "EXPLAIN".toList ∧ 1 < tokens.length then
    if (tokens.drop 1).take 2 = ["QUERY".toList, "PLAN".toList] then 3 else 1
  else 0

/-- `_operation_index`. -/
def operationIndex (tokens : List Text) : Nat :=
  let index := explainedIndex tokens
  if tokens[index]? = some "WITH".toList then
    (cteOperation 0 false (index + 1) (tokens.drop (index + 1))).getD index
  else min index (tokens.length - 1)

/-- `_operation_keyword`. -/
def operationKeyword (tokens : List Text) : Text := tokens.getD (operationIndex tokens) []

/-- `_name_index_after`. -/
def nameIndexAfter (tokens : List Text) (keyword : Text) (start : Nat) : Option Nat :=
  match (tokens.drop start).idxOf? keyword with
  | none => none
  | some found =>
    let index := start + found + 1
    let index :=
      if (tokens.drop index).take 3 = ["IF".toList, "NOT".toList, "EXISTS".toList] then index + 3
      else if (tokens.drop index).take 2 = ["IF".toList, "EXISTS".toList] then index + 2
      else index
    if index < tokens.length then some index else none

/-- `_created_or_dropped_name_index`. -/
def createdOrDroppedNameIndex (tokens : List Text) : Option Nat :=
  (["TABLE", "INDEX", "TRIGGER", "VIEW"].map String.toList).findSome?
    (fun objectType => nameIndexAfter tokens objectType (operationIndex tokens))

/-- The target keyword of each operation that has one. -/
def targetKeyword (operation : Text) : Option Text :=
  if operation = "ALTER".toList then some "TABLE".toList
  else if operation = "DELETE".toList then some "FROM".toList
  else if operation = "INSERT".toList then some "INTO".toList
  else if operation = "REPLACE".toList then some "INTO".toList
  else none

/-- `_object_name_index`. -/
def objectNameIndex (tokens : List Text) : Option Nat :=
  let operation := operationKeyword tokens
  if operation = "CREATE".toList ∨ operation = "DROP".toList then createdOrDroppedNameIndex tokens
  else if operation = "UPDATE".toList then
    let nameIndex := operationIndex tokens + 1
    let nameIndex := if tokens[nameIndex]? = some "OR".toList then nameIndex + 2 else nameIndex
    if nameIndex < tokens.length then some nameIndex else none
  else
    (targetKeyword operation).bind
      (fun keyword => nameIndexAfter tokens keyword (operationIndex tokens))

/-- `_uses_temp_schema`. -/
def usesTempSchema (tokens : List Text) : Bool :=
  match objectNameIndex tokens with
  | none => false
  | some nameIndex => decide ((tokens.drop nameIndex).take 2 = ["TEMP".toList, ['.']])

/-- `_RESTRICTED_FIRST_KEYWORDS`. -/
def restrictedFirstKeywords : List Text :=
  ["ATTACH", "BEGIN", "COMMIT", "DETACH", "END", "PRAGMA", "RELEASE", "ROLLBACK", "SAVEPOINT",
    "VACUUM"].map String.toList

/-- The refusals, each with the name of its migration. -/
inductive DeclarationError where
  /-- "SQLite migration … is not a complete statement" -/
  | notComplete (name : String)
  /-- "SQLite migration … must contain SQL" -/
  | mustContainSql (name : String)
  /-- "SQLite migration … cannot execute …" -/
  | cannotExecute (name : String) (keyword : Text)
  /-- "SQLite migration … cannot create temporary objects" -/
  | cannotCreateTemporary (name : String)
  /-- "SQLite migration … cannot use temporary objects" -/
  | cannotUseTemporary (name : String)
deriving DecidableEq, Repr

/-- `CREATE TEMP …` or `CREATE TEMPORARY …`. -/
def createsTemporary (tokens : List Text) : Bool :=
  tokens.head? == some "CREATE".toList &&
    (tokens[1]? == some "TEMP".toList || tokens[1]? == some "TEMPORARY".toList)

/-- `_validate_sqlite_statement`. -/
def validateSqliteStatement (migration : Migration) (sql : Text) : Except DeclarationError Unit :=
  let tokens := sqlTokens python sql
  if tokens = [] then .error (.mustContainSql migration.name)
  else if restrictedFirstKeywords.contains (operationKeyword tokens) then
    .error (.cannotExecute migration.name (operationKeyword tokens))
  else if createsTemporary tokens then .error (.cannotCreateTemporary migration.name)
  else if usesTempSchema tokens then .error (.cannotUseTemporary migration.name)
  else .ok ()

/-- The splitter's loop, given the text since `start`: the segments, then the remainder. -/
def segmentsFrom (complete : Text → Bool) (current : Text) : Text → List Text
  | [] => [current]
  | char :: rest =>
    if char = ';' ∧ complete (current ++ [char]) = true then
      (current ++ [char]) :: segmentsFrom complete [] rest
    else segmentsFrom complete (current ++ [char]) rest

/-- `segments` of `_sqlite_statements`; the last one is the remainder. -/
def segments (complete : Text → Bool) (sql : Text) : List Text := segmentsFrom complete [] sql

/-- No token but semicolons. -/
def isSkipped (sql : Text) : Bool := (sqlTokens python sql).all (· == [';'])

/-- The loop that validates the segments and keeps those with tokens. -/
def validatedStatements (migration : Migration) : List Text → Except DeclarationError (List Text)
  | [] => .ok []
  | statement :: rest =>
    if isSkipped python statement then validatedStatements migration rest
    else do
      validateSqliteStatement python migration statement
      let statements ← validatedStatements migration rest
      return statement :: statements

/-- `_sqlite_statements`. -/
def sqliteStatements (complete : Text → Bool) (migration : Migration) :
    Except DeclarationError (List Text) := do
  let parts := segments complete migration.sql.toList
  if complete (parts.getLastD [] ++ ['\n', ';']) then
    let statements ← validatedStatements python migration parts
    if statements = [] then throw (.mustContainSql migration.name)
    return statements
  else throw (.notComplete migration.name)

/-- `validate_sqlite_migrations`, which runs before a connection is acquired. -/
def validateSqliteMigrations (complete : Text → Bool) :
    List Migration → Except DeclarationError Unit
  | [] => .ok ()
  | migration :: rest => do
      let _ ← sqliteStatements python complete migration
      validateSqliteMigrations complete rest

/-! ## SQLite's tokens -/

/-- What the tokenizer returns, spaces and comments left out. The mark is kept in place here
and dropped in `Lexeme.visible`. -/
inductive Lexeme where
  | byteOrderMark
  | word (text : Text)
  | quoted (content : Text)
  | mark (char : Char)
deriving DecidableEq, Repr

/-- The tab, the line feed, the form feed, the carriage return and the space. -/
def isLexicalSpace (char : Char) : Bool :=
  [9, 10, 12, 13, 32].contains char.toNat

/-- Identifiers start with a letter, `_` or a character outside ASCII. -/
def startsIdentifier (char : Char) : Bool :=
  char.isAlpha || char == '_' || decide (128 ≤ char.toNat)

/-- Numbers and variables run on over identifier characters. -/
def startsRun (char : Char) : Bool := char.isDigit || ['$', '@', '#', ':'].contains char

def plainLexeme (char : Char) (rest : Text) : Lexeme :=
  if char = byteOrderMark then .byteOrderMark
  else if startsIdentifier char then .word (char :: rest.takeWhile isIdentifierChar)
  else .mark char

def afterPlainLexeme (char : Char) (rest : Text) : Text :=
  if char = byteOrderMark then rest
  else if startsIdentifier char || startsRun char then rest.dropWhile isIdentifierChar
  else rest

/-- `/*` at the very end of the text, which SQLite reads as two operators. -/
def isBareComment (char : Char) (rest : Text) : Bool := char == '/' && rest == ['*']

def lexemeStep (_ : Unit) (char : Char) (rest : Text) : Step Unit Lexeme :=
  if isLexicalSpace char then ⟨[], (), rest⟩
  else if isBareComment char rest then ⟨[.mark '/', .mark '*'], (), []⟩
  else
    ⟨match extent char rest with
      | .comment _ => []
      | .quoted content _ => [.quoted content]
      | .plain => [plainLexeme char rest],
      (), (extent char rest).remaining (afterPlainLexeme char rest)⟩

theorem lexemeStep_shrinks (place : Unit) (char : Char) (rest : Text) :
    (lexemeStep place char rest).remaining.length ≤ rest.length := by
  unfold lexemeStep
  split
  · exact Nat.le_refl _
  · split
    · exact Nat.zero_le _
    · refine extent_shrinks char ?_
      unfold afterPlainLexeme
      split
      · exact Nat.le_refl _
      · split
        · exact (List.dropWhile_suffix _).length_le
        · exact Nat.le_refl _

def lexemeScanner : Scanner Unit Lexeme where
  step := lexemeStep
  shrinks := lexemeStep_shrinks

def lexemes (sql : Text) : List Lexeme := scan lexemeScanner () sql

/-- The tokens that reach SQLite's parser. -/
def visible (tokens : List Lexeme) : List Lexeme := tokens.filter (· ≠ .byteOrderMark)

/-- Keywords are matched without regard to case. -/
def folded (word : Text) : Text := word.map Char.toUpper

/-- The word in front, in upper case. -/
def leadingWord : List Lexeme → Option Text
  | .word word :: _ => some (folded word)
  | _ => none

/-- Skip `EXPLAIN` and `EXPLAIN QUERY PLAN`. -/
def afterExplain (tokens : List Lexeme) : List Lexeme :=
  if leadingWord tokens = some "EXPLAIN".toList then
    if leadingWord (tokens.drop 1) = some "QUERY".toList ∧
        leadingWord (tokens.drop 2) = some "PLAN".toList then tokens.drop 3
    else tokens.drop 1
  else tokens

/-- The tokens after the parenthesis that closes the group. -/
def afterGroup (depth : Nat) : List Lexeme → Option (List Lexeme)
  | [] => none
  | token :: rest =>
    if token = .mark '(' then afterGroup (depth + 1) rest
    else if token = .mark ')' then
      if depth = 0 then some rest else afterGroup (depth - 1) rest
    else afterGroup depth rest

/-- The tokens after a keyword, if it is in front. -/
def skipWord (keyword : String) (tokens : List Lexeme) : List Lexeme :=
  if leadingWord tokens = some keyword.toList then tokens.drop 1 else tokens

/-- Skip one common table expression: a name of any form, its columns, `AS`, a hint, a body. -/
def afterCte (tokens : List Lexeme) : Option (List Lexeme) := do
  let columns := tokens.drop 1
  let rest ← if columns.head? = some (.mark '(') then afterGroup 0 (columns.drop 1)
    else some columns
  guard (leadingWord rest = some "AS".toList)
  let body := skipWord "MATERIALIZED" (skipWord "NOT" (rest.drop 1))
  guard (body.head? = some (.mark '('))
  afterGroup 0 (body.drop 1)

/-- Skip the expressions of a `WITH` clause. -/
def afterCtes : Nat → List Lexeme → Option (List Lexeme)
  | 0, _ => none
  | fuel + 1, tokens => do
      let rest ← afterCte tokens
      if rest.head? = some (.mark ',') then afterCtes fuel (rest.drop 1) else some rest

/-- The operation of a statement: the word behind `EXPLAIN` and a `WITH` clause. -/
def operationOf (tokens : List Lexeme) : Option Text :=
  let statement := afterExplain tokens
  if leadingWord statement = some "WITH".toList then
    (afterCtes statement.length (skipWord "RECURSIVE" (statement.drop 1))).bind leadingWord
  else leadingWord statement

/-- The leading operation under SQLite's rules. -/
def leadingOperation (sql : Text) : Option Text := operationOf (visible (lexemes sql))

/-- The operation when neither a byte-order mark nor a `WITH` clause has to be skipped. -/
def immediateOperation (sql : Text) : Option Text := leadingWord (afterExplain (lexemes sql))

/-! ## Segments that both read alike -/

/-- What a segment is made of, words taken character by character. -/
inductive Piece where
  | space (char : Char)
  | comment
  | bareComment
  | quoted (content : Text)
  | mark (char : Char)
deriving DecidableEq, Repr

def pieceStep (_ : Unit) (char : Char) (rest : Text) : Step Unit Piece :=
  if isSpace char then ⟨[.space char], (), rest⟩
  else if isBareComment char rest then ⟨[.bareComment], (), []⟩
  else
    ⟨match extent char rest with
      | .comment _ => [.comment]
      | .quoted content _ => [.quoted content]
      | .plain => [.mark char],
      (), (extent char rest).remaining rest⟩

theorem pieceStep_shrinks (place : Unit) (char : Char) (rest : Text) :
    (pieceStep place char rest).remaining.length ≤ rest.length := by
  unfold pieceStep
  split
  · exact Nat.le_refl _
  · split
    · exact Nat.zero_le _
    · exact extent_shrinks char (Nat.le_refl _)

def pieceScanner : Scanner Unit Piece where
  step := pieceStep
  shrinks := pieceStep_shrinks

def pieces (sql : Text) : List Piece := scan pieceScanner () sql

/-- Blank to Python: spaces of any alphabet, comments, semicolons, and semicolons in quotes. -/
def Piece.looksBlank : Piece → Bool
  | .space _ | .comment | .bareComment => true
  | .quoted content => python.upper content == [';']
  | .mark char => char == ';'

/-- Blank to SQLite. -/
def Piece.isBlank : Piece → Bool
  | .space char => isLexicalSpace char
  | .comment => true
  | .bareComment | .quoted _ => false
  | .mark char => char == ';'

/-- The two readings of a segment agree where it matters. A segment that looks blank holds no
quoted semicolon, no space that only Python knows and no comment mark at its very end. A
restricted operation stands behind no byte-order mark and no `WITH` clause, unless the
statement is refused for using the temporary schema. -/
def isGuarded (sql : Text) : Bool :=
  (!(pieces sql).all (Piece.looksBlank python) || (pieces sql).all Piece.isBlank) &&
    (!(leadingOperation sql).any restrictedFirstKeywords.contains ||
      immediateOperation sql == leadingOperation sql ||
      usesTempSchema (sqlTokens python sql))

/-! ## SQLite's completeness scanner -/

/-- The tokens `sqlite3_complete` tells apart; `unclosed` ends the scan. -/
inductive Mark where
  | semicolon
  | space
  | other
  | explain
  | create
  | temp
  | trigger
  | finish
  | unclosed
deriving DecidableEq, Repr

def identifierMark (word : Text) : Mark :=
  if folded word = "CREATE".toList then .create
  else if folded word = "TRIGGER".toList then .trigger
  else if folded word = "TEMP".toList ∨ folded word = "TEMPORARY".toList then .temp
  else if folded word = "END".toList then .finish
  else if folded word = "EXPLAIN".toList then .explain
  else .other

def markStep (_ : Unit) (char : Char) (rest : Text) : Step Unit Mark :=
  if char = ';' then ⟨[.semicolon], (), rest⟩
  else if isLexicalSpace char then ⟨[.space], (), rest⟩
  else if startsComment char rest then
    match commentParts rest.tail with
    | some parts => ⟨[.space], (), parts.2⟩
    | none => ⟨[.unclosed], (), []⟩
  else if char == '-' && rest.head? == some '-' then ⟨[.space], (), afterLine rest.tail⟩
  else if isOpening char then
    ⟨[if rest.contains (closingOf char) then .other else .unclosed], (),
      (rest.dropWhile (· != closingOf char)).tail⟩
  else if isIdentifierChar char then
    ⟨[identifierMark (char :: rest.takeWhile isIdentifierChar)], (),
      rest.dropWhile isIdentifierChar⟩
  else ⟨[.other], (), rest⟩

theorem markStep_shrinks (place : Unit) (char : Char) (rest : Text) :
    (markStep place char rest).remaining.length ≤ rest.length := by
  unfold markStep
  split
  · exact Nat.le_refl _
  · split
    · exact Nat.le_refl _
    · split
      · split
        · rename_i parts found
          have closed := congrArg List.length (commentParts_eq found)
          simp only [List.length_append, List.length_cons, List.length_tail] at closed
          show parts.2.length ≤ rest.length
          omega
        · exact Nat.zero_le _
      · split
        · exact ((afterLine_suffix rest.tail).trans (List.tail_suffix rest)).length_le
        · split
          · exact ((List.tail_suffix _).trans (List.dropWhile_suffix _)).length_le
          · split
            · exact (List.dropWhile_suffix _).length_le
            · exact Nat.le_refl _

def markScanner : Scanner Unit Mark where
  step := markStep
  shrinks := markStep_shrinks

/-- The states of `sqlite3_complete`. -/
inductive Progress where
  | invalid
  | start
  | normal
  | explain
  | create
  | trigger
  | semicolon
  | finish
deriving DecidableEq, Repr

/-- The transition table of `sqlite3_complete`; an unclosed token is never complete. -/
def Progress.after : Progress → Mark → Progress
  | _, .unclosed => .invalid
  | state, .space => state
  | .trigger, .semicolon | .semicolon, .semicolon => .semicolon
  | _, .semicolon => .start
  | .invalid, .explain | .start, .explain => .explain
  | .invalid, .create | .start, .create | .explain, .create => .create
  | .explain, .other => .explain
  | .create, .temp => .create
  | .create, .trigger => .trigger
  | .semicolon, .finish => .finish
  | .trigger, _ | .semicolon, _ | .finish, _ => .trigger
  | _, _ => .normal

/-- `complete_statement`. -/
def completeStatement (sql : Text) : Bool :=
  (scan markScanner () sql).foldl Progress.after .invalid == .start

end Snekql.SqliteBodies
