import Snekql.MigrationHistory
import Snekql.Splicing

/-!
# Token spans of recorded SQL

The scanner behind the bounded edits of recorded definitions, and the edits themselves. A
token keeps its source span, so that an edit replaces a span and copies the rest of the text.
Character classes outside ASCII are a parameter.
-/

namespace Snekql.Recorded

open Snekql.Splicing (Text joinWith)
open Snekql.Migrations (isSpace)

/-- What Python says about characters and their case. -/
structure Unicode where
  isAlnum : Char → Bool
  casefold : Text → Text
  upper : Text → Text

/-- Errors with their message; `about` holds the values formatted into it. -/
inductive MigrationError where
  | schema (message : String)
  | value (message : String)
  | index
  | stopIteration
  | package (message : String) (about : List Text)
deriving DecidableEq, Repr

/-- `str(error)` of the errors that are caught and wrapped. -/
def MigrationError.message : MigrationError → String
  | .schema message => message
  | .value message => message
  | .index => "tuple index out of range"
  | .stopIteration => ""
  | .package message _ => message

inductive Kind where
  | string
  | identifier
  | word
  | punct
deriving DecidableEq, Repr

/-- A significant token with its original source span. -/
structure Token where
  value : Text
  start : Nat
  stop : Nat
  kind : Kind
deriving DecidableEq, Repr

def isAscii (char : Char) : Bool := char.toNat < 128

/-- `ascii_lower`. -/
def asciiLower (text : Text) : Text := text.map Char.toLower

def lstrip (text : Text) : Text := text.dropWhile isSpace

def rstrip (text : Text) : Text := (text.reverse.dropWhile isSpace).reverse

def strip (text : Text) : Text := rstrip (lstrip text)

/-- `text[start:stop]`. -/
def slice (text : Text) (start stop : Nat) : Text := (text.take stop).drop start

/-- The apostrophe, which delimits strings. -/
def stringQuote : Char := Char.ofNat 39

/-- The code point of the backtick. -/
def backtick : Char := Char.ofNat 96

/-- The value of a quoted token and the characters read after its opening quote. -/
def quotedBody (mysql : Bool) (opening close : Char) : Text → Option (Text × Nat)
  | [] => none
  | char :: rest =>
    if mysql && char == '\\' && opening == stringQuote then
      match rest with
      | [] => none
      | escaped :: rest =>
        (quotedBody mysql opening close rest).map
          (fun body => (char :: escaped :: body.1, body.2 + 2))
    else if char == close then
      match rest with
      | [] => some ([], 1)
      | next :: rest =>
        if opening != '[' && next == close then
          (quotedBody mysql opening close rest).map
            (fun body => (close :: body.1, body.2 + 2))
        else some ([], 1)
    else (quotedBody mysql opening close rest).map (fun body => (char :: body.1, body.2 + 1))

/-- `_quoted`, at the opening quote. -/
def quoted (mysql : Bool) (start : Nat) (opening : Char) (rest : Text) :
    Except MigrationError Token :=
  match quotedBody mysql opening (if opening == '[' then ']' else opening) rest with
  | none => .error (.schema "unterminated SQL quote")
  | some (value, read) =>
    .ok { value, start, stop := start + 1 + read,
          kind := if opening == stringQuote then .string else .identifier }

/-- The characters up to and including the end of the line. -/
def lineLength : Text → Nat
  | [] => 0
  | char :: rest => if char == '\n' then 1 else lineLength rest + 1

/-- The characters up to and including the end of a comment. -/
def commentLength : Text → Option Nat
  | '*' :: '/' :: _ => some 2
  | _ :: rest => (commentLength rest).map (· + 1)
  | [] => none

def startsWith (text : Text) (start : String) : Bool := start.toList.isPrefixOf text

/-- A line comment starts here. -/
def startsLineComment (mysql : Bool) (text : Text) : Bool :=
  startsWith text "--" &&
    (!mysql || match text.drop 2 with
      | [] => true
      | char :: _ => char.toNat ≤ 32)

/-- The characters of a bare word. -/
def isWordChar (unicode : Unicode) (mysql : Bool) (char : Char) : Bool :=
  unicode.isAlnum char || char == '_' || char == '$' || (!mysql && !isAscii char)

def isQuote (char : Char) : Bool :=
  char == stringQuote || char == '"' || char == backtick || char == '['

/-- The loop of `tokens`, at a character position. -/
def scan (unicode : Unicode) (mysql allowExecutableComments : Bool) :
    Nat → Nat → Text → Except MigrationError (List Token)
  | 0, _, _ => .ok []
  | _ + 1, _, [] => .ok []
  | fuel + 1, index, char :: rest =>
    let continueAt (count : Nat) :=
      scan unicode mysql allowExecutableComments fuel (index + count) ((char :: rest).drop count)
    if isSpace char && (mysql || isAscii char) then continueAt 1
    else if startsLineComment mysql (char :: rest) then continueAt (lineLength (char :: rest))
    else if startsWith (char :: rest) "/*" then
      match commentLength (rest.drop 1) with
      | none => .error (.schema "unterminated SQL comment")
      | some count =>
        if mysql && !allowExecutableComments &&
            (startsWith (char :: rest) "/*!" || startsWith (char :: rest) "/*M!") then
          .error (.schema "executable comments require an explicit migration adapter")
        else continueAt (count + 2)
    else if isQuote char then do
      let token ← quoted mysql index char rest
      return token :: (← continueAt (token.stop - index))
    else if isWordChar unicode mysql char then do
      let word := char :: rest.takeWhile (isWordChar unicode mysql)
      let token : Token :=
        { value := word, start := index, stop := index + word.length, kind := .word }
      return token :: (← continueAt word.length)
    else do
      let token : Token := { value := [char], start := index, stop := index + 1, kind := .punct }
      return token :: (← continueAt 1)

/-- `tokens`, with executable comments refused. -/
def tokens (unicode : Unicode) (sql : Text) (mysql : Bool) : Except MigrationError (List Token) :=
  scan unicode mysql false sql.length 0 sql

def Token.isPunct (token : Token) (char : Char) : Bool :=
  token.kind == .punct && token.value == [char]

/-- `(kind, ascii_lower(value)) == ("word", word)`. -/
def Token.isWord (token : Token) (word : String) : Bool :=
  token.kind == .word && asciiLower token.value == word.toList

/-- A bare word among the given ones, up to ASCII case. -/
def Token.isWordIn (token : Token) (words : List String) : Bool :=
  words.any token.isWord

/-- The nesting after a token. -/
def Token.nest (token : Token) (depth : Int) : Int :=
  if token.isPunct '(' then depth + 1 else if token.isPunct ')' then depth - 1 else depth

/-- `references`: names mentioned as identifiers or words. -/
def references (unicode : Unicode) (sql : Text) (names : List Text) (mysql : Bool) :
    Except MigrationError Bool := do
  let fold := if mysql then unicode.casefold else asciiLower
  let stream ← tokens unicode sql mysql
  return stream.any (fun token =>
    (token.kind == .word || token.kind == .identifier) &&
      (names.map fold).contains (fold token.value))

/-- Only whitespace. -/
def isBlank (text : Text) : Bool := (strip text).isEmpty

/-- Only whitespace stands before each token, from `stop` on. -/
def blankGaps (sql : Text) : Nat → List Token → Bool
  | _, [] => true
  | stop, token :: rest => isBlank (slice sql stop token.start) && blankGaps sql token.stop rest

/-- The text after the last token. -/
def trailing (sql : Text) (stream : List Token) : Text :=
  sql.drop ((stream.getLast?.map Token.stop).getD 0)

/-- `_reject_sql_comments`. -/
def rejectSqlComments (sql : Text) (stream : List Token) : Except MigrationError Unit :=
  if blankGaps sql 0 stream && isBlank (trailing sql stream) then .ok ()
  else .error (.schema "SQL comments in nullability relaxation require an explicit adapter")

/-- The spans of the top-level NOT NULL constraints. -/
def notNullSpans : Int → List Token → Except MigrationError (List (Nat × Nat))
  | _, [] => .ok []
  | depth, token :: rest =>
    if token.isPunct '(' || token.isPunct ')' then notNullSpans (token.nest depth) rest
    else if depth == 0 && token.kind == .word then
      if token.isWordIn ["primary", "auto_increment", "constraint", "generated", "as", "unique",
          "references", "check"] then
        .error (.schema
          "nullability relaxation requires an ordinary unnamed column constraint")
      else do
        let spans ← notNullSpans depth rest
        match rest with
        | right :: _ =>
          return if token.isWord "not" && right.isWord "null" then
            (token.start, right.stop) :: spans else spans
        | [] => return spans
    else notNullSpans depth rest

/-- `nullable_definition`. -/
def nullableDefinition (unicode : Unicode) (sql : Text) (mysql : Bool) :
    Except MigrationError Text := do
  let stream ← tokens unicode sql mysql
  rejectSqlComments sql stream
  match ← notNullSpans 0 stream.tail with
  | [(start, stop)] =>
    return rstrip (rstrip (sql.take start) ++ " ".toList ++ lstrip (sql.drop stop))
  | _ => .error (.schema "nullability relaxation requires exactly one explicit NOT NULL")

/-- The search of `required_definition` for the place of NOT NULL. -/
def requiredIn (sql : Text) : Int → List Token → Except MigrationError Text
  | _, [] => .ok (sql ++ " NOT NULL".toList)
  | depth, token :: rest =>
    if token.isPunct '(' || token.isPunct ')' then requiredIn sql (token.nest depth) rest
    else if depth == 0 && token.isWordIn ["constraint", "primary", "not", "null", "unique",
        "check", "default", "references", "generated", "as"] then
      if token.isWord "null" then
        .ok (sql.take token.start ++ "NOT NULL".toList ++ sql.drop token.stop)
      else if token.isWord "not" then
        match rest with
        | [] => .error .index
        | right :: _ =>
          if asciiLower right.value == "null".toList then .ok sql
          else .ok (sql.take token.start ++ "NOT NULL ".toList ++ sql.drop token.start)
      else .ok (sql.take token.start ++ "NOT NULL ".toList ++ sql.drop token.start)
    else requiredIn sql depth rest

/-- `required_definition`. -/
def requiredDefinition (unicode : Unicode) (sql : Text) (mysql : Bool) :
    Except MigrationError Text := do
  let stream ← tokens unicode sql mysql
  requiredIn sql 0 stream.tail

/-- The parts of a `CREATE TABLE`: the text before the parenthesis, the declarations in it and
the text after it. -/
structure TableParts where
  header : Text
  parts : List Text
  suffix : Text
deriving DecidableEq, Repr

/-- The loop of `split_table`: the depth, where the part began, where the parenthesis opened. -/
def splitIn (sql : Text) : Int → Nat → Nat → List Token → Except MigrationError TableParts
  | _, _, _, [] => .error (.schema "unsupported CREATE TABLE definition")
  | depth, start, opening, token :: rest =>
    if token.isPunct '(' then
      if depth == 0 then splitIn sql 1 token.stop token.start rest
      else splitIn sql (depth + 1) start opening rest
    else if token.isPunct ')' then
      if depth == 1 then
        .ok { header := sql.take opening, parts := [strip (slice sql start token.start)],
              suffix := sql.drop token.stop }
      else splitIn sql (depth - 1) start opening rest
    else if token.isPunct ',' && depth == 1 then do
      let following ← splitIn sql depth token.stop opening rest
      return { following with
        parts := strip (slice sql start token.start) :: following.parts }
    else splitIn sql depth start opening rest

/-- `split_table`. -/
def splitTable (unicode : Unicode) (sql : Text) (mysql : Bool) :
    Except MigrationError TableParts := do
  let stream ← tokens unicode sql mysql
  match stream with
  | first :: second :: third :: _ =>
    if first.isWord "create" && second.isWord "virtual" && third.isWord "table" then
      .error (.schema "virtual-table rebuild requires an explicit adapter")
    else splitIn sql 0 0 0 stream
  | _ => splitIn sql 0 0 0 stream

/-- `column_name`: `none` for a table constraint. -/
def columnName (unicode : Unicode) (definition : Text) (mysql : Bool) :
    Except MigrationError (Option Text) := do
  match ← tokens unicode definition mysql with
  | [] => .error .index
  | first :: _ =>
    if first.isWordIn ["constraint", "primary", "unique", "check", "foreign"] then return none
    else if mysql && first.isWordIn ["key", "index", "fulltext", "spatial"] then return none
    else return some first.value

/-- The tokens from each top-level DEFAULT on. -/
def defaultsIn : Int → List Token → List (List Token)
  | _, [] => []
  | depth, token :: rest =>
    if token.isPunct '(' || token.isPunct ')' then defaultsIn (token.nest depth) rest
    else if depth == 0 && token.isWord "default" then (token :: rest) :: defaultsIn depth rest
    else defaultsIn depth rest

/-- The token that closes the open parentheses. -/
def closing : Nat → List Token → Option Token
  | _, [] => none
  | depth, token :: rest =>
    if token.isPunct '(' then closing (depth + 1) rest
    else if token.isPunct ')' then
      if depth ≤ 1 then some token else closing (depth - 1) rest
    else closing depth rest

/-- `_default_end`: the last token of a scalar or parenthesized default expression. -/
def defaultEnd (first : Token) (rest : List Token) : Except MigrationError Token :=
  if first.isPunct '(' then
    match closing 1 rest with
    | some token => .ok token
    | none => .error (.schema "unbalanced DEFAULT expression")
  else .ok first

/-- `without_default`. -/
def withoutDefault (unicode : Unicode) (definition : Text) : Except MigrationError Text := do
  let stream ← tokens unicode definition false
  match defaultsIn 0 stream with
  | [] => return definition
  | [word :: rest] =>
    let rest := match rest with
      | sign :: expression =>
        if sign.value == ['+'] || sign.value == ['-'] then expression else rest
      | [] => rest
    match rest with
    | [] => .error (.schema "empty DEFAULT clause")
    | first :: rest =>
      let last ← defaultEnd first rest
      return rstrip (definition.take word.start) ++ definition.drop last.stop
  | _ => .error (.schema "multiple DEFAULT clauses require an explicit adapter")

end Snekql.Recorded
