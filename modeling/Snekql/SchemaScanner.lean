import Snekql.SchemaDdl
import Snekql.CheckRoundTrip

/-!
# The scanner of SQLite table definitions

The reader of the table definitions that SQLite stores: the tokens that matter, the definitions
between the outer parentheses, and what it learns from them about the collations of the columns
and about `AUTOINCREMENT`.
-/

namespace Snekql.Schema

open Snekql.Checks Snekql.Scanning
open Snekql.Splicing (Text)

/-! ## Tokens -/

/-- The value of a quoted token after its opening quote, and the text after it. A value that is
not closed ends with the text. -/
def quotedPart (quote : Char) : Text → Text × Text
  | [] => ([], [])
  | char :: rest =>
    if char ≠ quote then
      let (value, remaining) := quotedPart quote rest
      (char :: value, remaining)
    else match rest with
      | next :: others =>
        if next = quote then
          let (value, remaining) := quotedPart quote others
          (quote :: value, remaining)
        else ([], next :: others)
      | [] => ([], [])

def schemaQuotes : List Char := [textQuote, '"', Query.Mariadb.identifierQuote]

/-- `_SQLiteToken` has the kinds of the other reader except numbers. -/
abbrev SchemaStep := Step Unit Token

def pass (remaining : Text) : SchemaStep := { output := [], state := (), remaining }

def keep (kind : TokenKind) (text remaining : Text) : SchemaStep :=
  { output := [{ kind, text }], state := (), remaining }

/-- The loop body of `_sqlite_tokens`. -/
def schemaStep (characters : Characters) (char : Char) (rest : Text) : SchemaStep :=
  if char = '-' ∧ rest.head? = some '-' then pass (afterLine (rest.drop 1))
  else if char = '/' ∧ rest.head? = some '*' then pass ((afterComment (rest.drop 1)).getD [])
  else if char ∈ schemaQuotes then
    let (value, remaining) := quotedPart char rest
    keep (if char = textQuote then .literal else .identifier) value remaining
  else if char = '[' then
    keep .identifier (rest.takeWhile (· ≠ ']')) ((rest.dropWhile (· ≠ ']')).drop 1)
  else if characters.isAlpha char || char = '_' then
    keep .word (char :: rest.takeWhile (continuesWord characters))
      (rest.dropWhile (continuesWord characters))
  else if char = '(' ∨ char = ')' ∨ char = ',' then keep .symbol [char] rest
  else pass rest

theorem length_quotedPart_le (quote : Char) (text : Text) :
    (quotedPart quote text).2.length ≤ text.length := by
  induction text using quotedPart.induct quote with
  | case1 => exact Nat.le_refl _
  | case2 char rest unequal value remaining split ih =>
    rw [quotedPart.eq_def]
    simp only [if_pos unequal]
    exact Nat.le_trans ih (Nat.le_succ _)
  | case3 char equal others value remaining split ih =>
    rw [quotedPart.eq_def]
    simp only [if_neg equal, if_true]
    exact Nat.le_trans ih (Nat.le_add_right _ 2)
  | case4 char equal next others single =>
    rw [quotedPart.eq_def]
    simp only [if_neg equal, if_neg single]
    exact Nat.le_succ _
  | case5 char equal =>
    rw [quotedPart.eq_def]
    simp only [if_neg equal]
    exact Nat.zero_le _

theorem length_schemaStep_le (characters : Characters) (char : Char) (rest : Text) :
    (schemaStep characters char rest).remaining.length ≤ rest.length := by
  have dropped : (rest.drop 1).length = rest.length - 1 := List.length_drop
  unfold schemaStep
  split
  · exact Nat.le_trans (length_afterLine_le _) (by omega)
  split
  · cases found : afterComment (rest.drop 1) with
    | none => exact Nat.zero_le _
    | some remaining => exact Nat.le_trans (length_afterComment_le found) (by omega)
  split
  · exact length_quotedPart_le char rest
  split
  · exact Nat.le_trans (List.drop_sublist _ _).length_le (List.dropWhile_suffix _).length_le
  split
  · exact (List.dropWhile_suffix _).length_le
  split
  · exact Nat.le_refl _
  · exact Nat.le_refl _

/-- The scanner behind `_sqlite_tokens`. -/
def schemaScanner (characters : Characters) : Scanner Unit Token where
  step := fun _ char rest => schemaStep characters char rest
  shrinks := fun _ char rest => length_schemaStep_le characters char rest

/-- `_sqlite_tokens`. -/
def sqliteTokens (characters : Characters) (sql : Text) : List Token :=
  scan (schemaScanner characters) () sql

/-! ## Definitions -/

def commaToken : Token := { kind := .symbol, text := ",".toList }

/-- The loop of `_sqlite_column_definitions` after the first parenthesis: the open parentheses and
the tokens of the current definition. -/
def splitDefinitions : Nat → List Token → List Token → List (List Token)
  | _, _, [] => []
  | depth, current, token :: rest =>
    if token = openingToken then splitDefinitions (depth + 1) (current ++ [token]) rest
    else if token = closingToken then
      match depth with
      | 0 => if current.isEmpty then [] else [current]
      | depth + 1 => splitDefinitions depth (current ++ [token]) rest
    else if token = commaToken ∧ depth = 0 then current :: splitDefinitions 0 [] rest
    else splitDefinitions depth (current ++ [token]) rest

/-- `_sqlite_column_definitions`. -/
def columnDefinitions (characters : Characters) (sql : Text) : List (List Token) :=
  match (sqliteTokens characters sql).dropWhile (· ≠ openingToken) with
  | [] => []
  | _ :: body => splitDefinitions 0 [] body

section Words

variable (characters : Characters)

/-- The words with which table constraints start. -/
def tableConstraintStarts : List Text :=
  ["CHECK", "CONSTRAINT", "FOREIGN", "PRIMARY", "UNIQUE"].map String.toList

def namesSomething (token : Token) : Bool :=
  token.kind == .identifier || token.kind == .literal || token.kind == .word

/-- The loop of `_sqlite_definition_collation`. -/
def lastCollation : Int → Text → List Token → Text
  | _, collation, [] => collation
  | depth, collation, token :: rest =>
    if token = openingToken then lastCollation (depth + 1) collation rest
    else if token = closingToken then lastCollation (depth - 1) collation rest
    else if depth ≠ 0 ∨ token.kind ≠ .word ∨ characters.upper token.text ≠ "COLLATE".toList then
      lastCollation depth collation rest
    else match rest.head? with
      | some next =>
        lastCollation depth
          (if namesSomething next then characters.upper next.text else collation) rest
      | none => lastCollation depth collation rest

/-- `_sqlite_definition_collation`. -/
def definitionCollation (casefold : Text → Text) : List Token → Option (Text × Text)
  | [] => none
  | name :: rest =>
    if (name.kind == .word && tableConstraintStarts.contains (characters.upper name.text)) ||
        !namesSomething name then none
    else some (casefold name.text, lastCollation characters 0 "BINARY".toList rest)

/-- `_sqlite_column_collations` of a table definition. -/
def columnCollations (casefold : Text → Text) (sql : Text) : List (Text × Text) :=
  Dictionary.ofItems
    ((columnDefinitions characters sql).filterMap (definitionCollation characters casefold))

/-- The collation that `_fetch_column_shapes` reports for a column. -/
def reportedCollation (casefold : Text → Text) (sql name : Text) : Text :=
  (Dictionary.get (columnCollations characters casefold sql) (casefold name)).getD
    "BINARY".toList

/-- The loop of `_sqlite_top_level_words`. -/
def topLevelWords : Int → List Token → List Text
  | _, [] => []
  | depth, token :: rest =>
    if token = openingToken then topLevelWords (depth + 1) rest
    else if token = closingToken then topLevelWords (depth - 1) rest
    else if depth = 0 ∧ token.kind = .word then
      characters.upper token.text :: topLevelWords depth rest
    else topLevelWords depth rest

/-- What comes after the first occurrence of a word. -/
def afterWord (word : String) : List Text → Option (List Text)
  | [] => none
  | first :: rest => if first = word.toList then some rest else afterWord word rest

/-- The words `PRIMARY`, `KEY` and `AUTOINCREMENT` in this order. -/
def declaresAutoincrement (definition : List Token) : Bool :=
  (do
    let words ← afterWord "PRIMARY" (topLevelWords characters 0 definition)
    let words ← afterWord "KEY" words
    afterWord "AUTOINCREMENT" words).isSome

/-- `_table_uses_autoincrement` of a table definition. -/
def tableUsesAutoincrement (sql : Text) : Bool :=
  (columnDefinitions characters sql).any (declaresAutoincrement characters)

end Words

end Snekql.Schema
