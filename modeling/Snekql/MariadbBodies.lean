import Mathlib.Data.List.TakeWhile
import Snekql.MigrationHistory
import Snekql.Scanners
import Snekql.Splicing

/-!
# Migration bodies for MariaDB

The scanner that looks for transaction control in a migration body, and next to it the words
that MariaDB itself reads in the same text. The server stops an identifier at `@`, starts a
`--` comment only before a space or control character, and reads an executable comment as
ordinary SQL until the first closing mark outside strings and comments.
-/

namespace Snekql.MariadbMigrations

open Snekql.Splicing (Text)
open Snekql.Migrations (isSpace Migration)
open Snekql.Scanning

/-- What Python knows about characters; outside ASCII nothing is assumed. -/
structure CharacterData where
  isAlpha : Char → Bool
  isAlnum : Char → Bool
  upper : Text → Text
  isAlnum_of_isAlpha : ∀ char, isAlpha char = true → isAlnum char = true
  isAlpha_ascii : ∀ char, char.toNat < 128 → isAlpha char = char.isAlpha
  isAlnum_ascii : ∀ char, char.toNat < 128 → isAlnum char = char.isAlphanum
  upper_ascii : ∀ text, (∀ char ∈ text, char.toNat < 128) → upper text = text.map Char.toUpper

/-- The apostrophe, which delimits strings. -/
def stringQuote : Char := Char.ofNat 39

/-- The code point of the backtick, which delimits identifiers. -/
def backtick : Char := Char.ofNat 96

def isQuote (char : Char) : Bool := char == backtick || char == stringQuote || char == '"'

/-! ## Extents -/

/-- The text after the end of the line. -/
def afterLine : Text → Text
  | [] => []
  | char :: rest => if char = '\n' then rest else afterLine rest

/-- The text before and after the first closing mark of a comment. -/
def commentParts : Text → Option (Text × Text)
  | [] => none
  | char :: rest =>
    if char = '*' ∧ rest.head? = some '/' then some ([], rest.tail)
    else (commentParts rest).map (fun parts => (char :: parts.1, parts.2))

/-- What an executable comment holds after its marker, given the text after `/*`. -/
def executableBody (text : Text) : Option Text :=
  if text.head? = some '!' then some text.tail
  else if text.take 2 = ['M', '!'] then some (text.drop 2)
  else none

theorem afterLine_suffix (text : Text) : afterLine text <:+ text := by
  induction text with
  | nil => exact List.suffix_rfl
  | cons char rest ih =>
    unfold afterLine
    split
    · exact List.suffix_cons char rest
    · exact ih.trans (List.suffix_cons char rest)

/-- The parts and the closing mark are the whole text. -/
theorem commentParts_eq {text content after : Text}
    (parts : commentParts text = some (content, after)) :
    text = content ++ '*' :: '/' :: after := by
  induction text generalizing content with
  | nil => cases parts
  | cons char rest ih =>
    unfold commentParts at parts
    split at parts
    · rename_i closing
      cases parts
      cases rest with
      | nil => simp at closing
      | cons next rest =>
        obtain ⟨rfl, next⟩ := closing
        cases next
        rfl
    · rw [Option.map_eq_some_iff] at parts
      obtain ⟨⟨inner, last⟩, found, same⟩ := parts
      cases same
      rw [ih found]
      rfl

theorem executableBody_suffix {text body : Text} (marked : executableBody text = some body) :
    body <:+ text := by
  unfold executableBody at marked
  split at marked
  · cases marked
    exact List.tail_suffix text
  · split at marked
    · cases marked
      exact List.drop_suffix 2 text
    · cases marked

/-! ## The validator -/

/-- `_read_quoted`, after the opening quote: the value and the text that follows. -/
def readQuoted (quote : Char) : Text → Text × Text
  | [] => ([], [])
  | char :: rest =>
    if quote ≠ backtick ∧ char = '\\' then
      match rest with
      | [] => ([char], [])
      | escaped :: rest =>
        let read := readQuoted quote rest
        (escaped :: read.1, read.2)
    else if char ≠ quote then
      let read := readQuoted quote rest
      (char :: read.1, read.2)
    else
      match rest with
      | [] => ([], [])
      | next :: rest =>
        if next = quote then
          let read := readQuoted quote rest
          (quote :: read.1, read.2)
        else ([], next :: rest)

/-- `sql.startswith("--", index)` before a space or at the end. -/
def startsDashComment (char : Char) (rest : Text) : Bool :=
  char == '-' && rest.head? == some '-' && (rest.tail.head?.map isSpace).getD true

def startsComment (char : Char) (rest : Text) : Bool := char == '/' && rest.head? == some '*'

/-- `_executable_comment_tokens` up to its recursion: the SQL to scan. -/
def executableSql (content : Text) : Option Text :=
  (executableBody content).map (fun body =>
    ((body.dropWhile isSpace).dropWhile Char.isDigit).dropWhile isSpace)

variable (python : CharacterData)

def startsToken (char : Char) : Bool := python.isAlpha char || char == '_' || char == '@'

def continuesToken (char : Char) : Bool := python.isAlnum char || char == '_' || char == '@'

/-- The loop of `_sql_tokens`. -/
def sqlTokensFor : Nat → Text → List Text
  | 0, _ => []
  | _ + 1, [] => []
  | fuel + 1, char :: rest =>
    if isSpace char then sqlTokensFor fuel rest
    else if char == '#' then sqlTokensFor fuel (afterLine rest)
    else if startsDashComment char rest then sqlTokensFor fuel (afterLine rest.tail)
    else if startsComment char rest then
      match commentParts rest.tail with
      | none => []
      | some (content, after) =>
        (match executableSql content with
          | some sql => sqlTokensFor fuel sql
          | none => []) ++ sqlTokensFor fuel after
    else if char == backtick then
      python.upper (readQuoted char rest).1 :: sqlTokensFor fuel (readQuoted char rest).2
    else if char == stringQuote || char == '"' then sqlTokensFor fuel (readQuoted char rest).2
    else if startsToken python char then
      (python.upper (char :: rest.takeWhile (continuesToken python))).dropWhile (· == '@') ::
        sqlTokensFor fuel (rest.dropWhile (continuesToken python))
    else if char == ';' then [';'] :: sqlTokensFor fuel rest
    else sqlTokensFor fuel rest

/-- `_sql_tokens`. -/
def sqlTokens (sql : Text) : List Text := sqlTokensFor python sql.length sql

/-- `_statement_starts`: the nonempty stretches between semicolons. -/
def statementStarts (tokens : List Text) : List (List Text) :=
  (tokens.splitOn [';']).filter (fun statement => !statement.isEmpty)

/-- `_RESTRICTED_BODY_TOKENS`. -/
def restrictedBodyTokens : List Text :=
  ["AUTOCOMMIT", "CALL", "CHARACTER_SET_CLIENT", "CHARACTER_SET_CONNECTION",
    "CHARACTER_SET_RESULTS", "CHECK_CONSTRAINT_CHECKS", "COLLATION_CONNECTION", "COMMIT",
    "EXECUTE", "FOREIGN_KEY_CHECKS", "GET_LOCK", "NAMES", "PREPARE", "RELEASE_ALL_LOCKS",
    "RELEASE_LOCK", "ROLLBACK", "SAVEPOINT", "SQL_MODE", "TIME_ZONE", "TRANSACTION",
    "UNIQUE_CHECKS", "USE"].map String.toList

/-- A statement that begins by taking over the transaction or the table locks. -/
def invalidStart (statement : List Text) : Bool :=
  [["BEGIN".toList], ["XA".toList]].contains (statement.take 1) ||
    [["LOCK".toList, "TABLES".toList], ["START".toList, "TRANSACTION".toList],
      ["UNLOCK".toList, "TABLES".toList]].contains (statement.take 2)

/-- The body is refused. -/
def isRestricted (sql : Text) : Bool :=
  let tokens := sqlTokens python sql
  restrictedBodyTokens.any tokens.contains || (statementStarts tokens).any invalidStart

/-- "MariaDB migration … cannot change transaction or advisory-lock state". -/
structure RestrictedBodyError where
  name : String
deriving DecidableEq, Repr

/-- `validate_mariadb_migrations`. -/
def validateMariadbMigrations : List Migration → Except RestrictedBodyError Unit
  | [] => .ok ()
  | migration :: rest =>
    if isRestricted python migration.sql.toList then .error { name := migration.name }
    else validateMariadbMigrations rest

/-! ## The server's words -/

namespace Server

/-- Letters, digits, `_`, `$` and everything outside ASCII. -/
def isIdentifierChar (char : Char) : Bool :=
  char.isAlphanum || char == '_' || char == '$' || decide (128 ≤ char.toNat)

/-- Spaces and control characters. -/
def isBlankOrControl (char : Char) : Bool := decide (char.toNat ≤ 32) || char.toNat == 127

def startsDashComment (char : Char) (rest : Text) : Bool :=
  char == '-' && rest.head? == some '-' && (rest.tail.head?.map isBlankOrControl).getD true

/-- The text after a quoted token, given the text after the opening quote. -/
def afterQuoted (quote : Char) : Text → Text
  | [] => []
  | char :: rest =>
    if quote ≠ backtick ∧ char = '\\' then
      match rest with
      | [] => []
      | _ :: rest => afterQuoted quote rest
    else if char ≠ quote then afterQuoted quote rest
    else
      match rest with
      | [] => []
      | next :: rest => if next = quote then afterQuoted quote rest else next :: rest

/-- A version is five digits, or six. -/
def afterVersion (body : Text) : Text :=
  if 5 ≤ (body.takeWhile Char.isDigit).length then
    body.drop (min 6 (body.takeWhile Char.isDigit).length)
  else body

theorem afterQuoted_suffix (quote : Char) (text : Text) : afterQuoted quote text <:+ text := by
  fun_induction afterQuoted quote text with
  | case1 => exact List.suffix_rfl
  | case2 => exact List.nil_suffix
  | case3 char escape escaped rest ih =>
    exact (ih.trans (List.suffix_cons _ _)).trans (List.suffix_cons _ _)
  | case4 char rest escape other ih =>
    exact ih.trans (List.suffix_cons _ _)
  | case5 => exact List.nil_suffix
  | case6 char escape other rest ih =>
    exact (ih.trans (List.suffix_cons _ _)).trans (List.suffix_cons _ _)
  | case7 => exact List.suffix_cons _ _

/-- Only digits are skipped. -/
theorem afterVersion_eq (body : Text) :
    ∃ digits, body = digits ++ afterVersion body ∧ ∀ digit ∈ digits, digit.isDigit = true := by
  unfold afterVersion
  split
  · refine ⟨body.take (min 6 (body.takeWhile Char.isDigit).length),
      (List.take_append_drop _ body).symm, ?_⟩
    intro digit listed
    have inRun : digit ∈ body.takeWhile Char.isDigit := by
      have run : body.take (body.takeWhile Char.isDigit).length = body.takeWhile Char.isDigit :=
        (List.prefix_iff_eq_take.mp (List.takeWhile_prefix Char.isDigit)).symm
      rw [← run]
      exact List.take_subset_take_left _ (Nat.min_le_right _ _) listed
    exact List.mem_takeWhile_imp inRun
  · exact ⟨[], rfl, fun digit listed => by cases listed⟩

/-- Whether an executable comment is open, and whether the last character belongs to a word. -/
structure Place where
  executable : Bool
  inWord : Bool
deriving DecidableEq, Repr

def step (place : Place) (char : Char) (rest : Text) : Step Place Text :=
  let outside : Place := { place with inWord := false }
  if char == '#' then ⟨[], outside, afterLine rest⟩
  else if startsDashComment char rest then ⟨[], outside, afterLine rest.tail⟩
  else if startsComment char rest then
    match executableBody rest.tail with
    | some body => ⟨[], { executable := true, inWord := false }, afterVersion body⟩
    | none =>
      match commentParts rest.tail with
      | none => ⟨[], outside, []⟩
      | some parts => ⟨[], outside, parts.2⟩
  else if place.executable && char == '*' && rest.head? == some '/' then
    ⟨[], { executable := false, inWord := false }, rest.tail⟩
  else if isQuote char then ⟨[], outside, afterQuoted char rest⟩
  else if isIdentifierChar char then
    ⟨if place.inWord then [] else [char :: rest.takeWhile isIdentifierChar],
      { place with inWord := true }, rest⟩
  else ⟨[], outside, rest⟩

theorem step_shrinks (place : Place) (char : Char) (rest : Text) :
    (step place char rest).remaining.length ≤ rest.length := by
  have tail : rest.tail <:+ rest := List.tail_suffix rest
  unfold step
  dsimp only
  split
  · exact (afterLine_suffix rest).length_le
  · split
    · exact ((afterLine_suffix rest.tail).trans tail).length_le
    · split
      · split
        · rename_i body marked
          obtain ⟨digits, read, _⟩ := afterVersion_eq body
          have version : afterVersion body <:+ body := ⟨digits, read.symm⟩
          exact ((version.trans (executableBody_suffix marked)).trans tail).length_le
        · split
          · exact Nat.zero_le _
          · rename_i parts found
            have closed := congrArg List.length (commentParts_eq found)
            simp only [List.length_append, List.length_cons, List.length_tail] at closed
            show parts.2.length ≤ rest.length
            omega
      · split
        · exact tail.length_le
        · split
          · exact (afterQuoted_suffix char rest).length_le
          · split <;> exact Nat.le_refl _

def scanner : Scanner Place Text where
  step := step
  shrinks := step_shrinks

/-- The words of a body: maximal runs of identifier characters outside strings, quoted
identifiers and ordinary comments. -/
def words (body : Text) : List Text :=
  scan scanner { executable := false, inWord := false } body

end Server

/-! ## Bodies that both read alike -/

/-- Where the server is: outside executable comments, in one that has a given number of
characters after its first closing mark, or in one after an ordinary comment inside it. -/
inductive Region where
  | outer
  | executable (after : Nat)
  | resumed
deriving DecidableEq, Repr

def Region.isExecutable : Region → Bool
  | .executable _ => true
  | _ => false

/-- The first closing mark of the executable comment is still ahead. -/
def Region.reaches (remaining : Text) : Region → Bool
  | .executable after => decide (after + 2 ≤ remaining.length)
  | _ => true

/-- The checks at a comment, given the text after `/*`: an executable comment closes and is not
opened inside another; in an executable comment no closing mark overlaps the start. -/
def plainComment (region : Region) (rest : Text) : Step Region Bool :=
  match executableBody rest with
  | some body =>
    match commentParts body with
    | some parts =>
      ⟨[!region.isExecutable], .executable parts.2.length, Server.afterVersion body⟩
    | none => ⟨[false], region, []⟩
  | none =>
    match commentParts rest with
    | some parts =>
      ⟨[!(region.isExecutable && rest.head? == some '/')],
        if region.isExecutable then .resumed else region, parts.2⟩
    | none => ⟨[!region.isExecutable], region, []⟩

/-- The checks outside line comments: a closing mark after an ordinary comment in an executable
one does not run into the start of another comment, no quoted text holds a closing mark in an
executable comment, and no `@` follows other characters of a token. -/
def plainMark (region : Region) (char : Char) (rest : Text) : Step Region Bool :=
  if startsComment char rest then plainComment region rest.tail
  else if region != .outer && char == '*' && rest.head? == some '/' then
    ⟨[region.isExecutable || rest.tail.head? != some '*'], .outer, rest.tail⟩
  else if isQuote char then
    ⟨[region.reaches (Server.afterQuoted char rest)], region, Server.afterQuoted char rest⟩
  else if startsToken python char then
    ⟨[!((char :: rest.takeWhile (continuesToken python)).dropWhile (· == '@')).contains '@'],
      region, rest.dropWhile (continuesToken python)⟩
  else ⟨[], region, rest⟩

/-- Follow the server and check each place where the validator may read otherwise. Both must
see the same `--` comments: no control character but a space follows the dashes, and no space
outside ASCII. A line comment holds no closing mark of an executable comment. -/
def plainStep (region : Region) (char : Char) (rest : Text) : Step Region Bool :=
  if isSpace char then ⟨[], region, rest⟩
  else if char == '#' then ⟨[region.reaches (afterLine rest)], region, afterLine rest⟩
  else if startsDashComment char rest != Server.startsDashComment char rest then
    ⟨[false], region, rest⟩
  else if startsDashComment char rest then
    ⟨[region.reaches (afterLine rest.tail)], region, afterLine rest.tail⟩
  else plainMark python region char rest

theorem plainComment_shrinks (region : Region) (rest : Text) :
    (plainComment region rest).remaining.length ≤ rest.length := by
  unfold plainComment
  split
  · rename_i body marked
    split
    · obtain ⟨digits, read, _⟩ := Server.afterVersion_eq body
      have version : Server.afterVersion body <:+ body := ⟨digits, read.symm⟩
      exact (version.trans (executableBody_suffix marked)).length_le
    · exact Nat.zero_le _
  · split
    · rename_i parts found
      have closed := congrArg List.length (commentParts_eq found)
      simp only [List.length_append, List.length_cons] at closed
      show parts.2.length ≤ rest.length
      omega
    · exact Nat.zero_le _

theorem plainMark_shrinks (region : Region) (char : Char) (rest : Text) :
    (plainMark python region char rest).remaining.length ≤ rest.length := by
  have tail : rest.tail <:+ rest := List.tail_suffix rest
  unfold plainMark
  split
  · exact (plainComment_shrinks region rest.tail).trans tail.length_le
  · split
    · exact tail.length_le
    · split
      · exact (Server.afterQuoted_suffix char rest).length_le
      · split
        · exact (List.dropWhile_suffix _).length_le
        · exact Nat.le_refl _

theorem plainStep_shrinks (region : Region) (char : Char) (rest : Text) :
    (plainStep python region char rest).remaining.length ≤ rest.length := by
  unfold plainStep
  split
  · exact Nat.le_refl _
  · split
    · exact (afterLine_suffix rest).length_le
    · split
      · exact Nat.le_refl _
      · split
        · exact ((afterLine_suffix rest.tail).trans (List.tail_suffix rest)).length_le
        · exact plainMark_shrinks python region char rest

def plainScanner : Scanner Region Bool where
  step := plainStep python
  shrinks := plainStep_shrinks python

/-- The server meets nothing in the body that the validator reads otherwise. -/
def isPlain (body : Text) : Bool := (scan (plainScanner python) .outer body).all id

end Snekql.MariadbMigrations
