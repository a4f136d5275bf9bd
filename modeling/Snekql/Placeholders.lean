import Snekql.QueryDialect

/-!
# Where a driver sees placeholders

SQLite reads a question mark as a placeholder, except inside a quoted identifier or a
string. The MariaDB driver formats the whole text: `%s` is a placeholder wherever it
stands, `%%` is a percent sign, and any other use of a percent sign is an error. The texts
that a dialect contributes hold no placeholder beyond the one it declares, whatever the
identifiers are.
-/

namespace Snekql.Query

open Snekql.Splicing

/-! ## SQLite -/

namespace Sqlite

/-- The apostrophe, which delimits strings. -/
def stringQuote : Char := Char.ofNat 39

inductive Mode where
  | code
  | quoted (quote : Char)
deriving DecidableEq, Repr

def next : Mode → Char → Option (Mode × Token)
  | .code, char =>
    if char = '?' then some (.code, .hole)
    else if char = '"' ∨ char = stringQuote then some (.quoted char, .text [char])
    else some (.code, .text [char])
  | .quoted quote, char => some (if char = quote then .code else .quoted quote, .text [char])

def lexer : Lexer Mode where
  start := .code
  next := next
  final := fun mode => mode = .code
  startIsFinal := rfl

/-- Inside the quotes a doubled quote closes and opens again; all else is copied. -/
theorem copies_doubled (name : Text) :
    copies lexer (.quoted '"') (doubled '"' name) = some (.quoted '"', doubled '"' name) := by
  induction name with
  | nil => rfl
  | cons char rest ih =>
    by_cases quote : char = '"'
    · subst quote
      have opened : copies lexer (.quoted '"') ['"', '"'] = some (.quoted '"', ['"', '"']) := by
        decide
      exact copies_append opened ih
    · have kept : copies lexer (.quoted '"') [char] = some (.quoted '"', [char]) := by
        simp [copies, lexer, next, quote]
      have shape : doubled '"' (char :: rest) = [char] ++ doubled '"' rest := by
        simp [doubled, quote]
      rw [shape]
      exact copies_append kept ih

theorem inert_quoteIdentifier (identifier : String) :
    Inert lexer (quoteIdentifier identifier) := by
  have opened : copies lexer .code ['"'] = some (.quoted '"', ['"']) := by decide
  have closed : copies lexer (.quoted '"') ['"'] = some (.code, ['"']) := by decide
  exact copies_append (copies_append opened (copies_doubled identifier.toList)) closed

end Sqlite

/-! ## MariaDB -/

namespace Mariadb

inductive Mode where
  | code
  | percent
deriving DecidableEq, Repr

def next : Mode → Char → Option (Mode × Token)
  | .code, char => if char = '%' then some (.percent, .text []) else some (.code, .text [char])
  | .percent, char =>
    if char = 's' then some (.code, .hole)
    else if char = '%' then some (.code, .text ['%', '%'])
    else none

def lexer : Lexer Mode where
  start := .code
  next := next
  final := fun mode => mode = .code
  startIsFinal := rfl

/-- Doubled percent signs are copied, wherever they stand. -/
theorem inert_doubled (text : Text) : Inert lexer (doubled '%' text) := by
  induction text with
  | nil => exact Inert.nil
  | cons char rest ih =>
    by_cases percent : char = '%'
    · subst percent
      have sign : Inert lexer ['%', '%'] := by
        unfold Inert
        decide
      exact sign.append ih
    · have kept : Inert lexer [char] := by
        simp [Inert, copies, lexer, next, percent]
      have shape : doubled '%' (char :: rest) = [char] ++ doubled '%' rest := by
        simp [doubled, percent]
      rw [shape]
      exact kept.append ih

theorem inert_quoteQueryIdentifier (identifier : String) :
    Inert lexer (quoteQueryIdentifier identifier) :=
  inert_doubled _

end Mariadb

/-- Replace the placeholders that the backend's driver sees, from left to right. -/
def BackendFamily.replacePlaceholders {Value : Type} (backend : BackendFamily)
    (literal : Value → Text) (sql : Text) (params : List Value) : Option Text :=
  match backend with
  | .sqlite => replace Sqlite.lexer literal Sqlite.lexer.start sql params
  | .mariadb => replace Mariadb.lexer literal Mariadb.lexer.start sql params

/-- The number of placeholders that the backend's driver sees. -/
def BackendFamily.countPlaceholders (backend : BackendFamily) (sql : Text) : Nat :=
  match backend with
  | .sqlite => holes Sqlite.lexer Sqlite.lexer.start sql
  | .mariadb => holes Mariadb.lexer Mariadb.lexer.start sql

/-! ## Dialects -/

/-- A character that neither lexer treats specially. -/
def isOrdinary (char : Char) : Bool :=
  char != '?' && char != '%' && char != '"' && char != Sqlite.stringQuote

/-- The texts of a dialect hold no placeholder that the lexer sees, beyond the declared one. -/
structure Lexed {Mode : Type} (lexer : Lexer Mode) (dialect : QueryDialect) : Prop where
  ordinary : ∀ text : Text, text.all isOrdinary = true → Inert lexer text
  placeholder : ∀ {Value : Type} (literal : Value → Text) (value : Value),
    Splices lexer literal dialect.placeholder [value] (literal value)
  quoteIdentifier : ∀ name, Inert lexer (dialect.quoteIdentifier name)
  conflictDoNothing : ∀ targets, (∀ target ∈ targets, Inert lexer target) →
    Inert lexer (dialect.conflictDoNothingSql targets)
  /-- The clause ends with the assignments. -/
  conflictUpdate : ∀ targets, (∀ target ∈ targets, Inert lexer target) →
    ∃ before, Inert lexer before ∧
      ∀ assignments, dialect.conflictUpdateSql targets assignments = before ++ assignments
  currentTimestamp : ∀ column text, dialect.currentTimestampSql column = .ok text →
    Inert lexer text
  emptyInsert : ∀ table, Inert lexer table → Inert lexer (dialect.emptyInsertSql table)
  insertedValue : ∀ column, Inert lexer column → Inert lexer (dialect.insertedValueSql column)
  offsetOnlyLimit : Inert lexer dialect.offsetOnlyLimitSql
  charLengthFunction : ∀ name, dialect.charLengthFunction = some name → Inert lexer name
  forUpdate : ∀ sql, dialect.forUpdateSql = some sql → ∀ wait, Inert lexer (sql wait)

theorem Sqlite.inert_of_ordinary (text : Text) (ordinary : text.all isOrdinary = true) :
    Inert Sqlite.lexer text := by
  apply Inert.of_each
  intro char listed
  have usual := List.all_eq_true.mp ordinary char listed
  simp only [isOrdinary, Bool.and_eq_true, bne_iff_ne] at usual
  simp [Sqlite.lexer, Sqlite.next, usual.1.1.1, usual.1.2, usual.2]

theorem Mariadb.inert_of_ordinary (text : Text) (ordinary : text.all isOrdinary = true) :
    Inert Mariadb.lexer text := by
  apply Inert.of_each
  intro char listed
  have usual := List.all_eq_true.mp ordinary char listed
  simp only [isOrdinary, Bool.and_eq_true, bne_iff_ne] at usual
  simp [Mariadb.lexer, Mariadb.next, usual.1.1.2]

theorem Sqlite.lexed : Lexed Sqlite.lexer Sqlite.queryDialect where
  ordinary := Sqlite.inert_of_ordinary
  placeholder := by
    intro Value literal value rest others
    rfl
  quoteIdentifier := Sqlite.inert_quoteIdentifier
  conflictDoNothing := by
    intro targets each
    have separator : Inert Sqlite.lexer ", ".toList := Sqlite.inert_of_ordinary _ (by decide)
    have opening : Inert Sqlite.lexer " ON CONFLICT (".toList :=
      Sqlite.inert_of_ordinary _ (by decide)
    have closing : Inert Sqlite.lexer ") DO NOTHING".toList :=
      Sqlite.inert_of_ordinary _ (by decide)
    exact (opening.append (separator.join each)).append closing
  conflictUpdate := by
    intro targets each
    have separator : Inert Sqlite.lexer ", ".toList := Sqlite.inert_of_ordinary _ (by decide)
    have opening : Inert Sqlite.lexer " ON CONFLICT (".toList :=
      Sqlite.inert_of_ordinary _ (by decide)
    have closing : Inert Sqlite.lexer ") DO UPDATE SET ".toList :=
      Sqlite.inert_of_ordinary _ (by decide)
    exact ⟨_, (opening.append (separator.join each)).append closing, fun _ => rfl⟩
  currentTimestamp := by
    intro column text compiled
    have shown : text = "strftime('%Y-%m-%dT%H:%M:%f', 'now') || '000Z'".toList := by
      cases checked : column.requireCurrentTimestamp with
      | error failure =>
        simp [Sqlite.queryDialect, Sqlite.currentTimestampSql, checked, bind, Except.bind]
          at compiled
      | ok unit =>
        simpa [Sqlite.queryDialect, Sqlite.currentTimestampSql, checked, bind, Except.bind, pure,
          Except.pure, eq_comm] using compiled
    subst shown
    unfold Inert
    decide
  emptyInsert := by
    intro table inert
    have opening : Inert Sqlite.lexer "INSERT INTO ".toList :=
      Sqlite.inert_of_ordinary _ (by decide)
    have closing : Inert Sqlite.lexer " DEFAULT VALUES".toList :=
      Sqlite.inert_of_ordinary _ (by decide)
    exact (opening.append inert).append closing
  insertedValue := by
    intro column inert
    have opening : Inert Sqlite.lexer "excluded.".toList := Sqlite.inert_of_ordinary _ (by decide)
    exact opening.append inert
  offsetOnlyLimit := Sqlite.inert_of_ordinary _ (by decide)
  charLengthFunction := by
    rintro name ⟨⟩
    exact Sqlite.inert_of_ordinary _ (by decide)
  forUpdate := by
    rintro sql ⟨⟩

theorem Mariadb.lexed : Lexed Mariadb.lexer Mariadb.queryDialect where
  ordinary := Mariadb.inert_of_ordinary
  placeholder := by
    intro Value literal value rest others
    simp [Mariadb.queryDialect, replace, Mariadb.lexer, Mariadb.next, Function.comp_def]
  quoteIdentifier := Mariadb.inert_quoteQueryIdentifier
  conflictDoNothing := by
    intro targets each
    have target : Inert Mariadb.lexer (targets.headD []) := by
      cases targets with
      | nil => exact Inert.nil
      | cons first rest => exact each first List.mem_cons_self
    have opening : Inert Mariadb.lexer " ON DUPLICATE KEY UPDATE ".toList :=
      Mariadb.inert_of_ordinary _ (by decide)
    have between : Inert Mariadb.lexer " = ".toList := Mariadb.inert_of_ordinary _ (by decide)
    exact ((opening.append target).append between).append target
  conflictUpdate := by
    intro targets each
    exact ⟨_, Mariadb.inert_of_ordinary " ON DUPLICATE KEY UPDATE ".toList (by decide),
      fun _ => rfl⟩
  currentTimestamp := by
    intro column text compiled
    cases checked : column.requireCurrentTimestamp with
    | error failure =>
      simp [Mariadb.queryDialect, Mariadb.currentTimestampSql, checked, bind, Except.bind]
        at compiled
    | ok unit =>
      simp only [Mariadb.queryDialect, Mariadb.currentTimestampSql, checked, bind, Except.bind,
        pure, Except.pure] at compiled
      split at compiled
      · obtain rfl := Except.ok.inj compiled
        have digits : ∀ precision : Fin 7,
            (Nat.toDigits 10 precision.val).all isOrdinary = true := by decide
        have opening : Inert Mariadb.lexer "CURRENT_TIMESTAMP(".toList :=
          Mariadb.inert_of_ordinary _ (by decide)
        have closing : Inert Mariadb.lexer ")".toList := Mariadb.inert_of_ordinary _ (by decide)
        exact (opening.append (Mariadb.inert_of_ordinary _ (digits _))).append closing
      · obtain rfl := Except.ok.inj compiled
        unfold Inert
        decide
  emptyInsert := by
    intro table inert
    have opening : Inert Mariadb.lexer "INSERT INTO ".toList :=
      Mariadb.inert_of_ordinary _ (by decide)
    have closing : Inert Mariadb.lexer " () VALUES ()".toList :=
      Mariadb.inert_of_ordinary _ (by decide)
    exact (opening.append inert).append closing
  insertedValue := by
    intro column inert
    have opening : Inert Mariadb.lexer "VALUES(".toList := Mariadb.inert_of_ordinary _ (by decide)
    have closing : Inert Mariadb.lexer ")".toList := Mariadb.inert_of_ordinary _ (by decide)
    exact (opening.append inert).append closing
  offsetOnlyLimit := Mariadb.inert_of_ordinary _ (by decide)
  charLengthFunction := by
    rintro name ⟨⟩
    exact Mariadb.inert_of_ordinary _ (by decide)
  forUpdate := by
    rintro sql ⟨⟩ wait
    cases wait with
    | block | nowait | skipLocked => exact Mariadb.inert_of_ordinary _ (by decide)

end Snekql.Query
