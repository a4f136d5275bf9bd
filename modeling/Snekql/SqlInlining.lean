import Snekql.CheckExpressions
import Snekql.StatementParameters

/-!
# Inlined parameters

For display the parameters of a compiled statement are put into its text. The inliner knows nothing
of SQL: it splits the text at every occurrence of the placeholder, and leaves the text alone unless
there are as many occurrences as parameters. The driver sees a placeholder at no more places than
that. So when the numbers agree every occurrence is a placeholder, and otherwise nothing is replaced.
-/

namespace Snekql.Query

open Snekql.Splicing

/-- An encoded parameter that is not `None`. -/
inductive Parameter where
  | boolean (value : Bool)
  | integer (value : Int)
  /-- A `float`, by its `repr`. -/
  | float (shown : Text)
  | bytes (value : List UInt8)
  /-- Everything else, by its `str`. -/
  | other (shown : Text)
deriving DecidableEq, Repr

/-- `_render_sql_literal`. -/
def renderSqlLiteral : Option Parameter → Text
  | none => "NULL".toList
  | some (.boolean value) => if value then "1".toList else "0".toList
  | some (.integer value) => Checks.integerText value
  | some (.float shown) => shown
  | some (.bytes value) => "x'".toList ++ value.flatMap Checks.hexByte ++ [Sqlite.stringQuote]
  | some (.other shown) =>
    Sqlite.stringQuote :: doubled Sqlite.stringQuote shown ++ [Sqlite.stringQuote]

/-- A character in front of the first part. -/
def consHead (char : Char) : List Text → List Text
  | [] => [[char]]
  | part :: parts => (char :: part) :: parts

/-- `text.split(separator)`. -/
def splitText (separator : Text) : Text → List Text
  | [] => [[]]
  | char :: rest =>
    if separator.isPrefixOf (char :: rest) then
      [] :: splitText separator (rest.drop (separator.length - 1))
    else consHead char (splitText separator rest)
termination_by text => text.length
decreasing_by all_goals simp only [List.length_drop, List.length_cons]; omega

/-- The loop of `_inline_sql_params`, and the last part after it. -/
def interleave {Value : Type} (literal : Value → Text) : List Text → List Value → Text
  | part :: parts, value :: values => part ++ literal value ++ interleave literal parts values
  | parts, _ => parts.getLastD []

/-- `_inline_sql_params`. -/
def inlineSqlParams {Value : Type} (literal : Value → Text) (sql : Text) (params : List Value)
    (placeholder : Text) : Text :=
  let parts := splitText placeholder sql
  if parts.length - 1 ≠ params.length then sql else interleave literal parts params

/-! ## Occurrences and placeholders -/

section Occurrences

variable {Value : Type} {literal : Value → Text} {separator text replaced : Text}
  {values : List Value} {char : Char}

/-- The separator occurs at least as often as there are values, and if it occurs no more often, the
values go to the right places. -/
def Inlines (literal : Value → Text) (parts : List Text) (values : List Value) (replaced : Text) :
    Prop :=
  values.length + 1 ≤ parts.length ∧
    (parts.length = values.length + 1 → interleave literal parts values = replaced)

theorem Inlines.nil : Inlines literal [[]] [] [] := ⟨Nat.le_refl _, fun _ => rfl⟩

/-- A character that belongs to the text. -/
theorem Inlines.kept {parts : List Text} (inlines : Inlines literal parts values replaced)
    (char : Char) : Inlines literal (consHead char parts) values (char :: replaced) := by
  obtain ⟨enough, places⟩ := inlines
  cases parts with
  | nil => cases enough
  | cons part parts =>
    refine ⟨enough, fun same => ?_⟩
    rw [← places same]
    cases values with
    | nil =>
      cases parts with
      | nil => rfl
      | cons other parts => cases same
    | cons value values => rfl

/-- A placeholder. -/
theorem Inlines.hole {parts : List Text} (inlines : Inlines literal parts values replaced)
    (value : Value) : Inlines literal ([] :: parts) (value :: values) (literal value ++ replaced) := by
  refine ⟨Nat.succ_le_succ inlines.1, fun same => ?_⟩
  rw [← inlines.2 (Nat.succ_inj.mp same)]
  rfl

/-- An occurrence that is no placeholder. -/
theorem Inlines.extra {parts : List Text} (enough : values.length + 1 ≤ parts.length)
    (other : Text) : Inlines literal ([] :: parts) values other := by
  refine ⟨Nat.le_succ_of_le enough, fun same => ?_⟩
  rw [List.length_cons] at same
  omega

theorem splitText_nil : splitText separator [] = [[]] := by rw [splitText]

theorem splitText_of_mismatch (absent : separator.isPrefixOf (char :: text) = false) :
    splitText separator (char :: text) = consHead char (splitText separator text) := by
  rw [splitText, absent]
  rfl

theorem length_consHead (char : Char) (separator text : Text) :
    (consHead char (splitText separator text)).length = (splitText separator text).length := by
  cases parts : splitText separator text with
  | nil =>
    cases text with
    | nil =>
      rw [splitText] at parts
      cases parts
    | cons first rest =>
      rw [splitText] at parts
      split at parts
      · cases parts
      · cases inner : splitText separator rest <;> rw [inner] at parts <;> cases parts
  | cons part parts => rfl

theorem Sqlite.inlines {mode : Sqlite.Mode}
    (done : replace Sqlite.lexer literal mode text values = some replaced) :
    Inlines literal (splitText ['?'] text) values replaced := by
  induction text generalizing mode values replaced with
  | nil =>
    rw [splitText_nil]
    cases values with
    | nil =>
      simp only [replace, Option.ite_none_right_eq_some, Option.some.injEq] at done
      rw [← done.2]
      exact .nil
    | cons value values => cases done
  | cons char rest ih =>
    by_cases mark : char = '?'
    · have split : splitText ['?'] (char :: rest) = [] :: splitText ['?'] rest := by
        rw [splitText, mark]
        rfl
      rw [split]
      cases mode with
      | code =>
        cases values with
        | nil => simp [replace, Sqlite.lexer, Sqlite.next, mark] at done
        | cons value values =>
          simp only [replace, Sqlite.lexer, Sqlite.next, mark, if_true, Option.map_eq_some_iff]
            at done
          obtain ⟨after, following, rfl⟩ := done
          exact (ih following).hole value
      | quoted quote =>
        simp only [replace, Sqlite.lexer, Sqlite.next, Option.map_eq_some_iff] at done
        obtain ⟨after, following, rfl⟩ := done
        exact Inlines.extra (ih following).1 _
    · have split : splitText ['?'] (char :: rest) = consHead char (splitText ['?'] rest) :=
        splitText_of_mismatch (by simp [List.isPrefixOf, Ne.symm mark])
      have read : ∃ next, Sqlite.lexer.next mode char = some (next, .text [char]) := by
        cases mode with
        | code =>
          simp only [Sqlite.lexer, Sqlite.next, if_neg mark]
          split <;> exact ⟨_, rfl⟩
        | quoted quote => exact ⟨_, rfl⟩
      obtain ⟨next, read⟩ := read
      simp only [replace, read, Option.map_eq_some_iff] at done
      obtain ⟨after, following, rfl⟩ := done
      rw [split]
      exact (ih following).kept char

/-- The second part is about a text after a percent sign. -/
theorem Mariadb.inlines (literal : Value → Text) (text : Text) : ∀ values replaced,
    (replace Mariadb.lexer literal .code text values = some replaced →
      Inlines literal (splitText ['%', 's'] text) values replaced) ∧
    (replace Mariadb.lexer literal .percent text values = some replaced →
      Inlines literal (splitText ['%', 's'] ('%' :: text)) values replaced) := by
  induction text with
  | nil =>
    intro values replaced
    rw [splitText_nil]
    cases values with
    | nil =>
      simp only [replace, Option.ite_none_right_eq_some, Option.some.injEq]
      constructor
      · rintro ⟨_, rfl⟩
        exact .nil
      · rintro ⟨ended, _⟩
        cases ended
    | cons value values => constructor <;> intro done <;> cases done
  | cons char rest ih =>
    intro values replaced
    constructor
    · intro done
      by_cases percent : char = '%'
      · simp only [replace, Mariadb.lexer, Mariadb.next, percent, if_true, List.nil_append,
          Option.map_id_fun', id_eq] at done
        rw [percent]
        exact (ih values replaced).2 done
      · simp only [replace, Mariadb.lexer, Mariadb.next, if_neg percent, Option.map_eq_some_iff]
          at done
        obtain ⟨after, following, rfl⟩ := done
        rw [splitText_of_mismatch (by simp [List.isPrefixOf, Ne.symm percent])]
        exact ((ih values after).1 following).kept char
    · intro done
      by_cases letter : char = 's'
      · have split : splitText ['%', 's'] ('%' :: char :: rest) =
            [] :: splitText ['%', 's'] rest := by
          rw [splitText, letter]
          rfl
        rw [split]
        cases values with
        | nil => simp [replace, Mariadb.lexer, Mariadb.next, letter] at done
        | cons value values =>
          simp only [replace, Mariadb.lexer, Mariadb.next, letter, if_true,
            Option.map_eq_some_iff] at done
          obtain ⟨after, following, rfl⟩ := done
          exact ((ih values after).1 following).hole value
      · by_cases percent : char = '%'
        · simp only [replace, Mariadb.lexer, Mariadb.next, if_neg letter, if_pos percent,
            Option.map_eq_some_iff] at done
          obtain ⟨after, following, rfl⟩ := done
          have inlines := (ih values after).1 following
          rw [splitText_of_mismatch (by simp [List.isPrefixOf, percent]), percent]
          refine Inlines.kept ?_ '%'
          -- The second sign and an `s` behind it look like a placeholder.
          by_cases looks : (['%', 's'] : Text).isPrefixOf ('%' :: rest) = true
          · cases rest with
            | nil => cases looks
            | cons next tail =>
              obtain rfl : 's' = next := by simpa [List.isPrefixOf] using looks
              have split : splitText ['%', 's'] ('%' :: 's' :: tail) =
                  [] :: splitText ['%', 's'] tail := by
                rw [splitText]
                rfl
              have enough := inlines.1
              rw [splitText_of_mismatch rfl, length_consHead] at enough
              rw [split]
              exact .extra enough _
          · rw [splitText_of_mismatch (Bool.eq_false_iff.mpr looks)]
            exact inlines.kept '%'
        · simp [replace, Mariadb.lexer, Mariadb.next, letter, percent] at done

end Occurrences

/-- Where the placeholders that the driver sees can be replaced, the inliner replaces exactly them or
nothing. -/
theorem BackendFamily.inline_eq (backend : BackendFamily) {Value : Type} {literal : Value → Text}
    {sql replaced : Text} {params : List Value}
    (done : backend.replacePlaceholders literal sql params = some replaced) :
    inlineSqlParams literal sql params backend.queryDialect.placeholder = sql ∨
      inlineSqlParams literal sql params backend.queryDialect.placeholder = replaced := by
  have inlines : Inlines literal (splitText backend.queryDialect.placeholder sql) params
      replaced := by
    cases backend with
    | sqlite =>
      have placeholder : BackendFamily.sqlite.queryDialect.placeholder = ['?'] := by
        simp [BackendFamily.queryDialect, Sqlite.queryDialect]
      rw [placeholder]
      exact Sqlite.inlines done
    | mariadb =>
      have placeholder : BackendFamily.mariadb.queryDialect.placeholder = ['%', 's'] := by
        simp [BackendFamily.queryDialect, Mariadb.queryDialect]
      rw [placeholder]
      exact (Mariadb.inlines literal sql params replaced).1 done
  simp only [inlineSqlParams]
  split
  · exact .inl rfl
  · rename_i counted
    have enough := inlines.1
    exact .inr (inlines.2 (by omega))

/-- Inlining the parameters of a compiled statement either leaves its text alone, or gives the text
of the same statement compiled with the literal of each parameter in the place of its own
placeholder. -/
theorem parameters_are_inlined_in_place (heap : Heap Parameter) (casefold : String → String)
    (encoders : Encoders Parameter) (backend : BackendFamily) (statement : Statement Parameter)
    (coded : Fragment (Option Parameter))
    (compiled : compileStatement heap casefold backend.queryDialect encoders
      (fun _ => backend.queryDialect.placeholder) statement = .ok coded) :
    ∃ shown,
      compileStatement heap casefold backend.queryDialect encoders renderSqlLiteral statement =
        .ok shown ∧
      backend.replacePlaceholders renderSqlLiteral coded.sql coded.params = some shown.sql ∧
      (inlineSqlParams renderSqlLiteral coded.sql coded.params backend.queryDialect.placeholder =
          coded.sql ∨
        inlineSqlParams renderSqlLiteral coded.sql coded.params backend.queryDialect.placeholder =
          shown.sql) := by
  obtain ⟨shown, returned, replaced⟩ := replacePlaceholders_compiled renderSqlLiteral compiled
  exact ⟨shown, returned, replaced, backend.inline_eq replaced⟩

namespace Inspection

def items : Table where
  ident := 0
  name := "%s"
  backend := .mariadb
  columns := [StockUpdate.idColumn]

def heap : Heap Parameter where
  states := []
  definitions := []

def encoders : Encoders Parameter where
  comparison := fun _ value => .ok value
  write := fun _ value => .ok value

/-- The deletion of the rows after the fifth. -/
def statement : Statement Parameter := .delete {
  model := items
  predicates := [.comparison (.column (.attr (.table items) StockUpdate.idColumn)) .gt
    (some (.integer 5))] }

def compiled (mark : Option Parameter → Text) : Except QueryError (Fragment (Option Parameter)) :=
  compileStatement heap id BackendFamily.mariadb.queryDialect encoders mark statement

end Inspection

/-- A table whose name is a placeholder. -/
theorem parameters_are_inlined_in_place_or_not_at_all :
    ∃ coded shown,
      Inspection.compiled (fun _ => BackendFamily.mariadb.queryDialect.placeholder) = .ok coded ∧
      Inspection.compiled renderSqlLiteral = .ok shown ∧
      (inlineSqlParams renderSqlLiteral coded.sql coded.params
          BackendFamily.mariadb.queryDialect.placeholder = coded.sql ∨
        inlineSqlParams renderSqlLiteral coded.sql coded.params
          BackendFamily.mariadb.queryDialect.placeholder = shown.sql) := by
  have succeeds : (Inspection.compiled
      (fun _ => BackendFamily.mariadb.queryDialect.placeholder)).map Fragment.params =
        .ok [some (.integer 5)] := by
    decide
  cases returned : Inspection.compiled
      (fun _ => BackendFamily.mariadb.queryDialect.placeholder) with
  | error failure =>
    rw [returned] at succeeds
    cases succeeds
  | ok coded =>
    obtain ⟨shown, reference, _, inlined⟩ := parameters_are_inlined_in_place Inspection.heap id
      Inspection.encoders .mariadb Inspection.statement coded returned
    exact ⟨coded, shown, rfl, reference, inlined⟩

end Snekql.Query
