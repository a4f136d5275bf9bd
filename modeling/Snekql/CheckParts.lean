import Snekql.CheckTokens

/-!
# The parts of rendered checks

The text of a declared check is made of parts that are spaced so that the catalog reader finds
exactly their tokens. This holds for both backends and for every nesting, identifier and literal.
-/

namespace Snekql.Checks

open Snekql.Splicing Snekql.Scanning Snekql.Outcomes
open Snekql.Query (BackendFamily ComparisonOperator CompoundOperator Predicate)

/-! ## The parts of a check -/

def keyword (text : String) : Part := .word text.toList

def opening : Part := .mark '('

def closing : Part := .mark ')'

/-- The quote of identifiers. -/
def identifierQuote : BackendFamily → Char
  | .sqlite => '"'
  | .mariadb => Query.Mariadb.identifierQuote

def integerParts : Int → List Part
  | .ofNat value => [.number (Nat.toDigits 10 value)]
  | .negSucc value => [.minus, .number (Nat.toDigits 10 (value + 1))]

/-- A text as the hexadecimal form of its bytes. -/
def encodedParts (function joint charset : String) (value : Text) : List Part :=
  [keyword function, opening, keyword "X", .quoted textQuote (hexText value), .blank,
    keyword joint, .blank, keyword charset, closing]

def literalParts (backend : BackendFamily) : Literal → List Part
  | .integer value => integerParts value
  | .text value =>
    match backend with
    | .mariadb => encodedParts "CONVERT" "USING" "utf8mb4" value
    | .sqlite =>
      if Char.ofNat 0 ∈ value then encodedParts "CAST" "AS" "TEXT" value
      else [.quoted textQuote value]

def connectivePart (connective : CompoundOperator) : Part := .word (connectiveSql connective)

/-- The parts of `IS NULL`, `IN` and their negations, up to the list of values. -/
def nullParts (negated : Bool) : List Part :=
  [.blank, keyword "IS", .blank] ++ (if negated then [keyword "NOT", .blank] else []) ++
    [keyword "NULL"]

def membershipParts (negated : Bool) : List Part :=
  .blank :: (if negated then [keyword "NOT", .blank] else []) ++ [keyword "IN", .blank, opening]

mutual

/-- The parts of a rendered check. -/
def checkParts (backend : BackendFamily) : CheckExpression → List Part
  | .column name => [.quoted (identifierQuote backend) name]
  | .literal value => literalParts backend value
  | .null negated operand => checkParts backend operand ++ nullParts negated
  | .membership negated operand values =>
    checkParts backend operand ++ membershipParts negated ++ valueParts backend values ++
      [closing]
  | .between operand low high =>
    checkParts backend operand ++ [.blank, keyword "BETWEEN", .blank] ++
      checkParts backend low ++ [.blank, keyword "AND", .blank] ++ checkParts backend high
  | .comparison operator left right =>
    checkParts backend left ++ [.blank, .compare operator, .blank] ++ checkParts backend right
  | .negation child =>
    [keyword "NOT", .blank, opening] ++ checkParts backend child ++ [closing]
  | .junction connective members => memberParts backend connective members

/-- The values of `IN`. -/
def valueParts (backend : BackendFamily) : List CheckExpression → List Part
  | [] => []
  | [value] => checkParts backend value
  | value :: rest => checkParts backend value ++ [.mark ',', .blank] ++ valueParts backend rest

/-- The members of a connective. -/
def memberParts (backend : BackendFamily) (connective : CompoundOperator) :
    List CheckExpression → List Part
  | [] => []
  | [member] => opening :: checkParts backend member ++ [closing]
  | member :: rest =>
    (opening :: checkParts backend member ++
      [closing, .blank, connectivePart connective, .blank]) ++
      memberParts backend connective rest

end

/-! ## The parts are the rendered text -/

theorem doubled_of_not_mem {char : Char} {text : Text} (absent : char ∉ text) :
    Query.doubled char text = text := by
  induction text with
  | nil => rfl
  | cons first rest ih =>
    rw [List.mem_cons, not_or] at absent
    have unfolded : Query.doubled char (first :: rest) =
        (if first = char then [char, char] else [first]) ++ Query.doubled char rest := rfl
    rw [unfolded, if_neg (Ne.symm absent.1), ih absent.2, List.singleton_append]

/-- The digits of hexadecimal text. -/
theorem mem_hexText {value : Text} {char : Char} (member : char ∈ hexText value) :
    ∃ digit < 16, char = Nat.digitChar digit := by
  rw [hexText, List.mem_flatMap] at member
  obtain ⟨byte, _, member⟩ := member
  have bounded : byte.toNat < 256 := byte.toNat_lt
  simp only [hexByte, List.mem_cons, List.not_mem_nil, or_false] at member
  obtain rfl | rfl := member
  · exact ⟨byte.toNat / 16, by omega, rfl⟩
  · exact ⟨byte.toNat % 16, by omega, rfl⟩

theorem textQuote_not_mem_hexText (value : Text) : textQuote ∉ hexText value := by
  intro member
  obtain ⟨digit, bounded, same⟩ := mem_hexText member
  have differs : ∀ digit < 16, textQuote ≠ Nat.digitChar digit := by decide
  exact differs digit bounded same

theorem text_eq (part : Part) : catalogParts.text part = part.text := rfl

@[simp] theorem text_blank : catalogParts.text .blank = [' '] := rfl

@[simp] theorem text_mark (char : Char) : catalogParts.text (.mark char) = [char] := rfl

@[simp] theorem text_word (text : Text) : catalogParts.text (.word text) = text := rfl

@[simp] theorem text_compare (operator : ComparisonOperator) :
    catalogParts.text (.compare operator) = comparisonSql operator := rfl

@[simp] theorem text_keyword (text : String) : catalogParts.text (keyword text) = text.toList := rfl

@[simp] theorem text_opening : catalogParts.text opening = ['('] := rfl

@[simp] theorem text_closing : catalogParts.text closing = [')'] := rfl

theorem texts_encodedParts (function joint charset : String) (value : Text) :
    catalogParts.texts (encodedParts function joint charset value) =
      function.toList ++ ['(', 'X', textQuote] ++ hexText value ++ [textQuote, ' '] ++
        joint.toList ++ [' '] ++ charset.toList ++ [')'] := by
  have letter : "X".toList = ['X'] := by simp
  simp only [encodedParts, Vocabulary.texts_cons, Vocabulary.texts_nil, text_eq, Part.text,
    keyword, opening, closing, quotedText, letter,
    doubled_of_not_mem (textQuote_not_mem_hexText value), List.append_assoc, List.cons_append,
    List.nil_append, List.append_nil]

theorem texts_literalParts (backend : BackendFamily) (value : Literal) :
    catalogParts.texts (literalParts backend value) = renderLiteral backend value := by
  cases value with
  | integer value =>
    cases value with
    | ofNat value => exact List.append_nil _
    | negSucc value => exact congrArg ('-' :: ·) (List.append_nil _)
  | text value =>
    cases backend with
    | mariadb =>
      have opened : "CONVERT(X'".toList = "CONVERT".toList ++ ['(', 'X', textQuote] := by
        simp [textQuote]
      have closed : "' USING utf8mb4)".toList =
          [textQuote, ' '] ++ "USING".toList ++ [' '] ++ "utf8mb4".toList ++ [')'] := by
        simp [textQuote]
      change catalogParts.texts (encodedParts "CONVERT" "USING" "utf8mb4" value) =
        "CONVERT(X'".toList ++ hexText value ++ "' USING utf8mb4)".toList
      rw [texts_encodedParts, opened, closed]
      simp only [List.append_assoc]
    | sqlite =>
      have opened : "CAST(X'".toList = "CAST".toList ++ ['(', 'X', textQuote] := by
        simp [textQuote]
      have closed : "' AS TEXT)".toList =
          [textQuote, ' '] ++ "AS".toList ++ [' '] ++ "TEXT".toList ++ [')'] := by
        simp [textQuote]
      by_cases holds : Char.ofNat 0 ∈ value
      · have parts : literalParts .sqlite (.text value) =
          encodedParts "CAST" "AS" "TEXT" value := if_pos holds
        have rendered : renderLiteral .sqlite (.text value) =
          "CAST(X'".toList ++ hexText value ++ "' AS TEXT)".toList := if_pos holds
        rw [parts, rendered, texts_encodedParts, opened, closed]
        simp only [List.append_assoc]
      · have parts : literalParts .sqlite (.text value) = [.quoted textQuote value] :=
          if_neg holds
        have rendered : renderLiteral .sqlite (.text value) = quotedText textQuote value :=
          if_neg holds
        rw [parts, rendered]
        exact List.append_nil _

theorem texts_column (backend : BackendFamily) (name : Text) :
    catalogParts.texts (checkParts backend (.column name)) = quoteName backend name := by
  cases backend with
  | sqlite =>
    simp only [checkParts, Vocabulary.texts_cons, Vocabulary.texts_nil, text_eq, Part.text,
      List.append_nil, quotedText, identifierQuote, quoteName, Query.Sqlite.quoteIdentifier,
      String.toList_ofList]
  | mariadb =>
    simp only [checkParts, Vocabulary.texts_cons, Vocabulary.texts_nil, text_eq, Part.text,
      List.append_nil, quotedText, identifierQuote, quoteName, Query.Mariadb.quoteIdentifier,
      String.toList_ofList]

theorem texts_literal (backend : BackendFamily) (value : Literal) :
    catalogParts.texts (checkParts backend (.literal value)) = renderLiteral backend value :=
  texts_literalParts backend value

theorem texts_valueParts (backend : BackendFamily) (first : Literal) (others : List Literal) :
    catalogParts.texts (valueParts backend ((first :: others).map .literal)) =
      joinWith ", ".toList ((first :: others).map (renderLiteral backend)) := by
  have separator : catalogParts.texts [.mark ',', .blank] = ", ".toList := by simp
  induction others generalizing first with
  | nil => exact texts_literal backend first
  | cons second rest ih =>
    simp only [List.map_cons] at ih ⊢
    rw [valueParts, Vocabulary.texts_append, Vocabulary.texts_append, texts_literal, separator,
      ih, joinWith]
    · simp

theorem texts_compare (operator : ComparisonOperator) :
    catalogParts.texts [.blank, .compare operator, .blank] =
      " ".toList ++ comparisonSql operator ++ " ".toList := by
  simp

theorem renderChecks_literals (backend : BackendFamily) (values : List Literal) :
    renderChecks backend (values.map .literal) = some (values.map (renderLiteral backend)) := by
  induction values with
  | nil => rfl
  | cons first rest ih =>
    rw [List.map_cons, renderChecks, ih]
    rfl

/-- The rendered text of a declared check. -/
theorem renderCheck_eq_texts (backend : BackendFamily) {expression : CheckExpression}
    (declared : Declared expression) :
    renderCheck backend expression = some (catalogParts.texts (checkParts backend expression)) := by
  have closed : catalogParts.texts [closing] = ")".toList := by simp
  induction declared with
  | null negated name =>
    have ending : catalogParts.texts (nullParts negated) =
        (if negated then " IS NOT NULL" else " IS NULL").toList := by
      cases negated <;> simp [nullParts]
    rw [checkParts, Vocabulary.texts_append, texts_column, ending]
    rfl
  | membership negated name first others =>
    have middle : catalogParts.texts (membershipParts negated) =
        (if negated then " NOT IN (" else " IN (").toList := by
      cases negated <;> simp [membershipParts]
    rw [checkParts, Vocabulary.texts_append, Vocabulary.texts_append, Vocabulary.texts_append,
      texts_column, middle, texts_valueParts, closed, renderCheck, renderChecks_literals]
    rfl
  | between name low high =>
    have first : catalogParts.texts [.blank, keyword "BETWEEN", .blank] = " BETWEEN ".toList := by
      simp
    have second : catalogParts.texts [.blank, keyword "AND", .blank] = " AND ".toList := by
      simp
    rw [checkParts, Vocabulary.texts_append, Vocabulary.texts_append, Vocabulary.texts_append,
      Vocabulary.texts_append, texts_column, first, texts_literal, second, texts_literal]
    rfl
  | comparison operator name value =>
    rw [checkParts, Vocabulary.texts_append, Vocabulary.texts_append, texts_column,
      texts_compare, texts_literal, ← List.append_assoc, ← List.append_assoc]
    rfl
  | columns operator name other =>
    rw [checkParts, Vocabulary.texts_append, Vocabulary.texts_append, texts_column,
      texts_compare, texts_column, ← List.append_assoc, ← List.append_assoc]
    rfl
  | negation _ ih =>
    have opened : catalogParts.texts [keyword "NOT", .blank, opening] = "NOT (".toList := by
      simp
    rw [checkParts, Vocabulary.texts_append, Vocabulary.texts_append, opened, closed,
      renderCheck, ih]
    rfl
  | junction connective _ _ leftRendered rightRendered =>
    have middle : catalogParts.texts [closing, .blank, connectivePart connective, .blank] =
        ") ".toList ++ connectiveSql connective ++ " ".toList := by
      simp [connectivePart]
    have reopened : " (".toList = " ".toList ++ ['('] := by simp
    have opened : "(".toList = ['('] := by simp
    rw [renderCheck, renderChecks, renderChecks, renderChecks, leftRendered, rightRendered,
      checkParts, memberParts, memberParts, Vocabulary.texts_append, List.cons_append,
      List.cons_append, Vocabulary.texts_cons, Vocabulary.texts_cons, Vocabulary.texts_append,
      Vocabulary.texts_append, middle, closed]
    · change some ("(".toList ++ _ ++ ") ".toList ++ connectiveSql connective ++ " (".toList ++ _ ++
        ")".toList) = some (['('] ++ (_ ++ _) ++ (['('] ++ (_ ++ ")".toList)))
      rw [reopened, opened]
      simp only [List.append_assoc]
    · simp

/-! ## The parts are spaced -/

/-- What may follow a check: the end, a blank, a closing parenthesis or a comma. -/
def EndsValue (next : Option Char) : Prop := next.all endsValue = true

variable {next : Option Char}

theorem EndsValue.cases (ends : EndsValue next) :
    next = none ∨ next = some ' ' ∨ next = some ')' ∨ next = some ',' := by
  cases next with
  | none => exact .inl rfl
  | some char =>
    simp only [EndsValue, Option.all_some, endsValue, Bool.or_eq_true, beq_iff_eq] at ends
    simpa [or_assoc] using ends

theorem EndsValue.endsWord (ends : EndsValue next) : next.all endsWord = true := by
  obtain rfl | rfl | rfl | rfl := ends.cases <;> rfl

/-- The keywords of checks and table definitions. -/
def sqlWords : List String :=
  ["IS", "NOT", "NULL", "IN", "BETWEEN", "AND", "OR", "CONVERT", "USING", "utf8mb4", "CAST", "AS",
    "TEXT", "X", "CREATE", "TABLE", "CONSTRAINT", "CHECK", "STRICT", "PRIMARY", "KEY", "FOREIGN",
    "REFERENCES", "ON", "DELETE", "UPDATE", "CASCADE", "RESTRICT", "SET", "NO", "ACTION",
    "COLLATE", "BINARY", "NOCASE", "RTRIM", "AUTOINCREMENT", "DEFAULT", "strftime", "INTEGER",
    "REAL", "BLOB"]

theorem allows_keyword {text : String} (isWord : isKeyword text.toList = true)
    (ends : next.all endsWord = true) : catalogParts.allows (keyword text) next = true :=
  Bool.and_eq_true_iff.mpr ⟨isWord, ends⟩

theorem spaced_column (backend : BackendFamily) (name : Text) (ends : EndsValue next) :
    catalogParts.Spaced (checkParts backend (.column name)) next := by
  cases backend <;> exact ⟨ends, trivial⟩

theorem digits_ne_nil (value : Nat) : Nat.toDigits 10 value ≠ [] := by
  intro empty
  have length := Nat.length_toDigits_pos (b := 10) (n := value)
  rw [empty] at length
  cases length

theorem digits_all (value : Nat) : (Nat.toDigits 10 value).all isAsciiDigit = true := by
  rw [List.all_eq_true]
  intro char member
  have digit := Nat.isDigit_of_mem_toDigits (by decide) (by decide) member
  have ascii : char.toNat < 128 := by
    simp only [Char.isDigit, Bool.and_eq_true, decide_eq_true_eq, ge_iff_le,
      UInt32.le_iff_toNat_le] at digit
    exact Nat.lt_of_le_of_lt digit.2 (by decide)
  rw [isAsciiDigit, digit, decide_eq_true ascii, Bool.and_self]

theorem allows_digits (value : Nat) (ends : EndsValue next) :
    catalogParts.allows (.number (Nat.toDigits 10 value)) next = true := by
  have nonempty : (Nat.toDigits 10 value).isEmpty = false :=
    List.isEmpty_eq_false_iff.mpr (digits_ne_nil value)
  change (!(Nat.toDigits 10 value).isEmpty && (Nat.toDigits 10 value).all isAsciiDigit &&
    next.all endsValue) = true
  rw [nonempty, digits_all, show next.all endsValue = true from ends]
  rfl

theorem spaced_encodedParts {function joint charset : String} (value : Text)
    (isFunction : isKeyword function.toList = true) (isJoint : isKeyword joint.toList = true)
    (isCharset : isKeyword charset.toList = true) (next : Option Char) :
    catalogParts.Spaced (encodedParts function joint charset value) next :=
  ⟨allows_keyword isFunction rfl, rfl, allows_keyword (by decide) rfl, rfl, rfl,
    allows_keyword isJoint rfl, rfl, allows_keyword isCharset rfl, rfl, trivial⟩

theorem spaced_literal (backend : BackendFamily) (value : Literal) (ends : EndsValue next) :
    catalogParts.Spaced (checkParts backend (.literal value)) next := by
  rw [checkParts]
  cases value with
  | integer value =>
    cases value with
    | ofNat value => exact ⟨allows_digits value ends, trivial⟩
    | negSucc value =>
      refine ⟨?_, allows_digits _ ends, trivial⟩
      change ((Nat.toDigits 10 (value + 1) ++ []).head?.or next).any isAsciiDigit = true
      rw [List.append_nil]
      cases digits : Nat.toDigits 10 (value + 1) with
      | nil => exact absurd digits (digits_ne_nil _)
      | cons first rest =>
        have all := digits_all (value + 1)
        rw [digits] at all
        exact (Bool.and_eq_true_iff.mp all).1
  | text value =>
    cases backend with
    | mariadb =>
      exact spaced_encodedParts value (by decide) (by decide) (by decide)
        next
    | sqlite =>
      by_cases holds : Char.ofNat 0 ∈ value
      · rw [show literalParts .sqlite (.text value) = encodedParts "CAST" "AS" "TEXT" value
          from if_pos holds]
        exact spaced_encodedParts value (by decide) (by decide)
          (by decide) next
      · rw [show literalParts .sqlite (.text value) = [.quoted textQuote value]
          from if_neg holds]
        exact ⟨ends, trivial⟩

theorem spaced_valueParts (backend : BackendFamily) (first : Literal) (others : List Literal) :
    catalogParts.Spaced (valueParts backend ((first :: others).map .literal)) (some ')') := by
  induction others generalizing first with
  | nil => exact spaced_literal backend first rfl
  | cons second rest ih =>
    simp only [List.map_cons] at ih ⊢
    rw [valueParts, Vocabulary.spaced_append, Vocabulary.spaced_append]
    · exact ⟨⟨spaced_literal backend first rfl, rfl, rfl, trivial⟩, ih second⟩
    · simp

/-- The parts of a declared check are spaced. -/
theorem spaced_checkParts (backend : BackendFamily) {expression : CheckExpression}
    (declared : Declared expression) (ends : EndsValue next) :
    catalogParts.Spaced (checkParts backend expression) next := by
  induction declared generalizing next with
  | null negated name =>
    rw [checkParts, Vocabulary.spaced_append]
    refine ⟨spaced_column backend name rfl, ?_⟩
    cases negated with
    | false =>
      exact ⟨rfl, allows_keyword (by decide) rfl, rfl,
        allows_keyword (by decide) ends.endsWord, trivial⟩
    | true =>
      exact ⟨rfl, allows_keyword (by decide) rfl, rfl,
        allows_keyword (by decide) rfl, rfl,
        allows_keyword (by decide) ends.endsWord, trivial⟩
  | membership negated name first others =>
    rw [checkParts, Vocabulary.spaced_append, Vocabulary.spaced_append, Vocabulary.spaced_append]
    refine ⟨⟨⟨spaced_column backend name rfl, ?_⟩, spaced_valueParts backend first others⟩, rfl,
      trivial⟩
    cases negated with
    | false => exact ⟨rfl, allows_keyword (by decide) rfl, rfl, rfl, trivial⟩
    | true =>
      exact ⟨rfl, allows_keyword (by decide) rfl, rfl,
        allows_keyword (by decide) rfl, rfl, rfl, trivial⟩
  | between name low high =>
    rw [checkParts, Vocabulary.spaced_append, Vocabulary.spaced_append, Vocabulary.spaced_append,
      Vocabulary.spaced_append]
    exact ⟨⟨⟨⟨spaced_column backend name rfl, rfl, allows_keyword (by decide) rfl, rfl,
      trivial⟩, spaced_literal backend low rfl⟩, rfl, allows_keyword (by decide) rfl, rfl,
      trivial⟩, spaced_literal backend high ends⟩
  | comparison operator name value =>
    rw [checkParts, Vocabulary.spaced_append, Vocabulary.spaced_append]
    exact ⟨⟨spaced_column backend name rfl, rfl, rfl, rfl, trivial⟩,
      spaced_literal backend value ends⟩
  | columns operator name other =>
    rw [checkParts, Vocabulary.spaced_append, Vocabulary.spaced_append]
    exact ⟨⟨spaced_column backend name rfl, rfl, rfl, rfl, trivial⟩,
      spaced_column backend other ends⟩
  | negation _ ih =>
    rw [checkParts, Vocabulary.spaced_append, Vocabulary.spaced_append]
    exact ⟨⟨⟨allows_keyword (by decide) rfl, rfl, rfl, trivial⟩, ih rfl⟩,
      rfl, trivial⟩
  | junction connective _ _ leftSpaced rightSpaced =>
    have isWord : isKeyword (connectiveSql connective) = true := by
      cases connective with
      | and | or => decide
    rw [checkParts, memberParts, memberParts, Vocabulary.spaced_append, List.cons_append,
      List.cons_append]
    · refine ⟨⟨rfl, Vocabulary.spaced_append.mpr ⟨leftSpaced rfl, rfl, rfl, ?_, rfl, trivial⟩⟩,
        rfl, Vocabulary.spaced_append.mpr ⟨rightSpaced rfl, rfl, trivial⟩⟩
      exact Bool.and_eq_true_iff.mpr ⟨isWord, rfl⟩
    · simp

end Snekql.Checks
