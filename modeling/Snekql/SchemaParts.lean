import Snekql.SchemaScanner

/-!
# The parts of table definitions

A compiled `CREATE TABLE` statement is made of spaced parts. The scanner of table definitions
reads the same parts as the reader of checks, and passes over numbers and operators.
-/

namespace Snekql.Schema

open Snekql.Checks Snekql.Scanning
open Snekql.Splicing (Text joinWith)

/-! ## Reading parts -/

/-- The tokens that the scanner of table definitions keeps. -/
def relevant (token : Token) : Bool :=
  token.kind != .number &&
    (token.kind != .symbol || token == openingToken || token == closingToken ||
      token == commaToken)

/-- The parts as the scanner of table definitions sees them. -/
def schemaParts : Vocabulary Part Token where
  text := Part.text
  output part := part.tokens.filter relevant
  allows := Part.allows

section Reader

variable {characters : Characters} {char : Char} {rest : Text}

theorem scan_schemaStep :
    scan (schemaScanner characters) () (char :: rest) =
      (schemaStep characters char rest).output ++
        scan (schemaScanner characters) () (schemaStep characters char rest).remaining :=
  scan_cons (schemaScanner characters) () char rest

/-- The step at a character at which neither a comment nor a quoted value starts. -/
theorem schemaStep_of_plain (plain : isPlain char = true) :
    schemaStep characters char rest =
      if characters.isAlpha char || char = '_' then
        keep .word (char :: rest.takeWhile (continuesWord characters))
          (rest.dropWhile (continuesWord characters))
      else if char = '(' ∨ char = ')' ∨ char = ',' then keep .symbol [char] rest
      else pass rest := by
  simp only [isPlain, Bool.and_eq_true, Bool.not_eq_true', bne_iff_ne, ne_eq,
    List.contains_eq_mem, decide_eq_false_iff_not, quotes, List.mem_cons, List.not_mem_nil,
    or_false, not_or] at plain
  obtain ⟨⟨⟨_, notDash⟩, notSlash⟩, notText, notIdentifier, notMariadb, notBracket⟩ := plain
  have unquoted : char ∉ schemaQuotes := by
    simp [schemaQuotes, notText, notIdentifier, notMariadb]
  unfold schemaStep
  rw [if_neg (fun both => notDash both.1), if_neg (fun both => notSlash both.1), if_neg unquoted,
    if_neg notBracket]

/-- A plain ASCII character that is no letter. -/
theorem schemaStep_of_other (plain : isPlain char = true) (ascii : char.toNat < 128)
    (noLetter : char.isAlpha = false) (noUnderscore : char ≠ '_') :
    schemaStep characters char rest =
      if char = '(' ∨ char = ')' ∨ char = ',' then keep .symbol [char] rest else pass rest := by
  rw [schemaStep_of_plain plain, characters.isAlpha_ascii char ascii, noLetter,
    if_neg (by simp [noUnderscore])]

/-- A plain ASCII character that is passed over. -/
def isPassed (char : Char) : Bool :=
  isPlain char && char.toNat < 128 && !char.isAlpha && char != '_' && char != '(' && char != ')' &&
    char != ','

theorem scan_passed (passed : isPassed char = true) :
    scan (schemaScanner characters) () (char :: rest) =
      scan (schemaScanner characters) () rest := by
  simp only [isPassed, Bool.and_eq_true, Bool.not_eq_true', bne_iff_ne, ne_eq,
    decide_eq_true_eq] at passed
  obtain ⟨⟨⟨⟨⟨⟨plain, ascii⟩, noLetter⟩, noUnderscore⟩, notOpening⟩, notClosing⟩, notComma⟩ := passed
  rw [scan_schemaStep, schemaStep_of_other plain ascii noLetter noUnderscore,
    if_neg (by simp [notOpening, notClosing, notComma])]
  rfl

theorem scan_all_passed {text : Text} (passed : text.all isPassed = true) :
    scan (schemaScanner characters) () (text ++ rest) =
      scan (schemaScanner characters) () rest := by
  induction text with
  | nil => rfl
  | cons first others ih =>
    rw [List.all_cons, Bool.and_eq_true] at passed
    rw [List.cons_append, scan_passed passed.1, ih passed.2]

theorem scan_blank_schema :
    scan (schemaScanner characters) () (' ' :: rest) = scan (schemaScanner characters) () rest := by
  have ascii := characters.isAlpha_ascii ' ' (by decide)
  have step : schemaStep characters ' ' rest = pass rest := by
    unfold schemaStep
    rw [if_neg (by simp), if_neg (by simp), if_neg (by decide), if_neg (by decide), ascii,
      if_neg (by decide), if_neg (by decide)]
  rw [scan_schemaStep, step]
  rfl

theorem isPassed_of_isAsciiDigit (digit : isAsciiDigit char = true) : isPassed char = true := by
  simp only [isAsciiDigit, Bool.and_eq_true, decide_eq_true_eq] at digit
  obtain ⟨noLetter, noUnderscore⟩ := noLetter_of_isDigit digit.2
  have plain : isPlain char = true :=
    isPlain_of_isAlphanum (by rw [Char.isAlphanum, digit.2, Bool.or_true])
  have differs (other : Char) (noDigit : other.isDigit = false) : char ≠ other := by
    rintro rfl
    rw [digit.2] at noDigit
    cases noDigit
  simp [isPassed, plain, digit.1, noLetter, noUnderscore, differs '(' rfl, differs ')' rfl,
    differs ',' rfl]

theorem scan_word_schema {text : Text} (keyword : isKeyword text = true)
    (ends : rest.head?.all endsWord = true) :
    scan (schemaScanner characters) () (text ++ rest) =
      { kind := .word, text } :: scan (schemaScanner characters) () rest := by
  cases text with
  | nil => cases keyword
  | cons first others =>
    obtain ⟨firstAscii, firstLetter, taken, dropped⟩ :=
      word_taken characters keyword ends
    have firstAlphanum : first.isAlphanum = true := by
      rw [Char.isAlphanum, firstLetter, Bool.true_or]
    have step : schemaStep characters first (others ++ rest) =
        keep .word (first :: others) rest := by
      rw [schemaStep_of_plain (isPlain_of_isAlphanum firstAlphanum),
        characters.isAlpha_ascii first firstAscii, firstLetter, if_pos (by simp), taken, dropped]
    rw [List.cons_append, scan_schemaStep, step]
    rfl

theorem quotedPart_doubled {quote : Char} (value : Text) (ends : rest.head? ≠ some quote) :
    quotedPart quote (Query.doubled quote value ++ quote :: rest) = (value, rest) := by
  induction value with
  | nil =>
    rw [quotedPart.eq_def]
    cases rest with
    | nil => simp [Query.doubled]
    | cons next others =>
      have differs : next ≠ quote := fun same => ends (congrArg some same)
      simp [Query.doubled, differs]
  | cons first others ih =>
    have unfolded : Query.doubled quote (first :: others) =
        (if first = quote then [quote, quote] else [first]) ++ Query.doubled quote others := rfl
    rw [unfolded, quotedPart.eq_def]
    by_cases same : first = quote
    · simp [same, ih]
    · simp [same, ih]

theorem scan_quoted_schema {quote : Char} (isQuote : quote ∈ schemaQuotes) (value : Text)
    (ends : rest.head? ≠ some quote) :
    scan (schemaScanner characters) () (quotedText quote value ++ rest) =
      { kind := if quote = textQuote then .literal else .identifier, text := value } ::
        scan (schemaScanner characters) () rest := by
  have body : quotedText quote value ++ rest =
      quote :: (Query.doubled quote value ++ quote :: rest) := by
    simp [quotedText]
  have special : quote ≠ '-' ∧ quote ≠ '/' := by
    simp only [schemaQuotes, List.mem_cons, List.not_mem_nil, or_false] at isQuote
    obtain rfl | rfl | rfl := isQuote <;> decide
  have step : schemaStep characters quote (Query.doubled quote value ++ quote :: rest) =
      keep (if quote = textQuote then .literal else .identifier) value rest := by
    unfold schemaStep
    rw [if_neg (fun both => special.1 both.1), if_neg (fun both => special.2 both.1),
      if_pos isQuote, quotedPart_doubled value ends]
  rw [body, scan_schemaStep, step]
  rfl

theorem scan_minus_schema {next : Char} (digit : isAsciiDigit next = true) :
    scan (schemaScanner characters) () ('-' :: next :: rest) =
      scan (schemaScanner characters) () (next :: rest) := by
  have differs : next ≠ '-' := by
    rintro rfl
    cases digit
  have ascii := characters.isAlpha_ascii '-' (by decide)
  have step : schemaStep characters '-' (next :: rest) = pass (next :: rest) := by
    unfold schemaStep
    rw [if_neg (by simp [differs]), if_neg (by simp), if_neg (by decide), if_neg (by decide),
      ascii, if_neg (by decide), if_neg (by decide)]
  rw [scan_schemaStep, step]
  rfl

theorem scan_mark_schema (isMark : char = '(' ∨ char = ')' ∨ char = ',') :
    scan (schemaScanner characters) () (char :: rest) =
      { kind := .symbol, text := [char] } :: scan (schemaScanner characters) () rest := by
  have plain : isPlain char = true ∧ char.toNat < 128 ∧ char.isAlpha = false ∧ char ≠ '_' := by
    obtain rfl | rfl | rfl := isMark <;> decide
  rw [scan_schemaStep, schemaStep_of_other plain.1 plain.2.1 plain.2.2.1 plain.2.2.2,
    if_pos isMark]
  rfl

end Reader

/-- The scanner of table definitions reads every part as a whole. -/
theorem schemaParts_readBy (characters : Characters) :
    schemaParts.ReadBy (schemaScanner characters) := by
  intro part rest allowed
  cases part with
  | blank => exact scan_blank_schema
  | mark char =>
    have isMark : char = '(' ∨ char = ')' ∨ char = ',' := by
      simpa [schemaParts, Part.allows, or_assoc] using allowed
    have kept : schemaParts.output (.mark char) = [{ kind := .symbol, text := [char] }] := by
      obtain rfl | rfl | rfl := isMark <;>
        simp [schemaParts, Part.tokens, relevant, openingToken, closingToken, commaToken]
    rw [kept]
    exact scan_mark_schema isMark
  | word text =>
    obtain ⟨keyword, ends⟩ := Bool.and_eq_true_iff.mp allowed
    exact scan_word_schema keyword ends
  | number digits =>
    simp only [schemaParts, Part.allows, Bool.and_eq_true] at allowed
    refine scan_all_passed (List.all_eq_true.mpr (fun char member => ?_))
    exact isPassed_of_isAsciiDigit (List.all_eq_true.mp allowed.1.2 char member)
  | compare operator =>
    have passed : (comparisonSql operator).all isPassed = true := by
      cases operator <;> decide
    have dropped : schemaParts.output (.compare operator) = [] := by
      cases operator <;> simp [schemaParts, Part.tokens, relevant, openingToken, closingToken,
        commaToken, comparisonSql]
    rw [dropped]
    exact scan_all_passed passed
  | minus =>
    have dropped : schemaParts.output .minus = [] := by
      simp [schemaParts, Part.tokens, relevant, openingToken, closingToken, commaToken, symbol]
    rw [dropped]
    cases rest with
    | nil => cases allowed
    | cons next others => exact scan_minus_schema allowed
  | bar =>
    have dropped : schemaParts.output .bar = [] := by
      simp [schemaParts, Part.tokens, relevant, openingToken, closingToken, commaToken, symbol]
    rw [dropped]
    exact scan_passed (by decide)
  | quoted quote value =>
    obtain ⟨isQuote, ends⟩ := Bool.and_eq_true_iff.mp allowed
    simp only [Bool.or_eq_true, beq_iff_eq] at isQuote
    have special : quote ∈ schemaQuotes ∧ endsValue quote = false := by
      obtain (rfl | rfl) | rfl := isQuote <;> decide
    have kept : schemaParts.output (.quoted quote value) =
        [{ kind := if quote = textQuote then .literal else .identifier, text := value }] := by
      obtain (rfl | rfl) | rfl := isQuote <;> rfl
    rw [kept]
    refine scan_quoted_schema special.1 value (fun same => ?_)
    rw [same] at ends
    exact absurd ends (by simp [special.2])

theorem schemaParts_spaced {parts : List Part} {next : Option Char}
    (spaced : catalogParts.Spaced parts next) : schemaParts.Spaced parts next := by
  induction parts with
  | nil => trivial
  | cons part rest ih => exact ⟨spaced.1, ih spaced.2⟩

/-- The tokens that the scanner of table definitions finds in spaced parts. -/
theorem sqliteTokens_texts {characters : Characters} {parts : List Part}
    (spaced : catalogParts.Spaced parts none) :
    sqliteTokens characters (catalogParts.texts parts) =
      (parts.flatMap Part.tokens).filter relevant := by
  have read := Vocabulary.scan_texts (schemaParts_readBy characters)
    (show schemaParts.Spaced parts ([] : Text).head? from schemaParts_spaced spaced)
  rw [List.append_nil, scan_nil, List.append_nil] at read
  rw [List.filter_flatMap]
  exact read

/-! ## The parts of the statement -/

/-- The parts after a blank, for every item in a row. -/
def wordParts (words : List String) : List Part :=
  words.flatMap (fun text => [.blank, keyword text])

/-- Definitions in a row. -/
def commaSeparated : List (List Part) → List Part
  | [] => []
  | first :: rest => first ++ rest.flatMap (fun definition => .mark ',' :: .blank :: definition)

def nameParts (name : Text) : List Part := [.quoted '"' name]

def nameListParts (names : List Text) : List Part :=
  opening :: commaSeparated (names.map nameParts) ++ [closing]

def literalDefaultParts : Option Literal → List Part
  | none => [keyword "NULL"]
  | some (.integer value) => integerParts value
  | some (.text value) =>
    if Char.ofNat 0 ∈ value then opening :: encodedParts "CAST" "AS" "TEXT" value ++ [closing]
    else [.quoted textQuote value]

def timestampParts : List Part :=
  [opening, keyword "strftime", opening, .quoted textQuote "%Y-%m-%dT%H:%M:%f".toList, .mark ',',
    .blank, .quoted textQuote "now".toList, closing, .blank, .bar, .bar, .blank,
    .quoted textQuote "000Z".toList, closing]

def defaultParts : ServerDefault → List Part
  | .currentTimestamp => wordParts ["DEFAULT"] ++ .blank :: timestampParts
  | .literal value => wordParts ["DEFAULT"] ++ .blank :: literalDefaultParts value

def collateParts (column : Column) : List Part :=
  match column.textCollation with
  | none | some .binary => []
  | some collation => wordParts ["COLLATE", collation.sql]

/-- The parts after the name and the storage class of a column. -/
def columnClauses (planned : PlannedColumn) : List Part :=
  (if planned.column.primaryKey && !planned.compositePk then wordParts ["PRIMARY", "KEY"]
    else []) ++
  (if planned.column.autoIncrement then wordParts ["AUTOINCREMENT"] else []) ++
  (if requiresNotNull planned then wordParts ["NOT", "NULL"] else []) ++
  planned.column.serverDefault.toList.flatMap defaultParts

def columnParts (planned : PlannedColumn) : List Part :=
  nameParts planned.column.name ++ wordParts [planned.column.storageClass.sql] ++
    collateParts planned.column ++ columnClauses planned

def actionWords : ReferentialAction → List String
  | .cascade => ["CASCADE"]
  | .restrict => ["RESTRICT"]
  | .setNull => ["SET", "NULL"]
  | .noAction => ["NO", "ACTION"]

def actionParts (event : String) (action : Option ReferentialAction) : List Part :=
  action.toList.flatMap (fun action => wordParts (["ON", event] ++ actionWords action))

def foreignKeyParts (foreignKey : PlannedForeignKey) : List Part :=
  [keyword "FOREIGN", .blank, keyword "KEY", .blank] ++ nameListParts foreignKey.columnNames ++
    [.blank, keyword "REFERENCES", .blank] ++ nameParts foreignKey.targetTable ++ [.blank] ++
    nameListParts foreignKey.targetColumns ++
    (actionParts "DELETE" foreignKey.onDelete ++ actionParts "UPDATE" foreignKey.onUpdate)

def compositeParts (columns : List PlannedColumn) : List (List Part) :=
  let names := (columns.filter PlannedColumn.compositePk).map (·.column.name)
  if names.isEmpty then []
  else [[keyword "PRIMARY", .blank, keyword "KEY", .blank] ++ nameListParts names]

def constraintParts (check : BoundCheck) : List Part :=
  [keyword "CONSTRAINT", .blank] ++ nameParts check.name ++
    [.blank, keyword "CHECK", .blank, opening] ++ checkParts .sqlite check.expression ++ [closing]

/-- The definitions that are no checks. -/
def plainDefinitions (planned : PlannedModel) : List (List Part) :=
  planned.columns.map columnParts ++ compositeParts planned.columns ++
    planned.foreignKeys.map foreignKeyParts

def tableParts (planned : PlannedModel) : List Part :=
  [keyword "CREATE", .blank, keyword "TABLE", .blank] ++ nameParts planned.tableName ++
    [.blank, opening] ++
    commaSeparated (plainDefinitions planned ++ planned.checks.map constraintParts) ++
    [closing, .blank, keyword "STRICT"]

/-! ## The parts are the statement -/

theorem texts_nameParts (name : Text) :
    catalogParts.texts (nameParts name) = quoteName .sqlite name :=
  texts_column .sqlite name

theorem texts_commaSeparated (definitions : List (List Part)) :
    catalogParts.texts (commaSeparated definitions) =
      joinWith ", ".toList (definitions.map catalogParts.texts) := by
  have separator : ", ".toList = [',', ' '] := by simp
  cases definitions with
  | nil => rfl
  | cons first rest =>
    rw [commaSeparated, Vocabulary.texts_append, List.map_cons, Splicing.joinWith_cons, separator]
    congr 1
    induction rest with
    | nil => rfl
    | cons second rest ih =>
      rw [List.flatMap_cons, Vocabulary.texts_append, ih, List.map_cons,
        List.flatMap_cons]
      rfl

theorem texts_grouped (parts : List Part) :
    catalogParts.texts (opening :: parts ++ [closing]) = '(' :: catalogParts.texts parts ++ [')'] := by
  rw [List.cons_append, Vocabulary.texts_cons, Vocabulary.texts_append]
  rfl

theorem texts_nameListParts (names : List Text) :
    catalogParts.texts (nameListParts names) = nameList names := by
  have opened : "(".toList = ['('] := by simp
  have closed : ")".toList = [')'] := by simp
  have each : (names.map nameParts).map catalogParts.texts = names.map (quoteName .sqlite) := by
    rw [List.map_map]
    exact List.map_congr_left (fun name _ => texts_nameParts name)
  rw [nameListParts, nameList, opened, closed, texts_grouped, texts_commaSeparated, each]
  rfl

/-- A literal default is a literal of a check, in parentheses if it is given by its bytes. -/
theorem literalDefault_cases (value : Literal) :
    literalDefaultParts (some value) = checkParts .sqlite (.literal value) ∧
        renderLiteralDefault (some value) = renderLiteral .sqlite value ∨
      literalDefaultParts (some value) = opening :: checkParts .sqlite (.literal value) ++ [closing] ∧
        renderLiteralDefault (some value) = '(' :: renderLiteral .sqlite value ++ [')'] := by
  have opened : "(CAST(X'".toList = '(' :: "CAST(X'".toList := by simp
  have closed : "' AS TEXT))".toList = "' AS TEXT)".toList ++ [')'] := by simp
  rw [checkParts]
  unfold literalDefaultParts literalParts renderLiteralDefault renderLiteral
  cases value with
  | integer value => exact .inl ⟨rfl, rfl⟩
  | text value =>
    by_cases holds : Char.ofNat 0 ∈ value
    · simp only [if_pos holds, opened, closed, List.cons_append, List.append_assoc, and_self,
        or_true]
    · simp only [if_neg holds, true_and]
      exact .inl rfl

theorem texts_literalDefault (value : Option Literal) :
    catalogParts.texts (literalDefaultParts value) = renderLiteralDefault value := by
  cases value with
  | none => exact List.append_nil _
  | some value =>
    obtain ⟨parts, rendered⟩ | ⟨parts, rendered⟩ := literalDefault_cases value
    · rw [parts, rendered, texts_literal]
    · rw [parts, rendered, texts_grouped, texts_literal]

/-- A clause after a blank. -/
theorem texts_defaultParts (default : ServerDefault) :
    catalogParts.texts (defaultParts default) = " ".toList ++ defaultClause default := by
  cases default with
  | currentTimestamp =>
    change _ = " ".toList ++ ("DEFAULT (".toList ++
      "strftime('%Y-%m-%dT%H:%M:%f', 'now') || '000Z'".toList ++ ")".toList)
    simp [defaultParts, timestampParts, wordParts, text_eq, Part.text, quotedText, Query.doubled,
      textQuote, opening, closing, keyword]
  | literal value =>
    have word : catalogParts.texts (wordParts ["DEFAULT"] ++ [.blank]) =
        " ".toList ++ "DEFAULT ".toList := by simp [wordParts]
    change catalogParts.texts (wordParts ["DEFAULT"] ++ [.blank] ++ literalDefaultParts value) =
      " ".toList ++ ("DEFAULT ".toList ++ renderLiteralDefault value)
    rw [Vocabulary.texts_append, word, texts_literalDefault, List.append_assoc]

theorem texts_collateParts (column : Column) :
    catalogParts.texts (collateParts column) =
      (collateClause column).flatMap (" ".toList ++ ·) := by
  unfold collateParts collateClause
  cases column.textCollation with
  | none => rfl
  | some collation => cases collation <;> simp [wordParts, Collation.sql]

theorem texts_columnParts (planned : PlannedColumn) :
    catalogParts.texts (columnParts planned) = compileColumnDefinition planned := by
  have storage : catalogParts.texts (wordParts [planned.column.storageClass.sql]) =
      [planned.column.storageClass.sql.toList].flatMap (" ".toList ++ ·) := by
    simp [wordParts]
  have optional (holds : Bool) (words : List String) (text : Text)
      (same : catalogParts.texts (wordParts words) = " ".toList ++ text) :
      catalogParts.texts (if holds then wordParts words else []) =
        (if holds then [text] else []).flatMap (" ".toList ++ ·) := by
    cases holds with
    | false => rfl
    | true => simpa using same
  have defaults : catalogParts.texts (planned.column.serverDefault.toList.flatMap defaultParts) =
      (planned.column.serverDefault.toList.map defaultClause).flatMap (" ".toList ++ ·) := by
    cases planned.column.serverDefault with
    | none => rfl
    | some default =>
      simp only [Option.toList_some, List.flatMap_cons, List.flatMap_nil, List.append_nil,
        List.map_cons, List.map_nil, texts_defaultParts]
  change _ = joinWith " ".toList (quoteName .sqlite planned.column.name ::
    ([planned.column.storageClass.sql.toList] ++ collateClause planned.column ++
      (if planned.column.primaryKey && !planned.compositePk then ["PRIMARY KEY".toList] else []) ++
      (if planned.column.autoIncrement then ["AUTOINCREMENT".toList] else []) ++
      (if requiresNotNull planned then ["NOT NULL".toList] else []) ++
      planned.column.serverDefault.toList.map defaultClause))
  rw [Splicing.joinWith_cons, columnParts, columnClauses]
  simp only [Vocabulary.texts_append, texts_nameParts, storage, texts_collateParts, defaults,
    optional _ ["PRIMARY", "KEY"] "PRIMARY KEY".toList (by simp [wordParts]),
    optional _ ["AUTOINCREMENT"] "AUTOINCREMENT".toList (by simp [wordParts]),
    optional _ ["NOT", "NULL"] "NOT NULL".toList (by simp [wordParts]), List.flatMap_append,
    List.append_assoc]

theorem texts_actionParts (event : String) (listed : event ∈ ["DELETE", "UPDATE"])
    (action : Option ReferentialAction) :
    catalogParts.texts (actionParts event action) =
      action.toList.flatMap
        (fun action => " ON ".toList ++ event.toList ++ " ".toList ++ action.sql.toList) := by
  cases action with
  | none => rfl
  | some action =>
    simp only [List.mem_cons, List.not_mem_nil, or_false] at listed
    obtain rfl | rfl := listed <;> cases action <;>
      simp [actionParts, actionWords, wordParts, ReferentialAction.sql]

theorem texts_foreignKeyParts (foreignKey : PlannedForeignKey) :
    catalogParts.texts (foreignKeyParts foreignKey) = compileForeignKeyConstraint foreignKey := by
  have first : catalogParts.texts [keyword "FOREIGN", .blank, keyword "KEY", .blank] =
      "FOREIGN KEY ".toList := by simp
  have second : catalogParts.texts [.blank, keyword "REFERENCES", .blank] =
      " REFERENCES ".toList := by simp
  have third : catalogParts.texts [.blank] = " ".toList := by simp
  have deleted : " ON DELETE ".toList = " ON ".toList ++ "DELETE".toList ++ " ".toList := by
    simp
  have updated : " ON UPDATE ".toList = " ON ".toList ++ "UPDATE".toList ++ " ".toList := by
    simp
  change _ = "FOREIGN KEY ".toList ++ nameList foreignKey.columnNames ++ " REFERENCES ".toList ++
    quoteName .sqlite foreignKey.targetTable ++ " ".toList ++ nameList foreignKey.targetColumns ++
    (foreignKey.onDelete.toList.flatMap (fun action => " ON DELETE ".toList ++ action.sql.toList) ++
      foreignKey.onUpdate.toList.flatMap (fun action => " ON UPDATE ".toList ++ action.sql.toList))
  rw [foreignKeyParts, deleted, updated]
  simp only [Vocabulary.texts_append, first, second, third, texts_nameListParts, texts_nameParts,
    texts_actionParts "DELETE" (by simp), texts_actionParts "UPDATE" (by simp)]

theorem texts_compositeParts (columns : List PlannedColumn) :
    (compositeParts columns).map catalogParts.texts = compositeKey columns := by
  have first : catalogParts.texts [keyword "PRIMARY", .blank, keyword "KEY", .blank] =
      "PRIMARY KEY ".toList := by simp
  unfold compositeParts compositeKey
  dsimp only
  split
  · rfl
  · rw [List.map_singleton, Vocabulary.texts_append, first, texts_nameListParts]

theorem compileCheck_eq {check : BoundCheck} (declared : Declared check.expression) :
    compileCheck check = some (catalogParts.texts (constraintParts check)) := by
  have first : catalogParts.texts [keyword "CONSTRAINT", .blank] = "CONSTRAINT ".toList := by
    simp
  have second : catalogParts.texts [.blank, keyword "CHECK", .blank, opening] =
      " CHECK (".toList := by simp
  have closed : catalogParts.texts [closing] = ")".toList := by simp
  rw [compileCheck, renderCheck_eq_texts .sqlite declared, constraintParts]
  simp only [Vocabulary.texts_append, first, second, closed, texts_nameParts]
  rfl

theorem compileChecks_eq {checks : List BoundCheck}
    (declared : ∀ check ∈ checks, Declared check.expression) :
    checks.mapM compileCheck =
      some (checks.map (fun check => catalogParts.texts (constraintParts check))) := by
  induction checks with
  | nil => rfl
  | cons check rest ih =>
    rw [List.forall_mem_cons] at declared
    rw [List.mapM_cons, compileCheck_eq declared.1, ih declared.2]
    rfl

/-- The compiled statement is the text of its parts. -/
theorem compileCreateTableSql_eq {planned : PlannedModel}
    (declared : ∀ check ∈ planned.checks, Declared check.expression) :
    compileCreateTableSql planned = some (catalogParts.texts (tableParts planned)) := by
  have definitions :
      (plainDefinitions planned ++ planned.checks.map constraintParts).map catalogParts.texts =
      planned.columns.map compileColumnDefinition ++ compositeKey planned.columns ++
        planned.foreignKeys.map compileForeignKeyConstraint ++
        planned.checks.map (fun check => catalogParts.texts (constraintParts check)) := by
    simp only [plainDefinitions, List.map_append, List.map_map, Function.comp_def,
      texts_columnParts, texts_foreignKeyParts, texts_compositeParts]
  have first : catalogParts.texts [keyword "CREATE", .blank, keyword "TABLE", .blank] =
      "CREATE TABLE ".toList := by simp
  have second : catalogParts.texts [.blank, opening] = " (".toList := by simp
  have last : catalogParts.texts [closing, .blank, keyword "STRICT"] = ") STRICT".toList := by
    simp
  rw [compileCreateTableSql, compileChecks_eq declared, tableParts]
  simp only [Vocabulary.texts_append, first, second, last, texts_nameParts, texts_commaSeparated,
    definitions]
  rfl

/-! ## The parts are spaced -/

/-- The parts are spaced before whatever ends a value. -/
def Tidy (parts : List Part) : Prop :=
  ∀ next, EndsValue next → catalogParts.Spaced parts next

/-- The parts are spaced, and end a value before them. -/
def Clause (parts : List Part) : Prop :=
  Tidy parts ∧ ∀ next, EndsValue next → EndsValue (catalogParts.headOf parts next)

theorem Clause.nil : Clause [] := ⟨fun _ _ => trivial, fun _ ends => ends⟩

theorem Tidy.append {first second : List Part} (tidy : Tidy first) (clause : Clause second) :
    Tidy (first ++ second) := fun next ends =>
  Vocabulary.spaced_append.mpr ⟨tidy _ (clause.2 next ends), clause.1 next ends⟩

theorem Clause.append {first second : List Part} (clause : Clause first) (others : Clause second) :
    Clause (first ++ second) := by
  refine ⟨clause.1.append others, fun next ends => ?_⟩
  rw [Vocabulary.headOf_append]
  exact clause.2 _ (others.2 next ends)

/-- A clause after a blank. -/
theorem Tidy.afterBlank {parts : List Part} (tidy : Tidy parts) : Clause (.blank :: parts) :=
  ⟨fun next ends => ⟨rfl, tidy next ends⟩, fun _ _ => rfl⟩

/-- A clause after a comma. -/
theorem Tidy.afterComma {parts : List Part} (tidy : Tidy parts) :
    Clause (.mark ',' :: .blank :: parts) :=
  ⟨fun next ends => ⟨rfl, rfl, tidy next ends⟩, fun _ _ => rfl⟩

theorem Tidy.keyword {text : String} (isWord : isKeyword text.toList = true) :
    Tidy [keyword text] := fun _ ends => ⟨allows_keyword isWord ends.endsWord, trivial⟩

theorem tidy_nameParts (name : Text) : Tidy (nameParts name) :=
  fun _ ends => spaced_column .sqlite name ends

/-- What a parenthesis closes is tidy whatever it is followed by. -/
theorem Tidy.grouped {parts : List Part} (tidy : Tidy parts) :
    Tidy (opening :: parts ++ [closing]) := fun next _ =>
  ⟨rfl, Vocabulary.spaced_append.mpr ⟨tidy _ rfl, rfl, trivial⟩⟩

theorem clause_wordParts {words : List String}
    (listed : ∀ text ∈ words, isKeyword text.toList = true) : Clause (wordParts words) := by
  induction words with
  | nil => exact .nil
  | cons text rest ih =>
    rw [List.forall_mem_cons] at listed
    exact (Tidy.keyword listed.1).afterBlank.append (ih listed.2)

theorem clause_commas {definitions : List (List Part)}
    (tidy : ∀ definition ∈ definitions, Tidy definition) :
    Clause (definitions.flatMap (fun definition => .mark ',' :: .blank :: definition)) := by
  induction definitions with
  | nil => exact .nil
  | cons first rest ih =>
    rw [List.forall_mem_cons] at tidy
    exact tidy.1.afterComma.append (ih tidy.2)

theorem tidy_commaSeparated {definitions : List (List Part)}
    (tidy : ∀ definition ∈ definitions, Tidy definition) : Tidy (commaSeparated definitions) := by
  cases definitions with
  | nil => exact fun _ _ => trivial
  | cons first rest =>
    rw [List.forall_mem_cons] at tidy
    exact tidy.1.append (clause_commas tidy.2)

theorem tidy_nameListParts (names : List Text) : Tidy (nameListParts names) := by
  refine (tidy_commaSeparated (fun definition listed => ?_)).grouped
  obtain ⟨name, _, rfl⟩ := List.mem_map.mp listed
  exact tidy_nameParts name

theorem tidy_literalDefault (value : Option Literal) : Tidy (literalDefaultParts value) := by
  cases value with
  | none => exact Tidy.keyword (by decide)
  | some value =>
    have literal : Tidy (checkParts .sqlite (.literal value)) :=
      fun _ ends => spaced_literal .sqlite value ends
    obtain ⟨parts, _⟩ | ⟨parts, _⟩ := literalDefault_cases value
    · rwa [parts]
    · rw [parts]
      exact literal.grouped

theorem tidy_timestampParts : Tidy timestampParts := by
  intro next _
  exact ⟨rfl, allows_keyword (by decide) rfl, rfl, rfl, rfl, rfl, rfl, rfl, rfl, rfl, rfl,
    rfl, rfl, rfl, trivial⟩

theorem clause_defaultParts (default : ServerDefault) : Clause (defaultParts default) := by
  have word : Clause (wordParts ["DEFAULT"]) := clause_wordParts (by decide)
  cases default with
  | currentTimestamp => exact word.append tidy_timestampParts.afterBlank
  | literal value => exact word.append (tidy_literalDefault value).afterBlank

theorem clause_collateParts (column : Column) : Clause (collateParts column) := by
  unfold collateParts
  cases column.textCollation with
  | none => exact .nil
  | some collation =>
    cases collation with
    | binary => exact .nil
    | nocase | rtrim => exact clause_wordParts (by decide)

theorem clause_columnClauses (planned : PlannedColumn) : Clause (columnClauses planned) := by
  have optional (holds : Bool) (words : List String)
      (listed : ∀ text ∈ words, isKeyword text.toList = true) :
      Clause (if holds then wordParts words else []) := by
    cases holds with
    | false => exact .nil
    | true => exact clause_wordParts listed
  have defaults : Clause (planned.column.serverDefault.toList.flatMap defaultParts) := by
    cases planned.column.serverDefault with
    | none => exact .nil
    | some default =>
      rw [Option.toList_some, List.flatMap_singleton]
      exact clause_defaultParts default
  exact (((optional _ _ (by decide)).append (optional _ _ (by decide))).append
    (optional _ _ (by decide))).append defaults

theorem tidy_columnParts (planned : PlannedColumn) : Tidy (columnParts planned) := by
  have storage : Clause (wordParts [planned.column.storageClass.sql]) := by
    cases planned.column.storageClass <;>
      exact clause_wordParts (by decide)
  exact (((tidy_nameParts _).append storage).append (clause_collateParts _)).append
    (clause_columnClauses planned)

theorem clause_actionParts (event : String) (listed : event ∈ ["DELETE", "UPDATE"])
    (action : Option ReferentialAction) : Clause (actionParts event action) := by
  cases action with
  | none => exact .nil
  | some action =>
    have keywords : ∀ event ∈ ["DELETE", "UPDATE"], ∀ text ∈ ["ON", event] ++ actionWords action,
        isKeyword text.toList = true := by
      cases action <;> decide
    rw [actionParts, Option.toList_some, List.flatMap_singleton]
    exact clause_wordParts (keywords event listed)

theorem tidy_foreignKeyParts (foreignKey : PlannedForeignKey) :
    Tidy (foreignKeyParts foreignKey) := by
  have start : Tidy ([keyword "FOREIGN", .blank, keyword "KEY"] ++
      .blank :: nameListParts foreignKey.columnNames) := by
    refine Tidy.append (fun next ends => ?_) (tidy_nameListParts _).afterBlank
    exact ⟨allows_keyword (by decide) rfl, rfl,
      allows_keyword (by decide) ends.endsWord, trivial⟩
  have references : Clause (wordParts ["REFERENCES"]) := clause_wordParts (by decide)
  have whole := ((((start.append references).append
    (tidy_nameParts foreignKey.targetTable).afterBlank).append
    (tidy_nameListParts foreignKey.targetColumns).afterBlank).append
    ((clause_actionParts "DELETE" (by simp) foreignKey.onDelete).append
      (clause_actionParts "UPDATE" (by simp) foreignKey.onUpdate)))
  simpa [foreignKeyParts, wordParts, List.append_assoc] using whole

theorem tidy_compositeParts (columns : List PlannedColumn) :
    ∀ definition ∈ compositeParts columns, Tidy definition := by
  intro definition listed
  unfold compositeParts at listed
  dsimp only at listed
  split at listed
  · cases listed
  · obtain rfl := List.mem_singleton.mp listed
    have start : Tidy [keyword "PRIMARY", .blank, keyword "KEY"] := fun next ends =>
      ⟨allows_keyword (by decide) rfl, rfl,
        allows_keyword (by decide) ends.endsWord, trivial⟩
    simpa using start.append (tidy_nameListParts _).afterBlank

theorem tidy_constraintParts {check : BoundCheck} (declared : Declared check.expression) :
    Tidy (constraintParts check) := by
  have start : Tidy [keyword "CONSTRAINT"] := Tidy.keyword (by decide)
  have word : Clause (wordParts ["CHECK"]) := clause_wordParts (by decide)
  have inside : Tidy (checkParts .sqlite check.expression) :=
    fun _ ends => spaced_checkParts .sqlite declared ends
  have whole := ((start.append (tidy_nameParts check.name).afterBlank).append word).append
    inside.grouped.afterBlank
  simpa [constraintParts, wordParts, List.append_assoc] using whole

/-- The parts of a compiled statement are spaced. -/
theorem spaced_tableParts {planned : PlannedModel}
    (declared : ∀ check ∈ planned.checks, Declared check.expression) :
    catalogParts.Spaced (tableParts planned) none := by
  have definitions : ∀ definition ∈ plainDefinitions planned ++
      planned.checks.map constraintParts, Tidy definition := by
    intro definition listed
    simp only [plainDefinitions, List.mem_append, List.mem_map] at listed
    obtain ((⟨column, _, rfl⟩ | composite) | ⟨foreignKey, _, rfl⟩) | ⟨check, isCheck, rfl⟩ := listed
    · exact tidy_columnParts column
    · exact tidy_compositeParts planned.columns definition composite
    · exact tidy_foreignKeyParts foreignKey
    · exact tidy_constraintParts (declared check isCheck)
  have start : Tidy [keyword "CREATE", .blank, keyword "TABLE"] := fun next ends =>
    ⟨allows_keyword (by decide) rfl, rfl,
      allows_keyword (by decide) ends.endsWord, trivial⟩
  have ending : Clause (wordParts ["STRICT"]) := clause_wordParts (by decide)
  have whole := ((start.append (tidy_nameParts planned.tableName).afterBlank).append
    (tidy_commaSeparated definitions).grouped.afterBlank).append ending
  have same : tableParts planned = [keyword "CREATE", .blank, keyword "TABLE"] ++
      .blank :: nameParts planned.tableName ++ .blank :: (opening ::
        commaSeparated (plainDefinitions planned ++ planned.checks.map constraintParts) ++
          [closing]) ++ wordParts ["STRICT"] := by
    simp [tableParts, wordParts]
  rw [same]
  exact whole none rfl

end Snekql.Schema
