import Snekql.CheckParts

/-!
# Rendered checks are read back

The parser builds a declared check from the tokens of its rendered text. Together with the parts of
that text this makes the catalog reader of either backend the inverse of `renderCheck`.
-/

namespace Snekql.Checks

open Snekql.Splicing Snekql.Scanning Snekql.Outcomes
open Snekql.Query (BackendFamily ComparisonOperator CompoundOperator Predicate)

/-! ## Encoded texts -/

theorem hexDigit_digitChar {digit : Nat} (bounded : digit < 16) :
    hexDigit (Nat.digitChar digit) = some digit ∧
      isBlank (Nat.digitChar digit) = false ∧ Nat.digitChar digit ≠ Char.ofNat 11 := by
  revert digit
  decide

theorem fromHex_hexByte (byte : UInt8) (rest : Text) :
    fromHex (hexByte byte ++ rest) = (fromHex rest).map (byte :: ·) := by
  have bounded : byte.toNat < 256 := byte.toNat_lt
  obtain ⟨high, notBlank, notTab⟩ := hexDigit_digitChar (show byte.toNat / 16 < 16 by omega)
  have low := (hexDigit_digitChar (show byte.toNat % 16 < 16 by omega)).1
  have whole : UInt8.ofNat (16 * (byte.toNat / 16) + byte.toNat % 16) = byte := by
    rw [Nat.div_add_mod]
    exact UInt8.ofNat_toNat
  change fromHex (Nat.digitChar (byte.toNat / 16) :: Nat.digitChar (byte.toNat % 16) :: rest) = _
  rw [fromHex, if_neg (by simp [notBlank, notTab]), high, low]
  cases fromHex rest with
  | none => rfl
  | some others => exact congrArg (fun first => some (first :: others)) whole

theorem fromHex_hexBytes (bytes : List UInt8) : fromHex (bytes.flatMap hexByte) = some bytes := by
  induction bytes with
  | nil => rfl
  | cons byte rest ih =>
    rw [List.flatMap_cons, fromHex_hexByte, ih, Option.map_some]

/-- The hexadecimal form of a text is decoded to the text. -/
theorem decodedText_hexText (value : Text) : decodedText (hexText value) = .ok value := by
  have decoded : (value.flatMap String.utf8EncodeChar).toByteArray.utf8Decode? =
      some value.toArray := List.utf8Decode?_utf8Encode
  rw [decodedText, hexText, fromHex_hexBytes]
  simp only [decoded]

/-! ## Reading single tokens -/

/-- The text with which a token is compared, if it is ASCII. -/
def Token.shown (token : Token) : Option Text :=
  if token.kind = .word ∨ token.kind = .symbol then some (token.text.map Char.toUpper) else none

def Token.isAscii (token : Token) : Bool := token.text.all (·.toNat < 128)

/-- The token is the given keyword or symbol, in upper or lower case. -/
def Spelled (token : Token) (text : String) : Prop :=
  token.isAscii = true ∧ token.shown = some text.toList

instance (token : Token) (text : String) : Decidable (Spelled token text) :=
  inferInstanceAs (Decidable (_ ∧ _))

/-- The keywords that are written in upper case. -/
def upperWords : List String :=
  sqlWords.filter (fun text => text ≠ "utf8mb4" ∧ text ≠ "strftime")

section RoundTrip

variable {expression : CheckExpression} {more rest : List Token} {depth : Nat} {text : String}
  {token : Token}

theorem spelled_word (listed : text ∈ upperWords) : Spelled (word text) text := by
  have all : ∀ text ∈ upperWords, Spelled (word text) text := by decide
  exact all text listed

theorem spelled_charset : Spelled (word "utf8mb4") "UTF8MB4" := by decide

theorem spelled_symbol (listed : text ∈ ["(", ")", ",", "-"]) : Spelled (symbol text) text := by
  have all : ∀ text ∈ ["(", ")", ",", "-"], Spelled (symbol text) text := by decide
  exact all text listed

theorem spelled_opening : Spelled openingToken "(" := spelled_symbol (by simp)

theorem spelled_closing : Spelled closingToken ")" := spelled_symbol (by simp)

theorem spelled_comparison (operator : ComparisonOperator) :
    Spelled { kind := .symbol, text := comparisonSql operator }
      (String.ofList (comparisonSql operator)) := by
  cases operator <;> decide

theorem spelled_connective (connective : CompoundOperator) :
    Spelled { kind := .word, text := connectiveSql connective }
      (String.ofList (connectiveSql connective)) := by
  cases connective <;> decide

section Parser

variable (characters : Characters)

theorem upper_eq (ascii : token.isAscii = true) :
    characters.upper token.text = token.text.map Char.toUpper :=
  characters.upper_ascii token.text (fun char member =>
    decide_eq_true_eq.mp (List.all_eq_true.mp ascii char member))

theorem upper_spelled (spelled : Spelled token text) :
    characters.upper token.text = text.toList := by
  have shown := spelled.2
  unfold Token.shown at shown
  split at shown
  · exact (upper_eq characters spelled.1).trans (Option.some.inj shown)
  · cases shown

theorem spells_eq (ascii : token.isAscii = true) (text : String) :
    token.spells characters text = (token.shown == some text.toList) := by
  unfold Token.spells Token.shown
  rw [upper_eq characters ascii]
  cases token.kind <;> simp

theorem accept_spelled (spelled : Spelled token text) (rest : List Token) :
    accept characters text (token :: rest) = some rest := by
  rw [accept, spells_eq characters spelled.1, spelled.2, beq_self_eq_true, if_pos rfl]

theorem accept_other {other : String} (spelled : Spelled token text) (differs : other ≠ text)
    (rest : List Token) : accept characters other (token :: rest) = none := by
  have unequal : token.shown ≠ some other.toList := by
    rw [spelled.2]
    intro same
    exact differs (String.toList_inj.mp (Option.some.inj same)).symm
  rw [accept, spells_eq characters spelled.1, beq_eq_false_iff_ne.mpr unequal,
    if_neg Bool.false_ne_true]

/-- Values and quoted identifiers are no keywords. -/
theorem accept_value (text : String) (kind : token.kind ≠ .word ∧ token.kind ≠ .symbol)
    (rest : List Token) : accept characters text (token :: rest) = none := by
  have unspelled : token.spells characters text = false := by
    rw [Token.spells, beq_eq_false_iff_ne.mpr kind.1, beq_eq_false_iff_ne.mpr kind.2,
      Bool.or_self, Bool.false_and]
  rw [accept, unspelled, if_neg Bool.false_ne_true]

theorem require_spelled (spelled : Spelled token text) (rest : List Token) :
    require characters text (token :: rest) = .ok rest := by
  rw [require, accept_spelled characters spelled]

/-! ## Reading operands -/

/-- The tokens of a check. -/
def checkTokens (backend : BackendFamily) (expression : CheckExpression) : List Token :=
  (checkParts backend expression).flatMap Part.tokens

/-- An operand without a sign or parenthesis in front. -/
theorem parseOperand_plain
    (unmarked : ∀ mark ∈ ["(", "-", "+"], accept characters mark (token :: rest) = none)
    (depth : Nat) :
    parseOperand characters (depth + 1) (token :: rest) = plainOperand characters token rest := by
  rw [parseOperand, unmarked "(" (by simp), unmarked "-" (by simp), unmarked "+" (by simp)]

theorem parseOperand_value (kind : token.kind ≠ .word ∧ token.kind ≠ .symbol) (depth : Nat)
    (rest : List Token) :
    parseOperand characters (depth + 1) (token :: rest) = plainOperand characters token rest :=
  parseOperand_plain characters (fun mark _ => accept_value characters mark kind rest) depth

theorem checkTokens_column (backend : BackendFamily) (name : Text) :
    checkTokens backend (.column name) = [{ kind := .identifier, text := name }] := by
  cases backend <;> rfl

theorem parseOperand_column (backend : BackendFamily) (name : Text) (depth : Nat)
    (rest : List Token) :
    parseOperand characters (depth + 1) (checkTokens backend (.column name) ++ rest) =
      .ok (.column name, rest) := by
  rw [checkTokens_column, List.singleton_append, parseOperand_value characters (by simp)]
  rfl

theorem decimal_toDigits (value : Nat) : decimal (Nat.toDigits 10 value) = value := by
  simp [decimal]

/-- The tokens of a text that is given by its bytes, after the name of the function. -/
def encodedTokens (joint charset : String) (value : Text) : List Token :=
  [openingToken, word "X", { kind := .literal, text := hexText value }, word joint, word charset,
    closingToken]

theorem tokens_encodedParts (function joint charset : String) (value : Text) :
    (encodedParts function joint charset value).flatMap Part.tokens =
      word function :: encodedTokens joint charset value := rfl

theorem encodedOperand_hexText {joint charset shownCharset : String} (value : Text)
    (isJoint : joint ∈ upperWords) (isCharset : Spelled (word charset) shownCharset)
    (rest : List Token) :
    encodedOperand characters joint shownCharset (encodedTokens joint charset value ++ rest) =
      .ok (.literal (.text value), rest) := by
  have opened := require_spelled characters spelled_opening
  have marked := require_spelled characters
    (spelled_word (show "X" ∈ upperWords by decide))
  have joined := require_spelled characters (spelled_word isJoint)
  have named := require_spelled characters isCharset
  have closed := require_spelled characters spelled_closing
  rw [encodedTokens, List.cons_append, encodedOperand, opened, ok_bind, List.cons_append, marked,
    ok_bind]
  simp only [List.cons_append, List.nil_append, joined, named, ok_bind, closed,
    decodedText_hexText]
  rfl

theorem plainOperand_word (text : String) (rest : List Token) :
    plainOperand characters (word text) rest =
      if characters.upper (word text).text = "CONVERT".toList then
        encodedOperand characters "USING" "UTF8MB4" rest
      else if characters.upper (word text).text = "CAST".toList then
        encodedOperand characters "AS" "TEXT" rest
      else if characters.upper (word text).text ∈ reservedWords then .error .unsupported
      else .ok (.column (word text).text, rest) := rfl

/-- The function with which MariaDB texts are written. -/
theorem plainOperand_convert (value : Text) (rest : List Token) :
    plainOperand characters (word "CONVERT") (encodedTokens "USING" "utf8mb4" value ++ rest) =
      .ok (.literal (.text value), rest) := by
  have upper : characters.upper (word "CONVERT").text = "CONVERT".toList :=
    upper_spelled characters (spelled_word (by decide))
  rw [plainOperand_word, if_pos upper]
  exact encodedOperand_hexText characters value (by decide) spelled_charset rest

/-- The function with which SQLite texts are written that contain NUL. -/
theorem plainOperand_cast (value : Text) (rest : List Token) :
    plainOperand characters (word "CAST") (encodedTokens "AS" "TEXT" value ++ rest) =
      .ok (.literal (.text value), rest) := by
  have upper : characters.upper (word "CAST").text = "CAST".toList :=
    upper_spelled characters (spelled_word (by decide))
  have differs : "CAST".toList ≠ "CONVERT".toList := by simp
  rw [plainOperand_word, upper, if_neg differs, if_pos rfl]
  exact encodedOperand_hexText characters value (by decide)
    (spelled_word (by decide)) rest

theorem parseOperand_word (listed : text ∈ upperWords) (depth : Nat) (rest : List Token) :
    parseOperand characters (depth + 1) (word text :: rest) =
      plainOperand characters (word text) rest := by
  refine parseOperand_plain characters (fun mark member => ?_) depth
  refine accept_other characters (spelled_word listed) ?_ rest
  have apart : ∀ mark ∈ ["(", "-", "+"], mark ∉ upperWords := by decide
  rintro rfl
  exact apart mark member listed

theorem parseOperand_literal (backend : BackendFamily) (value : Literal) (depth : Nat)
    (rest : List Token) :
    parseOperand characters (depth + 1) (checkTokens backend (.literal value) ++ rest) =
      .ok (.literal value, rest) := by
  rw [checkTokens, checkParts]
  cases value with
  | integer value =>
    cases value with
    | ofNat value =>
      change parseOperand characters (depth + 1)
        ({ kind := .number, text := Nat.toDigits 10 value } :: rest) = _
      rw [parseOperand_value characters (by simp), plainOperand]
      simp only [decimal_toDigits]
      rfl
    | negSucc value =>
      have minus : Spelled (symbol "-") "-" := spelled_symbol (by simp)
      change parseOperand characters (depth + 1) (symbol "-" ::
        { kind := .number, text := Nat.toDigits 10 (value + 1) } :: rest) = _
      rw [parseOperand, accept_other characters minus (by decide),
        accept_spelled characters minus]
      simp only [signedOperand, decimal_toDigits]
      congr 4
      omega
  | text value =>
    cases backend with
    | mariadb =>
      change parseOperand characters (depth + 1)
        (word "CONVERT" :: (encodedTokens "USING" "utf8mb4" value ++ rest)) = _
      rw [parseOperand_word characters (by decide), plainOperand_convert]
    | sqlite =>
      by_cases holds : Char.ofNat 0 ∈ value
      · rw [show literalParts .sqlite (.text value) = encodedParts "CAST" "AS" "TEXT" value
          from if_pos holds, tokens_encodedParts, List.cons_append,
          parseOperand_word characters (by decide), plainOperand_cast]
      · rw [show literalParts .sqlite (.text value) = [.quoted textQuote value]
          from if_neg holds]
        change parseOperand characters (depth + 1) ({ kind := .literal, text := value } :: rest) = _
        rw [parseOperand_value characters (by simp)]
        rfl

/-! ## Reading relations -/

/-- The words that continue a comparison after its left operand. -/
def relationWords : List String := ["IS", "NOT", "IN", "BETWEEN"]

/-- The tokens do not continue a comparison. -/
def Closes (more : List Token) : Prop :=
  ∀ text ∈ relationWords ++ spellings.map Prod.fst, accept characters text more = none

theorem closes_of_spelled (spelled : Spelled token text)
    (apart : text ∉ relationWords ++ spellings.map Prod.fst) (rest : List Token) :
    Closes characters (token :: rest) := by
  intro other listed
  refine accept_other characters spelled ?_ rest
  rintro rfl
  exact apart listed

/-- The tokens end, or close a parenthesis. -/
def Ends (more : List Token) : Prop := more = [] ∨ ∃ rest, more = closingToken :: rest

theorem accept_ends (ends : Ends more) (differs : text ≠ ")") :
    accept characters text more = none := by
  obtain rfl | ⟨rest, rfl⟩ := ends
  · rfl
  · exact accept_other characters spelled_closing differs rest

theorem closes_of_ends (ends : Ends more) : Closes characters more := by
  intro text listed
  refine accept_ends characters ends ?_
  rintro rfl
  exact absurd listed (by decide)

theorem closes_connective (connective : CompoundOperator) (rest : List Token) :
    Closes characters ({ kind := .word, text := connectiveSql connective } :: rest) :=
  closes_of_spelled characters (spelled_connective connective)
    (by cases connective <;> decide) rest

theorem acceptComparison_none {table : List (String × ComparisonOperator)}
    (unaccepted : ∀ text ∈ table.map Prod.fst, accept characters text more = none) :
    acceptComparison characters more table = none := by
  induction table with
  | nil => rfl
  | cons first others ih =>
    rw [List.map_cons, List.forall_mem_cons] at unaccepted
    rw [acceptComparison, unaccepted.1]
    exact ih unaccepted.2

/-- A token that spells an operator of the table. -/
theorem acceptComparison_some (spelled : Spelled token text)
    {table : List (String × ComparisonOperator)} {operator : ComparisonOperator}
    (found : table.find? (fun entry => entry.1 == text) = some (text, operator)) (rest : List Token)
    :
    acceptComparison characters (token :: rest) table = some (operator, rest) := by
  induction table with
  | nil => cases found
  | cons first others ih =>
    rw [acceptComparison]
    by_cases same : first.1 = text
    · rw [same, accept_spelled characters spelled]
      rw [List.find?_cons_of_pos (by simp [same])] at found
      cases found
      rfl
    · rw [accept_other characters spelled same]
      rw [List.find?_cons_of_neg (by simp [same])] at found
      exact ih found

/-- An operand after which no comparison follows. -/
theorem parseRelation_closes (closes : Closes characters more) (left : CheckExpression)
    (depth : Nat) : parseRelation characters (depth + 1) left more = .ok (left, more) := by
  have none (text : String) (listed : text ∈ relationWords) :
      accept characters text more = none := closes text (List.mem_append_left _ listed)
  have unequal : acceptComparison characters more spellings = Option.none :=
    acceptComparison_none characters (fun text listed =>
      closes text (List.mem_append_right _ listed))
  rw [parseRelation]
  simp only [none "IS" (by decide), none "NOT" (by decide),
    Option.getD_none, none "IN" (by decide),
    none "BETWEEN" (by decide), Option.isSome_none, Bool.false_eq_true, if_false,
    unequal]

theorem parseRelation_null (negated : Bool) (left : CheckExpression) (depth : Nat)
    (more : List Token) :
    parseRelation characters (depth + 1) left
        ((nullParts negated).flatMap Part.tokens ++ more) = .ok (.null negated left, more) := by
  have isNull := accept_spelled characters
    (spelled_word (show "IS" ∈ upperWords by decide))
  have null : Spelled (word "NULL") "NULL" := spelled_word (by decide)
  cases negated with
  | false =>
    change parseRelation characters (depth + 1) left (word "IS" :: word "NULL" :: more) = _
    rw [parseRelation, isNull]
    simp only [accept_other characters null (show "NOT" ≠ "NULL" by decide), Option.getD_none,
      require_spelled characters null, ok_bind]
    rfl
  | true =>
    have inverted := accept_spelled characters
      (spelled_word (show "NOT" ∈ upperWords by decide))
    change parseRelation characters (depth + 1) left
      (word "IS" :: word "NOT" :: word "NULL" :: more) = _
    rw [parseRelation, isNull]
    simp only [inverted, Option.getD_some, require_spelled characters null, ok_bind]
    rfl

theorem parseRelation_comparison (operator : ComparisonOperator) {left right : CheckExpression}
    (parsed : parseOperand characters depth rest = .ok (right, more)) :
    parseRelation characters (depth + 1) left
        ({ kind := .symbol, text := comparisonSql operator } :: rest) =
      .ok (.comparison operator left right, more) := by
  have spelled := spelled_comparison operator
  have apart : String.ofList (comparisonSql operator) ∉ relationWords := by
    cases operator <;> decide
  have none (text : String) (listed : text ∈ relationWords) :
      accept characters text ({ kind := .symbol, text := comparisonSql operator } :: rest) =
        Option.none := by
    refine accept_other characters spelled ?_ rest
    rintro rfl
    exact apart listed
  have found : acceptComparison characters
      ({ kind := .symbol, text := comparisonSql operator } :: rest) spellings =
        some (operator, rest) :=
    acceptComparison_some characters spelled (by cases operator <;> decide) rest
  rw [parseRelation]
  simp only [none "IS" (by decide), none "NOT" (by decide),
    Option.getD_none, none "IN" (by decide),
    none "BETWEEN" (by decide), Option.isSome_none, Bool.false_eq_true, if_false,
    found, parsed, ok_bind]
  rfl

theorem parseRelation_between {left low high : CheckExpression} {next : List Token}
    (parsedLow : parseOperand characters depth rest = .ok (low, word "AND" :: next))
    (parsedHigh : parseOperand characters depth next = .ok (high, more)) :
    parseRelation characters (depth + 1) left (word "BETWEEN" :: rest) =
      .ok (.between left low high, more) := by
  have between : Spelled (word "BETWEEN") "BETWEEN" := spelled_word (by decide)
  have joined := require_spelled characters
    (spelled_word (show "AND" ∈ upperWords by decide)) next
  rw [parseRelation]
  simp only [accept_other characters between (show "IS" ≠ "BETWEEN" by decide),
    accept_other characters between (show "NOT" ≠ "BETWEEN" by decide), Option.getD_none,
    accept_other characters between (show "IN" ≠ "BETWEEN" by decide),
    accept_spelled characters between, parsedLow, ok_bind, joined, parsedHigh]
  rfl

theorem parseRelation_membership (negated : Bool) {left first : CheckExpression}
    {others : List CheckExpression} {next : List Token}
    (parsedFirst : parseOperand characters depth rest = .ok (first, next))
    (parsedOthers : parseValues characters depth next = .ok (others, closingToken :: more)) :
    parseRelation characters (depth + 1) left
        ((membershipParts negated).flatMap Part.tokens ++ rest) =
      .ok (.membership negated left (first :: others), more) := by
  have opened := require_spelled characters spelled_opening rest
  have closed := require_spelled characters spelled_closing more
  have member : Spelled (word "IN") "IN" := spelled_word (by decide)
  cases negated with
  | false =>
    change parseRelation characters (depth + 1) left (word "IN" :: openingToken :: rest) = _
    rw [parseRelation]
    simp only [accept_other characters member (show "IS" ≠ "IN" by decide),
      accept_other characters member (show "NOT" ≠ "IN" by decide), Option.getD_none,
      accept_spelled characters member, opened, parsedFirst, parsedOthers, closed, ok_bind]
    rfl
  | true =>
    have inverted : Spelled (word "NOT") "NOT" := spelled_word (by decide)
    change parseRelation characters (depth + 1) left
      (word "NOT" :: word "IN" :: openingToken :: rest) = _
    rw [parseRelation, accept_other characters inverted (by decide)]
    simp only [accept_spelled characters inverted, Option.getD_some,
      accept_spelled characters member, opened, parsedFirst, parsedOthers, closed, ok_bind]
    rfl

theorem parseValues_literals (backend : BackendFamily) (values : List Literal) (extra : Nat)
    (more : List Token) :
    parseValues characters (values.length + 1 + extra)
        (values.flatMap (fun value => symbol "," :: checkTokens backend (.literal value)) ++
          closingToken :: more) =
      .ok (values.map .literal, closingToken :: more) := by
  induction values with
  | nil =>
    change parseValues characters (0 + 1 + extra) (closingToken :: more) = _
    rw [show 0 + 1 + extra = extra + 1 by omega, parseValues,
      accept_other characters spelled_closing (by decide)]
    rfl
  | cons first rest ih =>
    have parsed := parseOperand_literal characters backend first (rest.length + extra)
      (rest.flatMap (fun value => symbol "," :: checkTokens backend (.literal value)) ++
        closingToken :: more)
    rw [show rest.length + extra + 1 = rest.length + 1 + extra by omega] at parsed
    rw [List.length_cons, List.flatMap_cons, List.cons_append, List.cons_append,
      List.append_assoc, show rest.length + 1 + 1 + extra = rest.length + 1 + extra + 1 by omega,
      parseValues, accept_spelled characters (spelled_symbol (by simp))]
    simp only [parsed, ih, ok_bind]
    rfl

/-! ## Reading comparisons and connectives -/

/-- With enough depth the parser reads the tokens as one operand of `AND`. -/
def Compares (tokens : List Token) (expression : CheckExpression) : Prop :=
  ∃ enough, ∀ depth ≥ enough, ∀ more, Closes characters more →
    parseComparison characters depth (tokens ++ more) = .ok (expression, more)

/-- With enough depth the parser reads the tokens as a whole check. -/
def Reads (tokens : List Token) (expression : CheckExpression) : Prop :=
  ∃ enough, ∀ depth ≥ enough, ∀ more, Ends more →
    parseBoolean characters .or depth (tokens ++ more) = .ok (expression, more)

/-- A comparison is its left column and a relation. -/
theorem compares_column (backend : BackendFamily) {name : Text} {relation : List Token} (related : ∃ enough, ∀ depth ≥ enough, ∀ more, Closes characters more →
      parseRelation characters depth (.column name) (relation ++ more) = .ok (expression, more)) :
    Compares characters (checkTokens backend (.column name) ++ relation) expression := by
  obtain ⟨enough, related⟩ := related
  refine ⟨enough + 2, fun depth large more closes => ?_⟩
  obtain ⟨depth, rfl⟩ : ∃ smaller, depth = smaller + 2 := ⟨depth - 2, by omega⟩
  have unnegated : accept characters "NOT" (checkTokens backend (.column name) ++
      (relation ++ more)) = none := by
    rw [checkTokens_column]
    exact accept_value characters "NOT" (by simp) _
  rw [List.append_assoc, parseComparison, unnegated]
  simp only [parseOperand_column, ok_bind]
  exact related (depth + 1) (by omega) more closes

theorem Compares.negation {tokens : List Token} (compares : Compares characters tokens expression) :
    Compares characters (word "NOT" :: tokens) (.negation expression) := by
  obtain ⟨enough, compares⟩ := compares
  refine ⟨enough + 1, fun depth large more closes => ?_⟩
  obtain ⟨depth, rfl⟩ : ∃ smaller, depth = smaller + 1 := ⟨depth - 1, by omega⟩
  have negated := accept_spelled characters
    (spelled_word (show "NOT" ∈ upperWords by decide))
  rw [List.cons_append, parseComparison, negated]
  simp only [compares depth (by omega) more closes, ok_bind]
  rfl

/-- A check in parentheses is an operand. -/
theorem Reads.grouped {tokens : List Token} (reads : Reads characters tokens expression) :
    Compares characters (openingToken :: tokens ++ [closingToken]) expression := by
  obtain ⟨enough, reads⟩ := reads
  refine ⟨enough + 2, fun depth large more closes => ?_⟩
  obtain ⟨depth, rfl⟩ : ∃ smaller, depth = smaller + 2 := ⟨depth - 2, by omega⟩
  have inner := reads depth (by omega) (closingToken :: more) (.inr ⟨more, rfl⟩)
  have operand : parseOperand characters (depth + 1)
      (openingToken :: (tokens ++ closingToken :: more)) = .ok (expression, more) := by
    rw [parseOperand, accept_spelled characters spelled_opening]
    simp only [inner, require_spelled characters spelled_closing, ok_bind]
    rfl
  rw [List.cons_append, List.cons_append, List.append_assoc, List.singleton_append,
    parseComparison, accept_other characters spelled_opening (by decide)]
  simp only [operand, ok_bind]
  exact parseRelation_closes characters closes expression depth

/-- One operand is a conjunction of its own. -/
theorem Compares.conjunction {tokens : List Token}
    (compares : Compares characters tokens expression) :
    ∃ enough, ∀ depth ≥ enough, ∀ more, Closes characters more →
      accept characters "AND" more = none →
      parseBoolean characters .and depth (tokens ++ more) = .ok (expression, more) := by
  obtain ⟨enough, compares⟩ := compares
  refine ⟨enough + 2, fun depth large more closes ended => ?_⟩
  obtain ⟨depth, rfl⟩ : ∃ smaller, depth = smaller + 2 := ⟨depth - 2, by omega⟩
  have last : accept characters (String.ofList (connectiveSql .and)) more = none := ended
  rw [parseBoolean, parseChild]
  simp only [compares depth (by omega) more closes, ok_bind]
  rw [parseLoop, last]

/-- A conjunction that ends is a whole check. -/
theorem reads_of_conjunction {tokens : List Token} (conjunction : ∃ enough, ∀ depth ≥ enough, ∀ more, Ends more →
      parseBoolean characters .and depth (tokens ++ more) = .ok (expression, more)) :
    Reads characters tokens expression := by
  obtain ⟨enough, conjunction⟩ := conjunction
  refine ⟨enough + 2, fun depth large more ends => ?_⟩
  obtain ⟨depth, rfl⟩ : ∃ smaller, depth = smaller + 2 := ⟨depth - 2, by omega⟩
  have last : accept characters (String.ofList (connectiveSql .or)) more = none :=
    accept_ends characters ends (by decide)
  rw [parseBoolean, parseChild]
  simp only [conjunction depth (by omega) more ends, ok_bind]
  rw [parseLoop, last]

theorem Compares.reads {tokens : List Token} (compares : Compares characters tokens expression) :
    Reads characters tokens expression := by
  obtain ⟨enough, conjunction⟩ := compares.conjunction characters
  exact reads_of_conjunction characters ⟨enough, fun depth large more ends =>
    conjunction depth large more (closes_of_ends characters ends)
      (accept_ends characters ends (by decide))⟩

theorem reads_and {left right : List Token} {first second : CheckExpression}
    (readsLeft : Compares characters left first) (readsRight : Compares characters right second) :
    Reads characters (left ++ { kind := .word, text := connectiveSql .and } :: right)
      (.junction .and [first, second]) := by
  obtain ⟨enough, readsLeft⟩ := readsLeft
  obtain ⟨enoughRight, readsRight⟩ := readsRight
  refine reads_of_conjunction characters
    ⟨enough + enoughRight + 3, fun depth large more ends => ?_⟩
  obtain ⟨depth, rfl⟩ : ∃ smaller, depth = smaller + 3 := ⟨depth - 3, by omega⟩
  have joined := accept_spelled characters (spelled_connective .and) (right ++ more)
  have last : accept characters (String.ofList (connectiveSql .and)) more = none :=
    accept_ends characters ends (by decide)
  rw [List.append_assoc, List.cons_append, parseBoolean, parseChild]
  simp only [readsLeft (depth + 1) (by omega) _ (closes_connective characters .and _), ok_bind]
  rw [parseLoop, joined]
  simp only [parseChild, readsRight depth (by omega) more (closes_of_ends characters ends),
    ok_bind]
  rw [parseLoop, last]

theorem reads_or {left right : List Token} {first second : CheckExpression}
    (readsLeft : Compares characters left first) (readsRight : Compares characters right second) :
    Reads characters (left ++ { kind := .word, text := connectiveSql .or } :: right)
      (.junction .or [first, second]) := by
  obtain ⟨enough, readsLeft⟩ := readsLeft.conjunction characters
  obtain ⟨enoughRight, readsRight⟩ := readsRight.conjunction characters
  refine ⟨enough + enoughRight + 3, fun depth large more ends => ?_⟩
  obtain ⟨depth, rfl⟩ : ∃ smaller, depth = smaller + 3 := ⟨depth - 3, by omega⟩
  have joined := accept_spelled characters (spelled_connective .or) (right ++ more)
  have unjoined : accept characters "AND"
      ({ kind := .word, text := connectiveSql .or } :: (right ++ more)) = none :=
    accept_other characters (spelled_connective .or) (by decide) _
  have last : accept characters (String.ofList (connectiveSql .or)) more = none :=
    accept_ends characters ends (by decide)
  rw [List.append_assoc, List.cons_append, parseBoolean, parseChild]
  simp only [readsLeft (depth + 1) (by omega) _ (closes_connective characters .or _) unjoined,
    ok_bind]
  rw [parseLoop, joined]
  simp only [parseChild, readsRight depth (by omega) more (closes_of_ends characters ends)
    (accept_ends characters ends (by decide)), ok_bind]
  rw [parseLoop, last]

/-! ## Reading declared checks -/

theorem checkTokens_values (backend : BackendFamily) (first : Literal) (others : List Literal) :
    (valueParts backend ((first :: others).map .literal)).flatMap Part.tokens =
      checkTokens backend (.literal first) ++
        others.flatMap (fun value => symbol "," :: checkTokens backend (.literal value)) := by
  induction others generalizing first with
  | nil => exact (List.append_nil _).symm
  | cons second rest ih =>
    have comma : [Part.mark ',', Part.blank].flatMap Part.tokens = [symbol ","] := by
      simp [Part.tokens, symbol]
    simp only [List.map_cons] at ih ⊢
    rw [valueParts, List.flatMap_append, List.flatMap_append, ih, comma,
      List.flatMap_cons, List.append_assoc]
    · rfl
    · simp

theorem checkTokens_null (backend : BackendFamily) (negated : Bool) (operand : CheckExpression) :
    checkTokens backend (.null negated operand) =
      checkTokens backend operand ++ (nullParts negated).flatMap Part.tokens := by
  rw [checkTokens, checkParts, List.flatMap_append]
  rfl

theorem checkTokens_membership (backend : BackendFamily) (negated : Bool)
    (operand : CheckExpression) (first : Literal) (others : List Literal) :
    checkTokens backend (.membership negated operand ((first :: others).map .literal)) =
      checkTokens backend operand ++ ((membershipParts negated).flatMap Part.tokens ++
        (checkTokens backend (.literal first) ++
          (others.flatMap (fun value => symbol "," :: checkTokens backend (.literal value)) ++
            [closingToken]))) := by
  have closed : [closing].flatMap Part.tokens = [closingToken] := rfl
  rw [checkTokens, checkParts, List.flatMap_append, List.flatMap_append, List.flatMap_append,
    checkTokens_values, closed]
  simp only [checkTokens, List.append_assoc]

theorem checkTokens_between (backend : BackendFamily) (operand low high : CheckExpression) :
    checkTokens backend (.between operand low high) =
      checkTokens backend operand ++ (word "BETWEEN" :: (checkTokens backend low ++
        word "AND" :: checkTokens backend high)) := by
  have first : [Part.blank, keyword "BETWEEN", .blank].flatMap Part.tokens =
      [word "BETWEEN"] := rfl
  have second : [Part.blank, keyword "AND", .blank].flatMap Part.tokens = [word "AND"] := rfl
  rw [checkTokens, checkParts, List.flatMap_append, List.flatMap_append, List.flatMap_append,
    List.flatMap_append, first, second]
  simp only [checkTokens, List.append_assoc, List.cons_append, List.nil_append]

theorem checkTokens_comparison (backend : BackendFamily) (operator : ComparisonOperator)
    (left right : CheckExpression) :
    checkTokens backend (.comparison operator left right) =
      checkTokens backend left ++
        ({ kind := .symbol, text := comparisonSql operator } :: checkTokens backend right) := by
  have middle : [Part.blank, .compare operator, .blank].flatMap Part.tokens =
      [{ kind := .symbol, text := comparisonSql operator }] := rfl
  rw [checkTokens, checkParts, List.flatMap_append, List.flatMap_append, middle]
  simp only [checkTokens, List.append_assoc, List.cons_append, List.nil_append]

theorem checkTokens_negation (backend : BackendFamily) (child : CheckExpression) :
    checkTokens backend (.negation child) =
      word "NOT" :: (openingToken :: checkTokens backend child ++ [closingToken]) := by
  rw [checkTokens, checkParts, List.flatMap_append, List.flatMap_append]
  rfl

theorem checkTokens_junction (backend : BackendFamily) (connective : CompoundOperator)
    (left right : CheckExpression) :
    checkTokens backend (.junction connective [left, right]) =
      (openingToken :: checkTokens backend left ++ [closingToken]) ++
        { kind := .word, text := connectiveSql connective } ::
        (openingToken :: checkTokens backend right ++ [closingToken]) := by
  rw [checkTokens, checkParts, memberParts, memberParts, List.flatMap_append, List.cons_append,
    List.cons_append, List.flatMap_cons, List.flatMap_cons, List.flatMap_append,
    List.flatMap_append]
  · simp only [checkTokens, opening, closing, connectivePart, Part.tokens, List.flatMap_cons,
      List.flatMap_nil, List.append_nil, List.nil_append, List.cons_append, List.append_assoc]
    rfl
  · simp

/-- The tokens of a declared check are read as the check. -/
theorem reads_checkTokens (backend : BackendFamily) (declared : Declared expression) :
    Reads characters (checkTokens backend expression) expression := by
  induction declared with
  | null negated name =>
    rw [checkTokens_null]
    refine (compares_column characters backend ⟨1, fun depth large more _ => ?_⟩).reads
    obtain ⟨depth, rfl⟩ : ∃ smaller, depth = smaller + 1 := ⟨depth - 1, by omega⟩
    exact parseRelation_null characters negated (.column name) depth more
  | membership negated name first others =>
    rw [checkTokens_membership]
    refine (compares_column characters backend
      ⟨others.length + 2, fun depth large more _ => ?_⟩).reads
    obtain ⟨extra, rfl⟩ : ∃ extra, depth = others.length + 1 + extra + 1 :=
      ⟨depth - (others.length + 2), by omega⟩
    have values := parseValues_literals characters backend others extra more
    rw [List.append_assoc, List.append_assoc, List.append_assoc, List.singleton_append]
    refine parseRelation_membership characters negated ?_ values
    rw [show others.length + 1 + extra = others.length + extra + 1 by omega]
    exact parseOperand_literal characters backend first _ _
  | between name low high =>
    rw [checkTokens_between]
    refine (compares_column characters backend ⟨2, fun depth large more _ => ?_⟩).reads
    obtain ⟨depth, rfl⟩ : ∃ smaller, depth = smaller + 2 := ⟨depth - 2, by omega⟩
    rw [List.cons_append, List.append_assoc, List.cons_append]
    exact parseRelation_between characters (parseOperand_literal characters backend low depth _)
      (parseOperand_literal characters backend high depth more)
  | comparison operator name value =>
    rw [checkTokens_comparison]
    refine (compares_column characters backend ⟨2, fun depth large more _ => ?_⟩).reads
    obtain ⟨depth, rfl⟩ : ∃ smaller, depth = smaller + 2 := ⟨depth - 2, by omega⟩
    exact parseRelation_comparison characters operator
      (parseOperand_literal characters backend value depth more)
  | columns operator name other =>
    rw [checkTokens_comparison]
    refine (compares_column characters backend ⟨2, fun depth large more _ => ?_⟩).reads
    obtain ⟨depth, rfl⟩ : ∃ smaller, depth = smaller + 2 := ⟨depth - 2, by omega⟩
    exact parseRelation_comparison characters operator
      (parseOperand_column characters backend other depth more)
  | negation _ ih =>
    rw [checkTokens_negation]
    exact ((ih.grouped characters).negation characters).reads
  | junction connective _ _ readsLeft readsRight =>
    rw [checkTokens_junction]
    have left := readsLeft.grouped characters
    have right := readsRight.grouped characters
    cases connective with
    | and => exact reads_and characters left right
    | or => exact reads_or characters left right

/-- The parser accepts all tokens of a declared check. -/
theorem parse_checkTokens (backend : BackendFamily) (declared : Declared expression) :
    ∃ enough, ∀ depth ≥ enough,
      parse characters depth (checkTokens backend expression) = .ok expression := by
  obtain ⟨enough, reads⟩ := reads_checkTokens characters backend declared
  refine ⟨enough, fun depth large => ?_⟩
  have read := reads depth large [] (.inl rfl)
  rw [List.append_nil] at read
  rw [parse, read]
  rfl

end Parser

/-! ## Texts of MariaDB -/

/-- The part is no text with a backslash. -/
def Part.plain : Part → Bool
  | .quoted quote value => quote != textQuote || !value.contains '\\'
  | _ => true

theorem plain_hexText (value : Text) : Part.plain (.quoted textQuote (hexText value)) = true := by
  have absent : '\\' ∉ hexText value := by
    intro member
    obtain ⟨digit, bounded, same⟩ := mem_hexText member
    have differs : ∀ digit < 16, '\\' ≠ Nat.digitChar digit := by decide
    exact differs digit bounded same
  simp [Part.plain, absent]

theorem plain_literal (value : Literal) :
    (checkParts .mariadb (.literal value)).all Part.plain = true := by
  rw [checkParts]
  cases value with
  | integer value => cases value <;> rfl
  | text value =>
    change (Part.plain (.quoted textQuote (hexText value)) && true) = true
    rw [plain_hexText]
    rfl

theorem plain_values (first : Literal) (others : List Literal) :
    (valueParts .mariadb ((first :: others).map .literal)).all Part.plain = true := by
  induction others generalizing first with
  | nil => exact plain_literal first
  | cons second rest ih =>
    simp only [List.map_cons] at ih ⊢
    rw [valueParts, List.all_append, List.all_append, plain_literal, ih]
    · rfl
    · simp

theorem plain_checkParts (declared : Declared expression) :
    (checkParts .mariadb expression).all Part.plain = true := by
  have column (name : Text) : (checkParts .mariadb (.column name)).all Part.plain = true := rfl
  induction declared with
  | null negated name =>
    rw [checkParts, List.all_append, column]
    cases negated <;> rfl
  | membership negated name first others =>
    rw [checkParts, List.all_append, List.all_append, List.all_append, column, plain_values]
    cases negated <;> rfl
  | between name low high =>
    rw [checkParts, List.all_append, List.all_append, List.all_append, List.all_append, column,
      plain_literal, plain_literal]
    rfl
  | comparison operator name value =>
    rw [checkParts, List.all_append, List.all_append, column, plain_literal]
    rfl
  | columns operator name other =>
    rw [checkParts, List.all_append, List.all_append, column, column]
    rfl
  | negation _ ih =>
    rw [checkParts, List.all_append, List.all_append, ih]
    rfl
  | junction connective _ _ leftPlain rightPlain =>
    rw [checkParts, memberParts, memberParts, List.all_append, List.cons_append, List.cons_append,
      List.all_cons, List.all_cons, List.all_append, List.all_append, leftPlain, rightPlain]
    · rfl
    · simp

theorem no_backslash_of_plain {parts : List Part} (plain : parts.all Part.plain = true) :
    (parts.flatMap Part.tokens).any
      (fun token => token.kind == .literal && token.text.contains '\\') = false := by
  rw [List.any_flatMap, List.any_eq_false]
  intro part member
  have plain := List.all_eq_true.mp plain part member
  cases part with
  | quoted quote value =>
    simp only [Part.plain, Bool.or_eq_true, bne_iff_ne, ne_eq, Bool.not_eq_true'] at plain
    by_cases isText : quote = textQuote
    · have absent := plain.resolve_left (not_not_intro isText)
      simp only [Part.tokens, List.any_cons, absent, Bool.and_false, List.any_nil, Bool.or_self,
        Bool.false_eq_true, not_false_eq_true]
    · simp [Part.tokens, isText]
  | _ => exact Bool.false_ne_true

/-- No text of a check that is rendered for MariaDB contains a backslash. -/
theorem backslash_not_rendered (declared : Declared expression) :
    (checkTokens .mariadb expression).any
      (fun token => token.kind == .literal && token.text.contains '\\') = false :=
  no_backslash_of_plain (plain_checkParts declared)

/-! ## Table definitions of SQLite -/

/-- The tokens open and close the same parentheses. -/
inductive Balanced : List Token → Prop where
  | nil : Balanced []
  | plain {token : Token} {rest : List Token} (unopened : token ≠ openingToken)
      (unclosed : token ≠ closingToken) (balanced : Balanced rest) : Balanced (token :: rest)
  | group {inside rest : List Token} (inner : Balanced inside) (balanced : Balanced rest) :
      Balanced (openingToken :: (inside ++ closingToken :: rest))

theorem Balanced.append {first second : List Token} (balanced : Balanced first)
    (others : Balanced second) : Balanced (first ++ second) := by
  induction balanced with
  | nil => exact others
  | plain unopened unclosed _ ih =>
    exact .plain unopened unclosed ih
  | group inner _ _ ih =>
    rw [List.cons_append, List.append_assoc, List.cons_append]
    exact .group inner ih

theorem Balanced.grouped {tokens : List Token} (balanced : Balanced tokens) :
    Balanced (openingToken :: tokens ++ [closingToken]) := .group balanced .nil

/-- A token that is no symbol, and those after it. -/
theorem Balanced.cons {tokens : List Token} (balanced : Balanced tokens)
    (isPlain : token.kind ≠ .symbol) : Balanced (token :: tokens) := by
  refine .plain ?_ ?_ balanced <;> rintro rfl <;> exact isPlain rfl

theorem openingToken_ne_closingToken : openingToken ≠ closingToken := by
  simp [openingToken, closingToken]

theorem matching_opening (nested : Nat) (rest : List Token) :
    matching nested (openingToken :: rest) =
      (matching (nested + 1) rest).map
        (fun (inside, outside) => (openingToken :: inside, outside)) := by
  rw [matching, if_neg (fun both => openingToken_ne_closingToken both.1), if_pos rfl]

theorem matching_closing {nested : Nat} (positive : nested ≥ 1) (rest : List Token) :
    matching (nested + 1) (closingToken :: rest) =
      (matching nested rest).map (fun (inside, outside) => (closingToken :: inside, outside)) := by
  rw [matching, if_neg (by omega), if_neg openingToken_ne_closingToken.symm, if_pos rfl]
  rfl

theorem matching_plain (unopened : token ≠ openingToken) (unclosed : token ≠ closingToken)
    (nested : Nat) (rest : List Token) :
    matching nested (token :: rest) =
      (matching nested rest).map (fun (inside, outside) => (token :: inside, outside)) := by
  rw [matching, if_neg (fun both => unclosed both.1), if_neg unopened, if_neg unclosed]

/-- The search for a closing parenthesis passes over balanced tokens. -/
theorem Balanced.matching_append {tokens : List Token} (balanced : Balanced tokens) {nested : Nat}
    (positive : nested ≥ 1) (rest : List Token) :
    matching nested (tokens ++ rest) =
      (matching nested rest).map (fun (inside, outside) => (tokens ++ inside, outside)) := by
  induction balanced generalizing nested rest with
  | nil => exact Option.map_id.symm ▸ rfl
  | plain unopened unclosed _ ih =>
    rw [List.cons_append, matching_plain unopened unclosed, ih positive,
      Option.map_map]
    simp only [Function.comp_def, List.cons_append]
  | group _ _ innerMatching restMatching =>
    rw [List.cons_append, List.append_assoc, List.cons_append, matching_opening,
      innerMatching (by omega), matching_closing positive, restMatching positive, Option.map_map,
      Option.map_map, Option.map_map]
    simp only [Function.comp_def, List.append_assoc, List.cons_append]

theorem balanced_literal (backend : BackendFamily) (value : Literal) :
    Balanced (checkTokens backend (.literal value)) := by
  have encoded (function joint charset : String) (value : Text) : Balanced
      ((encodedParts function joint charset value).flatMap Part.tokens) := by
    have inside : Balanced [word "X", { kind := .literal, text := hexText value }, word joint,
        word charset] :=
      Balanced.cons (.cons (.cons (.cons .nil (by simp)) (by simp)) (by simp)) (by simp)
    exact Balanced.cons inside.grouped (by simp)
  rw [checkTokens, checkParts]
  cases value with
  | integer value =>
    cases value with
    | ofNat value => exact Balanced.cons .nil (by simp)
    | negSucc value =>
      exact .plain (by simp [symbol, openingToken]) (by simp [symbol, closingToken])
        (Balanced.cons .nil (by simp))
  | text value =>
    cases backend with
    | mariadb => exact encoded "CONVERT" "USING" "utf8mb4" value
    | sqlite =>
      by_cases holds : Char.ofNat 0 ∈ value
      · rw [show literalParts .sqlite (.text value) = encodedParts "CAST" "AS" "TEXT" value
          from if_pos holds]
        exact encoded "CAST" "AS" "TEXT" value
      · rw [show literalParts .sqlite (.text value) = [.quoted textQuote value]
          from if_neg holds]
        exact Balanced.cons .nil (by simp)

theorem balanced_values (backend : BackendFamily) (values : List Literal) :
    Balanced (values.flatMap
      (fun value => symbol "," :: checkTokens backend (.literal value))) := by
  induction values with
  | nil => exact .nil
  | cons first rest ih =>
    rw [List.flatMap_cons]
    exact .plain (by simp [symbol, openingToken]) (by simp [symbol, closingToken])
      ((balanced_literal backend first).append ih)

theorem balanced_comparison (operator : ComparisonOperator) :
    Balanced [{ kind := .symbol, text := comparisonSql operator }] := by
  cases operator <;>
    exact .plain (by simp [openingToken, comparisonSql]) (by simp [closingToken, comparisonSql]) .nil

/-- The tokens of a declared check are balanced. -/
theorem balanced_checkTokens (backend : BackendFamily) (declared : Declared expression) :
    Balanced (checkTokens backend expression) := by
  have column (name : Text) : Balanced (checkTokens backend (.column name)) := by
    rw [checkTokens_column]
    exact Balanced.cons .nil (by simp)
  induction declared with
  | null negated name =>
    rw [checkTokens_null]
    refine (column name).append ?_
    cases negated with
    | false => exact Balanced.cons (.cons .nil (by simp)) (by simp)
    | true => exact Balanced.cons (.cons (.cons .nil (by simp)) (by simp)) (by simp)
  | membership negated name first others =>
    have values :=
      ((balanced_literal backend first).append (balanced_values backend others)).grouped
    rw [List.cons_append, List.append_assoc] at values
    rw [checkTokens_membership]
    refine (column name).append ?_
    cases negated with
    | false => exact Balanced.cons values (by simp)
    | true => exact Balanced.cons (.cons values (by simp)) (by simp)
  | between name low high =>
    rw [checkTokens_between]
    exact (column name).append (Balanced.cons ((balanced_literal backend low).append
      (Balanced.cons (balanced_literal backend high) (by simp))) (by simp))
  | comparison operator name value =>
    rw [checkTokens_comparison]
    exact (column name).append ((balanced_comparison operator).append
      (balanced_literal backend value))
  | columns operator name other =>
    rw [checkTokens_comparison]
    exact (column name).append ((balanced_comparison operator).append (column other))
  | negation _ ih =>
    rw [checkTokens_negation]
    exact Balanced.cons ih.grouped (by simp)
  | junction connective _ _ leftBalanced rightBalanced =>
    rw [checkTokens_junction]
    exact leftBalanced.grouped.append (Balanced.cons rightBalanced.grouped (by simp))

theorem Balanced.matching {tokens : List Token} (balanced : Balanced tokens) (rest : List Token) :
    Checks.matching 1 (tokens ++ closingToken :: rest) = some (tokens, rest) := by
  rw [balanced.matching_append (Nat.le_refl 1), Checks.matching, if_pos ⟨rfl, Nat.le_refl 1⟩]
  simp only [Option.map_some, List.append_nil]

section TableDefinitions

variable (characters : Characters) (parseDepth : Nat)

/-- The token is the word `CHECK`. -/
def IsCheck (token : Token) : Prop :=
  token.kind = .word ∧ characters.upper token.text = "CHECK".toList

/-- How many parentheses more are open after the token. -/
def nesting (token : Token) : Int :=
  if token = openingToken then 1 else if token = closingToken then -1 else 0

theorem findChecks_step (other : ¬IsCheck characters token) (fuel : Nat) (depth : Int)
    (before rest : List Token) :
    findChecks characters parseDepth (fuel + 1) depth before (token :: rest) =
      findChecks characters parseDepth fuel (depth + nesting token) (token :: before) rest := by
  have unchecked : ¬(depth = 1 ∧ token.kind = .word ∧ characters.upper token.text =
      "CHECK".toList) := fun both => other both.2
  by_cases opens : token = openingToken
  · rw [nesting, if_pos opens]
    cases rest <;> simp only [findChecks, if_pos opens]
  · by_cases closes : token = closingToken
    · rw [nesting, if_neg opens, if_pos closes]
      cases rest <;> simp only [findChecks, if_neg opens, if_pos closes, Int.sub_eq_add_neg]
    · rw [nesting, if_neg opens, if_neg closes, Int.add_zero]
      cases rest <;> simp only [findChecks, if_neg opens, if_neg closes, if_neg unchecked]

/-- The search for checks passes over tokens without the word `CHECK`. -/
theorem findChecks_skip {tokens : List Token}
    (others : ∀ token ∈ tokens, ¬IsCheck characters token) (fuel : Nat) (depth : Int)
    (before rest : List Token) :
    findChecks characters parseDepth (tokens.length + fuel) depth before (tokens ++ rest) =
      findChecks characters parseDepth fuel (depth + (tokens.map nesting).sum)
        (tokens.reverse ++ before) rest := by
  induction tokens generalizing depth before with
  | nil =>
    rw [List.length_nil, Nat.zero_add, List.map_nil, List.sum_nil, Int.add_zero]
    rfl
  | cons token tokens ih =>
    rw [List.forall_mem_cons] at others
    rw [List.length_cons, Nat.add_right_comm, List.cons_append,
      findChecks_step characters parseDepth others.1, ih others.2, List.map_cons,
      List.sum_cons, List.reverse_cons, List.append_assoc, Int.add_assoc]
    rfl

/-- A check is read from the tokens in its parentheses. -/
theorem findChecks_check {tokens : List Token} (balanced : Balanced tokens) (fuel : Nat)
    (before rest : List Token) :
    findChecks characters parseDepth (fuel + 1) 1 before
        (word "CHECK" :: openingToken :: (tokens ++ closingToken :: rest)) =
      (findChecks characters parseDepth fuel 1
        (closingToken :: tokens.reverse ++ openingToken :: word "CHECK" :: before) rest).map
        (CheckShape.mk (checkName characters before)
          (parse characters parseDepth tokens).toOption :: ·) := by
  have isCheck : IsCheck characters (word "CHECK") :=
    ⟨rfl, upper_spelled characters (spelled_word (by decide))⟩
  have parentheses : word "CHECK" ≠ openingToken ∧ word "CHECK" ≠ closingToken := by
    simp [word, openingToken, closingToken]
  rw [findChecks, if_neg parentheses.1, if_neg parentheses.2, if_pos ⟨rfl, isCheck⟩,
    balanced.matching]
  simp only [ne_eq, not_true_eq_false, if_false]
  cases findChecks characters parseDepth fuel 1
    (closingToken :: tokens.reverse ++ openingToken :: word "CHECK" :: before) rest <;> rfl

/-- The definition of a table with one check. -/
def tableWithCheck (table name text : Text) : Text :=
  "CREATE TABLE ".toList ++ quoteName .sqlite table ++ " (CONSTRAINT ".toList ++
    quoteName .sqlite name ++ " CHECK (".toList ++ text ++ ")) STRICT".toList

/-- The parts of such a definition before and after the check. -/
def beforeCheck (table name : Text) : List Part :=
  [keyword "CREATE", .blank, keyword "TABLE", .blank, .quoted '"' table, .blank, opening,
    keyword "CONSTRAINT", .blank, .quoted '"' name, .blank, keyword "CHECK", .blank, opening]

def afterCheck : List Part := [closing, closing, .blank, keyword "STRICT"]

theorem tableWithCheck_eq_texts (table name : Text) (parts : List Part) :
    tableWithCheck table name (catalogParts.texts parts) =
      catalogParts.texts (beforeCheck table name ++ parts ++ afterCheck) := by
  have quoted (name : Text) : quoteName .sqlite name = catalogParts.text (.quoted '"' name) := by
    rw [← texts_column]
    exact List.append_nil _
  have first : "CREATE TABLE ".toList =
      catalogParts.texts [keyword "CREATE", .blank, keyword "TABLE", .blank] := by simp
  have second : " (CONSTRAINT ".toList =
      catalogParts.texts [.blank, opening, keyword "CONSTRAINT", .blank] := by simp
  have third : " CHECK (".toList =
      catalogParts.texts [.blank, keyword "CHECK", .blank, opening] := by simp
  have last : ")) STRICT".toList = catalogParts.texts afterCheck := by simp [afterCheck]
  have split : beforeCheck table name = [keyword "CREATE", .blank, keyword "TABLE", .blank] ++
    [.quoted '"' table] ++ [.blank, opening, keyword "CONSTRAINT", .blank] ++ [.quoted '"' name] ++
    [.blank, keyword "CHECK", .blank, opening] := rfl
  have single (part : Part) : catalogParts.texts [part] = catalogParts.text part :=
    List.append_nil _
  change "CREATE TABLE ".toList ++ quoteName .sqlite table ++ " (CONSTRAINT ".toList ++
    quoteName .sqlite name ++ " CHECK (".toList ++ _ ++ ")) STRICT".toList = _
  simp only [quoted, first, second, third, last, split, Vocabulary.texts_append, single]

theorem spaced_table {parts : List Part} (table name : Text)
    (spaced : catalogParts.Spaced parts (some ')')) :
    catalogParts.Spaced (beforeCheck table name ++ parts ++ afterCheck) none := by
  rw [Vocabulary.spaced_append, Vocabulary.spaced_append]
  refine ⟨⟨?_, spaced⟩, rfl, rfl, rfl, allows_keyword (by decide) rfl, trivial⟩
  exact ⟨allows_keyword (by decide) rfl, rfl, allows_keyword (by decide) rfl,
    rfl, rfl, rfl, rfl, allows_keyword (by decide) rfl, rfl, rfl, rfl,
    allows_keyword (by decide) rfl, rfl, rfl, trivial⟩

theorem not_isCheck_spelled (spelled : Spelled token text) (differs : text ≠ "CHECK") :
    ¬IsCheck characters token := by
  rintro ⟨_, upper⟩
  exact differs (String.toList_inj.mp ((upper_spelled characters spelled).symm.trans upper))

theorem not_isCheck_word (listed : text ∈ upperWords) (differs : text ≠ "CHECK") :
    ¬IsCheck characters (word text) :=
  not_isCheck_spelled characters (spelled_word listed) differs

theorem not_isCheck_other (kind : token.kind ≠ .word) : ¬IsCheck characters token :=
  fun isCheck => kind isCheck.1

theorem nesting_other (kind : token.kind ≠ .symbol) : nesting token = 0 := by
  rw [nesting, if_neg, if_neg] <;> rintro rfl <;> exact kind rfl

/-- Nothing more is found after the last check. -/
theorem findChecks_last {tokens : List Token}
    (others : ∀ token ∈ tokens, ¬IsCheck characters token) {fuel : Nat}
    (enough : tokens.length ≤ fuel) (depth : Int) (before : List Token) :
    findChecks characters parseDepth fuel depth before tokens = some [] := by
  have skipped :=
    findChecks_skip characters parseDepth others (fuel - tokens.length) depth before []
  rw [List.append_nil, Nat.add_sub_of_le enough] at skipped
  rw [skipped]
  cases fuel - tokens.length <;> rfl

/-- The tokens of a named check. -/
def constraintTokens (name : Text) (tokens : List Token) : List Token :=
  [word "CONSTRAINT", { kind := .identifier, text := name }, word "CHECK", openingToken] ++
    tokens ++ [closingToken]

theorem findChecks_constraint (name : Text) {tokens : List Token} (balanced : Balanced tokens)
    (fuel : Nat) (before rest : List Token) :
    ∃ later, findChecks characters parseDepth (fuel + 3) 1 before
        (constraintTokens name tokens ++ rest) =
      (findChecks characters parseDepth fuel 1 later rest).map
        (CheckShape.mk (some name) (parse characters parseDepth tokens).toOption :: ·) := by
  have listed : "CONSTRAINT" ∈ upperWords := by decide
  have upper : characters.upper (word "CONSTRAINT").text = "CONSTRAINT".toList :=
    upper_spelled characters (spelled_word listed)
  have introduced (more : List Token) : checkName characters
      ({ kind := .identifier, text := name } :: word "CONSTRAINT" :: more) = some name := by
    rw [checkName, if_pos ⟨rfl, upper⟩]
  have split : constraintTokens name tokens ++ rest =
      word "CONSTRAINT" :: { kind := .identifier, text := name } :: word "CHECK" ::
        openingToken :: (tokens ++ closingToken :: rest) := by
    rw [constraintTokens, List.append_assoc, List.append_assoc]
    rfl
  have flat : nesting (word "CONSTRAINT") = 0 ∧
      nesting { kind := .identifier, text := name } = 0 :=
    ⟨nesting_other (by simp), nesting_other (by simp)⟩
  have named : ¬IsCheck characters { kind := .identifier, text := name } :=
    not_isCheck_other characters (by simp)
  rw [split, findChecks_step characters parseDepth
      (not_isCheck_word characters listed (by decide)), flat.1,
    findChecks_step characters parseDepth named, flat.2, Int.add_zero, Int.add_zero,
    findChecks_check characters parseDepth balanced, introduced]
  exact ⟨_, rfl⟩

theorem finds_constraint (name : Text) {tokens : List Token} (balanced : Balanced tokens)
    {expression : CheckExpression} (parsed : parse characters parseDepth tokens = .ok expression)
    (fuel : Nat) (before more : List Token)
    (enough : (constraintTokens name tokens ++ more).length ≤ fuel) :
    ∃ left later, more.length ≤ left ∧
      findChecks characters parseDepth fuel 1 before (constraintTokens name tokens ++ more) =
        (findChecks characters parseDepth left 1 later more).map
          ([{ name := some name, expression := some expression }] ++ ·) := by
  have length : (constraintTokens name tokens).length = tokens.length + 5 := by
    simp only [constraintTokens, List.length_append, List.length_cons, List.length_nil]
    omega
  rw [List.length_append, length] at enough
  obtain ⟨later, found⟩ :=
    findChecks_constraint characters parseDepth name balanced (fuel - 3) before more
  rw [Nat.sub_add_cancel (by omega), parsed] at found
  exact ⟨fuel - 3, later, by omega, found⟩

/-- The checks of a table are those that the search finds in its definitions. -/
theorem sqliteChecks_table {sql table : Text} {definitions : List Token} {shapes : List CheckShape}
    (read : tokens characters false sql = .ok ([word "CREATE", word "TABLE",
      { kind := .identifier, text := table }, openingToken] ++
        (definitions ++ [closingToken, word "STRICT"])))
    (finds : ∀ fuel before more, (definitions ++ more).length ≤ fuel →
      ∃ left later, more.length ≤ left ∧
        findChecks characters depth fuel 1 before (definitions ++ more) =
          (findChecks characters depth left 1 later more).map (shapes ++ ·)) :
    sqliteChecks characters depth sql = some shapes := by
  have start : ∀ token ∈ [word "CREATE", word "TABLE", { kind := .identifier, text := table },
      openingToken], ¬IsCheck characters token := by
    simp only [List.forall_mem_cons, List.not_mem_nil, false_implies, implies_true, and_true]
    exact ⟨not_isCheck_word characters (by decide) (by decide),
      not_isCheck_word characters (by decide) (by decide), not_isCheck_other characters (by simp),
      not_isCheck_other characters (by simp [openingToken])⟩
  have opened : ([word "CREATE", word "TABLE", { kind := .identifier, text := table },
      openingToken].map nesting).sum = 1 := by
    simp only [List.map_cons, List.map_nil, List.sum_cons, List.sum_nil,
      nesting_other (show (word _).kind ≠ .symbol by simp)]
    rfl
  have ending : ∀ token ∈ [closingToken, word "STRICT"], ¬IsCheck characters token := by
    simp only [List.forall_mem_cons, List.not_mem_nil, false_implies, implies_true, and_true]
    exact ⟨not_isCheck_other characters (by simp [closingToken]),
      not_isCheck_word characters (by decide) (by decide)⟩
  obtain ⟨left, later, remains, found⟩ := finds _ [openingToken,
    { kind := .identifier, text := table }, word "TABLE", word "CREATE"]
    [closingToken, word "STRICT"] (Nat.le_refl _)
  rw [sqliteChecks, read]
  simp only
  rw [List.length_append, findChecks_skip characters depth start, opened, Int.zero_add]
  refine found.trans ?_
  rw [findChecks_last characters depth ending remains]
  simp only [Option.map_some, List.append_nil]

/-- The search for checks finds the one of such a definition. -/
theorem sqliteChecks_tableWithCheck (declared : Declared expression)
    (parsed : parse characters depth (checkTokens .sqlite expression) = .ok expression)
    (table name : Text) :
    sqliteChecks characters depth
        (tableWithCheck table name (catalogParts.texts (checkParts .sqlite expression))) =
      some [{ name := some name, expression := some expression }] := by
  have found : tokens characters false (catalogParts.texts (beforeCheck table name ++
      checkParts .sqlite expression ++ afterCheck)) =
      .ok ([word "CREATE", word "TABLE", { kind := .identifier, text := table }, openingToken] ++
        (constraintTokens name (checkTokens .sqlite expression) ++
          [closingToken, word "STRICT"])) := by
    rw [tokens_texts (spaced_table table name (spaced_checkParts .sqlite declared rfl)),
      List.flatMap_append, List.flatMap_append, constraintTokens, List.append_assoc,
      List.append_assoc, List.append_assoc]
    rfl
  rw [tableWithCheck_eq_texts]
  exact sqliteChecks_table characters found
    (finds_constraint characters depth name (balanced_checkTokens .sqlite declared) parsed)

/-- Every check that the binder builds is rendered for both backends, and with a stack that is deep
enough each backend's catalog reader gives the check back: MariaDB's from the clause, SQLite's from
the clause and from a table definition around it. -/
theorem rendered_checks_are_read_back {Value : Type} {binder : CheckBinder Value}
    {predicate : Predicate Value} {expression : CheckExpression}
    (bound : binder.bind predicate = .ok expression) :
    (∃ text, renderCheck .mariadb expression = some text ∧
      ∃ enough, ∀ depth ≥ enough, parseCheck characters depth text = some expression) ∧
    (∃ text, renderCheck .sqlite expression = some text ∧
      ∃ enough, ∀ depth ≥ enough,
        (tokens characters false text >>= parse characters depth) = .ok expression ∧
        ∀ table name, sqliteChecks characters depth (tableWithCheck table name text) =
          some [{ name := some name, expression := some expression }]) := by
  have declared := CheckBinder.declared_of_bind predicate bound
  have found (backend : BackendFamily) (mariadb : Bool) :
      tokens characters mariadb (catalogParts.texts (checkParts backend expression)) =
        .ok (checkTokens backend expression) :=
    tokens_texts (spaced_checkParts backend declared rfl)
  constructor
  · obtain ⟨enough, parsed⟩ := parse_checkTokens characters .mariadb declared
    refine ⟨_, renderCheck_eq_texts .mariadb declared, enough, fun depth large => ?_⟩
    rw [parseCheck, found .mariadb true]
    simp only [backslash_not_rendered declared, Bool.false_eq_true, if_false,
      parsed depth large]
    rfl
  · obtain ⟨enough, parsed⟩ := parse_checkTokens characters .sqlite declared
    refine ⟨_, renderCheck_eq_texts .sqlite declared, enough, fun depth large => ⟨?_, ?_⟩⟩
    · rw [found .sqlite false, ok_bind, parsed depth large]
    · exact sqliteChecks_tableWithCheck characters declared (parsed depth large)

end TableDefinitions

end RoundTrip

namespace QuotedText

def text : Query.Column where
  name := "a\"b"
  nullable := false
  storageType := "Text"
  logical := [.str]
  native := some .str
  datetimePrecision := Query.wholeSeconds

def table : Query.Table where
  ident := 0
  name := "t"
  backend := .sqlite
  columns := [text]

def binder : CheckBinder Text where
  owner := table
  isJson _ := false
  textCollation _ := some "BINARY"
  typeOf _ := .str
  encode _ value := some (.text value)

/-- The column is not the text `'\`, NUL. -/
def predicate : Predicate Text :=
  .negated (.comparison (.column (.attr (.table table) text)) .eq (some ['\'', '\\', Char.ofNat 0]))

def expression : CheckExpression :=
  .negation (.comparison .eq (.column ['a', '"', 'b'])
    (.literal (.text ['\'', '\\', Char.ofNat 0])))

end QuotedText

/-- Quotes, a backslash and NUL in a check are read back from MariaDB's clause. -/
theorem quoted_text_is_read_back :
    ∃ text, renderCheck .mariadb QuotedText.expression = some text ∧
      ∃ enough, ∀ depth ≥ enough,
        parseCheck asciiCharacters depth text = some QuotedText.expression := by
  have bound : QuotedText.binder.bind QuotedText.predicate = .ok QuotedText.expression := rfl
  exact (rendered_checks_are_read_back asciiCharacters bound).1

end Snekql.Checks
