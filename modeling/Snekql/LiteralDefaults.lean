import Snekql.SchemaParts

/-!
# Literal defaults

How a literal default is written for a backend, and how the default that a catalog reports is
compared with its declaration. The reader of defaults is the reader of checks with `TRUE`, `FALSE`
and `NULL` as further operands, and asks only whether the expression as a whole is a constant. So
an expression is a constant here, or something else.
-/

namespace Snekql.Schema

open Snekql.Splicing (Text)
open Snekql.Scanning Snekql.Outcomes Snekql.Checks
open Snekql.Query (BackendFamily CompoundOperator)

/-- `render_literal_default`. -/
def renderDefault (backend : BackendFamily) (value : Option Literal) : Text :=
  match backend, value with
  | .mariadb, some (.text value) =>
    "(CONVERT(X'".toList ++ hexText value ++ "' USING utf8mb4))".toList
  | _, value => renderLiteralDefault value

/-! ## The reader -/

/-- An expression, as far as the reader of defaults looks at it. -/
inductive Constant where
  | literal (value : Option Literal)
  | other
deriving DecidableEq, Repr

def constantOf : CheckExpression → Constant
  | .literal value => .literal (some value)
  | _ => .other

/-- A constant and the tokens that remain. -/
abbrev ParsedConstant := Except CheckError (Constant × List Token)

section Parser

variable (characters : Characters)

/-- The value of a word that is a literal. -/
def keywordLiteral (token : Token) : Option (Option Literal) :=
  if token.kind ≠ .word then none
  else if characters.upper token.text = "TRUE".toList then some (some (.integer 1))
  else if characters.upper token.text = "FALSE".toList then some (some (.integer 0))
  else if characters.upper token.text = "NULL".toList then some none
  else none

/-- The operand that starts at a token without a sign. -/
def constantToken (token : Token) (rest : List Token) : ParsedConstant :=
  match keywordLiteral characters token with
  | some value => .ok (.literal value, rest)
  | none => (plainOperand characters token rest).map (Prod.map constantOf id)

mutual

/-- `_boolean` of a parser with `literal_keywords`. -/
def constantBoolean (connective : CompoundOperator) : Nat → List Token → ParsedConstant
  | 0, _ => .error .recursion
  | depth + 1, remaining => do
      let (first, rest) ← constantChild connective depth remaining
      constantLoop connective depth first rest

def constantChild (connective : CompoundOperator) : Nat → List Token → ParsedConstant
  | 0, _ => .error .recursion
  | depth + 1, remaining =>
    match connective with
    | .and => constantComparison depth remaining
    | .or => constantBoolean .and depth remaining

def constantLoop (connective : CompoundOperator) : Nat → Constant → List Token → ParsedConstant
  | 0, _, _ => .error .recursion
  | depth + 1, constant, remaining =>
    match accept characters (String.ofList (connectiveSql connective)) remaining with
    | none => .ok (constant, remaining)
    | some rest => do
        let (_, rest) ← constantChild connective depth rest
        constantLoop connective depth .other rest

/-- `_comparison`. -/
def constantComparison : Nat → List Token → ParsedConstant
  | 0, _ => .error .recursion
  | depth + 1, remaining =>
    match accept characters "NOT" remaining with
    | some rest => do
        let (_, rest) ← constantComparison depth rest
        return (.other, rest)
    | none => do
        let (left, rest) ← constantOperand depth remaining
        constantRelation depth left rest

def constantRelation : Nat → Constant → List Token → ParsedConstant
  | 0, _, _ => .error .recursion
  | depth + 1, left, remaining =>
    match accept characters "IS" remaining with
    | some rest => do
        let rest ← require characters "NULL" ((accept characters "NOT" rest).getD rest)
        return (.other, rest)
    | none =>
      let negated := accept characters "NOT" remaining
      let rest := negated.getD remaining
      match accept characters "IN" rest with
      | some rest => do
          let rest ← require characters "(" rest
          let (_, rest) ← constantOperand depth rest
          let rest ← constantValues depth rest
          let rest ← require characters ")" rest
          return (.other, rest)
      | none =>
        match accept characters "BETWEEN" rest with
        | some rest => do
            let (_, rest) ← constantOperand depth rest
            let rest ← require characters "AND" rest
            let (_, rest) ← constantOperand depth rest
            return (.other, rest)
        | none =>
          if negated.isSome then .error .unsupported
          else match acceptComparison characters rest spellings with
            | some (_, rest) => do
                let (_, rest) ← constantOperand depth rest
                return (.other, rest)
            | none => .ok (left, rest)

def constantValues : Nat → List Token → Except CheckError (List Token)
  | 0, _ => .error .recursion
  | depth + 1, remaining =>
    match accept characters "," remaining with
    | none => .ok remaining
    | some rest => do
        let (_, rest) ← constantOperand depth rest
        constantValues depth rest

/-- `_operand`. -/
def constantOperand : Nat → List Token → ParsedConstant
  | 0, _ => .error .recursion
  | depth + 1, remaining =>
    match accept characters "(" remaining with
    | some rest => do
        let (constant, rest) ← constantBoolean .or depth rest
        let rest ← require characters ")" rest
        return (constant, rest)
    | none =>
      match accept characters "-" remaining, accept characters "+" remaining with
      | some rest, _ => (signedOperand (-1) rest).map (Prod.map constantOf id)
      | none, some rest => (signedOperand 1 rest).map (Prod.map constantOf id)
      | none, none =>
        match remaining with
        | [] => .error .unsupported
        | token :: rest => constantToken characters token rest

end

/-- `parse_default_literal`; the inner value is `None` for `NULL`. -/
def parseDefaultLiteral (depth : Nat) (mariadb : Bool) (sql : Text) : Option (Option Literal) :=
  match tokens characters mariadb sql with
  | .error _ => none
  | .ok found =>
    if mariadb ∧ found.any (fun token => token.kind == .literal && token.text.contains '\\') then
      none
    else match constantBoolean characters .or depth found with
      | .ok (.literal value, []) => some value
      | _ => none

end Parser

/-! ## Comparison -/

/-- `LiteralDefaultShape`. -/
structure LiteralDefaultShape where
  backend : BackendFamily
  value : Option Literal
deriving DecidableEq, Repr

/-- The default that the catalog reports. -/
inductive ReportedDefault where
  | absent
  | text (sql : Text)
  | unavailable
deriving DecidableEq, Repr

inductive DefaultStatus where
  | matched
  | drift
  | unchecked
deriving DecidableEq, Repr

/-- The texts that explain a status. -/
inductive Explanation where
  /-- "Server default expression is outside the supported literal grammar" -/
  | outsideGrammar
  /-- "Server default metadata is unavailable" -/
  | unavailable
  /-- "server default expected .., found .." -/
  | compared (expected : Option Literal) (actual : ReportedDefault)
deriving DecidableEq, Repr

/-- `compare_literal_default`. -/
def compareLiteralDefault (characters : Characters) (depth : Nat) (expected : LiteralDefaultShape)
    (actual : ReportedDefault) (nullable : Bool) : DefaultStatus × Explanation :=
  let verdict (agrees : Bool) : DefaultStatus × Explanation :=
    (if agrees then .matched else .drift, .compared expected.value actual)
  match actual with
  | .absent => verdict (expected.backend == .mariadb && expected.value == none && nullable)
  | .unavailable => (.unchecked, .unavailable)
  | .text sql =>
    if sql = "CurrentTimestamp".toList then verdict false
    else match parseDefaultLiteral characters depth (expected.backend == .mariadb) sql with
      | none => (.unchecked, .outsideGrammar)
      | some value => verdict (expected.value == value)

/-! ## Reading constants -/

section Reading

variable (characters : Characters)

theorem constantRelation_ends {more : List Token} (ends : Ends more) (left : Constant)
    (depth : Nat) : constantRelation characters (depth + 1) left more = .ok (left, more) := by
  have none (text : String) (differs : text ≠ ")") : accept characters text more = none :=
    accept_ends characters ends differs
  have unequal : acceptComparison characters more spellings = Option.none := by
    refine acceptComparison_none characters (fun text listed => none text ?_)
    rintro rfl
    exact absurd listed (by decide)
  rw [constantRelation]
  simp only [none "IS" (by decide), none "NOT" (by decide), Option.getD_none, none "IN" (by decide),
    none "BETWEEN" (by decide), Option.isSome_none, Bool.false_eq_true, if_false, unequal]

/-- An operand that ends is a whole expression. -/
theorem constantBoolean_of_operand {tokens more : List Token} {constant : Constant} {depth : Nat}
    (unnegated : accept characters "NOT" (tokens ++ more) = none) (ends : Ends more)
    (operand : constantOperand characters (depth + 1) (tokens ++ more) = .ok (constant, more)) :
    constantBoolean characters .or (depth + 6) (tokens ++ more) = .ok (constant, more) := by
  have conjunction : accept characters (String.ofList (connectiveSql .and)) more = none :=
    accept_ends characters ends (by decide)
  have disjunction : accept characters (String.ofList (connectiveSql .or)) more = none :=
    accept_ends characters ends (by decide)
  have comparison : constantComparison characters (depth + 2) (tokens ++ more) =
      .ok (constant, more) := by
    rw [constantComparison, unnegated]
    simp only [operand, ok_bind]
    exact constantRelation_ends characters ends constant depth
  rw [constantBoolean, constantChild]
  simp only
  rw [constantBoolean, constantChild]
  simp only [comparison, ok_bind]
  rw [constantLoop, conjunction]
  simp only [ok_bind]
  rw [constantLoop, disjunction]

/-- A whole expression in parentheses is an operand. -/
theorem constantOperand_grouped {tokens more : List Token} {constant : Constant} {depth : Nat}
    (inner : constantBoolean characters .or depth (tokens ++ closingToken :: more) =
      .ok (constant, closingToken :: more)) :
    constantOperand characters (depth + 1) (openingToken :: tokens ++ [closingToken] ++ more) =
      .ok (constant, more) := by
  rw [List.append_assoc, List.cons_append, List.singleton_append, constantOperand,
    accept_spelled characters spelled_opening]
  simp only [inner, require_spelled characters spelled_closing, ok_bind]
  rfl

/-- The literals of checks are no keywords. -/
theorem keywordLiteral_of_plainOperand {token : Token} {rest more : List Token} {value : Literal}
    (read : plainOperand characters token rest = .ok (.literal value, more)) :
    keywordLiteral characters token = none := by
  have refused {text : Text} (kind : ¬token.kind ≠ .word)
      (same : characters.upper token.text = text) (first : text ≠ "CONVERT".toList)
      (second : text ≠ "CAST".toList) (listed : text ∈ reservedWords) : False := by
    rw [plainOperand, not_not.mp kind] at read
    simp only [same, if_neg first, if_neg second, if_pos listed] at read
    cases read
  unfold keywordLiteral
  split_ifs with other isTrue isFalse isNull
  · rfl
  · exact (refused other isTrue (by simp) (by simp) (by simp [reservedWords])).elim
  · exact (refused other isFalse (by simp) (by simp) (by simp [reservedWords])).elim
  · exact (refused other isNull (by simp) (by simp) (by simp [reservedWords])).elim
  · rfl

/-- Outside parentheses the reader of defaults reads the literals of checks. -/
theorem constantOperand_of_parseOperand {remaining more : List Token} {value : Literal}
    {depth : Nat} (ungrouped : accept characters "(" remaining = none)
    (read : parseOperand characters (depth + 1) remaining = .ok (.literal value, more)) :
    constantOperand characters (depth + 1) remaining = .ok (.literal (some value), more) := by
  unfold parseOperand at read
  unfold constantOperand
  simp only [ungrouped] at read ⊢
  cases minus : accept characters "-" remaining with
  | some rest =>
    simp only [minus] at read ⊢
    rw [read]
    rfl
  | none =>
    cases plus : accept characters "+" remaining with
    | some rest =>
      simp only [minus, plus] at read ⊢
      rw [read]
      rfl
    | none =>
      cases remaining with
      | nil => simp [minus, plus] at read
      | cons token rest =>
        simp only [minus, plus] at read ⊢
        rw [constantToken, keywordLiteral_of_plainOperand characters read]
        simp only [read]
        rfl

/-- A literal starts with none of the words and symbols that are tried before it. -/
theorem accept_literal (backend : BackendFamily) (value : Literal) {text : String}
    (differs : text ∉ ["-", "CONVERT", "CAST"]) (rest : List Token) :
    accept characters text (checkTokens backend (.literal value) ++ rest) = none := by
  simp only [List.mem_cons, List.not_mem_nil, or_false, not_or] at differs
  have encoded {function : String} (listed : function ∈ upperWords) (other : text ≠ function)
      (rest : List Token) : accept characters text (word function :: rest) = none :=
    accept_other characters (spelled_word listed) other rest
  rw [checkTokens, checkParts]
  cases value with
  | integer value =>
    cases value with
    | ofNat value => exact accept_value characters text (by simp) _
    | negSucc value =>
      exact accept_other characters (spelled_symbol (by simp)) differs.1 _
  | text value =>
    cases backend with
    | mariadb => exact encoded (by decide) differs.2.1 _
    | sqlite =>
      by_cases holds : Char.ofNat 0 ∈ value
      · rw [show literalParts .sqlite (.text value) = encodedParts "CAST" "AS" "TEXT" value
          from if_pos holds]
        exact encoded (by decide) differs.2.2 _
      · rw [show literalParts .sqlite (.text value) = [.quoted textQuote value]
          from if_neg holds]
        exact accept_value characters text (by simp) _

theorem constantBoolean_literal (backend : BackendFamily) (value : Literal) (depth : Nat)
    {more : List Token} (ends : Ends more) :
    constantBoolean characters .or (depth + 6) (checkTokens backend (.literal value) ++ more) =
      .ok (.literal (some value), more) :=
  constantBoolean_of_operand characters
    (accept_literal characters backend value (by simp) more) ends
    (constantOperand_of_parseOperand characters
      (accept_literal characters backend value (by simp) more)
      (parseOperand_literal characters backend value depth more))

theorem constantBoolean_grouped (backend : BackendFamily) (value : Literal) (depth : Nat) :
    constantBoolean characters .or (depth + 12)
        (openingToken :: checkTokens backend (.literal value) ++ [closingToken]) =
      .ok (.literal (some value), []) := by
  have closed : Ends [closingToken] := .inr ⟨[], rfl⟩
  have inner := constantBoolean_literal characters backend value depth closed
  have operand := constantOperand_grouped characters inner
  have outer := constantBoolean_of_operand characters
    (accept_other characters spelled_opening (by decide) _) (.inl rfl) operand
  rwa [List.append_nil] at outer

theorem constantBoolean_null (depth : Nat) :
    constantBoolean characters .or (depth + 6) [word "NULL"] = .ok (.literal none, []) := by
  have spelled : Spelled (word "NULL") "NULL" := spelled_word (by decide)
  have other {text : String} (differs : text ≠ "NULL") :
      accept characters text [word "NULL"] = none := accept_other characters spelled differs []
  have keyword : keywordLiteral characters (word "NULL") = some none := by
    rw [keywordLiteral, upper_spelled characters spelled]
    simp
  have operand : constantOperand characters (depth + 1) ([word "NULL"] ++ []) =
      .ok (.literal none, []) := by
    rw [List.append_nil, constantOperand, other (by decide), other (by decide), other (by decide)]
    simp only [constantToken, keyword]
  exact constantBoolean_of_operand characters (other (by decide)) (.inl rfl) operand

end Reading

/-! ## Rendered defaults -/

theorem renderDefault_mariadb (value : Text) :
    renderDefault .mariadb (some (.text value)) =
      '(' :: renderLiteral .mariadb (.text value) ++ [')'] := by
  have opened : "(CONVERT(X'".toList = '(' :: "CONVERT(X'".toList := by simp
  have closed : "' USING utf8mb4))".toList = "' USING utf8mb4)".toList ++ [')'] := by simp
  unfold renderDefault renderLiteral
  simp only [opened, closed, List.cons_append, List.append_assoc]

/-- A default is rendered as the literal of a check, or as that literal in parentheses. -/
theorem renderDefault_cases (backend : BackendFamily) (value : Literal) :
    renderDefault backend (some value) = renderLiteral backend value ∨
      renderDefault backend (some value) = '(' :: renderLiteral backend value ++ [')'] := by
  cases backend with
  | sqlite => exact (literalDefault_cases value).imp And.right And.right
  | mariadb =>
    cases value with
    | integer value => exact .inl rfl
    | text value => exact .inr (renderDefault_mariadb value)

/-- No rendered default is the mark of a clock default. -/
theorem renderDefault_ne_currentTimestamp (backend : BackendFamily) (value : Option Literal) :
    renderDefault backend value ≠ "CurrentTimestamp".toList := by
  intro same
  have first : (renderDefault backend value).head? = some 'C' := by
    rw [same]
    simp
  unfold renderDefault renderLiteralDefault at first
  cases value with
  | none => cases backend <;> simp at first
  | some value =>
    cases value with
    | integer value =>
      have integer : (integerText value).head? = some 'C' := by cases backend <;> exact first
      cases value with
      | ofNat value => cases List.all_eq_true.mp (digits_all value) 'C' (List.mem_of_head? integer)
      | negSucc value => cases integer
    | text value =>
      cases backend with
      | mariadb => simp at first
      | sqlite =>
        dsimp only at first
        split at first <;> simp [textQuote] at first

section Rendered

variable (characters : Characters)

theorem parseDefaultLiteral_of_parts {parts : List Part} {value : Option Literal} {depth : Nat}
    {mariadb : Bool} (spaced : catalogParts.Spaced parts none)
    (plain : mariadb = true → parts.all Part.plain = true)
    (read : constantBoolean characters .or depth (parts.flatMap Part.tokens) =
      .ok (.literal value, [])) :
    parseDefaultLiteral characters depth mariadb (catalogParts.texts parts) = some value := by
  have allowed : ¬(mariadb = true ∧ (parts.flatMap Part.tokens).any
      (fun token => token.kind == .literal && token.text.contains '\\') = true) := by
    rintro ⟨isMariadb, found⟩
    rw [no_backslash_of_plain (plain isMariadb)] at found
    cases found
  rw [parseDefaultLiteral, tokens_texts spaced]
  simp only [if_neg allowed, read]

/-- The reader gives back the value of every rendered default. -/
theorem parseDefaultLiteral_renderDefault (backend : BackendFamily) (value : Option Literal)
    (depth : Nat) :
    parseDefaultLiteral characters (depth + 12) (backend == .mariadb)
      (renderDefault backend value) = some value := by
  cases value with
  | none =>
    have rendered : renderDefault backend none = catalogParts.texts [keyword "NULL"] := by
      cases backend <;> exact (List.append_nil _).symm
    rw [rendered]
    exact parseDefaultLiteral_of_parts characters ⟨allows_keyword (by decide) rfl, trivial⟩
      (fun _ => rfl) (constantBoolean_null characters (depth + 6))
  | some value =>
    have plain (isMariadb : (backend == .mariadb) = true) :
        (checkParts backend (.literal value)).all Part.plain = true := by
      rw [beq_iff_eq.mp isMariadb]
      exact plain_literal value
    have tidy : Tidy (checkParts backend (.literal value)) :=
      fun next ends => spaced_literal backend value ends
    obtain rendered | rendered := renderDefault_cases backend value
    · have read := constantBoolean_literal characters backend value (depth + 6) (.inl rfl)
      rw [List.append_nil] at read
      rw [rendered, ← texts_literal]
      exact parseDefaultLiteral_of_parts characters (tidy none rfl) plain read
    · have texts : '(' :: renderLiteral backend value ++ [')'] = catalogParts.texts
          (opening :: checkParts backend (.literal value) ++ [closing]) := by
        rw [texts_grouped, texts_literal]
      have read := constantBoolean_grouped characters backend value depth
      rw [rendered, texts]
      refine parseDefaultLiteral_of_parts characters (tidy.grouped none rfl) ?_ ?_
      · intro isMariadb
        rw [List.all_append, List.all_cons, plain isMariadb]
        rfl
      · rw [List.flatMap_append]
        exact read

/-- For both backends and every default: the reader gives its value back from the rendered text, and
a declared value matches the reported text if and only if it is the same. -/
theorem rendered_defaults_are_compared_exactly :
    ∃ enough, ∀ depth ≥ enough, ∀ backend value,
      parseDefaultLiteral characters depth (backend == .mariadb) (renderDefault backend value) =
        some value ∧
      ∀ declared nullable,
        (compareLiteralDefault characters depth ⟨backend, declared⟩
          (.text (renderDefault backend value)) nullable).1 = .matched ↔ declared = value := by
  refine ⟨12, fun depth large backend value => ?_⟩
  obtain ⟨depth, rfl⟩ : ∃ smaller, depth = smaller + 12 := ⟨depth - 12, by omega⟩
  have read := parseDefaultLiteral_renderDefault characters backend value depth
  refine ⟨read, fun declared nullable => ?_⟩
  simp only [compareLiteralDefault, if_neg (renderDefault_ne_currentTimestamp backend value), read]
  by_cases same : declared = value
  · simp [same]
  · simp [same]

end Rendered

end Snekql.Schema
