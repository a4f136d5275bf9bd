import Snekql.CheckExpressions
import Snekql.Scanners

/-!
# Check expressions of the catalog

The reader of the `CHECK` constraints that a backend reports: the tokens of SQL text, the
parser of the supported grammar, the MariaDB entry point that reads one clause, and the
SQLite one that finds the clauses of a table definition. What the grammar does not have is
refused.
-/

namespace Snekql.Checks

open Snekql.Splicing
open Snekql.Query (ComparisonOperator CompoundOperator)

/-- `_UnsupportedCheckError` and what else ends a parse. -/
inductive CheckError where
  | unsupported
  | value
  | unicode
  | recursion
deriving DecidableEq, Repr

/-- `CheckShape`. -/
structure CheckShape where
  name : Option Text
  expression : Option CheckExpression
deriving DecidableEq

inductive TokenKind where
  | literal
  | identifier
  | word
  | number
  | symbol
deriving DecidableEq, Repr

/-- `_Token`. -/
structure Token where
  kind : TokenKind
  text : Text
deriving DecidableEq, Repr

/-- The character tests of Python, which agree with ASCII where that has an answer. -/
structure Characters where
  isAlpha : Char → Bool
  isAlnum : Char → Bool
  upper : Text → Text
  isAlpha_ascii : ∀ char : Char, char.toNat < 128 → isAlpha char = char.isAlpha
  isAlnum_ascii : ∀ char : Char, char.toNat < 128 → isAlnum char = char.isAlphanum
  upper_ascii : ∀ text : Text, (∀ char ∈ text, char.toNat < 128) →
    upper text = text.map Char.toUpper

/-! ## Tokens -/

def isBlank (char : Char) : Bool :=
  char == ' ' || char == '\t' || char == '\n' || char == '\r' || char == Char.ofNat 12

def isAsciiDigit (char : Char) : Bool := char.toNat < 128 && char.isDigit

/-- The text after the end of the line. -/
def afterLine : Text → Text
  | [] => []
  | char :: rest => if char = '\n' then rest else afterLine rest

/-- The text after the end of a comment. -/
def afterComment : Text → Option Text
  | '*' :: '/' :: rest => some rest
  | _ :: rest => afterComment rest
  | [] => none

/-- The value of a quoted token after its opening quote, and the text after it. -/
def quotedValue (opening close : Char) : Text → Option (Text × Text)
  | [] => none
  | char :: rest =>
    if char ≠ close then
      (quotedValue opening close rest).map (fun (value, remaining) => (char :: value, remaining))
    else match rest with
      | next :: others =>
        if next = close ∧ opening ≠ '[' then
          (quotedValue opening close others).map
            (fun (value, remaining) => (close :: value, remaining))
        else some ([], next :: others)
      | [] => some ([], [])

def quotes : List Char := [textQuote, '"', Query.Mariadb.identifierQuote, '[']

def pairSymbols : List Text := [">=", "<=", "<>", "!=", "=="].map String.toList

/-- A line comment starts at two dashes; MariaDB asks for a blank after them. -/
def startsLine (mariadb : Bool) : Text → Bool
  | '-' :: '-' :: rest => !mariadb || rest.head?.all isBlank
  | _ => false

/-- A comment whose content MariaDB executes. -/
def isExecutable (text : Text) : Bool :=
  "/*!".toList.isPrefixOf text || "/*M!".toList.isPrefixOf text

/-- One token, or an error, and the text after it. -/
abbrev TokenStep := Scanning.Step Unit (Except CheckError Token)

def skip (remaining : Text) : TokenStep := { output := [], state := (), remaining }

def refuse : TokenStep := { output := [.error .unsupported], state := (), remaining := [] }

def take (kind : TokenKind) (text remaining : Text) : TokenStep :=
  { output := [.ok { kind, text }], state := (), remaining }

/-- The loop body of `_tokens`. -/
def tokenStep (characters : Characters) (mariadb : Bool) (char : Char) (rest : Text) :
    TokenStep :=
  if isBlank char then skip rest
  else if startsLine mariadb (char :: rest) then skip (afterLine (rest.drop 1))
  else if "/*".toList.isPrefixOf (char :: rest) then
    match afterComment (rest.drop 1) with
    | some remaining => if isExecutable (char :: rest) then refuse else skip remaining
    | none => refuse
  else if char ∈ quotes then
    match quotedValue char (if char = '[' then ']' else char) rest with
    | some (value, remaining) =>
      take (if char = textQuote then .literal else .identifier) value remaining
    | none => refuse
  else if characters.isAlpha char || char = '_' then
    let continues (next : Char) : Bool := characters.isAlnum next || next = '_' || next = '$'
    let word := char :: rest.takeWhile continues
    take (if word.all (·.toNat < 128) then .word else .identifier) word (rest.dropWhile continues)
  else if isAsciiDigit char then
    take .number (char :: rest.takeWhile isAsciiDigit) (rest.dropWhile isAsciiDigit)
  else if (char :: rest.take 1) ∈ pairSymbols then
    take .symbol (char :: rest.take 1) (rest.drop 1)
  else take .symbol [char] rest

theorem length_afterLine_le (text : Text) : (afterLine text).length ≤ text.length := by
  induction text with
  | nil => exact Nat.le_refl _
  | cons char rest ih =>
    rw [afterLine]
    split <;> simp only [List.length_cons] <;> omega

theorem length_afterComment_le {text remaining : Text}
    (found : afterComment text = some remaining) :
    remaining.length ≤ text.length := by
  induction text with
  | nil => cases found
  | cons char rest ih =>
    unfold afterComment at found
    split at found
    · rename_i heads
      cases found
      cases heads
      simp only [List.length_cons]
      omega
    · rename_i heads
      cases heads
      have := ih found
      simp only [List.length_cons]
      omega
    · cases found

theorem length_quotedValue_le (opening close : Char) (text : Text) :
    ∀ {value remaining}, quotedValue opening close text = some (value, remaining) →
      remaining.length ≤ text.length := by
  induction text using quotedValue.induct opening close with
  | case1 => nofun
  | case2 char rest unequal ih =>
    intro value remaining found
    rw [quotedValue.eq_def] at found
    simp only [if_pos unequal] at found
    obtain ⟨⟨inner, after⟩, innerFound, same⟩ := Option.map_eq_some_iff.mp found
    cases same
    exact Nat.le_trans (ih innerFound) (Nat.le_succ _)
  | case3 char equal next others doubled ih =>
    intro value remaining found
    rw [quotedValue.eq_def] at found
    simp only [if_neg equal, if_pos doubled] at found
    obtain ⟨⟨inner, after⟩, innerFound, same⟩ := Option.map_eq_some_iff.mp found
    cases same
    exact Nat.le_trans (ih innerFound) (Nat.le_add_right _ 2)
  | case4 char equal next others single =>
    intro value remaining found
    rw [quotedValue.eq_def] at found
    simp only [if_neg equal, if_neg single] at found
    cases found
    exact Nat.le_succ _
  | case5 char equal =>
    intro value remaining found
    rw [quotedValue.eq_def] at found
    simp only [if_neg equal] at found
    cases found
    exact Nat.le_succ _

theorem length_tokenStep_le (characters : Characters) (mariadb : Bool) (char : Char)
    (rest : Text) : (tokenStep characters mariadb char rest).remaining.length ≤ rest.length := by
  have dropped : (rest.drop 1).length = rest.length - 1 := List.length_drop
  unfold tokenStep
  split
  · exact Nat.le_refl _
  split
  · exact Nat.le_trans (length_afterLine_le _) (by omega)
  split
  · split
    · rename_i remaining found
      have := length_afterComment_le found
      split
      · exact Nat.zero_le _
      · exact Nat.le_trans this (by omega)
    · exact Nat.zero_le _
  split
  · split
    · rename_i value remaining found
      exact length_quotedValue_le _ _ _ found
    · exact Nat.zero_le _
  split
  · exact (List.dropWhile_suffix _).length_le
  split
  · exact (List.dropWhile_suffix _).length_le
  split
  · exact Nat.le_trans (Nat.le_of_eq dropped) (Nat.sub_le _ _)
  · exact Nat.le_refl _

/-- The scanner behind `_tokens`. -/
def tokenScanner (characters : Characters) (mariadb : Bool) :
    Scanning.Scanner Unit (Except CheckError Token) where
  step := fun _ char rest => tokenStep characters mariadb char rest
  shrinks := fun _ char rest => length_tokenStep_le characters mariadb char rest

/-- `_tokens`. -/
def tokens (characters : Characters) (mariadb : Bool) (sql : Text) :
    Except CheckError (List Token) :=
  (Scanning.scan (tokenScanner characters mariadb) () sql).mapM id

/-! ## The parser -/

/-- `int` of the digits of a number token. -/
def decimal (digits : Text) : Int := Nat.ofDigitChars 10 digits 0

/-- The value of a hexadecimal digit. -/
def hexDigit (char : Char) : Option Nat :=
  if '0' ≤ char ∧ char ≤ '9' then some (char.toNat - 48)
  else if 'a' ≤ char ∧ char ≤ 'f' then some (char.toNat - 87)
  else if 'A' ≤ char ∧ char ≤ 'F' then some (char.toNat - 55)
  else none

/-- `bytes.fromhex`: blanks may stand between the bytes. -/
def fromHex : Text → Option (List UInt8)
  | [] => some []
  | [char] => if isBlank char || char = Char.ofNat 11 then some [] else none
  | first :: second :: rest =>
    if isBlank first || first = Char.ofNat 11 then fromHex (second :: rest)
    else do
      let high ← hexDigit first
      let low ← hexDigit second
      let others ← fromHex rest
      return UInt8.ofNat (16 * high + low) :: others

/-- `bytes.fromhex(encoded).decode("utf-8")`. -/
def decodedText (encoded : Text) : Except CheckError Text :=
  match fromHex encoded with
  | none => .error .value
  | some bytes =>
    match bytes.toByteArray.utf8Decode? with
    | none => .error .unicode
    | some characters => .ok characters.toList

/-- An expression and the tokens that remain. -/
abbrev Parsed := Except CheckError (CheckExpression × List Token)

section Parser

variable (characters : Characters)

/-- The token is this word or symbol, in any case. -/
def Token.spells (token : Token) (text : String) : Bool :=
  (token.kind == .word || token.kind == .symbol) && characters.upper token.text == text.toList

/-- `_accept`: the remaining tokens, if the next one is this word or symbol. -/
def accept (text : String) : List Token → Option (List Token)
  | [] => none
  | token :: rest => if token.spells characters text then some rest else none

/-- `_require`. -/
def require (text : String) (remaining : List Token) : Except CheckError (List Token) :=
  match accept characters text remaining with
  | some rest => .ok rest
  | none => .error .unsupported

/-- The comparison operators in the order in which they are tried. -/
def spellings : List (String × ComparisonOperator) :=
  [("=", .eq), ("==", .eq), ("<>", .ne), ("!=", .ne), (">", .gt), (">=", .gte), ("<", .lt),
    ("<=", .lte)]

/-- The first comparison operator that is accepted, with the tokens after it. -/
def acceptComparison (remaining : List Token) :
    List (String × ComparisonOperator) → Option (ComparisonOperator × List Token)
  | [] => none
  | (text, operator) :: others =>
    match accept characters text remaining with
    | some rest => some (operator, rest)
    | none => acceptComparison remaining others

/-- The words that are no column names. -/
def reservedWords : List Text :=
  ["TRUE", "FALSE", "NULL", "CURRENT_DATE", "CURRENT_TIME", "CURRENT_TIMESTAMP", "CURRENT_USER",
    "SESSION_USER", "SYSTEM_USER"].map String.toList

/-- The hexadecimal text of `CONVERT(X'..' USING utf8mb4)` or `CAST(X'..' AS TEXT)`, after the
first word. -/
def encodedOperand (joint charset : String) (remaining : List Token) : Parsed := do
  let rest ← require characters "(" remaining
  match ← require characters "X" rest with
  | { kind := .literal, text := encoded } :: rest => do
      let rest ← require characters joint rest
      let rest ← require characters charset rest
      let rest ← require characters ")" rest
      return (.literal (.text (← decodedText encoded)), rest)
  | _ => throw .unsupported

/-- The operand that starts at a token without a sign. -/
def plainOperand (token : Token) (rest : List Token) : Parsed :=
  match token.kind with
  | .number => .ok (.literal (.integer (decimal token.text)), rest)
  | .literal => .ok (.literal (.text token.text), rest)
  | .symbol => .error .unsupported
  | .identifier => .ok (.column token.text, rest)
  | .word =>
    if characters.upper token.text = "CONVERT".toList then
      encodedOperand characters "USING" "UTF8MB4" rest
    else if characters.upper token.text = "CAST".toList then
      encodedOperand characters "AS" "TEXT" rest
    else if characters.upper token.text ∈ reservedWords then .error .unsupported
    else .ok (.column token.text, rest)

/-- A number after a sign; nothing else has one. -/
def signedOperand (sign : Int) : List Token → Parsed
  | { kind := .number, text := digits } :: rest =>
    .ok (.literal (.integer (sign * decimal digits)), rest)
  | _ => .error .unsupported

mutual

/-- `_boolean("OR")` and `_boolean("AND")`: a first child and the rest of the loop. -/
def parseBoolean (connective : CompoundOperator) : Nat → List Token → Parsed
  | 0, _ => .error .recursion
  | depth + 1, remaining => do
      let (first, rest) ← parseChild connective depth remaining
      parseLoop connective depth first rest

/-- The operands of a connective: conjunctions for `OR`, comparisons for `AND`. -/
def parseChild (connective : CompoundOperator) : Nat → List Token → Parsed
  | 0, _ => .error .recursion
  | depth + 1, remaining =>
    match connective with
    | .and => parseComparison depth remaining
    | .or => parseBoolean .and depth remaining

/-- The loop of `_boolean`. -/
def parseLoop (connective : CompoundOperator) :
    Nat → CheckExpression → List Token → Parsed
  | 0, _, _ => .error .recursion
  | depth + 1, expression, remaining =>
    match accept characters (String.ofList (connectiveSql connective)) remaining with
    | none => .ok (expression, remaining)
    | some rest => do
        let (next, rest) ← parseChild connective depth rest
        parseLoop connective depth (.junction connective [expression, next]) rest

/-- `_comparison`. -/
def parseComparison : Nat → List Token → Parsed
  | 0, _ => .error .recursion
  | depth + 1, remaining =>
    match accept characters "NOT" remaining with
    | some rest => do
        let (child, rest) ← parseComparison depth rest
        return (.negation child, rest)
    | none => do
        let (left, rest) ← parseOperand depth remaining
        parseRelation depth left rest

/-- What follows the left operand of a comparison. -/
def parseRelation : Nat → CheckExpression → List Token → Parsed
  | 0, _, _ => .error .recursion
  | depth + 1, left, remaining =>
    match accept characters "IS" remaining with
    | some rest => do
        let negated := accept characters "NOT" rest
        let rest ← require characters "NULL" (negated.getD rest)
        return (.null negated.isSome left, rest)
    | none =>
      let negated := accept characters "NOT" remaining
      let rest := negated.getD remaining
      match accept characters "IN" rest with
      | some rest => do
          let rest ← require characters "(" rest
          let (first, rest) ← parseOperand depth rest
          let (others, rest) ← parseValues depth rest
          let rest ← require characters ")" rest
          return (.membership negated.isSome left (first :: others), rest)
      | none =>
        match accept characters "BETWEEN" rest with
        | some rest => do
            let (low, rest) ← parseOperand depth rest
            let rest ← require characters "AND" rest
            let (high, rest) ← parseOperand depth rest
            let expression := CheckExpression.between left low high
            return (if negated.isSome then .negation expression else expression, rest)
        | none =>
          if negated.isSome then .error .unsupported
          else match acceptComparison characters rest spellings with
            | some (operator, rest) => do
                let (right, rest) ← parseOperand depth rest
                return (.comparison operator left right, rest)
            | none => .ok (left, rest)

/-- The further values of `IN`. -/
def parseValues : Nat → List Token → Except CheckError (List CheckExpression × List Token)
  | 0, _ => .error .recursion
  | depth + 1, remaining =>
    match accept characters "," remaining with
    | none => .ok ([], remaining)
    | some rest => do
        let (next, rest) ← parseOperand depth rest
        let (others, rest) ← parseValues depth rest
        return (next :: others, rest)

/-- `_operand`. -/
def parseOperand : Nat → List Token → Parsed
  | 0, _ => .error .recursion
  | depth + 1, remaining =>
    match accept characters "(" remaining with
    | some rest => do
        let (expression, rest) ← parseBoolean .or depth rest
        let rest ← require characters ")" rest
        return (expression, rest)
    | none =>
      match accept characters "-" remaining, accept characters "+" remaining with
      | some rest, _ => signedOperand (-1) rest
      | none, some rest => signedOperand 1 rest
      | none, none =>
        match remaining with
        | [] => .error .unsupported
        | token :: rest => plainOperand characters token rest

end

/-- `_Parser.parse`, with calls and loops nested to a limited depth. -/
def parse (depth : Nat) (remaining : List Token) : Except CheckError CheckExpression := do
  let (expression, rest) ← parseBoolean characters .or depth remaining
  if rest.isEmpty then return expression else throw .unsupported

/-- `parse_check`: one clause of the MariaDB catalog. -/
def parseCheck (depth : Nat) (sql : Text) : Option CheckExpression :=
  match tokens characters true sql with
  | .error _ => none
  | .ok found =>
    if found.any (fun token => token.kind == .literal && token.text.contains '\\') then none
    else (parse characters depth found).toOption

/-! ## Table definitions -/

def openingToken : Token := { kind := .symbol, text := "(".toList }

def closingToken : Token := { kind := .symbol, text := ")".toList }

/-- The tokens before the parenthesis that closes so many open ones, and those after it. -/
def matching : Nat → List Token → Option (List Token × List Token)
  | _, [] => none
  | nested, token :: rest =>
    if token = closingToken ∧ nested ≤ 1 then some ([], rest)
    else
      let nested :=
        if token = openingToken then nested + 1
        else if token = closingToken then nested - 1 else nested
      (matching nested rest).map (fun (inside, outside) => (token :: inside, outside))

/-- The name of a `CHECK` that the tokens before it, last one first, introduce. -/
def checkName : List Token → Option Text
  | name :: word :: _ =>
    if word.kind = .word ∧ characters.upper word.text = "CONSTRAINT".toList then some name.text
    else none
  | _ => none

/-- The loop of `sqlite_checks`, with the tokens that were read, last one first. -/
def findChecks (parseDepth : Nat) :
    Nat → Int → List Token → List Token → Option (List CheckShape)
  | _, _, _, [] => some []
  | 0, _, _, _ :: _ => none
  | fuel + 1, depth, before, token :: rest =>
    if token = openingToken then findChecks parseDepth fuel (depth + 1) (token :: before) rest
    else if token = closingToken then
      findChecks parseDepth fuel (depth - 1) (token :: before) rest
    else if depth = 1 ∧ token.kind = .word ∧ characters.upper token.text = "CHECK".toList then
      match rest with
      | [] => none
      | opening :: rest =>
        if opening ≠ openingToken then none
        else match matching 1 rest with
          | none => none
          | some (inside, outside) => do
              let others ← findChecks parseDepth fuel depth
                (closingToken :: inside.reverse ++ opening :: token :: before) outside
              return {
                name := checkName characters before,
                expression := (parse characters parseDepth inside).toOption } :: others
    else findChecks parseDepth fuel depth (token :: before) rest

/-- `sqlite_checks`: the checks of a table definition. -/
def sqliteChecks (depth : Nat) (sql : Text) : Option (List CheckShape) :=
  match tokens characters false sql with
  | .error _ => none
  | .ok found => findChecks characters depth found.length 0 [] found

end Parser

theorem ascii_unchanged (holds : Char → Bool) (char : Char) (_ : char.toNat < 128) :
    holds char = holds char := rfl

theorem upper_unchanged (text : Text) (_ : ∀ char ∈ text, char.toNat < 128) :
    text.map Char.toUpper = text.map Char.toUpper := rfl

/-- The characters of ASCII only. -/
def asciiCharacters : Characters where
  isAlpha := Char.isAlpha
  isAlnum := Char.isAlphanum
  upper := List.map Char.toUpper
  isAlpha_ascii := ascii_unchanged Char.isAlpha
  isAlnum_ascii := ascii_unchanged Char.isAlphanum
  upper_ascii := upper_unchanged

end Snekql.Checks
