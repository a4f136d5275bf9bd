import Mathlib
import Snekql.CheckCatalog

/-!
# Parts of emitted SQL

The text that the schema compiler emits is made of blanks, marks, keywords, numbers,
operators and quoted values. The catalog reader reads each of them as a whole when one of a
few characters follows, whatever a quoted value holds.
-/

namespace Snekql.Checks

open Snekql.Splicing Snekql.Scanning
open Snekql.Query (BackendFamily ComparisonOperator CompoundOperator)

/-- A part of emitted SQL. -/
inductive Part where
  | blank
  /-- A parenthesis or comma. -/
  | mark (char : Char)
  | word (text : Text)
  | number (digits : Text)
  | compare (operator : ComparisonOperator)
  | minus
  | bar
  /-- A value between quotes, which are doubled inside. -/
  | quoted (quote : Char) (value : Text)

def quotedText (quote : Char) (value : Text) : Text := quote :: Query.doubled quote value ++ [quote]

def Part.text : Part → Text
  | .blank => [' ']
  | .mark char => [char]
  | .word text => text
  | .number digits => digits
  | .compare operator => comparisonSql operator
  | .minus => ['-']
  | .bar => ['|']
  | .quoted quote value => quotedText quote value

/-- A word of ASCII letters, digits and underscores that starts with a letter. -/
def isKeyword : Text → Bool
  | [] => false
  | first :: rest =>
    (first.toNat < 128 && first.isAlpha) &&
      rest.all (fun char => char.toNat < 128 && (char.isAlphanum || char == '_'))

/-- The characters that end a word. -/
def endsWord (char : Char) : Bool :=
  char == ' ' || char == '(' || char == ')' || char == ',' || char == textQuote

/-- The characters that end a value. -/
def endsValue (char : Char) : Bool := char == ' ' || char == ')' || char == ','

/-- What a part may look like, and the characters that may follow it. -/
def Part.allows : Part → Option Char → Bool
  | .blank, _ => true
  | .mark char, _ => char == '(' || char == ')' || char == ','
  | .word text, next => isKeyword text && next.all endsWord
  | .number digits, next => !digits.isEmpty && digits.all isAsciiDigit && next.all endsValue
  | .compare _, next => next == some ' '
  | .minus, next => next.any isAsciiDigit
  | .bar, next => next.all (fun char => char == ' ' || char == '|')
  | .quoted quote _, next =>
    (quote == textQuote || quote == '"' || quote == Query.Mariadb.identifierQuote) &&
      next.all endsValue

def word (text : String) : Token := { kind := .word, text := text.toList }

@[simp] theorem kind_word (text : String) : (word text).kind = .word := rfl

def symbol (text : String) : Token := { kind := .symbol, text := text.toList }

/-- What the catalog reader makes of a part. -/
def Part.tokens : Part → List Token
  | .blank => []
  | .mark char => [{ kind := .symbol, text := [char] }]
  | .word text => [{ kind := .word, text }]
  | .number digits => [{ kind := .number, text := digits }]
  | .compare operator => [{ kind := .symbol, text := comparisonSql operator }]
  | .minus => [symbol "-"]
  | .bar => [symbol "|"]
  | .quoted quote value =>
    [{ kind := if quote = textQuote then .literal else .identifier, text := value }]

/-- The parts as the catalog reader sees them. -/
def catalogParts : Vocabulary Part (Except CheckError Token) where
  text := Part.text
  output part := part.tokens.map .ok
  allows := Part.allows

/-! ## One step of the reader -/

section Reader

variable {characters : Characters} {mariadb : Bool} {char : Char} {rest : Text}

/-- The characters at which neither a blank, a comment nor a quoted value starts. -/
def isPlain (char : Char) : Bool :=
  !isBlank char && char != '-' && char != '/' && !quotes.contains char

theorem startsLine_of_ne (unequal : char ≠ '-') : startsLine mariadb (char :: rest) = false := by
  unfold startsLine
  split
  · rename_i heads
    cases heads
    exact absurd rfl unequal
  · rfl

theorem comment_of_ne (unequal : char ≠ '/') : "/*".toList.isPrefixOf (char :: rest) = false := by
  have texts : "/*".toList = ['/', '*'] := rfl
  rw [texts, List.isPrefixOf, beq_eq_false_iff_ne.mpr (Ne.symm unequal), Bool.false_and]

/-- The step at a plain character. -/
theorem tokenStep_of_plain (plain : isPlain char = true) :
    tokenStep characters mariadb char rest =
      if characters.isAlpha char || char = '_' then
        let continues (next : Char) : Bool := characters.isAlnum next || next = '_' || next = '$'
        let word := char :: rest.takeWhile continues
        take (if word.all (·.toNat < 128) then .word else .identifier) word
          (rest.dropWhile continues)
      else if isAsciiDigit char then
        take .number (char :: rest.takeWhile isAsciiDigit) (rest.dropWhile isAsciiDigit)
      else if (char :: rest.take 1) ∈ pairSymbols then
        take .symbol (char :: rest.take 1) (rest.drop 1)
      else take .symbol [char] rest := by
  simp only [isPlain, Bool.and_eq_true, Bool.not_eq_true', bne_iff_ne, ne_eq,
    List.contains_eq_mem, decide_eq_false_iff_not] at plain
  obtain ⟨⟨⟨notBlank, notDash⟩, notSlash⟩, notQuote⟩ := plain
  unfold tokenStep
  rw [if_neg (by simp [notBlank]), startsLine_of_ne notDash, if_neg (by simp),
    comment_of_ne notSlash, if_neg (by simp), if_neg notQuote]

/-- The characters with which an operator of two characters can start. -/
def startsPair (char : Char) : Bool := char == '>' || char == '<' || char == '!' || char == '='

theorem not_mem_pairSymbols (single : startsPair char = false) (others : Text) :
    (char :: others) ∉ pairSymbols := by
  intro member
  have texts : pairSymbols = [['>', '='], ['<', '='], ['<', '>'], ['!', '='], ['=', '=']] := rfl
  simp only [startsPair, Bool.or_eq_false_iff, beq_eq_false_iff_ne] at single
  simp [texts, single] at member

/-- A plain ASCII character that is no letter or digit and starts no operator. -/
def isMark (char : Char) : Bool :=
  isPlain char && char.toNat < 128 && !char.isAlpha && char != '_' && !isAsciiDigit char &&
    !startsPair char

theorem tokenStep_of_mark (mark : isMark char = true) :
    tokenStep characters mariadb char rest = take .symbol [char] rest := by
  simp only [isMark, Bool.and_eq_true, Bool.not_eq_true', bne_iff_ne, ne_eq,
    decide_eq_true_eq] at mark
  obtain ⟨⟨⟨⟨⟨plain, ascii⟩, noLetter⟩, noUnderscore⟩, noDigit⟩, single⟩ := mark
  rw [tokenStep_of_plain plain, characters.isAlpha_ascii char ascii, noLetter,
    if_neg (by simp [noUnderscore]), if_neg (by simp [noDigit]),
    if_neg (not_mem_pairSymbols single _)]

/-- What the scanner makes of one step. -/
theorem scan_step :
    scan (tokenScanner characters mariadb) () (char :: rest) =
      (tokenStep characters mariadb char rest).output ++
        scan (tokenScanner characters mariadb) ()
          (tokenStep characters mariadb char rest).remaining :=
  scan_cons (tokenScanner characters mariadb) () char rest

theorem scan_mark (mark : isMark char = true) :
    scan (tokenScanner characters mariadb) () (char :: rest) =
      .ok { kind := .symbol, text := [char] } ::
        scan (tokenScanner characters mariadb) () rest := by
  rw [scan_step, tokenStep_of_mark mark]
  rfl

theorem takeWhile_append_of_all {α : Type} {holds : α → Bool} {front back : List α}
    (all : front.all holds = true) (stops : back.head?.all (fun head => !holds head) = true) :
    (front ++ back).takeWhile holds = front ∧ (front ++ back).dropWhile holds = back := by
  have inside : ∀ element ∈ front, holds element = true := List.all_eq_true.mp all
  rw [List.takeWhile_append_of_pos inside, List.dropWhile_append_of_pos inside]
  cases back with
  | nil => simp
  | cons head tail =>
    have outside : holds head = false := by simpa using stops
    simp [outside]

theorem isPlain_of_isAlphanum (letter : char.isAlphanum = true) : isPlain char = true := by
  have differs (other : Char) (noLetter : other.isAlphanum = false) : char ≠ other := by
    rintro rfl
    rw [letter] at noLetter
    cases noLetter
  simp [isPlain, isBlank, quotes, differs ' ' rfl, differs '\t' rfl, differs '\n' rfl,
    differs '\r' rfl, differs (Char.ofNat 12) rfl, differs '-' rfl, differs '/' rfl,
    differs textQuote rfl, differs '"' rfl, differs Query.Mariadb.identifierQuote rfl,
    differs '[' rfl]

/-- The characters of a word, as the reader tests them. -/
def continuesWord (characters : Characters) (next : Char) : Bool :=
  characters.isAlnum next || next = '_' || next = '$'

theorem continuesWord_of_ascii (ascii : char.toNat < 128)
    (inside : (char.isAlphanum || char == '_') = true) :
    continuesWord characters char = true := by
  rw [continuesWord, characters.isAlnum_ascii char ascii]
  simp only [Bool.or_eq_true, beq_iff_eq] at inside
  simp [inside]

theorem not_continuesWord_of_endsWord (ends : endsWord char = true) :
    continuesWord characters char = false := by
  have ascii : char.toNat < 128 ∧ char.isAlphanum = false ∧ char ≠ '_' ∧ char ≠ '$' := by
    simp only [endsWord, Bool.or_eq_true, beq_iff_eq] at ends
    obtain (((rfl | rfl) | rfl) | rfl) | rfl := ends <;> decide
  rw [continuesWord, characters.isAlnum_ascii char ascii.1]
  simp [ascii.2]

/-- A keyword is taken whole when a character follows that ends words. -/
theorem word_taken (characters : Characters) {first : Char} {others : Text} (keyword : isKeyword (first :: others) = true)
    (ends : rest.head?.all endsWord = true) :
    first.toNat < 128 ∧ first.isAlpha = true ∧
      (others ++ rest).takeWhile (continuesWord characters) = others ∧
      (others ++ rest).dropWhile (continuesWord characters) = rest := by
  simp only [isKeyword, Bool.and_eq_true, decide_eq_true_eq, List.all_eq_true] at keyword
  obtain ⟨⟨firstAscii, firstLetter⟩, othersInside⟩ := keyword
  have all : others.all (continuesWord characters) = true := List.all_eq_true.mpr
    (fun char member => continuesWord_of_ascii (othersInside char member).1
      (othersInside char member).2)
  have stops : rest.head?.all (fun head => !continuesWord characters head) = true := by
    cases rest with
    | nil => rfl
    | cons head tail =>
      simp only [List.head?_cons, Option.all_some] at ends ⊢
      rw [not_continuesWord_of_endsWord ends, Bool.not_false]
  obtain ⟨taken, dropped⟩ := takeWhile_append_of_all all stops
  exact ⟨firstAscii, firstLetter, taken, dropped⟩

theorem ascii_of_isKeyword {text : Text} (keyword : isKeyword text = true) :
    text.all (·.toNat < 128) = true := by
  cases text with
  | nil => rfl
  | cons first others =>
    simp only [isKeyword, Bool.and_eq_true, decide_eq_true_eq, List.all_eq_true] at keyword
    simp only [List.all_cons, keyword.1.1, decide_true, Bool.true_and, List.all_eq_true,
      decide_eq_true_eq]
    exact fun char member => (keyword.2 char member).1

theorem scan_word {text : Text} (keyword : isKeyword text = true)
    (ends : rest.head?.all endsWord = true) :
    scan (tokenScanner characters mariadb) () (text ++ rest) =
      .ok { kind := .word, text } :: scan (tokenScanner characters mariadb) () rest := by
  cases text with
  | nil => cases keyword
  | cons first others =>
    obtain ⟨firstAscii, firstLetter, taken, dropped⟩ := word_taken characters keyword ends
    have firstAlphanum : first.isAlphanum = true := by
      rw [Char.isAlphanum, firstLetter, Bool.true_or]
    have step : tokenStep characters mariadb first (others ++ rest) =
        take .word (first :: others) rest := by
      rw [tokenStep_of_plain (isPlain_of_isAlphanum firstAlphanum),
        characters.isAlpha_ascii first firstAscii, firstLetter, if_pos (by simp)]
      change take (if (first :: (others ++ rest).takeWhile (continuesWord characters)).all
          (·.toNat < 128) then .word else .identifier)
        (first :: (others ++ rest).takeWhile (continuesWord characters))
        ((others ++ rest).dropWhile (continuesWord characters)) = _
      rw [taken, dropped, ascii_of_isKeyword keyword, if_pos rfl]
    rw [List.cons_append, scan_step, step]
    rfl

theorem noLetter_of_isDigit (digit : char.isDigit = true) :
    char.isAlpha = false ∧ char ≠ '_' := by
  simp only [Char.isDigit, Bool.and_eq_true, decide_eq_true_eq, ge_iff_le,
    UInt32.le_iff_toNat_le] at digit
  constructor
  · simp only [Char.isAlpha, Char.isUpper, Char.isLower, ge_iff_le, UInt32.le_iff_toNat_le,
      Bool.or_eq_false_iff, Bool.and_eq_false_imp, decide_eq_true_eq, decide_eq_false_iff_not]
    have fifty : '9'.val.toNat = 57 := rfl
    have upper : 'A'.val.toNat = 65 := rfl
    have lower : 'a'.val.toNat = 97 := rfl
    constructor <;> intro <;> omega
  · rintro rfl
    exact absurd digit.2 (by decide)

theorem scan_number {digits : Text} (nonempty : digits ≠ [])
    (all : digits.all isAsciiDigit = true) (ends : rest.head?.all endsValue = true) :
    scan (tokenScanner characters mariadb) () (digits ++ rest) =
      .ok { kind := .number, text := digits } ::
        scan (tokenScanner characters mariadb) () rest := by
  cases digits with
  | nil => exact absurd rfl nonempty
  | cons first others =>
    simp only [List.all_cons, Bool.and_eq_true] at all
    obtain ⟨firstDigit, othersDigits⟩ := all
    have firstAscii : first.toNat < 128 ∧ first.isDigit = true := by
      simpa [isAsciiDigit] using firstDigit
    have stops : rest.head?.all (fun head => !isAsciiDigit head) = true := by
      cases rest with
      | nil => rfl
      | cons head tail =>
        simp only [List.head?_cons, Option.all_some, endsValue, Bool.or_eq_true,
          beq_iff_eq] at ends ⊢
        obtain (rfl | rfl) | rfl := ends <;> decide
    obtain ⟨taken, dropped⟩ := takeWhile_append_of_all othersDigits stops
    have noLetter : first.isAlpha = false ∧ first ≠ '_' := noLetter_of_isDigit firstAscii.2
    have step : tokenStep characters mariadb first (others ++ rest) =
        take .number (first :: others) rest := by
      rw [tokenStep_of_plain (isPlain_of_isAlphanum (by
          rw [Char.isAlphanum, firstAscii.2, Bool.or_true])),
        characters.isAlpha_ascii first firstAscii.1, noLetter.1, if_neg (by simp [noLetter.2]),
        if_pos firstDigit, taken, dropped]
    rw [List.cons_append, scan_step, step]
    rfl

theorem scan_compare (operator : ComparisonOperator) :
    scan (tokenScanner characters mariadb) () (comparisonSql operator ++ ' ' :: rest) =
      .ok { kind := .symbol, text := comparisonSql operator } ::
        scan (tokenScanner characters mariadb) () (' ' :: rest) := by
  have step (first : Char) (others : Text) (starts : first = '=' ∨ first = '<' ∨ first = '>') :
      tokenStep characters mariadb first others =
        if (first :: others.take 1) ∈ pairSymbols then
          take .symbol (first :: others.take 1) (others.drop 1)
        else take .symbol [first] others := by
    have plain : isPlain first = true ∧ first.toNat < 128 ∧ first.isAlpha = false ∧
        first ≠ '_' ∧ isAsciiDigit first = false := by
      obtain rfl | rfl | rfl := starts <;> decide
    obtain ⟨plain, ascii, noLetter, noUnderscore, noDigit⟩ := plain
    rw [tokenStep_of_plain plain, characters.isAlpha_ascii first ascii, noLetter,
      if_neg (by simp [noUnderscore]), if_neg (by simp [noDigit])]
  cases operator with
  | eq =>
    rw [show comparisonSql .eq = ['='] from rfl, List.cons_append, scan_step,
      step '=' _ (by simp)]
    rfl
  | ne =>
    rw [show comparisonSql .ne = ['<', '>'] from rfl, List.cons_append, scan_step,
      step '<' _ (by simp)]
    rfl
  | gt =>
    rw [show comparisonSql .gt = ['>'] from rfl, List.cons_append, scan_step,
      step '>' _ (by simp)]
    rfl
  | gte =>
    rw [show comparisonSql .gte = ['>', '='] from rfl, List.cons_append, scan_step,
      step '>' _ (by simp)]
    rfl
  | lt =>
    rw [show comparisonSql .lt = ['<'] from rfl, List.cons_append, scan_step,
      step '<' _ (by simp)]
    rfl
  | lte =>
    rw [show comparisonSql .lte = ['<', '='] from rfl, List.cons_append, scan_step,
      step '<' _ (by simp)]
    rfl

theorem scan_minus (next : Char) (digit : isAsciiDigit next = true) :
    scan (tokenScanner characters mariadb) () ('-' :: next :: rest) =
      .ok (symbol "-") :: scan (tokenScanner characters mariadb) () (next :: rest) := by
  have differs : next ≠ '-' := by
    rintro rfl
    cases digit
  have noLine : startsLine mariadb ('-' :: next :: rest) = false := by
    unfold startsLine
    split
    · rename_i heads
      cases heads
      exact absurd rfl differs
    · rfl
  have step : tokenStep characters mariadb '-' (next :: rest) =
      take .symbol ['-'] (next :: rest) := by
    unfold tokenStep
    rw [if_neg (by decide), noLine, if_neg (by simp), comment_of_ne (by decide), if_neg (by simp),
      if_neg (by decide), characters.isAlpha_ascii '-' (by decide), if_neg (by decide),
      if_neg (by decide), if_neg (not_mem_pairSymbols rfl _)]
  rw [scan_step, step]
  rfl

theorem quotedValue_doubled {opening close : Char} (plain : opening ≠ '[') (value : Text)
    (ends : rest.head? ≠ some close) :
    quotedValue opening close (Query.doubled close value ++ close :: rest) =
      some (value, rest) := by
  induction value with
  | nil =>
    rw [quotedValue.eq_def]
    cases rest with
    | nil => simp [Query.doubled]
    | cons next others =>
      have differs : next ≠ close := fun same => ends (congrArg some same)
      simp [Query.doubled, differs]
  | cons first others ih =>
    have unfolded : Query.doubled close (first :: others) =
        (if first = close then [close, close] else [first]) ++ Query.doubled close others := rfl
    rw [unfolded, quotedValue.eq_def]
    by_cases same : first = close
    · simp [same, plain, ih]
    · simp [same, ih]

theorem scan_quoted {quote : Char} (isQuote : quote ∈ quotes) (plain : quote ≠ '[') (value : Text)
    (ends : rest.head? ≠ some quote) :
    scan (tokenScanner characters mariadb) () (quotedText quote value ++ rest) =
      .ok { kind := if quote = textQuote then .literal else .identifier, text := value } ::
        scan (tokenScanner characters mariadb) () rest := by
  have body : quotedText quote value ++ rest =
      quote :: (Query.doubled quote value ++ quote :: rest) := by
    simp [quotedText]
  have special : isBlank quote = false ∧ quote ≠ '-' ∧ quote ≠ '/' := by
    simp only [quotes, List.mem_cons, List.not_mem_nil, or_false] at isQuote
    obtain rfl | rfl | rfl | rfl := isQuote <;> decide
  have step : tokenStep characters mariadb quote (Query.doubled quote value ++ quote :: rest) =
      take (if quote = textQuote then .literal else .identifier) value rest := by
    unfold tokenStep
    rw [if_neg (by simp [special.1]), startsLine_of_ne special.2.1, if_neg (by simp),
      comment_of_ne special.2.2, if_neg (by simp), if_pos isQuote, if_neg plain,
      quotedValue_doubled plain value ends]
  rw [body, scan_step, step]
  rfl

end Reader

/-- The catalog reader reads every part as a whole. -/
theorem catalogParts_readBy (characters : Characters) (mariadb : Bool) :
    catalogParts.ReadBy (tokenScanner characters mariadb) := by
  intro part rest allowed
  cases part with
  | blank => exact scan_step
  | mark char =>
    have isMark : isMark char = true := by
      simp only [catalogParts, Part.allows, Bool.or_eq_true, beq_iff_eq] at allowed
      obtain (rfl | rfl) | rfl := allowed <;> decide
    exact scan_mark isMark
  | word text =>
    obtain ⟨keyword, ends⟩ := Bool.and_eq_true_iff.mp allowed
    exact scan_word keyword ends
  | number digits =>
    simp only [catalogParts, Part.allows, Bool.and_eq_true, Bool.not_eq_true',
      List.isEmpty_eq_false_iff] at allowed
    exact scan_number allowed.1.1 allowed.1.2 allowed.2
  | compare operator =>
    cases rest with
    | nil => cases allowed
    | cons next others =>
      simp only [catalogParts, Part.allows, List.head?_cons, beq_iff_eq,
        Option.some.injEq] at allowed
      obtain rfl := allowed
      exact scan_compare operator
  | minus =>
    cases rest with
    | nil => cases allowed
    | cons next others => exact scan_minus next allowed
  | bar => exact scan_mark (by decide)
  | quoted quote value =>
    obtain ⟨isQuote, ends⟩ := Bool.and_eq_true_iff.mp allowed
    simp only [Bool.or_eq_true, beq_iff_eq] at isQuote
    have special : quote ∈ quotes ∧ quote ≠ '[' ∧ endsValue quote = false := by
      obtain (rfl | rfl) | rfl := isQuote <;> decide
    refine scan_quoted special.1 special.2.1 value (fun same => ?_)
    rw [same] at ends
    exact absurd ends (by simp [special.2.2])

theorem mapM_map_ok {α : Type} (results : List α) :
    (results.map (Except.ok (ε := CheckError))).mapM id = .ok results := by
  induction results with
  | nil => rfl
  | cons first rest ih =>
    rw [List.map_cons, List.mapM_cons, ih]
    rfl

/-- The tokens of spaced parts. -/
theorem tokens_texts {characters : Characters} {mariadb : Bool} {parts : List Part}
    (spaced : catalogParts.Spaced parts none) :
    tokens characters mariadb (catalogParts.texts parts) = .ok (parts.flatMap Part.tokens) := by
  have read := Vocabulary.scan_texts (catalogParts_readBy characters mariadb)
    (show catalogParts.Spaced parts ([] : Text).head? from spaced)
  rw [List.append_nil, scan_nil, List.append_nil] at read
  have outputs : parts.flatMap catalogParts.output = (parts.flatMap Part.tokens).map .ok := by
    rw [List.map_flatMap]
    rfl
  rw [tokens, read, outputs, mapM_map_ok]

end Snekql.Checks
