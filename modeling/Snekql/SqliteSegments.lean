import Snekql.MariadbValidation
import Snekql.SqliteBodies

/-!
# The statement validator against SQLite

The segments of a body spell the body. A segment that the splitter skips is blank to SQLite,
and a segment whose leading operation is restricted is refused, exactly when the segment is
guarded. The proof follows the validator's tokens and SQLite's through the first words of a
statement, where they agree up to the first byte-order mark.
-/

namespace Snekql.SqliteBodies

open Snekql.Splicing (Text)
open Snekql.Migrations (isSpace Migration)
open Snekql.MariadbMigrations (CharacterData isAlpha_iff isDigit_iff code_of_isSpace ne_of_code
  letter_of_toUpper startsComment stringQuote backtick)
open Snekql.MariadbMigrations.Server (isIdentifierChar)
open Snekql.Scanning

variable (python : CharacterData)

/-! ## Characters -/

variable {char : Char} {tokens : List Lexeme} {texts : List Text} {text operation rest : Text}

theorem isSpace_of_isLexicalSpace (space : isLexicalSpace char = true) : isSpace char = true := by
  simp only [isLexicalSpace, List.contains_eq_mem, decide_eq_true_eq, List.mem_cons,
    List.not_mem_nil, or_false] at space
  simp only [isSpace, Bool.or_eq_true, decide_eq_true_eq, beq_iff_eq]
  omega

/-- No space starts a comment or a quoted token. -/
theorem extent_space (rest : Text) (space : isSpace char = true) : extent char rest = .plain := by
  have code := code_of_isSpace space
  have other (mark : Char) (low : 32 < mark.toNat) (high : mark.toNat < 128) :
      (char == mark) = false := by
    refine beq_eq_false_iff_ne.mpr (ne_of_code ?_)
    omega
  simp [extent, startsComment, isOpening, other '-' (by decide) (by decide),
    other '/' (by decide) (by decide), other stringQuote (by decide) (by decide),
    other '"' (by decide) (by decide), other backtick (by decide) (by decide),
    other '[' (by decide) (by decide)]

theorem isBareComment_space (rest : Text) (space : isSpace char = true) :
    isBareComment char rest = false := by
  have slash : (char == '/') = false := by
    refine beq_eq_false_iff_ne.mpr ?_
    rintro rfl
    exact absurd space (by decide)
  rw [isBareComment, slash, Bool.false_and]

/-- A space that only Python knows is a token of SQLite, and not a semicolon. -/
theorem plainLexeme_space (rest : Text) (space : isSpace char = true) :
    plainLexeme char rest ≠ .byteOrderMark ∧ plainLexeme char rest ≠ .mark ';' := by
  have mark : char ≠ byteOrderMark := by
    rintro rfl
    exact absurd space (by decide)
  have semicolon : char ≠ ';' := by
    rintro rfl
    exact absurd space (by decide)
  unfold plainLexeme
  rw [if_neg mark]
  split
  · exact ⟨nofun, nofun⟩
  · refine ⟨nofun, ?_⟩
    rintro same
    cases same
    exact semicolon rfl

theorem startsWord_semicolon : startsWord python ';' = false := by
  rw [startsWord, python.isAlpha_ascii ';' (by decide)]
  decide

/-! ## Scanning equations -/

theorem sqlTokens_cons (char : Char) (rest : Text) :
    sqlTokens python (char :: rest) = (tokenStep python () char rest).output ++
      sqlTokens python (tokenStep python () char rest).remaining :=
  scan_cons (tokenScanner python) () char rest

theorem lexemes_cons (char : Char) (rest : Text) :
    lexemes (char :: rest) = (lexemeStep () char rest).output ++
      lexemes (lexemeStep () char rest).remaining :=
  scan_cons lexemeScanner () char rest

theorem pieces_cons (char : Char) (rest : Text) :
    pieces (char :: rest) = (pieceStep () char rest).output ++
      pieces (pieceStep () char rest).remaining :=
  scan_cons pieceScanner () char rest

/-- Induction along a text, in which every shorter text may be met again. -/
theorem text_induction {motive : Text → Prop} (nil : motive [])
    (cons : ∀ char rest, (∀ later : Text, later.length ≤ rest.length → motive later) →
      motive (char :: rest)) (text : Text) : motive text := by
  have bounded (bound : Nat) (text : Text) (short : text.length ≤ bound) : motive text := by
    induction bound generalizing text with
    | zero =>
      obtain rfl : text = [] := List.length_eq_zero_iff.mp (by omega)
      exact nil
    | succ bound ih =>
      cases text with
      | nil => exact nil
      | cons char rest =>
        simp only [List.length_cons] at short
        exact cons char rest (fun later shorter => ih later (by omega))
  exact bounded text.length text (Nat.le_refl _)

theorem bareComment_eq (bare : isBareComment char rest = true) : char = '/' ∧ rest = ['*'] := by
  simpa [isBareComment] using bare

/-! ## Skipped segments -/

/-- The splitter skips exactly the segments that look blank. -/
theorem isSkipped_eq (unicode : Unicode) (sql : Text) :
    isSkipped unicode.toCharacterData sql =
      (pieces sql).all (Piece.looksBlank unicode.toCharacterData) := by
  induction sql using text_induction with
  | nil => rfl
  | cons char rest ih =>
    have later := ih
    unfold isSkipped at later ⊢
    rw [sqlTokens_cons, pieces_cons, List.all_append, List.all_append]
    by_cases space : isSpace char = true
    · simp only [tokenStep, pieceStep, if_pos space]
      rw [later rest (Nat.le_refl _)]
      rfl
    · by_cases bare : isBareComment char rest = true
      · obtain ⟨rfl, rfl⟩ := bareComment_eq bare
        rfl
      · simp only [tokenStep, pieceStep, if_neg space, if_neg bare]
        have shrinks := extent_shrinks char (Nat.le_refl rest.length)
        cases kind : extent char rest with
        | comment after =>
          rw [kind] at shrinks
          simp only [Extent.remaining]
          rw [later after shrinks]
          rfl
        | quoted content after =>
          rw [kind] at shrinks
          simp only [Extent.remaining, List.all_cons, List.all_nil, Bool.and_true]
          rw [later after shrinks]
          rfl
        | plain =>
          simp only [Extent.remaining, List.all_cons, List.all_nil, Bool.and_true, Piece.looksBlank]
          by_cases semicolon : char = ';'
          · subst semicolon
            have plain := startsWord_semicolon unicode.toCharacterData
            rw [plainToken, afterPlainToken, plain]
            simp only [Bool.false_eq_true, if_false]
            rw [later rest (Nat.le_refl _)]
            rfl
          · have token : plainToken unicode.toCharacterData char rest ≠ [';'] := by
              unfold plainToken
              split
              · rename_i starts
                refine unicode.upper_word char _ ?_
                simpa [startsWord] using starts
              · simpa using semicolon
            rw [beq_eq_false_iff_ne.mpr token, beq_eq_false_iff_ne.mpr semicolon,
              Bool.false_and, Bool.false_and]

/-- All that SQLite's parser sees is semicolons. -/
def isEmptyStatement (sql : Text) : Bool := (visible (lexemes sql)).all (· == .mark ';')

theorem visible_append (first second : List Lexeme) :
    visible (first ++ second) = visible first ++ visible second :=
  List.filter_append _ _

/-- Among the segments that look blank, those without tokens are the ones made of SQLite's own
spaces, comments and semicolons. -/
theorem isEmptyStatement_eq (sql : Text)
    (looks : (pieces sql).all (Piece.looksBlank python) = true) :
    isEmptyStatement sql = (pieces sql).all Piece.isBlank := by
  induction sql using text_induction with
  | nil => rfl
  | cons char rest ih =>
    have later := ih
    unfold isEmptyStatement at later ⊢
    rw [pieces_cons, List.all_append, Bool.and_eq_true] at looks
    rw [lexemes_cons, pieces_cons, visible_append, List.all_append, List.all_append]
    by_cases space : isSpace char = true
    · by_cases lexical : isLexicalSpace char = true
      · simp only [pieceStep, if_pos space] at looks
        simp only [lexemeStep, pieceStep, if_pos space, if_pos lexical]
        rw [later rest (Nat.le_refl _) looks.2]
        simp [visible, Piece.isBlank, lexical]
      · have bare := isBareComment_space rest space
        obtain ⟨shown, other⟩ := plainLexeme_space rest space
        simp [lexemeStep, pieceStep, space, lexical, bare, extent_space rest space, visible,
          Piece.isBlank, shown, other]
    · have lexical : isLexicalSpace char ≠ true := fun known =>
        space (isSpace_of_isLexicalSpace known)
      by_cases bare : isBareComment char rest = true
      · obtain ⟨rfl, rfl⟩ := bareComment_eq bare
        rfl
      · simp only [pieceStep, if_neg space, if_neg bare] at looks
        simp only [lexemeStep, pieceStep, if_neg space, if_neg bare, if_neg lexical]
        have shrinks := extent_shrinks char (Nat.le_refl rest.length)
        cases kind : extent char rest with
        | comment after =>
          rw [kind] at shrinks looks
          simp only [Extent.remaining] at looks ⊢
          rw [later after shrinks looks.2]
          rfl
        | quoted content after => simp [visible, Piece.isBlank]
        | plain =>
          rw [kind] at looks
          have semicolon : char = ';' := by
            simpa [Piece.looksBlank] using looks.1
          subst semicolon
          simp only [Extent.remaining] at looks ⊢
          have onward : afterPlainLexeme ';' rest = rest := by
            unfold afterPlainLexeme
            rw [if_neg (by decide), if_neg (by decide)]
          have token : plainLexeme ';' rest = .mark ';' := by
            unfold plainLexeme
            rw [if_neg (by decide), if_neg (by decide)]
          rw [onward, token, later rest (Nat.le_refl _) looks.2]
          rfl

/-! ## Leading words -/

/-- The text that the validator reads at a token, where the two surely agree: at a byte-order
mark, and at a word of ASCII letters. -/
def spelling : Lexeme → Option Text
  | .byteOrderMark => some [byteOrderMark]
  | .word word => if word.all Char.isAlpha then some (folded word) else none
  | _ => none

/-- The tokens of one text, as SQLite and as the validator read them. -/
def Agree (tokens : List Lexeme) (texts : List Text) : Prop :=
  ∃ sql, tokens = lexemes sql ∧ texts = sqlTokens python sql

theorem isAlpha_ascii_of_letter (letter : char.isAlpha = true) : char.toNat < 128 := by
  have code := (isAlpha_iff char).mp letter
  omega

theorem continuesWord_of_letter (letter : char.isAlpha = true) :
    continuesWord python char = true := by
  rw [continuesWord, python.isAlnum_ascii char (isAlpha_ascii_of_letter letter), Char.isAlphanum,
    letter]
  rfl

theorem continuesWord_of_not_identifier (outside : isIdentifierChar char = false) :
    continuesWord python char = false := by
  simp only [isIdentifierChar, Bool.or_eq_false_iff, decide_eq_false_iff_not, not_le] at outside
  obtain ⟨⟨⟨alphanumeric, underscore⟩, _⟩, ascii⟩ := outside
  rw [continuesWord, python.isAlnum_ascii char ascii, alphanumeric, underscore]
  rfl

/-- A run of letters that SQLite ends is ended by the validator too. -/
theorem letters_run (letters : ∀ char ∈ rest.takeWhile isIdentifierChar, char.isAlpha = true) :
    rest.takeWhile (continuesWord python) = rest.takeWhile isIdentifierChar ∧
      rest.dropWhile (continuesWord python) = rest.dropWhile isIdentifierChar := by
  induction rest with
  | nil => exact ⟨rfl, rfl⟩
  | cons char rest ih =>
    by_cases inside : isIdentifierChar char = true
    · rw [List.takeWhile_cons_of_pos inside] at letters
      have continues := continuesWord_of_letter python (letters char List.mem_cons_self)
      obtain ⟨taken, dropped⟩ := ih
        (fun next listed => letters next (List.mem_cons_of_mem char listed))
      rw [List.takeWhile_cons_of_pos inside, List.takeWhile_cons_of_pos continues,
        List.dropWhile_cons_of_pos inside, List.dropWhile_cons_of_pos continues, taken, dropped]
      exact ⟨rfl, rfl⟩
    · have stops : ¬continuesWord python char = true := by
        rw [continuesWord_of_not_identifier python (Bool.eq_false_iff.mpr inside)]
        exact Bool.false_ne_true
      rw [List.takeWhile_cons_of_neg inside, List.takeWhile_cons_of_neg stops,
        List.dropWhile_cons_of_neg inside, List.dropWhile_cons_of_neg stops]
      exact ⟨rfl, rfl⟩

theorem isSpace_of_spelling (spelled : spelling (plainLexeme char rest) = some text) :
    ¬isSpace char = true := by
  intro space
  unfold plainLexeme at spelled
  split at spelled
  · rename_i mark
    subst mark
    exact absurd space (by decide)
  · split at spelled
    · simp only [spelling, Option.ite_none_right_eq_some, List.all_eq_true] at spelled
      have letter := (isAlpha_iff char).mp (spelled.1 char List.mem_cons_self)
      have code := code_of_isSpace space
      omega
    · cases spelled

/-- Where the spelling of a plain character is known, both scanners go on at the same place. -/
theorem plain_agrees (unicode : Unicode) (spelled : spelling (plainLexeme char rest) = some text) :
    plainToken unicode.toCharacterData char rest = text ∧
      afterPlainToken unicode.toCharacterData char rest = afterPlainLexeme char rest := by
  unfold plainLexeme at spelled
  unfold plainToken afterPlainToken afterPlainLexeme
  by_cases mark : char = byteOrderMark
  · subst mark
    rw [if_pos rfl] at spelled
    cases spelled
    have starts : startsWord unicode.toCharacterData byteOrderMark = false := by
      rw [startsWord, unicode.isAlpha_byteOrderMark]
      decide
    rw [starts, if_pos rfl]
    exact ⟨rfl, rfl⟩
  · rw [if_neg mark] at spelled
    rw [if_neg mark]
    by_cases identifier : startsIdentifier char = true
    · rw [if_pos identifier] at spelled
      simp only [spelling, Option.ite_none_right_eq_some, List.all_eq_true, Option.some.injEq]
        at spelled
      obtain ⟨letters, rfl⟩ := spelled
      have first := letters char List.mem_cons_self
      have ascii : ∀ next ∈ char :: rest.takeWhile isIdentifierChar, next.toNat < 128 :=
        fun next listed => isAlpha_ascii_of_letter (letters next listed)
      obtain ⟨taken, dropped⟩ := letters_run unicode.toCharacterData
        (fun next listed => letters next (List.mem_cons_of_mem char listed))
      have starts : startsWord unicode.toCharacterData char = true := by
        rw [startsWord, unicode.isAlpha_ascii char (isAlpha_ascii_of_letter first), first]
        rfl
      rw [if_pos starts, if_pos starts, identifier, Bool.true_or, if_pos rfl, taken, dropped,
        unicode.upper_ascii _ ascii]
      exact ⟨rfl, rfl⟩
    · rw [if_neg identifier] at spelled
      cases spelled

/-- Both read the same first token where its spelling is known, and go on at the same place. -/
theorem Agree.cons (unicode : Unicode) {token : Lexeme}
    (agree : Agree unicode.toCharacterData (token :: tokens) texts)
    (spelled : spelling token = some text) :
    ∃ rest, texts = text :: rest ∧ Agree unicode.toCharacterData tokens rest := by
  obtain ⟨sql, read, rfl⟩ := agree
  induction sql using text_induction with
  | nil => cases read
  | cons char rest ih =>
    rw [lexemes_cons] at read
    rw [sqlTokens_cons]
    by_cases lexical : isLexicalSpace char = true
    · have space := isSpace_of_isLexicalSpace lexical
      simp only [lexemeStep, if_pos lexical] at read
      simp only [tokenStep, if_pos space]
      exact ih rest (Nat.le_refl _) read
    · by_cases bare : isBareComment char rest = true
      · simp only [lexemeStep, if_neg lexical, if_pos bare] at read
        cases read
        cases spelled
      · simp only [lexemeStep, if_neg lexical, if_neg bare] at read
        have shrinks := extent_shrinks char (Nat.le_refl rest.length)
        cases kind : extent char rest with
        | comment after =>
          rw [kind] at shrinks
          have space : ¬isSpace char = true := by
            intro space
            rw [extent_space rest space] at kind
            cases kind
          simp only [kind] at read
          simp only [tokenStep, if_neg space, kind]
          exact ih after shrinks read
        | quoted content after =>
          simp only [kind] at read
          cases read
          cases spelled
        | plain =>
          simp only [kind, Extent.remaining] at read
          obtain ⟨rfl, onward⟩ := List.cons.inj read
          obtain ⟨same, after⟩ := plain_agrees unicode spelled
          have space := isSpace_of_spelling spelled
          simp only [tokenStep, if_neg space, kind, Extent.remaining]
          rw [same, after]
          exact ⟨_, rfl, _, onward, rfl⟩

/-! ## The operation -/

theorem restricted_words : ∀ word ∈ restrictedFirstKeywords,
    word.all (fun char => decide (65 ≤ char.toNat ∧ char.toNat ≤ 90)) = true ∧
      word ≠ "EXPLAIN".toList ∧ word ≠ "QUERY".toList ∧ word ≠ "WITH".toList ∧
      word ≠ [byteOrderMark] := by
  simp [restrictedFirstKeywords, byteOrderMark]

theorem cteOperations_unrestricted : ∀ word ∈ cteOperations, word ∉ restrictedFirstKeywords := by
  simp [cteOperations, restrictedFirstKeywords]

/-- A word that folds to capitals is spelled by them. -/
theorem spelling_of_folded {word keyword : Text} (same : folded word = keyword)
    (capitals : keyword.all (fun char => decide (65 ≤ char.toNat ∧ char.toNat ≤ 90)) = true) :
    spelling (.word word) = some keyword := by
  have letters : word.all Char.isAlpha = true := by
    rw [List.all_eq_true]
    intro char listed
    rw [← same, List.all_eq_true] at capitals
    have capital := of_decide_eq_true (capitals char.toUpper (List.mem_map.mpr ⟨char, listed, rfl⟩))
    obtain letter | rfl := letter_of_toUpper (Or.inl capital)
    · exact letter
    · exact absurd capital (by decide)
  rw [spelling, if_pos letters, same]

theorem cteOperation_listed {depth : Int} {completedCte : Bool} {candidate found : Nat}
    {tokens : List Text} (located : cteOperation depth completedCte candidate tokens = some found) :
    candidate ≤ found ∧ ∃ token ∈ cteOperations, tokens[found - candidate]? = some token := by
  induction tokens generalizing depth completedCte candidate with
  | nil => cases located
  | cons token rest ih =>
    have later {depth : Int} {completedCte : Bool}
        (located : cteOperation depth completedCte (candidate + 1) rest = some found) :
        candidate ≤ found ∧
          ∃ token' ∈ cteOperations, (token :: rest)[found - candidate]? = some token' := by
      obtain ⟨behind, token', listed, position⟩ := ih located
      refine ⟨by omega, token', listed, ?_⟩
      rw [show found - candidate = found - (candidate + 1) + 1 by omega, List.getElem?_cons_succ]
      exact position
    unfold cteOperation at located
    split at located
    · exact later located
    · split at located
      · exact later located
      · split at located
        · exact later located
        · split at located
          · rename_i operation
            cases located
            simp only [Bool.and_eq_true, List.contains_eq_mem, decide_eq_true_eq] at operation
            exact ⟨Nat.le_refl _, token, operation.2, by rw [Nat.sub_self]; rfl⟩
          · exact later located

/-- Behind `WITH` the keyword is the clause itself or an operation that may follow it. -/
theorem operationKeyword_with {tokens : List Text}
    (clause : tokens[explainedIndex tokens]? = some "WITH".toList) :
    operationKeyword tokens ∉ restrictedFirstKeywords := by
  rw [operationKeyword, operationIndex, if_pos clause]
  cases located : cteOperation 0 false (explainedIndex tokens + 1)
      (tokens.drop (explainedIndex tokens + 1)) with
  | none =>
    rw [Option.getD_none, List.getD_eq_getElem?_getD, clause]
    intro restricted
    exact (restricted_words _ restricted).2.2.2.1 rfl
  | some found =>
    obtain ⟨behind, token, listed, position⟩ := cteOperation_listed located
    rw [List.getElem?_drop, show explainedIndex tokens + 1 + (found - (explainedIndex tokens + 1)) =
      found by omega] at position
    rw [Option.getD_some, List.getD_eq_getElem?_getD, position]
    exact cteOperations_unrestricted token listed

/-- Anything else in that place is the keyword. -/
theorem operationKeyword_plain {tokens : List Text} {token : Text}
    (place : tokens[explainedIndex tokens]? = some token) (other : token ≠ "WITH".toList) :
    operationKeyword tokens = token := by
  have inside : explainedIndex tokens < tokens.length := by
    rw [List.getElem?_eq_some_iff] at place
    exact place.1
  have skipped : tokens[explainedIndex tokens]? ≠ some "WITH".toList := by
    rw [place]
    intro same
    exact other (Option.some.inj same)
  rw [operationKeyword, operationIndex, if_neg skipped,
    Nat.min_eq_left (by omega), List.getD_eq_getElem?_getD, place]
  rfl

theorem explainedIndex_other {token : Text} {rest : List Text} (other : token ≠ "EXPLAIN".toList) :
    explainedIndex (token :: rest) = 0 := by
  unfold explainedIndex
  rw [if_neg]
  rintro ⟨head, _⟩
  exact other (Option.some.inj head)

theorem explainedIndex_plan (rest : List Text) :
    explainedIndex ("EXPLAIN".toList :: "QUERY".toList :: "PLAN".toList :: rest) = 3 := by
  unfold explainedIndex
  rw [if_pos ⟨rfl, by simp⟩]
  exact if_pos rfl

theorem explainedIndex_explain {token : Text} {rest : List Text}
    (other : token ≠ "QUERY".toList ∨ rest.head? ≠ some "PLAN".toList) :
    explainedIndex ("EXPLAIN".toList :: token :: rest) = 1 := by
  unfold explainedIndex
  rw [if_pos ⟨rfl, by simp⟩]
  refine if_neg ?_
  intro same
  cases rest with
  | nil => cases same
  | cons next rest =>
    simp only [List.drop_succ_cons, List.drop_zero, List.take_succ_cons, List.take_zero,
      List.cons.injEq, and_true] at same
    obtain ⟨rfl, rfl⟩ := same
    simp at other

/-- What is found where a statement starts: the operation itself, or something that SQLite
skips and the validator takes for the keyword. -/
inductive Found (tokens : List Lexeme) (operation text : Text) : Prop
  | immediate (leads : leadingWord tokens = some operation) (same : text = operation)
  | hidden (behind : leadingWord tokens ≠ some operation)
      (skipped : text = "WITH".toList ∨ text = [byteOrderMark])

/-- Read a statement, once `EXPLAIN` is behind. -/
theorem Agree.found (unicode : Unicode) {after : Option Text}
    (agree : Agree unicode.toCharacterData tokens texts)
    (restricted : operation ∈ restrictedFirstKeywords) (leading : (if leadingWord (visible tokens) = some "WITH".toList then after
      else leadingWord (visible tokens)) = some operation) :
    ∃ text rest, texts = text :: rest ∧ Found tokens operation text := by
  obtain ⟨capitals, _, _, clause, _⟩ := restricted_words operation restricted
  cases tokens with
  | nil => cases leading
  | cons token tokens =>
    cases token with
    | byteOrderMark =>
      obtain ⟨rest, rfl, _⟩ := agree.cons unicode rfl
      exact ⟨_, rest, rfl, .hidden nofun (Or.inr rfl)⟩
    | word word =>
      by_cases opens : folded word = "WITH".toList
      · obtain ⟨rest, rfl, _⟩ := agree.cons unicode (spelling_of_folded opens (by decide))
        refine ⟨_, rest, rfl, .hidden ?_ (Or.inl rfl)⟩
        intro leads
        exact clause ((Option.some.inj leads).symm.trans opens)
      · have leads : leadingWord (visible (.word word :: tokens)) = some (folded word) := rfl
        rw [leads, if_neg (fun same => opens (Option.some.inj same))] at leading
        have same := Option.some.inj leading
        obtain ⟨rest, rfl, _⟩ := agree.cons unicode (spelling_of_folded same capitals)
        exact ⟨_, rest, rfl, .immediate leading rfl⟩
    | quoted | mark => cases leading

/-- What the validator makes of a statement whose operation is restricted. -/
inductive Verdict (tokens : List Lexeme) (operation : Text) (texts : List Text) : Prop
  | refused (leads : leadingWord (afterExplain tokens) = some operation)
      (keyword : operationKeyword texts = operation)
  | unseen (behind : leadingWord (afterExplain tokens) ≠ some operation)
      (keyword : operationKeyword texts ∉ restrictedFirstKeywords)
      (creates : texts.head? ≠ some "CREATE".toList) (blank : texts.head? ≠ some [';'])
      (nonempty : texts ≠ [])

/-- The finding at the start of the statement decides the verdict. -/
theorem Found.verdict (restricted : operation ∈ restrictedFirstKeywords)
    (found : Found (afterExplain tokens) operation text)
    (place : texts[explainedIndex texts]? = some text)
    (first : texts.head? = some text ∨ texts.head? = some "EXPLAIN".toList) :
    Verdict tokens operation texts := by
  obtain ⟨_, _, _, clause, _⟩ := restricted_words operation restricted
  cases found with
  | immediate leads same =>
    subst same
    exact .refused leads (operationKeyword_plain place clause)
  | hidden behind skipped =>
    have keyword : operationKeyword texts ∉ restrictedFirstKeywords := by
      obtain rfl | rfl := skipped
      · exact operationKeyword_with place
      · rw [operationKeyword_plain place (by decide)]
        intro listed
        exact (restricted_words _ listed).2.2.2.2 rfl
    have head : texts.head? = some "WITH".toList ∨ texts.head? = some [byteOrderMark] ∨
        texts.head? = some "EXPLAIN".toList := by
      obtain head | head := first
      · obtain rfl | rfl := skipped
        · exact Or.inl head
        · exact Or.inr (Or.inl head)
      · exact Or.inr (Or.inr head)
    refine .unseen behind keyword ?_ ?_ ?_
    · obtain head | head | head := head <;> (rw [head]; decide)
    · obtain head | head | head := head <;> (rw [head]; decide)
    · rintro rfl
      cases place

/-- A first word that is not the operation, `WITH` or a byte-order mark is not found. -/
theorem Found.ne {keyword : String} (found : Found tokens operation text)
    (other : operation ≠ keyword.toList) (clause : keyword.toList ≠ "WITH".toList)
    (marked : keyword.toList ≠ [byteOrderMark]) : text ≠ keyword.toList := by
  rintro rfl
  cases found with
  | immediate _ same => exact other same.symm
  | hidden _ skipped =>
    obtain same | same := skipped
    · exact clause same
    · exact marked same

/-- Only a byte-order mark in front hides the first word. -/
theorem leadingWord_visible (tokens : List Lexeme) :
    (∃ rest, tokens = .byteOrderMark :: rest) ∨
      leadingWord (visible tokens) = leadingWord tokens := by
  cases tokens with
  | nil => exact Or.inr rfl
  | cons token rest =>
    cases token with
    | byteOrderMark => exact Or.inl ⟨rest, rfl⟩
    | word | quoted | mark => exact Or.inr rfl

theorem leadingWord_eq_some {keyword : Text} (leads : leadingWord tokens = some keyword) :
    ∃ word rest, tokens = .word word :: rest ∧ folded word = keyword := by
  unfold leadingWord at leads
  split at leads
  · exact ⟨_, _, rfl, Option.some.inj leads⟩
  · cases leads

/-- Both read a keyword in front. -/
theorem Agree.keyword (unicode : Unicode) {keyword : Text}
    (agree : Agree unicode.toCharacterData tokens texts)
    (capitals : keyword.all (fun char => decide (65 ≤ char.toNat ∧ char.toNat ≤ 90)) = true)
    (leads : leadingWord tokens = some keyword) :
    ∃ word tokens' texts', tokens = .word word :: tokens' ∧ texts = keyword :: texts' ∧
      Agree unicode.toCharacterData tokens' texts' := by
  obtain ⟨word, tokens', rfl, same⟩ := leadingWord_eq_some leads
  obtain ⟨texts', rfl, agree'⟩ := agree.cons unicode (spelling_of_folded same capitals)
  exact ⟨word, tokens', texts', rfl, rfl, agree'⟩

section

variable (unicode : Unicode) {operation : Text}
  (restricted : operation ∈ restrictedFirstKeywords)

include restricted

/-- After `EXPLAIN QUERY` the validator stops unless `PLAN` follows at once. -/
theorem Agree.verdict_query {explain query : Text} (explains : folded explain = "EXPLAIN".toList)
    (queries : folded query = "QUERY".toList) (agree : Agree unicode.toCharacterData tokens texts)
    (leading : operationOf (visible (.word explain :: .word query :: tokens)) = some operation) :
    Verdict (.word explain :: .word query :: tokens) operation
      ("EXPLAIN".toList :: "QUERY".toList :: texts) := by
  obtain ⟨_, _, queried, _, _⟩ := restricted_words operation restricted
  have first (more : List Lexeme) : leadingWord (.word explain :: more) = some "EXPLAIN".toList :=
    congrArg some explains
  have second (more : List Lexeme) : leadingWord (.word query :: more) = some "QUERY".toList :=
    congrArg some queries
  by_cases planned : leadingWord tokens = some "PLAN".toList
  · obtain ⟨word, tokens, texts, rfl, rfl, later⟩ := agree.keyword unicode (by decide) planned
    have skip (more : List Lexeme) :
        afterExplain (.word explain :: .word query :: .word word :: more) = more := by
      unfold afterExplain
      rw [if_pos (first _), if_pos ⟨second _, planned⟩]
      rfl
    have statement : afterExplain (visible (.word explain :: .word query :: .word word :: tokens)) =
        visible tokens := skip (visible tokens)
    simp only [operationOf, statement] at leading
    obtain ⟨text, rest, rfl, found⟩ := later.found unicode restricted leading
    refine Found.verdict restricted ((skip tokens).symm ▸ found) ?_ (Or.inr rfl)
    rw [explainedIndex_plan]
    rfl
  · have stays : afterExplain (.word explain :: .word query :: tokens) = .word query :: tokens := by
      unfold afterExplain
      rw [if_pos (first _), if_neg (fun both => planned both.2)]
      rfl
    obtain ⟨tokens, rfl⟩ | same := leadingWord_visible tokens
    · obtain ⟨texts, rfl, _⟩ := agree.cons unicode rfl
      have place : ("EXPLAIN".toList :: "QUERY".toList :: [byteOrderMark] :: texts)[explainedIndex
          ("EXPLAIN".toList :: "QUERY".toList :: [byteOrderMark] :: texts)]? =
          some "QUERY".toList := by
        have stops : ([byteOrderMark] :: texts).head? ≠ some "PLAN".toList := by
          show some [byteOrderMark] ≠ some "PLAN".toList
          decide
        rw [explainedIndex_explain (Or.inr stops)]
        rfl
      refine .unseen ?_ ?_ (show some "EXPLAIN".toList ≠ some "CREATE".toList by decide)
        (show some "EXPLAIN".toList ≠ some [';'] by decide) nofun
      · rw [stays, second]
        exact fun leads => queried (Option.some.inj leads).symm
      · rw [operationKeyword_plain place (by decide)]
        intro listed
        exact (restricted_words _ listed).2.2.1 rfl
    · have statement : afterExplain (visible (.word explain :: .word query :: tokens)) =
          .word query :: visible tokens := by
        show afterExplain (.word explain :: .word query :: visible tokens) = _
        unfold afterExplain
        rw [if_pos (first _), if_neg (fun both => planned (same.symm.trans both.2))]
        rfl
      simp only [operationOf, statement] at leading
      rw [second, if_neg (by decide)] at leading
      exact absurd (Option.some.inj leading).symm queried

/-- After `EXPLAIN`. -/
theorem Agree.verdict_explain {explain : Text} (explains : folded explain = "EXPLAIN".toList)
    (agree : Agree unicode.toCharacterData tokens texts)
    (leading : operationOf (visible (.word explain :: tokens)) = some operation) :
    Verdict (.word explain :: tokens) operation ("EXPLAIN".toList :: texts) := by
  obtain ⟨_, _, queried, _, _⟩ := restricted_words operation restricted
  have first (more : List Lexeme) : leadingWord (.word explain :: more) = some "EXPLAIN".toList :=
    congrArg some explains
  by_cases queries : leadingWord tokens = some "QUERY".toList
  · obtain ⟨query, tokens, texts, rfl, rfl, later⟩ := agree.keyword unicode (by decide) queries
    exact later.verdict_query unicode restricted explains (Option.some.inj queries) leading
  · have skip : afterExplain (.word explain :: tokens) = tokens := by
      unfold afterExplain
      rw [if_pos (first _), if_neg (fun both => queries both.1)]
      rfl
    have settled {text : Text} {rest : List Text} (found : Found tokens operation text) :
        Verdict (.word explain :: tokens) operation ("EXPLAIN".toList :: text :: rest) := by
      have other : text ≠ "QUERY".toList := found.ne queried (by decide) (by decide)
      refine Found.verdict restricted (skip.symm ▸ found) ?_ (Or.inr rfl)
      rw [explainedIndex_explain (Or.inl other)]
      rfl
    obtain ⟨tokens, rfl⟩ | same := leadingWord_visible tokens
    · obtain ⟨texts, rfl, _⟩ := agree.cons unicode rfl
      exact settled (.hidden nofun (Or.inr rfl))
    · have statement : afterExplain (visible (.word explain :: tokens)) = visible tokens := by
        show afterExplain (.word explain :: visible tokens) = _
        unfold afterExplain
        rw [if_pos (first _), if_neg (fun both => queries (same.symm.trans both.1))]
        rfl
      simp only [operationOf, statement] at leading
      obtain ⟨text, rest, rfl, found⟩ := agree.found unicode restricted leading
      exact settled found

/-- The validator's verdict on a statement with a restricted operation. A byte-order mark on
the way makes the validator stop there. -/
theorem Agree.verdict (agree : Agree unicode.toCharacterData tokens texts)
    (leading : operationOf (visible tokens) = some operation) : Verdict tokens operation texts := by
  obtain ⟨_, explained, _, _, _⟩ := restricted_words operation restricted
  by_cases explains : leadingWord tokens = some "EXPLAIN".toList
  · obtain ⟨explain, tokens, texts, rfl, rfl, later⟩ := agree.keyword unicode (by decide) explains
    exact later.verdict_explain unicode restricted (Option.some.inj explains) leading
  · have stays : afterExplain tokens = tokens := if_neg explains
    have settled {text : Text} {rest : List Text} (found : Found tokens operation text) :
        Verdict tokens operation (text :: rest) := by
      have other : text ≠ "EXPLAIN".toList := found.ne explained (by decide) (by decide)
      refine Found.verdict restricted (stays.symm ▸ found) ?_ (Or.inl rfl)
      rw [explainedIndex_other other]
      rfl
    obtain ⟨tokens, rfl⟩ | same := leadingWord_visible tokens
    · obtain ⟨texts, rfl, _⟩ := agree.cons unicode rfl
      exact settled (.hidden nofun (Or.inr rfl))
    · have statement : afterExplain (visible tokens) = visible tokens :=
        if_neg (fun leads => explains (same.symm.trans leads))
      simp only [operationOf, statement] at leading
      obtain ⟨text, rest, rfl, found⟩ := agree.found unicode restricted leading
      exact settled found

end

/-! ## Segments -/

/-- The segments spell the text. -/
theorem segmentsFrom_flatten (complete : Text → Bool) (current sql : Text) :
    (segmentsFrom complete current sql).flatten = current ++ sql := by
  induction sql generalizing current with
  | nil => simp [segmentsFrom]
  | cons char rest ih =>
    unfold segmentsFrom
    split
    · rw [List.flatten_cons, ih]
      simp
    · rw [ih]
      simp

/-- The statement is refused before anything runs. -/
def isRefused (migration : Migration) (sql : Text) : Prop :=
  ∃ error, validateSqliteStatement python migration sql = .error error

theorem isRefused_iff (migration : Migration) (sql : Text) :
    isRefused python migration sql ↔
      sqlTokens python sql = [] ∨
        operationKeyword (sqlTokens python sql) ∈ restrictedFirstKeywords ∨
        createsTemporary (sqlTokens python sql) = true ∨
        usesTempSchema (sqlTokens python sql) = true := by
  unfold isRefused validateSqliteStatement
  simp only [List.contains_eq_mem, decide_eq_true_eq]
  constructor
  · rintro ⟨error, refused⟩
    by_contra accepted
    simp only [not_or] at accepted
    obtain ⟨tokens, keyword, creates, uses⟩ := accepted
    rw [if_neg tokens, if_neg keyword, if_neg creates, if_neg uses] at refused
    cases refused
  · intro refused
    split
    · exact ⟨_, rfl⟩
    · split
      · exact ⟨_, rfl⟩
      · split
        · exact ⟨_, rfl⟩
        · split
          · exact ⟨_, rfl⟩
          · simp_all

/-- What a segment promises: skipped only if SQLite sees no token, refused if its leading
operation is restricted. -/
def Sound (migration : Migration) (segment : Text) : Prop :=
  (isSkipped python segment = true →
    ∀ token ∈ visible (lexemes segment), token = .mark ';') ∧
  (isSkipped python segment = false → ∀ operation,
    leadingOperation segment = some operation → operation ∈ restrictedFirstKeywords →
      isRefused python migration segment)

theorem all_semicolons_iff (sql : Text) :
    isEmptyStatement sql = true ↔ ∀ token ∈ visible (lexemes sql), token = .mark ';' := by
  simp only [isEmptyStatement, List.all_eq_true, beq_iff_eq]

theorem createsTemporary_of_head (first : texts.head? ≠ some "CREATE".toList) :
    createsTemporary texts = false := by
  rw [createsTemporary, beq_eq_false_iff_ne.mpr first, Bool.false_and]

/-- With a restricted operation a statement is refused if the operation is immediate or the
temporary schema is used, and only then. -/
theorem isRefused_restricted (unicode : Unicode) (migration : Migration) {sql : Text}
    (leading : leadingOperation sql = some operation)
    (restricted : operation ∈ restrictedFirstKeywords) :
    isRefused unicode.toCharacterData migration sql ↔
      immediateOperation sql = some operation ∨
        usesTempSchema (sqlTokens unicode.toCharacterData sql) = true := by
  have agree : Agree unicode.toCharacterData (lexemes sql)
      (sqlTokens unicode.toCharacterData sql) := ⟨sql, rfl, rfl⟩
  rw [isRefused_iff]
  cases agree.verdict unicode restricted leading with
  | refused leads keyword =>
    rw [keyword]
    exact ⟨fun _ => Or.inl leads, fun _ => Or.inr (Or.inl restricted)⟩
  | unseen behind keyword first _ nonempty =>
    constructor
    · rintro (empty | listed | creates | uses)
      · exact absurd empty nonempty
      · exact absurd listed keyword
      · rw [createsTemporary_of_head first] at creates
        cases creates
      · exact Or.inr uses
    · rintro (leads | uses)
      · exact absurd leads behind
      · exact Or.inr (Or.inr (Or.inr uses))

/-- No restricted operation hides in a segment that is skipped. -/
theorem unrestricted_of_isSkipped (unicode : Unicode) {sql : Text}
    (skipped : isSkipped unicode.toCharacterData sql = true)
    (leading : leadingOperation sql = some operation) : operation ∉ restrictedFirstKeywords := by
  intro restricted
  have agree : Agree unicode.toCharacterData (lexemes sql)
      (sqlTokens unicode.toCharacterData sql) := ⟨sql, rfl, rfl⟩
  simp only [isSkipped, List.all_eq_true, beq_iff_eq] at skipped
  cases agree.verdict unicode restricted leading with
  | refused leads keyword =>
    unfold operationKeyword at keyword
    rw [List.getD_eq_getElem?_getD] at keyword
    cases token : (sqlTokens unicode.toCharacterData sql)[operationIndex
        (sqlTokens unicode.toCharacterData sql)]? with
    | none =>
      rw [token, Option.getD_none] at keyword
      rw [← keyword] at restricted
      exact absurd restricted (by decide)
    | some text =>
      rw [token, Option.getD_some, skipped text (List.mem_of_getElem? token)] at keyword
      rw [← keyword] at restricted
      exact absurd restricted (by decide)
  | unseen behind keyword _ blank nonempty =>
    obtain ⟨text, rest, tokens⟩ := List.exists_cons_of_ne_nil nonempty
    have same := skipped text (by rw [tokens]; exact List.mem_cons_self)
    rw [tokens, same] at blank
    exact blank rfl

/-- A segment keeps its promises exactly when it is guarded. -/
theorem sound_iff_isGuarded (unicode : Unicode) (migration : Migration) (segment : Text) :
    Sound unicode.toCharacterData migration segment ↔
      isGuarded unicode.toCharacterData segment = true := by
  have blank : (isSkipped unicode.toCharacterData segment = true →
        ∀ token ∈ visible (lexemes segment), token = .mark ';') ↔
      (!(pieces segment).all (Piece.looksBlank unicode.toCharacterData) ||
        (pieces segment).all Piece.isBlank) = true := by
    rw [isSkipped_eq unicode, ← all_semicolons_iff, Bool.or_eq_true, Bool.not_eq_true',
      ← Bool.not_eq_true, ← imp_iff_not_or]
    refine imp_congr_right (fun looks => ?_)
    rw [isEmptyStatement_eq unicode.toCharacterData segment looks]
  have operations : (isSkipped unicode.toCharacterData segment = false → ∀ operation,
        leadingOperation segment = some operation → operation ∈ restrictedFirstKeywords →
          isRefused unicode.toCharacterData migration segment) ↔
      (!(leadingOperation segment).any restrictedFirstKeywords.contains ||
        immediateOperation segment == leadingOperation segment ||
        usesTempSchema (sqlTokens unicode.toCharacterData segment)) = true := by
    cases leading : leadingOperation segment with
    | none => simp
    | some operation =>
      by_cases restricted : operation ∈ restrictedFirstKeywords
      · have executed : isSkipped unicode.toCharacterData segment = false :=
          Bool.eq_false_iff.mpr (fun skipped =>
            unrestricted_of_isSkipped unicode skipped leading restricted)
        have refusal := isRefused_restricted unicode migration leading restricted
        simp [restricted, executed, refusal]
      · simp [restricted]
  rw [Sound, isGuarded, blank, operations, Bool.and_eq_true]

/-- A refused segment makes the whole body refused. -/
theorem validatedStatements_error {migration : Migration} {parts : List Text} {segment : Text}
    (listed : segment ∈ parts) (executed : isSkipped python segment = false)
    (refused : isRefused python migration segment) :
    ∃ error, validatedStatements python migration parts = .error error := by
  induction parts with
  | nil => cases listed
  | cons part rest ih =>
    unfold validatedStatements
    obtain rfl | later := List.mem_cons.mp listed
    · obtain ⟨error, raised⟩ := refused
      rw [executed, if_neg Bool.false_ne_true, raised]
      exact ⟨error, rfl⟩
    · obtain ⟨error, raised⟩ := ih later
      rw [raised]
      split
      · exact ⟨error, rfl⟩
      · cases validateSqliteStatement python migration part with
        | error first => exact ⟨first, rfl⟩
        | ok _ => exact ⟨error, rfl⟩

/-- A refused segment of any migration stops the plan before a connection is acquired. -/
theorem validateSqliteMigrations_error {complete : Text → Bool} {plan : List Migration}
    {migration : Migration} (planned : migration ∈ plan) {segment : Text}
    (listed : segment ∈ segments complete migration.sql.toList)
    (executed : isSkipped python segment = false)
    (refused : isRefused python migration segment) :
    ∃ error, validateSqliteMigrations python complete plan = .error error := by
  have statements : ∃ error, sqliteStatements python complete migration = .error error := by
    obtain ⟨error, raised⟩ := validatedStatements_error python listed executed refused
    unfold sqliteStatements
    dsimp only
    rw [raised]
    split
    · exact ⟨error, rfl⟩
    · exact ⟨_, rfl⟩
  induction plan with
  | nil => cases planned
  | cons first rest ih =>
    unfold validateSqliteMigrations
    obtain rfl | later := List.mem_cons.mp planned
    · obtain ⟨error, raised⟩ := statements
      rw [raised]
      exact ⟨error, rfl⟩
    · obtain ⟨error, raised⟩ := ih later
      rw [raised]
      cases sqliteStatements python complete first with
      | error other => exact ⟨other, rfl⟩
      | ok _ => exact ⟨error, rfl⟩

/-- Python's classes on ASCII. -/
def asciiUnicode : Unicode where
  toCharacterData := MariadbMigrations.asciiCharacters
  isAlpha_byteOrderMark := by decide
  upper_word := by
    intro char rest starts same
    have first : char.toUpper = ';' := (List.cons.inj same).1
    obtain letter | rfl := starts
    · by_cases lower : 'a'.val ≤ char.val ∧ char.val ≤ 'z'.val
      · have value := Char.ext_iff.mp first
        simp only [Char.toUpper, dif_pos lower] at value
        have back : char.val + ('A'.val - 'a'.val) + ('a'.val - 'A'.val) = char.val := by
          rw [UInt32.add_assoc]
          exact UInt32.add_zero _
        rw [value] at back
        rw [← back] at lower
        exact absurd lower.1 (by decide)
      · rw [Char.toUpper, dif_neg lower] at first
        subst first
        exact absurd letter (by decide)
    · exact absurd first (by decide)

end Snekql.SqliteBodies
