import Snekql.Lexing
import Snekql.SqlTokens

/-!
# Reading recorded SQL in pieces

The scanner of recorded SQL as a lexer. Its pieces are single whitespace characters, comments and
tokens. A piece may depend on the characters after it: a word may go on, a quote may be doubled and
two characters may start a comment. Before a parenthesis or a comma none of this happens, so the
text in front of it is read in the same way whatever follows.
-/

namespace Snekql.Recorded

open Snekql.Splicing (Text)
open Snekql.Migrations (isSpace)
open Snekql.Lexing hiding Text

/-- A token without its span. -/
abbrev Symbol := Kind × Text

def quoteKind (opening : Char) : Kind := if opening == stringQuote then .string else .identifier

def closeOf (opening : Char) : Char := if opening == '[' then ']' else opening

/-- The whitespace that the scanner passes over. -/
def isBlankChar (mysql : Bool) (char : Char) : Bool := isSpace char && (mysql || isAscii char)

/-- The scanner at a character: the number of further characters it passes, and the token. -/
def pieceAt (unicode : Unicode) (mysql allowExecutableComments : Bool) (char : Char) (rest : Text) :
    Except MigrationError (Nat × Option Symbol) :=
  if isBlankChar mysql char then .ok (0, none)
  else if startsLineComment mysql (char :: rest) then .ok (lineLength (char :: rest) - 1, none)
  else if startsWith (char :: rest) "/*" then
    match commentLength (rest.drop 1) with
    | none => .error (.schema "unterminated SQL comment")
    | some count =>
      if mysql && !allowExecutableComments &&
          (startsWith (char :: rest) "/*!" || startsWith (char :: rest) "/*M!") then
        .error (.schema "executable comments require an explicit migration adapter")
      else .ok (count + 1, none)
  else if isQuote char then
    match quotedBody mysql char (closeOf char) rest with
    | none => .error (.schema "unterminated SQL quote")
    | some (value, read) => .ok (read, some (quoteKind char, value))
  else if isWordChar unicode mysql char then
    .ok ((rest.takeWhile (isWordChar unicode mysql)).length,
      some (.word, char :: rest.takeWhile (isWordChar unicode mysql)))
  else .ok (0, some (.punct, [char]))

/-! ## Extents -/

theorem lineLength_le (text : Text) : lineLength text ≤ text.length := by
  induction text with
  | nil => exact Nat.le_refl 0
  | cons char rest ih =>
    rw [lineLength, List.length_cons]
    split
    · omega
    · omega

variable {mysql : Bool} {char opening first : Char} {count : Nat} {text rest between tail : Text}
  {unicode : Unicode}

theorem lineLength_pos (filled : text ≠ []) : 0 < lineLength text := by
  cases text with
  | nil => exact absurd rfl filled
  | cons char rest =>
    rw [lineLength]
    split
    · omega
    · omega

/-- A line that ends in front of the rest does not depend on it. -/
theorem lineLength_append (filled : rest ≠ []) (inside : lineLength (text ++ rest) ≤ text.length)
    (other : Text) : '\n' ∈ text ∧ lineLength (text ++ other) = lineLength (text ++ rest) := by
  induction text with
  | nil =>
    have positive := lineLength_pos filled
    simp only [List.nil_append, List.length_nil] at inside
    omega
  | cons char text ih =>
    simp only [List.cons_append, lineLength] at inside ⊢
    by_cases ends : (char == '\n') = true
    · rw [if_pos ends, if_pos ends]
      exact ⟨List.mem_cons.mpr (.inl (beq_iff_eq.mp ends).symm), rfl⟩
    · rw [if_neg ends, List.length_cons] at inside
      rw [if_neg ends, if_neg ends]
      obtain ⟨member, same⟩ := ih (by omega)
      exact ⟨List.mem_cons_of_mem _ member, by rw [same]⟩

theorem commentLength_bounds (found : commentLength text = some count) :
    2 ≤ count ∧ count ≤ text.length := by
  induction text using commentLength.induct generalizing count with
  | case1 rest =>
    simp only [commentLength, Option.some.injEq] at found
    simp only [List.length_cons]
    omega
  | case2 char rest open_ ih =>
    rw [commentLength, Option.map_eq_some_iff] at found
    · obtain ⟨before, inner, rfl⟩ := found
      have bounds := ih inner
      simp only [List.length_cons]
      omega
    · exact open_
  | case3 => cases found

/-- A comment that ends in front of the rest does not depend on it. -/
theorem commentLength_append (found : commentLength (text ++ rest) = some count)
    (inside : count ≤ text.length) (other : Text) : commentLength (text ++ other) = some count := by
  induction text generalizing count with
  | nil =>
    have bounds := commentLength_bounds found
    simp only [List.length_nil] at inside
    omega
  | cons char text ih =>
    by_cases closes : char = '*' ∧ ∃ others, text = '/' :: others
    · obtain ⟨rfl, others, rfl⟩ := closes
      simpa only [List.cons_append, commentLength] using found
    · cases text with
      | nil =>
        have bounds := commentLength_bounds found
        simp only [List.length_cons, List.length_nil] at inside
        omega
      | cons next text =>
        have open_ : ∀ tail : Text, ∀ others, char = '*' →
            next :: text ++ tail = '/' :: others → False := by
          intro tail others star slash
          rw [List.cons_append, List.cons.injEq] at slash
          exact closes ⟨star, text, by rw [slash.1]⟩
        rw [List.cons_append, commentLength, Option.map_eq_some_iff] at found ⊢
        · obtain ⟨before, inner, rfl⟩ := found
          simp only [List.length_cons] at inside
          exact ⟨before, ih inner (by simp only [List.length_cons]; omega), rfl⟩
        · exact open_ other
        · exact open_ rest

theorem quotedBody_bounds {close : Char} {value : Text} {read : Nat}
    (found : quotedBody mysql opening close text = some (value, read)) :
    1 ≤ read ∧ read ≤ text.length := by
  fun_induction quotedBody mysql opening close text generalizing value read with
  | case1 => cases found
  | case2 => cases found
  | case3 char escape escaped rest ih =>
    obtain ⟨⟨inner, before⟩, body, ⟨⟩⟩ := Option.map_eq_some_iff.mp found
    have bounds := ih body
    simp only [List.length_cons]
    omega
  | case4 =>
    cases found
    simp
  | case5 char ordinary closes next rest doubled ih =>
    obtain ⟨⟨inner, before⟩, body, ⟨⟩⟩ := Option.map_eq_some_iff.mp found
    have bounds := ih body
    simp only [List.length_cons]
    omega
  | case6 =>
    cases found
    simp
  | case7 char rest ordinary other ih =>
    obtain ⟨⟨inner, before⟩, body, ⟨⟩⟩ := Option.map_eq_some_iff.mp found
    have bounds := ih body
    simp only [List.length_cons]
    omega

theorem exists_cons {others : Text} (whole : text ++ rest = char :: others)
    (filled : 1 ≤ text.length) : ∃ tail, text = char :: tail ∧ others = tail ++ rest := by
  cases text with
  | nil => exact absurd filled (by simp)
  | cons head tail =>
    rw [List.cons_append, List.cons.injEq] at whole
    exact ⟨tail, by rw [whole.1], whole.2.symm⟩

theorem exists_cons_cons {others : Text} {next : Char}
    (whole : text ++ rest = char :: next :: others) (filled : 2 ≤ text.length) :
    ∃ tail, text = char :: next :: tail ∧ others = tail ++ rest := by
  obtain ⟨first, rfl, following⟩ := exists_cons whole (by omega)
  simp only [List.length_cons] at filled
  obtain ⟨tail, rfl, remaining⟩ := exists_cons following.symm (by omega)
  exact ⟨tail, rfl, remaining⟩

/-- A closing quote in front of this is not doubled. -/
def Single (opening close : Char) (rest : Text) : Prop := opening = '[' ∨ rest.head? ≠ some close

theorem quotedBody_close {close : Char} {other : Text}
    (ordinary : ¬(mysql && char == '\\' && opening == stringQuote) = true)
    (closes : (char == close) = true) (single : Single opening close other) :
    quotedBody mysql opening close ([char] ++ other) = some ([], [char].length) := by
  rw [List.singleton_append, quotedBody.eq_def]
  simp only [if_neg ordinary, if_pos closes, List.length_cons, List.length_nil]
  cases other with
  | nil => rfl
  | cons next other =>
    have plain : ¬(opening != '[' && next == close) = true := by
      obtain bracket | differs := single
      · simp [bracket]
      · simpa using fun _ => differs
    simp only [if_neg plain]

/-- A quoted text that ends in front of the rest depends on it only in that its closing quote is not
doubled. -/
theorem quotedBody_append {close : Char} {value : Text}
    (found : quotedBody mysql opening close (text ++ rest) = some (value, text.length)) :
    Single opening close rest ∧ ∀ other, Single opening close other →
      quotedBody mysql opening close (text ++ other) = some (value, text.length) := by
  generalize whole : text ++ rest = both at found
  fun_induction quotedBody mysql opening close both generalizing text value with
  | case1 => cases found
  | case2 => cases found
  | case3 char escape escaped others ih =>
    obtain ⟨⟨inner, before⟩, body, same⟩ := Option.map_eq_some_iff.mp found
    obtain ⟨rfl, length⟩ := Prod.mk.inj same
    obtain ⟨tail, rfl, rfl⟩ := exists_cons_cons whole (by omega)
    simp only [List.length_cons, Nat.add_right_cancel_iff] at length
    subst length
    obtain ⟨single, again⟩ := ih rfl body
    refine ⟨single, fun other plain => ?_⟩
    simp only [List.cons_append, quotedBody, if_pos escape, again other plain, Option.map_some,
      List.length_cons]
  | case4 char ordinary closes =>
    obtain ⟨rfl, length⟩ := Prod.mk.inj (Option.some.inj found)
    obtain ⟨tail, rfl, ends⟩ := exists_cons whole (by omega)
    obtain rfl : tail = [] := List.length_eq_zero_iff.mp (by simpa using length.symm)
    obtain rfl : rest = [] := ends.symm
    exact ⟨.inr (by simp), fun other => quotedBody_close ordinary closes⟩
  | case5 char ordinary closes next others doubled ih =>
    obtain ⟨⟨inner, before⟩, body, same⟩ := Option.map_eq_some_iff.mp found
    obtain ⟨rfl, length⟩ := Prod.mk.inj same
    obtain ⟨tail, rfl, rfl⟩ := exists_cons_cons whole (by omega)
    simp only [List.length_cons, Nat.add_right_cancel_iff] at length
    subst length
    obtain ⟨single, again⟩ := ih rfl body
    refine ⟨single, fun other plain => ?_⟩
    simp only [List.cons_append, quotedBody, if_neg ordinary, if_pos closes, if_pos doubled,
      again other plain, Option.map_some, List.length_cons]
  | case6 char ordinary closes next others plain =>
    obtain ⟨rfl, length⟩ := Prod.mk.inj (Option.some.inj found)
    obtain ⟨tail, rfl, ends⟩ := exists_cons whole (by omega)
    obtain rfl : tail = [] := List.length_eq_zero_iff.mp (by simpa using length.symm)
    refine ⟨?_, fun other => quotedBody_close ordinary closes⟩
    rw [List.nil_append] at ends
    simp only [Single, ← ends, List.head?_cons, ne_eq, Option.some.injEq]
    simpa [or_iff_not_imp_left] using plain
  | case7 char others ordinary inside ih =>
    obtain ⟨⟨inner, before⟩, body, same⟩ := Option.map_eq_some_iff.mp found
    obtain ⟨rfl, length⟩ := Prod.mk.inj same
    obtain ⟨tail, rfl, rfl⟩ := exists_cons whole (by omega)
    simp only [List.length_cons, Nat.add_right_cancel_iff] at length
    subst length
    obtain ⟨single, again⟩ := ih rfl body
    refine ⟨single, fun other plain => ?_⟩
    rw [List.cons_append, quotedBody.eq_def]
    simp only [if_neg ordinary, if_neg inside, again other plain, Option.map_some, List.length_cons]

/-! ## The lexer -/

/-- No comment starts here. -/
def NoComment (mysql : Bool) (text : Text) : Prop :=
  startsLineComment mysql text = false ∧ startsWith text "/*" = false

/-- The pieces that can stand at a character. -/
inductive PieceAt (unicode : Unicode) (mysql allow : Bool) (char : Char) (rest : Text) :
    Nat → Option Symbol → Prop
  | blank (space : isBlankChar mysql char = true) : PieceAt unicode mysql allow char rest 0 none
  | line (space : isBlankChar mysql char = false)
      (starts : startsLineComment mysql (char :: rest) = true) :
      PieceAt unicode mysql allow char rest (lineLength (char :: rest) - 1) none
  | block {count : Nat} (space : isBlankChar mysql char = false)
      (line : startsLineComment mysql (char :: rest) = false)
      (starts : startsWith (char :: rest) "/*" = true)
      (found : commentLength (rest.drop 1) = some count)
      (plain : (mysql && !allow &&
        (startsWith (char :: rest) "/*!" || startsWith (char :: rest) "/*M!")) = false) :
      PieceAt unicode mysql allow char rest (count + 1) none
  | quoted {value : Text} {read : Nat} (space : isBlankChar mysql char = false)
      (comment : NoComment mysql (char :: rest)) (quote : isQuote char = true)
      (body : quotedBody mysql char (closeOf char) rest = some (value, read)) :
      PieceAt unicode mysql allow char rest read (some (quoteKind char, value))
  | word (space : isBlankChar mysql char = false) (comment : NoComment mysql (char :: rest))
      (quote : isQuote char = false) (starts : isWordChar unicode mysql char = true) :
      PieceAt unicode mysql allow char rest
        (rest.takeWhile (isWordChar unicode mysql)).length
        (some (.word, char :: rest.takeWhile (isWordChar unicode mysql)))
  | punct (space : isBlankChar mysql char = false) (comment : NoComment mysql (char :: rest))
      (quote : isQuote char = false) (other : isWordChar unicode mysql char = false) :
      PieceAt unicode mysql allow char rest 0 (some (.punct, [char]))

section Inversion

variable {unicode : Unicode} {mysql allow : Bool} {char : Char} {rest : Text} {count : Nat}
  {symbol : Option Symbol}

theorem pieceAt_cases (read : pieceAt unicode mysql allow char rest = .ok (count, symbol)) :
    PieceAt unicode mysql allow char rest count symbol := by
  unfold pieceAt at read
  split at read
  · next space =>
    cases read
    exact .blank space
  next space =>
  rw [Bool.not_eq_true] at space
  split at read
  · next line =>
    cases read
    exact .line space line
  next line =>
  rw [Bool.not_eq_true] at line
  split at read
  · next block =>
    split at read
    · cases read
    next count found =>
    split at read
    · cases read
    next plain =>
    cases read
    exact .block space line block found (Bool.not_eq_true _ ▸ plain)
  next block =>
  rw [Bool.not_eq_true] at block
  split at read
  · next quote =>
    split at read
    · cases read
    next value length body =>
    cases read
    exact .quoted space ⟨line, block⟩ quote body
  next quote =>
  rw [Bool.not_eq_true] at quote
  split at read
  · next starts =>
    cases read
    exact .word space ⟨line, block⟩ quote starts
  · next other =>
    cases read
    exact .punct space ⟨line, block⟩ quote (Bool.not_eq_true _ ▸ other)

theorem PieceAt.read (at_ : PieceAt unicode mysql allow char rest count symbol) :
    pieceAt unicode mysql allow char rest = .ok (count, symbol) := by
  unfold pieceAt
  cases at_ with
  | blank space =>
    rw [if_pos space]
  | line space starts =>
    rw [if_neg (by rw [space]; exact Bool.false_ne_true), if_pos starts]
  | block space line starts found plain =>
    simp only [space, line, starts, found, plain, Bool.false_eq_true, if_false, if_true]
  | quoted space comment quote body =>
    simp only [space, comment.1, comment.2, quote, body, Bool.false_eq_true, if_false, if_true]
  | word space comment quote starts =>
    simp only [space, comment.1, comment.2, quote, starts, Bool.false_eq_true, if_false, if_true]
  | punct space comment quote other =>
    simp only [space, comment.1, comment.2, quote, other, Bool.false_eq_true, if_false]

theorem pieceAt_bounded (read : pieceAt unicode mysql allow char rest = .ok (count, symbol)) :
    count ≤ rest.length := by
  cases pieceAt_cases read with
  | blank => exact Nat.zero_le _
  | line =>
    have bound := lineLength_le (char :: rest)
    simp only [List.length_cons] at bound
    omega
  | block space line starts found =>
    have bounds := commentLength_bounds found
    rw [List.length_drop] at bounds
    omega
  | quoted space comment quote body => exact (quotedBody_bounds body).2
  | word => exact (List.takeWhile_sublist _).length_le
  | punct => exact Nat.zero_le _

end Inversion

def lexer (unicode : Unicode) (mysql allow : Bool) : Lexer MigrationError Symbol where
  step := pieceAt unicode mysql allow
  bounded := pieceAt_bounded

/-- The token of a piece at a position. -/
def locate (index stop : Nat) : Option Symbol → List Token
  | none => []
  | some (kind, value) => [{ value, start := index, stop, kind }]

/-- The tokens among pieces that start at a position. -/
def located : Nat → List (Piece Symbol) → List Token
  | _, [] => []
  | index, piece :: rest =>
    let stop := index + piece.text.length
    locate index stop piece.lexeme ++ located stop rest

theorem map_nil_append (scanned : Except MigrationError (List Token)) :
    scanned = scanned.map ([] ++ ·) := by
  cases scanned with
  | error error => rfl
  | ok tokens => rfl

/-- The scanner takes the piece at a character and goes on behind it. -/
theorem scan_cons (unicode : Unicode) (mysql allow : Bool) (fuel index : Nat) (char : Char)
    (rest : Text) :
    scan unicode mysql allow (fuel + 1) index (char :: rest) =
      pieceAt unicode mysql allow char rest >>= fun piece =>
        (scan unicode mysql allow fuel (index + (piece.1 + 1)) (rest.drop piece.1)).map
          (locate index (index + (piece.1 + 1)) piece.2 ++ ·) := by
  have blank : (isSpace char && (mysql || isAscii char)) = isBlankChar mysql char := rfl
  rw [scan, blank, pieceAt]
  split
  · exact map_nil_append _
  split
  · obtain ⟨count, length⟩ := Nat.exists_eq_add_one_of_ne_zero
      (Nat.ne_of_gt (lineLength_pos (List.cons_ne_nil char rest)))
    rw [length]
    exact map_nil_append _
  split
  · cases commentLength (rest.drop 1) with
    | none => rfl
    | some count =>
      dsimp only
      split
      · rfl
      · exact map_nil_append _
  split
  · have closes : (if char == '[' then ']' else char) = closeOf char := rfl
    rw [quoted, closes]
    cases quotedBody mysql char (closeOf char) rest with
    | none => rfl
    | some content =>
      have stop : index + 1 + content.2 = index + (content.2 + 1) := by omega
      simp only [Outcomes.ok_bind, stop, Nat.add_sub_cancel_left, List.drop_succ_cons]
      rfl
  split
  · rfl
  · rfl

/-- Scanning finds the tokens among the pieces. -/
theorem scan_eq (unicode : Unicode) (mysql allow : Bool) (fuel index : Nat) (text : Text) :
    scan unicode mysql allow fuel index text =
      (piecesFor (lexer unicode mysql allow) fuel text).map (located index) := by
  induction fuel generalizing index text with
  | zero => rfl
  | succ fuel ih =>
    cases text with
    | nil => rfl
    | cons char rest =>
      have step : (lexer unicode mysql allow).step char rest =
        pieceAt unicode mysql allow char rest := rfl
      rw [piecesFor, scan_cons, step]
      cases read : pieceAt unicode mysql allow char rest with
      | error error => rfl
      | ok piece =>
        have length : (char :: rest.take piece.1).length = piece.1 + 1 := by
          rw [List.length_cons, List.length_take, Nat.min_eq_left (pieceAt_bounded read)]
        simp only [Outcomes.ok_bind, ih]
        cases piecesFor (lexer unicode mysql allow) fuel (rest.drop piece.1) with
        | error error => rfl
        | ok parts => simp only [Except.map, Outcomes.ok_bind, pure, Except.pure, located, length]

/-- The tokens of a text without their spans. -/
def symbols (unicode : Unicode) (sql : Text) (mysql : Bool) : Except MigrationError (List Symbol) :=
  (tokens unicode sql mysql).map (List.map fun token => (token.kind, token.value))

theorem symbols_located (index : Nat) (parts : List (Piece Symbol)) :
    (located index parts).map (fun token => (token.kind, token.value)) = lexemes parts := by
  induction parts generalizing index with
  | nil => rfl
  | cons piece parts ih =>
    rw [located, List.map_append, ih]
    cases found : piece.lexeme with
    | none | some => simp [locate, lexemes, found]

/-- `tokens` in terms of pieces. -/
theorem tokens_eq_ok_iff {sql : Text} {stream : List Token} :
    tokens unicode sql mysql = .ok stream ↔
      ∃ parts, pieces (lexer unicode mysql false) sql = .ok parts ∧ located 0 parts = stream := by
  rw [tokens, scan_eq, pieces]
  cases piecesFor (lexer unicode mysql false) sql.length sql with
  | error | ok => simp [Except.map]

theorem symbols_of_pieces {sql : Text} {parts : List (Piece Symbol)}
    (read : pieces (lexer unicode mysql false) sql = .ok parts) :
    symbols unicode sql mysql = .ok (lexemes parts) := by
  rw [symbols, tokens_eq_ok_iff.mpr ⟨parts, read, rfl⟩, Except.map, symbols_located]

/-! ## Pieces before a separator -/

/-- A character that neither continues a piece nor changes it from behind. -/
structure Inert (unicode : Unicode) (mysql : Bool) (char : Char) : Prop where
  word : isWordChar unicode mysql char = false
  quote : isQuote char = false
  dash : char ≠ '-'
  star : char ≠ '*'
  visible : 32 < char.toNat

section Locality

variable {unicode : Unicode} {mysql allow : Bool} {separator : Char} {rest other : Text}

section

variable (inert : Inert unicode mysql separator)
include inert

theorem startsLineComment_before (filled : text ≠ [])
    (starts : startsLineComment mysql (text ++ separator :: other) = true) :
    startsLineComment mysql (text ++ rest) = true := by
  rcases text with _ | ⟨first, _ | ⟨second, _ | ⟨third, text⟩⟩⟩
  · exact absurd rfl filled
  · simp [startsLineComment, startsWith, List.isPrefixOf, inert.dash.symm] at starts
  · simp [startsLineComment, startsWith, List.isPrefixOf] at starts ⊢
    exact ⟨starts.1, .inl (starts.2.resolve_right (Nat.not_le.mpr inert.visible))⟩
  · simpa [startsLineComment, startsWith, List.isPrefixOf] using starts

theorem startsBlock_before (filled : text ≠ [])
    (starts : startsWith (text ++ separator :: other) "/*" = true) :
    startsWith (text ++ rest) "/*" = true := by
  rcases text with _ | ⟨first, _ | ⟨second, text⟩⟩
  · exact absurd rfl filled
  · simp [startsWith, List.isPrefixOf, inert.star.symm] at starts
  · simpa [startsWith, List.isPrefixOf] using starts

theorem noLine_before
    (free : startsLineComment mysql (first :: (tail ++ (between ++ rest))) = false) (other : Text) :
    startsLineComment mysql (first :: (tail ++ (between ++ separator :: other))) = false := by
  rw [← Bool.not_eq_true, ← List.append_assoc, ← List.cons_append] at free ⊢
  intro starts
  exact free (startsLineComment_before inert (List.cons_ne_nil _ _) starts)

theorem noComment_before (free : NoComment mysql (first :: (tail ++ (between ++ rest))))
    (other : Text) : NoComment mysql (first :: (tail ++ (between ++ separator :: other))) := by
  refine ⟨noLine_before inert free.1 other, ?_⟩
  have block := free.2
  rw [← Bool.not_eq_true, ← List.append_assoc, ← List.cons_append] at block ⊢
  intro starts
  exact block (startsBlock_before inert (List.cons_ne_nil _ _) starts)

end

theorem startsWith_append {start : String} (long : start.toList.length ≤ text.length) :
    startsWith (text ++ rest) start = startsWith text start := by
  rw [Bool.eq_iff_iff, startsWith, startsWith, List.isPrefixOf_iff_prefix,
    List.isPrefixOf_iff_prefix]
  constructor
  · intro starts
    exact List.prefix_of_prefix_length_le starts (List.prefix_append _ _) long
  · intro starts
    exact starts.trans (List.prefix_append _ _)

/-- A line comment with its newline does not depend on what follows. -/
theorem line_before (filled : rest ≠ []) (space : isBlankChar mysql first = false)
    (starts : startsLineComment mysql (first :: (tail ++ rest)) = true)
    (length : lineLength (first :: (tail ++ rest)) - 1 = tail.length) (other : Text) :
    PieceAt unicode mysql allow first (tail ++ other) tail.length none := by
  have positive := lineLength_pos (List.cons_ne_nil first (tail ++ rest))
  have inside : lineLength (first :: tail ++ rest) ≤ (first :: tail).length := by
    rw [List.cons_append, List.length_cons]
    omega
  obtain ⟨newline, same⟩ := lineLength_append filled inside other
  have kept : startsLineComment mysql (first :: (tail ++ other)) = true := by
    -- Two dashes, and a character after them, come before the newline.
    rcases tail with _ | ⟨second, _ | ⟨third, tail⟩⟩
    · simp [startsLineComment, startsWith, List.isPrefixOf] at starts newline
      rw [← newline] at starts
      exact absurd starts.1.1 (by decide)
    · simp [startsLineComment, startsWith, List.isPrefixOf] at starts newline
      obtain newline | newline := newline
      · exact absurd (newline.trans starts.1.1.symm) (by decide)
      · exact absurd (newline.trans starts.1.2.symm) (by decide)
    · simpa [startsLineComment, startsWith, List.isPrefixOf] using starts
  have again : lineLength (first :: (tail ++ other)) - 1 = tail.length := by
    rw [List.cons_append] at same
    rw [← List.cons_append, List.cons_append, same, List.cons_append, length]
  rw [← again]
  exact .line space kept

/-- A comment does not depend on what follows. -/
theorem block_before (space : isBlankChar mysql first = false)
    (line : startsLineComment mysql (first :: (tail ++ other)) = false)
    (starts : startsWith (first :: (tail ++ rest)) "/*" = true)
    (found : commentLength ((tail ++ rest).drop 1) = some count)
    (plain : (mysql && !allow && (startsWith (first :: (tail ++ rest)) "/*!" ||
      startsWith (first :: (tail ++ rest)) "/*M!")) = false) (length : tail.length = count + 1) :
    PieceAt unicode mysql allow first (tail ++ other) (count + 1) none := by
  have bounds := commentLength_bounds found
  have long : 4 ≤ (first :: tail).length := by
    rw [List.length_cons]
    omega
  have two := Nat.le_trans (by decide : "/*".toList.length ≤ 4) long
  have three := Nat.le_trans (by decide : "/*!".toList.length ≤ 4) long
  have four := Nat.le_trans (by decide : "/*M!".toList.length ≤ 4) long
  rw [← List.cons_append, startsWith_append three, startsWith_append four] at plain
  rw [← List.cons_append, startsWith_append two] at starts
  obtain ⟨second, tail, rfl⟩ := List.exists_cons_of_length_pos (Nat.lt_of_lt_of_eq (Nat.succ_pos count) length.symm)
  rw [List.cons_append, List.drop_succ_cons, List.drop_zero] at found
  rw [List.length_cons, Nat.add_right_cancel_iff] at length
  have again := commentLength_append found (Nat.le_of_eq length.symm) other
  refine .block space line ?_ ?_ ?_
  · rw [← List.cons_append, startsWith_append two, starts]
  · rw [List.cons_append, List.drop_succ_cons, List.drop_zero, again]
  · rw [← List.cons_append, startsWith_append three, startsWith_append four, plain]

/-- What stands in front of a separator decides, or else the separator does. -/
theorem head_before (holds : Option Char → Prop) (before : holds (between ++ rest).head?)
    (here : holds (some separator)) (other : Text) :
    holds (between ++ separator :: other).head? := by
  cases between with
  | nil => exact here
  | cons next between => exact before

theorem single_before (inert : Inert unicode mysql separator) (quote : isQuote opening = true)
    (single : Single opening (closeOf opening) (between ++ rest)) (other : Text) :
    Single opening (closeOf opening) (between ++ separator :: other) := by
  by_cases bracket : opening = '['
  · exact .inl bracket
  · have close : closeOf opening = opening := by simp [closeOf, bracket]
    rw [close] at single ⊢
    have before := single.resolve_left bracket
    refine .inr (head_before (· ≠ some opening) before ?_ other)
    intro same
    rw [← Option.some.inj same, inert.quote] at quote
    cases quote

/-- A run of characters that ends in front of the rest goes no further before others that do not
continue it. -/
theorem takeWhile_append_eq {continues : Char → Bool}
    (length : text.length = ((text ++ rest).takeWhile continues).length) :
    (text ++ rest).takeWhile continues = text ∧ rest.head?.all (!continues ·) = true ∧
      ∀ other : Text, other.head?.all (!continues ·) = true →
        (text ++ other).takeWhile continues = text := by
  rw [List.takeWhile_append] at length ⊢
  have whole : (text.takeWhile continues).length = text.length := by
    split at length
    · assumption
    · exact length.symm
  rw [if_pos whole] at length ⊢
  rw [List.length_append, Nat.left_eq_add, List.length_eq_zero_iff] at length
  refine ⟨by rw [length, List.append_nil], ?_, fun other stops => ?_⟩
  · cases rest with
    | nil => rfl
    | cons next rest => simpa [List.takeWhile_cons] using length
  · rw [List.takeWhile_append, if_pos whole]
    cases other with
    | nil => simp
    | cons next other =>
      have stop : continues next = false := by simpa using stops
      simp [stop]

/-- Before a separator a piece is read in the same way as before. -/
theorem readsPiece_before (inert : Inert unicode mysql separator) {piece : Piece Symbol}
    (filled : rest ≠ []) (reads : ReadsPiece (lexer unicode mysql allow) piece (between ++ rest))
    (other : Text) :
    ReadsPiece (lexer unicode mysql allow) piece (between ++ separator :: other) := by
  obtain ⟨first, tail, text, step⟩ := reads
  refine ⟨first, tail, text, ?_⟩
  change pieceAt unicode mysql allow first _ = _ at step ⊢
  refine PieceAt.read ?_
  have at_ := pieceAt_cases step
  generalize length : tail.length = count at at_ ⊢
  generalize piece.lexeme = symbol at at_ ⊢
  cases at_ with
  | blank space => exact .blank space
  | line space starts =>
    rw [← length]
    exact line_before (by simp [filled]) space starts length.symm _
  | block space line starts found plain =>
    exact block_before space (noLine_before inert line other) starts found plain length
  | quoted space comment quote body =>
    rw [← length] at body ⊢
    obtain ⟨single, again⟩ := quotedBody_append body
    exact .quoted space (noComment_before inert comment other) quote
      (again _ (single_before inert quote single other))
  | word space comment quote starts =>
    obtain ⟨here, stops, again⟩ := takeWhile_append_eq length
    have separated : (some separator).all (!isWordChar unicode mysql ·) = true := by
      simp [inert.word]
    have same := again _ (head_before (·.all (!isWordChar unicode mysql ·) = true) stops separated
      other)
    have read : PieceAt unicode mysql allow first (tail ++ (between ++ separator :: other)) _ _ :=
      .word space (noComment_before inert comment other) quote starts
    rw [same] at read
    rw [here]
    exact read
  | punct space comment quote word =>
    exact .punct space (noComment_before inert comment other) quote word

theorem reads_before (inert : Inert unicode mysql separator) {parts : List (Piece Symbol)}
    (filled : rest ≠ []) (reads : Reads (lexer unicode mysql allow) parts rest) (other : Text) :
    Reads (lexer unicode mysql allow) parts (separator :: other) := by
  induction parts with
  | nil => trivial
  | cons piece parts ih =>
    exact ⟨readsPiece_before inert filled reads.1 other, ih reads.2⟩

end Locality

/-! ## Punctuation and whitespace -/

/-- A piece that is a single character. -/
def punct (char : Char) : Piece Symbol := { text := [char], lexeme := some (.punct, [char]) }

/-- The piece of a space. -/
def space : Piece Symbol := { text := [' '], lexeme := none }

section Punctuation

variable {unicode : Unicode} {mysql allow : Bool} {rest : Text}

/-- A token that is punctuation is its character, and this is not part of words. -/
theorem eq_punct_of_reads {piece : Piece Symbol}
    (reads : ReadsPiece (lexer unicode mysql allow) piece rest)
    (symbol : piece.lexeme = some (.punct, [char])) :
    piece = punct char ∧ isWordChar unicode mysql char = false := by
  obtain ⟨first, tail, text, step⟩ := reads
  change pieceAt unicode mysql allow first _ = _ at step
  rw [symbol] at step
  have at_ := pieceAt_cases step
  generalize length : tail.length = count at at_
  generalize punctuation : some (Kind.punct, [char]) = found at at_
  cases at_ with
  | blank | line | block => cases punctuation
  | quoted =>
    have kinds := congrArg Prod.fst (Option.some.inj punctuation)
    unfold quoteKind at kinds
    split at kinds <;> cases kinds
  | word =>
    have kinds := congrArg Prod.fst (Option.some.inj punctuation)
    cases kinds
  | punct space comment quote word =>
    obtain rfl : first = char := by simpa using punctuation.symm
    obtain rfl : tail = [] := List.length_eq_zero_iff.mp length
    refine ⟨?_, word⟩
    cases piece
    simp only at text symbol
    rw [punct, text, symbol]

/-- The characters that structure a table. -/
def IsBracket (char : Char) : Prop := char = '(' ∨ char = ',' ∨ char = ')'

theorem inert_of_bracket (bracket : IsBracket char) (word : isWordChar unicode mysql char = false) :
    Inert unicode mysql char := by
  refine ⟨word, ?_, ?_, ?_, ?_⟩
  all_goals
    obtain rfl | rfl | rfl := bracket
    all_goals decide

theorem readsPiece_bracket (bracket : IsBracket char) (word : isWordChar unicode mysql char = false)
    (rest : Text) : ReadsPiece (lexer unicode mysql allow) (punct char) rest := by
  have inert := inert_of_bracket bracket word
  refine ⟨char, [], rfl, PieceAt.read (.punct ?_ ⟨?_, ?_⟩ inert.quote word)⟩
  · cases mysql <;> obtain rfl | rfl | rfl := bracket <;> decide
  · obtain rfl | rfl | rfl := bracket <;> simp [startsLineComment, startsWith, List.isPrefixOf]
  · obtain rfl | rfl | rfl := bracket <;> simp [startsWith, List.isPrefixOf]

theorem readsPiece_space (rest : Text) : ReadsPiece (lexer unicode mysql allow) space rest := by
  refine ⟨' ', [], rfl, PieceAt.read (.blank ?_)⟩
  cases mysql <;> decide

end Punctuation

end Snekql.Recorded
