import Mathlib.Data.List.TakeWhile
import Snekql.SqlPieces

/-!
# Splitting and rejoining tables

The edits of a recorded `CREATE TABLE` split its text at the top-level commas, trim the parts and
join the parts again. The tokens stay the same as long as trimming removes only whitespace that the
scanner passes over. Trimming also removes the newline that ends a line comment, and characters that
Python takes for whitespace and the scanner of SQLite texts for letters. Then tokens change.
-/

namespace Snekql.Recorded

open Snekql.Splicing (Text joinWith)
open Snekql.Migrations (isSpace)
open Snekql.Lexing hiding Text

/-- The parts of `split_table` before they are trimmed. -/
def rawPartsIn (sql : Text) : Int → Nat → List Token → List Text
  | _, _, [] => []
  | depth, start, token :: rest =>
    if token.isPunct '(' then
      if depth == 0 then rawPartsIn sql 1 token.stop rest
      else rawPartsIn sql (depth + 1) start rest
    else if token.isPunct ')' then
      if depth == 1 then [slice sql start token.start]
      else rawPartsIn sql (depth - 1) start rest
    else if token.isPunct ',' && depth == 1 then
      slice sql start token.start :: rawPartsIn sql depth token.stop rest
    else rawPartsIn sql depth start rest

def rawParts (unicode : Unicode) (sql : Text) (mysql : Bool) : List Text :=
  match tokens unicode sql mysql with
  | .error _ => []
  | .ok stream => rawPartsIn sql 0 0 stream

/-- The parts put together again, as the edits do. -/
def rejoin (table : TableParts) : Text :=
  table.header ++ "(".toList ++ joinWith ", ".toList table.parts ++ ")".toList ++ table.suffix

/-- A piece of whitespace. -/
def isBlankPiece (piece : Piece Symbol) : Bool := piece.lexeme.isNone && piece.text.length == 1

/-- Drop the whitespace at both ends. -/
def trimPieces (parts : List (Piece Symbol)) : List (Piece Symbol) :=
  ((parts.dropWhile isBlankPiece).reverse.dropWhile isBlankPiece).reverse

/-- Trimming a part removes exactly the whitespace around its tokens and comments. -/
def TrimsBlanks (unicode : Unicode) (mysql : Bool) (raw : Text) : Prop :=
  ∃ parts, pieces (lexer unicode mysql false) (raw ++ [')']) = .ok (parts ++ [punct ')']) ∧
    written (trimPieces parts) = strip raw

/-! ## The pieces of a table -/

/-- The pieces between the outer parentheses. -/
def joinedPieces (separator : List (Piece Symbol)) (first : List (Piece Symbol))
    (others : List (List (Piece Symbol))) : List (Piece Symbol) :=
  first ++ others.flatMap (separator ++ ·)

/-- The table was split into the parts of these pieces, which had these texts before they were
trimmed. -/
def Divides (table : TableParts) (body : List (Piece Symbol)) (raws : List Text) : Prop :=
  ∃ first others rest, body = joinedPieces [punct ','] first others ++ punct ')' :: rest ∧
    table.parts = (first :: others).map (strip ∘ written) ∧ table.suffix = written rest ∧
    raws = (first :: others).map written

section Splitting

variable {unicode : Unicode} {mysql : Bool} {sql : Text} {table : TableParts}

theorem slice_written (before middle after : Text) :
    slice (before ++ (middle ++ after)) before.length (before.length + middle.length) = middle := by
  rw [slice, ← List.append_assoc, ← List.length_append, List.take_left, List.drop_left]

theorem drop_written (before middle after : Text) :
    (before ++ (middle ++ after)).drop (before.length + middle.length) = after := by
  rw [← List.append_assoc, ← List.length_append, List.drop_left]

theorem isPunct_iff {token : Token} {char : Char} :
    token.isPunct char = true ↔ token.kind = .punct ∧ token.value = [char] := by
  simp [Token.isPunct]

theorem located_cons_none {piece : Piece Symbol} (between : piece.lexeme = none) (index : Nat)
    (later : List (Piece Symbol)) :
    located index (piece :: later) = located (index + piece.text.length) later := by
  simp only [located, between, locate, List.nil_append]

/-- A piece that is a token, with its span. -/
theorem located_cons_some {piece : Piece Symbol} {symbol : Symbol}
    (known : piece.lexeme = some symbol) (index : Nat) (later : List (Piece Symbol)) :
    ∃ token : Token, (token.kind, token.value) = symbol ∧ token.start = index ∧
      token.stop = index + piece.text.length ∧
      located index (piece :: later) = token :: located (index + piece.text.length) later := by
  refine ⟨⟨symbol.2, index, index + piece.text.length, symbol.1⟩, rfl, rfl, rfl, ?_⟩
  simp only [located, known, locate, List.singleton_append]

/-- Inside of the outer parentheses: the current part starts after `before`, and `done` are its
pieces so far. -/
theorem splitIn_inside {later done : List (Piece Symbol)} {before : Text} {depth : Int}
    {opening : Nat} (deep : 1 ≤ depth)
    (whole : sql = before ++ (written done ++ written later))
    (reads : Reads (lexer unicode mysql false) later [])
    (split : splitIn sql depth before.length opening
      (located (before.length + (written done).length) later) = .ok table) :
    table.header = sql.take opening ∧ Divides table (done ++ later)
      (rawPartsIn sql depth before.length
        (located (before.length + (written done).length) later)) := by
  induction later generalizing done before depth table with
  | nil => cases split
  | cons piece later ih =>
    have grown : before.length + (written done).length + piece.text.length =
        before.length + (written (done ++ [piece])).length := by
      simp only [written_append, written_cons, written_nil, List.append_nil, List.length_append]
      omega
    have regrouped : sql = before ++ (written (done ++ [piece]) ++ written later) := by
      rw [whole]
      simp only [written_append, written_cons, written_nil, List.append_nil, List.append_assoc]
    -- The piece stays in the current part.
    have continues : ∀ depth : Int, 1 ≤ depth →
        splitIn sql depth before.length opening
          (located (before.length + (written done).length + piece.text.length) later) = .ok table →
        table.header = sql.take opening ∧ Divides table (done ++ piece :: later)
          (rawPartsIn sql depth before.length
            (located (before.length + (written done).length + piece.text.length) later)) := by
      intro depth deep split
      rw [grown] at split ⊢
      have result := ih deep regrouped reads.2 split
      rw [List.append_assoc, List.singleton_append] at result
      exact result
    cases symbol : piece.lexeme with
    | none =>
      rw [located_cons_none symbol] at split ⊢
      exact continues depth deep split
    | some token =>
      obtain ⟨located, same, start, stop, tokens⟩ := located_cons_some symbol
        (before.length + (written done).length) later
      rw [tokens] at split ⊢
      rw [splitIn] at split
      rw [rawPartsIn]
      -- A token that is this punctuation is the piece of it.
      have punctuation : ∀ char, located.isPunct char = true → piece = punct char := by
        intro char isPunct
        rw [isPunct_iff] at isPunct
        rw [isPunct.1, isPunct.2] at same
        rw [← same] at symbol
        exact (eq_punct_of_reads reads.1 symbol).1
      have part : slice sql before.length located.start = written done := by
        rw [start, whole]
        exact slice_written _ _ _
      by_cases isOpening : located.isPunct '(' = true
      · have nested : ¬(depth == 0) = true := by simp; omega
        rw [if_pos isOpening, if_neg nested] at split ⊢
        exact continues (depth + 1) (by omega) split
      rw [if_neg isOpening] at split ⊢
      by_cases isClosing : located.isPunct ')' = true
      · rw [if_pos isClosing] at split ⊢
        by_cases outer : (depth == 1) = true
        · rw [if_pos outer] at split ⊢
          cases split
          have bracket := punctuation ')' isClosing
          refine ⟨rfl, done, [], later, ?_, ?_, ?_, ?_⟩
          · rw [joinedPieces, List.flatMap_nil, List.append_nil, bracket]
          · rw [part]
            rfl
          · rw [stop, grown, regrouped]
            exact drop_written _ _ _
          · rw [part]
            rfl
        · rw [if_neg outer] at split ⊢
          have deeper : 1 ≤ depth - 1 := by
            simp only [beq_iff_eq] at outer
            omega
          exact continues (depth - 1) deeper split
      rw [if_neg isClosing] at split ⊢
      by_cases separates : (located.isPunct ',' && depth == 1) = true
      · rw [if_pos separates] at split ⊢
        obtain ⟨following, inner, returned⟩ := Outcomes.bind_eq_ok.mp split
        cases returned
        rw [Bool.and_eq_true] at separates
        have comma := punctuation ',' separates.1
        have next : located.stop = (before ++ written (done ++ [piece])).length := by
          rw [stop, grown, List.length_append]
        have following_whole : sql = before ++ written (done ++ [piece]) ++
            (written ([] : List (Piece Symbol)) ++ written later) := by
          rw [written_nil, List.nil_append, List.append_assoc]
          exact regrouped
        rw [← stop, next] at inner ⊢
        obtain ⟨header, first, others, rest, pieces_eq, parts_eq, suffix_eq, raws_eq⟩ :=
          ih deep following_whole reads.2 inner
        refine ⟨header, done, first :: others, rest, ?_, ?_, suffix_eq, ?_⟩
        · rw [List.nil_append] at pieces_eq
          rw [comma, pieces_eq]
          simp only [joinedPieces, List.flatMap_cons, List.append_assoc, List.cons_append,
            List.nil_append]
        · rw [part, parts_eq]
          rfl
        · rw [part]
          exact congrArg (written done :: ·) raws_eq
      · rw [if_neg separates] at split ⊢
        exact continues depth deep split

/-- Outside of parentheses, up to the outer one. -/
theorem splitIn_outside {later done : List (Piece Symbol)} {depth : Int} {start opening : Nat}
    (flat : depth ≤ 0) (whole : sql = written done ++ written later)
    (reads : Reads (lexer unicode mysql false) later [])
    (split : splitIn sql depth start opening (located (written done).length later) = .ok table) :
    ∃ front body, done ++ later = front ++ punct '(' :: body ∧ table.header = written front ∧
      Divides table body (rawPartsIn sql depth start (located (written done).length later)) := by
  induction later generalizing done depth with
  | nil => cases split
  | cons piece later ih =>
    have grown : (written done).length + piece.text.length = (written (done ++ [piece])).length := by
      simp only [written_append, written_cons, written_nil, List.append_nil, List.length_append]
    have regrouped : sql = written (done ++ [piece]) ++ written later := by
      rw [whole]
      simp only [written_append, written_cons, written_nil, List.append_nil, List.append_assoc]
    have continues : ∀ depth : Int, depth ≤ 0 →
        splitIn sql depth start opening
          (located ((written done).length + piece.text.length) later) = .ok table →
        ∃ front body, done ++ piece :: later = front ++ punct '(' :: body ∧
          table.header = written front ∧ Divides table body (rawPartsIn sql depth start
            (located ((written done).length + piece.text.length) later)) := by
      intro depth flat split
      rw [grown] at split ⊢
      have result := ih flat regrouped reads.2 split
      rw [List.append_assoc, List.singleton_append] at result
      exact result
    cases symbol : piece.lexeme with
    | none =>
      rw [located_cons_none symbol] at split ⊢
      exact continues depth flat split
    | some token =>
      obtain ⟨located, same, begin_, stop, tokens⟩ := located_cons_some symbol
        (written done).length later
      rw [tokens] at split ⊢
      rw [splitIn] at split
      rw [rawPartsIn]
      by_cases isOpening : located.isPunct '(' = true
      · rw [if_pos isOpening] at split ⊢
        by_cases outer : (depth == 0) = true
        · rw [if_pos outer] at split ⊢
          rw [isPunct_iff] at isOpening
          rw [isOpening.1, isOpening.2] at same
          rw [← same] at symbol
          have bracket := (eq_punct_of_reads reads.1 symbol).1
          have inside_whole : sql = written (done ++ [piece]) ++
              (written ([] : List (Piece Symbol)) ++ written later) := by
            rw [written_nil, List.nil_append]
            exact regrouped
          rw [stop, begin_, grown] at split
          rw [stop, grown]
          obtain ⟨header, divides⟩ :=
            splitIn_inside (Int.le_refl 1) inside_whole reads.2 split
          refine ⟨done, later, by rw [bracket], ?_, divides⟩
          rw [header, whole, List.take_left]
        · rw [if_neg outer] at split ⊢
          simp only [beq_iff_eq] at outer
          exact continues (depth + 1) (by omega) split
      rw [if_neg isOpening] at split ⊢
      by_cases isClosing : located.isPunct ')' = true
      · have outside : ¬(depth == 1) = true := by simp; omega
        rw [if_pos isClosing, if_neg outside] at split ⊢
        exact continues (depth - 1) (by omega) split
      · have separates : ¬(located.isPunct ',' && depth == 1) = true := by simp; omega
        rw [if_neg isClosing, if_neg separates] at split ⊢
        exact continues depth flat split

end Splitting

/-! ## Trimmed parts -/

section Trimming

variable {unicode : Unicode} {mysql : Bool}

theorem lexemes_of_blank {parts : List (Piece Symbol)} (blank : ∀ piece ∈ parts, isBlankPiece piece) :
    lexemes parts = [] := by
  rw [lexemes, List.filterMap_eq_nil_iff]
  intro piece member
  have known := blank piece member
  rw [isBlankPiece, Bool.and_eq_true, Option.isNone_iff_eq_none] at known
  exact known.1

theorem lexemes_takeWhile (parts : List (Piece Symbol)) :
    lexemes (parts.takeWhile isBlankPiece) = [] :=
  lexemes_of_blank fun _ member => List.mem_takeWhile_imp member

/-- Trimming cuts off whitespace at both ends. -/
theorem trimPieces_spec (parts : List (Piece Symbol)) :
    ∃ front back, parts = front ++ (trimPieces parts ++ back) ∧ lexemes front = [] ∧
      lexemes back = [] := by
  have start : parts = parts.takeWhile isBlankPiece ++ parts.dropWhile isBlankPiece :=
    List.takeWhile_append_dropWhile.symm
  have stop : parts.dropWhile isBlankPiece = trimPieces parts ++
      ((parts.dropWhile isBlankPiece).reverse.takeWhile isBlankPiece).reverse := by
    rw [trimPieces, ← List.reverse_append, List.takeWhile_append_dropWhile, List.reverse_reverse]
  refine ⟨_, _, start.trans (congrArg (_ ++ ·) stop), lexemes_takeWhile parts, ?_⟩
  refine lexemes_of_blank fun piece member => ?_
  exact List.mem_takeWhile_imp (List.mem_reverse.mp member)

theorem lexemes_trimPieces (parts : List (Piece Symbol)) :
    lexemes (trimPieces parts) = lexemes parts := by
  obtain ⟨front, back, whole, leading, trailing⟩ := trimPieces_spec parts
  have lexed := congrArg lexemes whole
  rw [lexemes_append, lexemes_append, leading, trailing, List.append_nil, List.nil_append] at lexed
  exact lexed.symm

/-- A trimmed part is read before any separator. -/
theorem reads_trimPieces {parts : List (Piece Symbol)} {rest : Text} {separator : Char}
    (inert : Inert unicode mysql separator) (filled : rest ≠ [])
    (reads : Reads (lexer unicode mysql false) parts rest) (other : Text) :
    Reads (lexer unicode mysql false) (trimPieces parts) (separator :: other) := by
  obtain ⟨front, back, whole, -, -⟩ := trimPieces_spec parts
  rw [whole, reads_append, reads_append] at reads
  exact reads_before inert (List.append_ne_nil_of_right_ne_nil _ filled) reads.2.1 other

theorem joinedPieces_cons (separator first next : List (Piece Symbol))
    (others : List (List (Piece Symbol))) :
    joinedPieces separator first (next :: others) =
      first ++ (separator ++ joinedPieces separator next others) := by
  simp only [joinedPieces, List.flatMap_cons, List.append_assoc]

/-- The trimmed parts, joined by a comma and a space, are read one by one. -/
theorem reads_rejoined {first : List (Piece Symbol)} {others : List (List (Piece Symbol))}
    {rest : List (Piece Symbol)}
    (reads : Reads (lexer unicode mysql false)
      (joinedPieces [punct ','] first others ++ punct ')' :: rest) []) :
    Reads (lexer unicode mysql false) (joinedPieces [punct ',', space] (trimPieces first)
      (others.map trimPieces) ++ punct ')' :: rest) [] := by
  induction others generalizing first with
  | nil =>
    simp only [joinedPieces, List.flatMap_nil, List.append_nil, List.map_nil] at reads ⊢
    rw [reads_append, List.append_nil] at reads ⊢
    have word := (eq_punct_of_reads reads.2.1 rfl).2
    exact ⟨reads_trimPieces (inert_of_bracket (.inr (.inr rfl)) word) (List.cons_ne_nil _ _) reads.1 _,
      reads.2⟩
  | cons next others ih =>
    rw [List.map_cons, joinedPieces_cons, List.append_assoc, List.append_assoc, reads_append] at *
    have word := (eq_punct_of_reads reads.2.1 rfl).2
    refine ⟨reads_trimPieces (inert_of_bracket (.inr (.inl rfl)) word) (List.cons_ne_nil _ _)
      reads.1 _, ?_⟩
    exact ⟨readsPiece_bracket (.inr (.inl rfl)) word _, readsPiece_space _,
      ih reads.2.2⟩

theorem lexemes_rejoined (first : List (Piece Symbol)) (others : List (List (Piece Symbol))) :
    lexemes (joinedPieces [punct ',', space] (trimPieces first) (others.map trimPieces)) =
      lexemes (joinedPieces [punct ','] first others) := by
  induction others generalizing first with
  | nil => simp only [joinedPieces, List.flatMap_nil, List.append_nil, List.map_nil,
      lexemes_trimPieces]
  | cons next others ih =>
    rw [List.map_cons, joinedPieces_cons, joinedPieces_cons, lexemes_append, lexemes_append,
      lexemes_append, lexemes_append, ih, lexemes_trimPieces]
    rfl

theorem written_rejoined {first : List (Piece Symbol)} {others : List (List (Piece Symbol))}
    (trims : ∀ group ∈ first :: others, written (trimPieces group) = strip (written group)) :
    written (joinedPieces [punct ',', space] (trimPieces first) (others.map trimPieces)) =
      joinWith ", ".toList ((first :: others).map (strip ∘ written)) := by
  induction others generalizing first with
  | nil =>
    simp only [joinedPieces, List.flatMap_nil, List.append_nil, List.map_nil, List.map_cons, joinWith,
      Function.comp_apply, trims first List.mem_cons_self]
  | cons next others ih =>
    have later := ih fun group member => trims group (List.mem_cons_of_mem _ member)
    rw [List.map_cons, joinedPieces_cons, written_append, written_append, later,
      trims first List.mem_cons_self]
    simp [joinWith, punct, space, written]

/-- In its place a part is read as it is by itself. -/
theorem trims_of_trimsBlanks {parts : List (Piece Symbol)} {rest : Text} (filled : rest ≠ [])
    (word : isWordChar unicode mysql ')' = false)
    (reads : Reads (lexer unicode mysql false) parts rest)
    (trims : TrimsBlanks unicode mysql (written parts)) :
    written (trimPieces parts) = strip (written parts) := by
  obtain ⟨found, read, same⟩ := trims
  have bracket : IsBracket ')' := .inr (.inr rfl)
  have alone : pieces (lexer unicode mysql false) (written parts ++ [')']) =
      .ok (parts ++ [punct ')']) := by
    refine pieces_eq_ok_iff.mpr ⟨by rw [written_append]; rfl, reads_append.mpr ⟨?_, ?_, trivial⟩⟩
    · exact reads_before (inert_of_bracket bracket word) filled reads _
    · exact readsPiece_bracket bracket word _
  rw [alone, Except.ok.injEq] at read
  obtain rfl := List.append_cancel_right read
  exact same

/-- Each part is read in its place, and so is the parenthesis behind them. -/
theorem reads_groups {first : List (Piece Symbol)} {others : List (List (Piece Symbol))}
    {rest : List (Piece Symbol)}
    (reads : Reads (lexer unicode mysql false)
      (joinedPieces [punct ','] first others ++ punct ')' :: rest) []) :
    isWordChar unicode mysql ')' = false ∧ ∀ group ∈ first :: others,
      ∃ following, following ≠ [] ∧ Reads (lexer unicode mysql false) group following := by
  induction others generalizing first with
  | nil =>
    simp only [joinedPieces, List.flatMap_nil, List.append_nil] at reads
    rw [reads_append] at reads
    refine ⟨(eq_punct_of_reads reads.2.1 rfl).2, fun group member => ?_⟩
    obtain rfl := List.mem_singleton.mp member
    exact ⟨_, List.cons_ne_nil _ _, reads.1⟩
  | cons next others ih =>
    rw [joinedPieces_cons, List.append_assoc, List.append_assoc, reads_append] at reads
    obtain ⟨word, later⟩ := ih reads.2.2
    refine ⟨word, fun group member => ?_⟩
    obtain rfl | member := List.mem_cons.mp member
    · exact ⟨_, List.cons_ne_nil _ _, reads.1⟩
    · exact later group member

end Trimming

/-- The pieces of a table that is split. -/
theorem splitTable_pieces {unicode : Unicode} {sql : Text} {mysql : Bool} {table : TableParts}
    (split : splitTable unicode sql mysql = .ok table) :
    ∃ front body, pieces (lexer unicode mysql false) sql = .ok (front ++ punct '(' :: body) ∧
      table.header = written front ∧ Divides table body (rawParts unicode sql mysql) := by
  obtain ⟨stream, scanned, accepted⟩ := Outcomes.bind_eq_ok.mp split
  have inside : splitIn sql 0 0 0 stream = .ok table := by
    split at accepted
    · split at accepted
      · cases accepted
      · exact accepted
    · exact accepted
  obtain ⟨parts, read, rfl⟩ := tokens_eq_ok_iff.mp scanned
  obtain ⟨whole, reads⟩ := pieces_eq_ok_iff.mp read
  obtain ⟨front, body, same, found⟩ :=
    splitIn_outside (Int.le_refl 0) (show sql = written [] ++ written parts from whole.symm) reads
      inside
  refine ⟨front, body, same ▸ read, ?_⟩
  rw [rawParts, scanned]
  exact found

/-- A table whose parts lose only whitespace when they are trimmed has the same tokens when the parts
are joined again. -/
theorem rejoined_tables_keep_their_tokens (unicode : Unicode) (sql : Text) (mysql : Bool)
    (table : TableParts) (split : splitTable unicode sql mysql = .ok table)
    (trims : ∀ raw ∈ rawParts unicode sql mysql, TrimsBlanks unicode mysql raw) :
    symbols unicode (rejoin table) mysql = symbols unicode sql mysql := by
  obtain ⟨front, _, read, header, first, others, rest, rfl, parts, suffix, raws⟩ :=
    splitTable_pieces split
  obtain ⟨-, reads⟩ := pieces_eq_ok_iff.mp read
  rw [reads_append] at reads
  obtain ⟨before, opening, inner⟩ := reads
  obtain ⟨closing, groups⟩ := reads_groups inner
  have word := (eq_punct_of_reads opening rfl).2
  have trimmed : ∀ group ∈ first :: others, written (trimPieces group) = strip (written group) := by
    intro group member
    obtain ⟨following, filled, reads⟩ := groups group member
    refine trims_of_trimsBlanks filled closing reads (trims _ ?_)
    rw [raws]
    exact List.mem_map_of_mem member
  have again : pieces (lexer unicode mysql false) (rejoin table) = .ok (front ++ punct '(' ::
      (joinedPieces [punct ',', space] (trimPieces first) (others.map trimPieces) ++
        punct ')' :: rest)) := by
    refine pieces_eq_ok_iff.mpr ⟨?_, reads_append.mpr ⟨?_, ?_, reads_rejoined inner⟩⟩
    · rw [rejoin, header, parts, suffix, ← written_rejoined trimmed]
      simp [punct, written]
    · exact reads_before (inert_of_bracket (.inl rfl) word) (List.cons_ne_nil _ _) before _
    · exact readsPiece_bracket (.inl rfl) word _
  rw [symbols_of_pieces again, symbols_of_pieces read, lexemes_append, lexemes_append]
  congr 2
  change _ :: lexemes _ = _ :: lexemes _
  rw [lexemes_append, lexemes_append, lexemes_rejoined]

namespace Commented

/-- Only ASCII letters and digits. -/
def unicode : Unicode where
  isAlnum := Char.isAlphanum
  casefold := asciiLower
  upper text := text.map Char.toUpper

/-- A comment after the first column. -/
def noted : Text := "CREATE TABLE t (a INT -- x\n, b TEXT)".toList

/-- A comment between the words of a column. -/
def inline : Text := "CREATE TABLE t (a /* x */ INT , b TEXT)".toList

/-- Without its newline the comment extends over the rest of the table. -/
theorem trimmed_comment_swallows_the_table :
    ∃ table, splitTable unicode noted false = .ok table ∧
      symbols unicode (rejoin table) false ≠ symbols unicode noted false := by
  refine ⟨{ header := "CREATE TABLE t ".toList, parts := ["a INT -- x".toList, "b TEXT".toList],
            suffix := [] }, by decide, by decide⟩

/-- The pieces of a part. -/
def partPieces (raw : Text) : List (Piece Symbol) :=
  match pieces (lexer unicode false false) (raw ++ [')']) with
  | .error _ => []
  | .ok parts => parts.dropLast

/-- A table with a comment that trimming does not touch. -/
theorem inline_comment_is_kept :
    ∃ table, splitTable unicode inline false = .ok table ∧
      (∀ raw ∈ rawParts unicode inline false, TrimsBlanks unicode false raw) ∧
      symbols unicode (rejoin table) false = symbols unicode inline false := by
  have split : splitTable unicode inline false = .ok
      { header := "CREATE TABLE t ".toList, parts := ["a /* x */ INT".toList, "b TEXT".toList],
        suffix := [] } := by decide
  have raws : rawParts unicode inline false =
      ["a /* x */ INT ".toList, " b TEXT".toList] := by decide
  have trims : ∀ raw ∈ rawParts unicode inline false, TrimsBlanks unicode false raw := by
    intro raw member
    rw [raws, List.mem_pair] at member
    obtain rfl | rfl := member
    · exact ⟨partPieces "a /* x */ INT ".toList, by decide, by decide⟩
    · exact ⟨partPieces " b TEXT".toList, by decide, by decide⟩
  exact ⟨_, split, trims, rejoined_tables_keep_their_tokens _ _ _ _ split trims⟩

end Commented

end Snekql.Recorded
