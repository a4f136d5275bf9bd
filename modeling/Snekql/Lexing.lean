import Snekql.Outcomes

/-!
# Lexers

A lexer reads a text piece by piece. A piece is a token or something between tokens, and it may
depend on the characters that follow it. Reading may fail. A text that was read in pieces can be cut
between two of them; the front is read in the same way before another text, provided that each of
its pieces is.
-/

namespace Snekql.Lexing

universe u v
variable {Error : Type u} {Lexeme : Type v}

abbrev Text := List Char

/-- A piece of a text and the token that it is. -/
structure Piece (Lexeme : Type v) where
  text : Text
  lexeme : Option Lexeme
deriving DecidableEq, Repr

/-- At a character, how many of the characters after it belong to the piece. -/
structure Lexer (Error : Type u) (Lexeme : Type v) where
  step : Char → Text → Except Error (Nat × Option Lexeme)
  bounded : ∀ {char rest count lexeme}, step char rest = .ok (count, lexeme) → count ≤ rest.length

/-- The text of pieces in a row. -/
def written (pieces : List (Piece Lexeme)) : Text := pieces.flatMap Piece.text

/-- The tokens of pieces in a row. -/
def lexemes (pieces : List (Piece Lexeme)) : List Lexeme := pieces.filterMap Piece.lexeme

@[simp] theorem written_nil : written ([] : List (Piece Lexeme)) = [] := rfl

@[simp] theorem written_cons (piece : Piece Lexeme) (pieces : List (Piece Lexeme)) :
    written (piece :: pieces) = piece.text ++ written pieces := rfl

@[simp] theorem written_append (first second : List (Piece Lexeme)) :
    written (first ++ second) = written first ++ written second := List.flatMap_append

@[simp] theorem lexemes_append (first second : List (Piece Lexeme)) :
    lexemes (first ++ second) = lexemes first ++ lexemes second := List.filterMap_append

variable (lexer : Lexer Error Lexeme)

/-- Read at most `fuel` pieces. -/
def piecesFor : Nat → Text → Except Error (List (Piece Lexeme))
  | 0, _ => .ok []
  | _ + 1, [] => .ok []
  | fuel + 1, char :: rest => do
      let (count, lexeme) ← lexer.step char rest
      let others ← piecesFor fuel (rest.drop count)
      return { text := char :: rest.take count, lexeme } :: others

/-- Read the whole text. -/
def pieces (text : Text) : Except Error (List (Piece Lexeme)) := piecesFor lexer text.length text

/-- A piece is read where its text stands before the rest. -/
def ReadsPiece (piece : Piece Lexeme) (rest : Text) : Prop :=
  ∃ char others, piece.text = char :: others ∧
    lexer.step char (others ++ rest) = .ok (others.length, piece.lexeme)

/-- Pieces in a row, each of which is read before what follows it. -/
def Reads : List (Piece Lexeme) → Text → Prop
  | [], _ => True
  | piece :: others, rest =>
    ReadsPiece lexer piece (written others ++ rest) ∧ Reads others rest

variable {lexer}

theorem reads_append {first second : List (Piece Lexeme)} {rest : Text} :
    Reads lexer (first ++ second) rest ↔
      Reads lexer first (written second ++ rest) ∧ Reads lexer second rest := by
  induction first with
  | nil => simp only [List.nil_append, Reads, true_and]
  | cons piece others ih =>
    rw [List.cons_append, Reads, Reads, ih, written_append, List.append_assoc,
      and_assoc]

/-- A step reads the piece that it cuts off. -/
theorem readsPiece_of_step {char : Char} {rest : Text} {count : Nat} {lexeme : Option Lexeme}
    (step : lexer.step char rest = .ok (count, lexeme)) :
    ReadsPiece lexer { text := char :: rest.take count, lexeme } (rest.drop count) := by
  refine ⟨char, rest.take count, rfl, ?_⟩
  rw [List.take_append_drop, step, List.length_take, Nat.min_eq_left (lexer.bounded step)]

theorem piecesFor_written {rest : Text} {parts : List (Piece Lexeme)} (reads : Reads lexer parts rest)
    {fuel : Nat} (enough : (written parts ++ rest).length ≤ fuel) :
    ∃ less, rest.length ≤ less ∧
      piecesFor lexer fuel (written parts ++ rest) = (piecesFor lexer less rest).map (parts ++ ·) := by
  induction parts generalizing fuel with
  | nil =>
    refine ⟨fuel, enough, ?_⟩
    cases h : piecesFor lexer fuel rest <;> simp [h, Except.map]
  | cons piece others ih =>
    obtain ⟨⟨char, tail, text, step⟩, reads⟩ := reads
    simp only [written_cons, text, List.cons_append, List.append_assoc, List.length_cons] at enough ⊢
    obtain ⟨fuel, rfl⟩ := Nat.exists_eq_add_one_of_ne_zero (Nat.ne_of_gt (Nat.zero_lt_of_lt enough))
    have shorter : (written others ++ rest).length ≤ fuel := by
      simp only [List.length_append] at enough ⊢
      omega
    obtain ⟨less, remaining, read⟩ := ih reads shorter
    refine ⟨less, remaining, ?_⟩
    rw [piecesFor, step]
    simp only [Outcomes.ok_bind, List.drop_left, List.take_left, read]
    have same : ({ text := char :: tail, lexeme := piece.lexeme } : Piece Lexeme) = piece := by
      rw [← text]
    cases piecesFor lexer less rest with
    | error error => rfl
    | ok later => simp only [Except.map, Outcomes.ok_bind, same, List.cons_append]; rfl

/-- What is read consists of pieces that are read. -/
theorem reads_of_piecesFor {fuel : Nat} {text : Text} {parts : List (Piece Lexeme)}
    (enough : text.length ≤ fuel) (read : piecesFor lexer fuel text = .ok parts) :
    written parts = text ∧ Reads lexer parts [] := by
  induction fuel generalizing text parts with
  | zero =>
    obtain rfl : text = [] := List.length_eq_zero_iff.mp (by omega)
    cases read
    exact ⟨rfl, trivial⟩
  | succ fuel ih =>
    cases text with
    | nil =>
      cases read
      exact ⟨rfl, trivial⟩
    | cons char rest =>
      rw [piecesFor] at read
      obtain ⟨⟨count, lexeme⟩, step, read⟩ := Outcomes.bind_eq_ok.mp read
      obtain ⟨others, following, returned⟩ := Outcomes.bind_eq_ok.mp read
      cases returned
      have shorter : (rest.drop count).length ≤ fuel := by
        simp only [List.length_cons] at enough
        rw [List.length_drop]
        omega
      obtain ⟨same, reads⟩ := ih shorter following
      have first := readsPiece_of_step step
      constructor
      · rw [written_cons, same, List.cons_append, List.take_append_drop]
      · rw [Reads, List.append_nil, same]
        exact ⟨first, reads⟩

/-- Reading a text is finding the pieces that are read in a row. -/
theorem pieces_eq_ok_iff {text : Text} {parts : List (Piece Lexeme)} :
    pieces lexer text = .ok parts ↔ written parts = text ∧ Reads lexer parts [] := by
  constructor
  · exact reads_of_piecesFor (Nat.le_refl _)
  · rintro ⟨rfl, reads⟩
    have enough : (written parts ++ []).length ≤ (written parts).length := by simp
    obtain ⟨less, -, read⟩ := piecesFor_written reads enough
    rw [List.append_nil] at read
    rw [pieces, read]
    cases less <;> simp [piecesFor, Except.map]

end Snekql.Lexing
