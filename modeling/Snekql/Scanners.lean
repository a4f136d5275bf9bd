import Mathlib.Data.List.Basic

/-!
# Scanners

A scanner reads a text from its front. Each step consumes at least one character, returns
some output, and may change a state. Scanning repeats the step to the end of the text.
-/

namespace Snekql.Scanning

universe u v
variable {State : Type u} {Output : Type v}

/-- One step at a character, and the text that remains. -/
structure Step (State : Type u) (Output : Type v) where
  output : List Output
  state : State
  remaining : List Char

/-- A step function that never gives characters back. -/
structure Scanner (State : Type u) (Output : Type v) where
  step : State → Char → List Char → Step State Output
  shrinks : ∀ state char rest, (step state char rest).remaining.length ≤ rest.length

/-- Repeat the step at most `fuel` times. -/
def scanFor (scanner : Scanner State Output) : Nat → State → List Char → List Output
  | 0, _, _ => []
  | _ + 1, _, [] => []
  | fuel + 1, state, char :: rest =>
    let step := scanner.step state char rest
    step.output ++ scanFor scanner fuel step.state step.remaining

/-- Read the whole text. -/
def scan (scanner : Scanner State Output) (state : State) (text : List Char) : List Output :=
  scanFor scanner text.length state text

/-- More fuel than characters changes nothing. -/
theorem scanFor_eq (scanner : Scanner State Output) {fuel : Nat} {state : State}
    {text : List Char} (enough : text.length ≤ fuel) :
    scanFor scanner fuel state text = scan scanner state text := by
  have agree (bound first second : Nat) (state : State) (text : List Char)
      (bounded : text.length ≤ bound) (one : text.length ≤ first) (other : text.length ≤ second) :
      scanFor scanner first state text = scanFor scanner second state text := by
    induction bound generalizing first second state text with
    | zero =>
      obtain rfl : text = [] := List.length_eq_zero_iff.mp (by omega)
      cases first <;> cases second <;> rfl
    | succ bound ih =>
      cases text with
      | nil => cases first <;> cases second <;> rfl
      | cons char rest =>
        simp only [List.length_cons] at bounded one other
        obtain ⟨first, rfl⟩ := Nat.exists_eq_succ_of_ne_zero (show first ≠ 0 by omega)
        obtain ⟨second, rfl⟩ := Nat.exists_eq_succ_of_ne_zero (show second ≠ 0 by omega)
        have shorter := scanner.shrinks state char rest
        simp only [scanFor]
        rw [ih first second _ _ (by omega) (by omega) (by omega)]
  exact agree text.length fuel text.length state text (Nat.le_refl _) enough (Nat.le_refl _)

theorem scan_nil (scanner : Scanner State Output) (state : State) : scan scanner state [] = [] :=
  rfl

theorem scan_cons (scanner : Scanner State Output) (state : State) (char : Char)
    (rest : List Char) :
    scan scanner state (char :: rest) =
      (scanner.step state char rest).output ++
        scan scanner (scanner.step state char rest).state
          (scanner.step state char rest).remaining := by
  rw [← scanFor_eq scanner (scanner.shrinks state char rest)]
  rfl

/-! ## Texts made of parts

A text is often put together from parts, each of which a scanner reads as a whole provided
that a suitable character follows. Parts in a row are read one by one.
-/

universe w

/-- The parts of a language: their texts, what a scanner makes of them, and the characters
that may follow each. -/
structure Vocabulary (Part : Type w) (Output : Type v) where
  text : Part → List Char
  output : Part → List Output
  allows : Part → Option Char → Bool

namespace Vocabulary

variable {Part : Type w} (vocabulary : Vocabulary Part Output)

/-- The text of parts in a row. -/
def texts (parts : List Part) : List Char := parts.flatMap vocabulary.text

/-- The first character of parts in a row, or the one after them. -/
def headOf (parts : List Part) (next : Option Char) : Option Char :=
  (vocabulary.texts parts).head?.or next

/-- Every part is followed by a character that it allows. -/
def Spaced : List Part → Option Char → Prop
  | [], _ => True
  | part :: rest, next =>
    vocabulary.allows part (vocabulary.headOf rest next) = true ∧ Spaced rest next

instance decidableSpaced : (parts : List Part) → (next : Option Char) →
    Decidable (vocabulary.Spaced parts next)
  | [], _ => isTrue trivial
  | _ :: rest, next => @instDecidableAnd _ _ _ (decidableSpaced rest next)

/-- The scanner reads a part as a whole if what follows is allowed. -/
def ReadBy (scanner : Scanner Unit Output) : Prop :=
  ∀ part rest, vocabulary.allows part rest.head? = true →
    scan scanner () (vocabulary.text part ++ rest) =
      vocabulary.output part ++ scan scanner () rest

variable {vocabulary}

@[simp] theorem texts_nil : vocabulary.texts [] = [] := rfl

@[simp] theorem texts_cons (part : Part) (rest : List Part) :
    vocabulary.texts (part :: rest) = vocabulary.text part ++ vocabulary.texts rest := rfl

@[simp] theorem texts_append (first second : List Part) :
    vocabulary.texts (first ++ second) = vocabulary.texts first ++ vocabulary.texts second :=
  List.flatMap_append

theorem headOf_append (first second : List Part) (next : Option Char) :
    vocabulary.headOf (first ++ second) next =
      vocabulary.headOf first (vocabulary.headOf second next) := by
  simp only [headOf, texts_append, List.head?_append, Option.or_assoc]

theorem spaced_append {first second : List Part} {next : Option Char} :
    vocabulary.Spaced (first ++ second) next ↔
      vocabulary.Spaced first (vocabulary.headOf second next) ∧ vocabulary.Spaced second next := by
  induction first with
  | nil => exact ⟨fun spaced => ⟨trivial, spaced⟩, fun both => both.2⟩
  | cons part rest ih =>
    rw [List.cons_append, Spaced, Spaced, ih, headOf_append, and_assoc]

/-- Parts that are spaced are read one by one. -/
theorem scan_texts {scanner : Scanner Unit Output} (readBy : vocabulary.ReadBy scanner)
    {parts : List Part} {rest : List Char} (spaced : vocabulary.Spaced parts rest.head?) :
    scan scanner () (vocabulary.texts parts ++ rest) =
      parts.flatMap vocabulary.output ++ scan scanner () rest := by
  induction parts with
  | nil => rfl
  | cons part others ih =>
    have allowed : vocabulary.allows part (vocabulary.texts others ++ rest).head? = true := by
      rw [List.head?_append]
      exact spaced.1
    rw [texts_cons, List.append_assoc, readBy part _ allowed, ih spaced.2,
      List.flatMap_cons, List.append_assoc]

end Vocabulary

end Snekql.Scanning
