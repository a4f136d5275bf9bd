import Mathlib.Data.List.Basic

/-!
# Texts with placeholders

A lexer reads a text from left to right and says of each character which text it stands for
or that a placeholder ends there. `replace` puts values in the places of the placeholders in
order; it fails when there are more or fewer values than placeholders, and where the lexer
does. `Splices` says of a fragment, the values bound in it and a text that replacing turns
the fragment into that text, whatever follows. Fragments then compose: their texts are
appended in the order in which their values are.
-/

namespace Snekql.Splicing

universe u
variable {Mode : Type} {Value : Type u}

abbrev Text := List Char

/-- What a character contributes. -/
inductive Token where
  | text (text : Text)
  | hole
deriving DecidableEq, Repr

structure Lexer (Mode : Type) where
  start : Mode
  next : Mode → Char → Option (Mode × Token)
  /-- A text may end in this mode. -/
  final : Mode → Bool
  startIsFinal : final start = true

/-- Put the values in the places of the placeholders, from left to right. -/
def replace (lexer : Lexer Mode) (literal : Value → Text) : Mode → Text → List Value → Option Text
  | mode, [], [] => if lexer.final mode then some [] else none
  | _, [], _ :: _ => none
  | mode, char :: rest, values =>
    match lexer.next mode char, values with
    | none, _ => none
    | some (next, .text text), values =>
      (replace lexer literal next rest values).map (text ++ ·)
    | some (next, .hole), value :: values =>
      (replace lexer literal next rest values).map (literal value ++ ·)
    | some (_, .hole), [] => none

/-- The number of placeholders in a text. -/
def holes (lexer : Lexer Mode) : Mode → Text → Nat
  | _, [] => 0
  | mode, char :: rest =>
    match lexer.next mode char with
    | none => 0
    | some (next, .text _) => holes lexer next rest
    | some (next, .hole) => holes lexer next rest + 1

/-- A text without placeholders, and the mode after it. -/
def copies (lexer : Lexer Mode) : Mode → Text → Option (Mode × Text)
  | mode, [] => some (mode, [])
  | mode, char :: rest =>
    match lexer.next mode char with
    | some (next, .text text) =>
      (copies lexer next rest).map (fun copied => (copied.1, text ++ copied.2))
    | _ => none

variable {lexer : Lexer Mode} {parts shown : List Text} {values : List Value} {text sql : Text}
  {literal : Value → Text}

/-- Every value has its placeholder. -/
theorem holes_of_replace {mode : Mode} {replaced : Text}
    (done : replace lexer literal mode text values = some replaced) :
    holes lexer mode text = values.length := by
  induction text generalizing mode values replaced with
  | nil =>
    cases values with
    | nil => rfl
    | cons value values => cases done
  | cons char rest ih =>
    cases read : lexer.next mode char with
    | none => simp [replace, read] at done
    | some token =>
      obtain ⟨next, token⟩ := token
      cases token with
      | text text =>
        simp only [replace, read, Option.map_eq_some_iff] at done
        obtain ⟨after, following, _⟩ := done
        simpa only [holes, read] using ih following
      | hole =>
        cases values with
        | nil => simp [replace, read] at done
        | cons value values =>
          simp only [replace, read, Option.map_eq_some_iff] at done
          obtain ⟨after, following, _⟩ := done
          simpa only [holes, read, List.length_cons, Nat.add_right_cancel_iff]
            using ih following

/-- A text without placeholders stays as it is read. -/
theorem replace_of_copies {mode after : Mode} {copied : Text}
    (isCopied : copies lexer mode text = some (after, copied)) (rest : Text) (values : List Value) :
    replace lexer literal mode (text ++ rest) values =
      (replace lexer literal after rest values).map (copied ++ ·) := by
  induction text generalizing mode copied with
  | nil =>
    obtain ⟨rfl, rfl⟩ := Prod.mk.inj (Option.some.inj isCopied)
    simp
  | cons char text ih =>
    cases read : lexer.next mode char with
    | none => simp [copies, read] at isCopied
    | some token =>
      obtain ⟨next, token⟩ := token
      cases token with
      | hole => simp [copies, read] at isCopied
      | text read' =>
        simp only [copies, read, Option.map_eq_some_iff, Prod.mk.injEq] at isCopied
        obtain ⟨⟨end', tail⟩, following, rfl, rfl⟩ := isCopied
        simp only [List.cons_append, replace, read, ih following]
        simp [Function.comp_def]

/-- One text without placeholders after another. -/
theorem copies_append {mode middle after : Mode} {first second : Text} {firstCopy secondCopy : Text}
    (left : copies lexer mode first = some (middle, firstCopy))
    (right : copies lexer middle second = some (after, secondCopy)) :
    copies lexer mode (first ++ second) = some (after, firstCopy ++ secondCopy) := by
  induction first generalizing mode firstCopy with
  | nil =>
    obtain ⟨rfl, rfl⟩ := Prod.mk.inj (Option.some.inj left)
    exact right
  | cons char first ih =>
    cases read : lexer.next mode char with
    | none => simp [copies, read] at left
    | some token =>
      obtain ⟨next, token⟩ := token
      cases token with
      | hole => simp [copies, read] at left
      | text read' =>
        simp only [copies, read, Option.map_eq_some_iff, Prod.mk.injEq] at left
        obtain ⟨⟨end', tail⟩, following, rfl, rfl⟩ := left
        simp [copies, read, ih following]

/-- The fragment with its values becomes the text, whatever follows. -/
def Splices (lexer : Lexer Mode) (literal : Value → Text) (sql : Text) (values : List Value)
    (text : Text) : Prop :=
  ∀ rest others, replace lexer literal lexer.start (sql ++ rest) (values ++ others) =
    (replace lexer literal lexer.start rest others).map (text ++ ·)

namespace Splices

variable {lexer : Lexer Mode} {literal : Value → Text}

theorem nil : Splices lexer literal [] [] [] := by
  intro rest others
  simp

theorem of_copies (inert : copies lexer lexer.start text = some (lexer.start, text)) :
    Splices lexer literal text [] text :=
  fun rest others => replace_of_copies inert rest others

theorem append {first second firstText secondText : Text} {others : List Value}
    (left : Splices lexer literal first values firstText)
    (right : Splices lexer literal second others secondText) :
    Splices lexer literal (first ++ second) (values ++ others) (firstText ++ secondText) := by
  intro rest more
  rw [List.append_assoc, List.append_assoc, left, right]
  simp [Function.comp_def]

/-- A text in front of a fragment. -/
theorem after {before : Text} (inert : Splices lexer literal before [] before)
    (fragment : Splices lexer literal sql values text) :
    Splices lexer literal (before ++ sql) values (before ++ text) :=
  inert.append fragment

/-- A text behind a fragment. -/
theorem followed {behind : Text} (fragment : Splices lexer literal sql values text)
    (inert : Splices lexer literal behind [] behind) :
    Splices lexer literal (sql ++ behind) values (text ++ behind) := by
  have both := fragment.append inert
  rwa [List.append_nil] at both

/-- A whole text takes exactly its values. -/
theorem complete (fragment : Splices lexer literal sql values text) :
    replace lexer literal lexer.start sql values = some text := by
  have whole := fragment [] []
  simpa [replace, lexer.startIsFinal] using whole

end Splices

/-! ## Texts without placeholders -/

/-- A text that a lexer copies, and that leaves it as it found it. -/
def Inert (lexer : Lexer Mode) (text : Text) : Prop :=
  copies lexer lexer.start text = some (lexer.start, text)

namespace Inert

variable {lexer : Lexer Mode}

theorem nil : Inert lexer [] := rfl

theorem append {first second : Text} (left : Inert lexer first) (right : Inert lexer second) :
    Inert lexer (first ++ second) :=
  copies_append left right

theorem splices (inert : Inert lexer text) : Splices lexer literal text [] text :=
  Splices.of_copies inert

/-- A text of characters that the lexer copies one by one. -/
theorem of_each
    (each : ∀ char ∈ text, lexer.next lexer.start char = some (lexer.start, .text [char])) :
    Inert lexer text := by
  induction text with
  | nil => exact nil
  | cons char rest ih =>
    have first : Inert lexer [char] := by
      simp [Inert, copies, each char List.mem_cons_self]
    have others := ih
      (fun other listed => each other (List.mem_cons_of_mem _ listed))
    exact first.append others

end Inert

/-! ## Joined fragments -/

/-- `separator.join(parts)`. -/
def joinWith (separator : Text) : List Text → Text
  | [] => []
  | [part] => part
  | part :: next :: rest => part ++ separator ++ joinWith separator (next :: rest)

/-- Every part but the first follows a separator. -/
theorem joinWith_cons (separator first : Text) (rest : List Text) :
    joinWith separator (first :: rest) = first ++ rest.flatMap (separator ++ ·) := by
  induction rest generalizing first with
  | nil => exact (List.append_nil first).symm
  | cons second rest ih =>
    rw [joinWith, ih, List.flatMap_cons, List.append_assoc, List.append_assoc]

theorem Inert.join {separator : Text} (between : Inert lexer separator)
    (each : ∀ part ∈ parts, Inert lexer part) : Inert lexer (joinWith separator parts) := by
  induction parts with
  | nil => exact Inert.nil
  | cons first rest ih =>
    have others := ih
      (fun part listed => each part (List.mem_cons_of_mem _ listed))
    cases rest with
    | nil => exact each first List.mem_cons_self
    | cons second rest => exact ((each first List.mem_cons_self).append between).append others

/-- A text with the values bound in it, in order. -/
structure Fragment (Value : Type u) where
  sql : Text
  params : List Value

/-- A list of texts that grows together with the values bound in them. -/
structure Clauses (Value : Type u) where
  parts : List Text
  params : List Value

/-- A fragment that becomes the text of another one with the same values. -/
structure SplicesTo (lexer : Lexer Mode) (literal : Value → Text) (coded shown : Fragment Value) :
    Prop where
  params : shown.params = coded.params
  sql : Splices lexer literal coded.sql coded.params shown.sql

/-- The texts become other texts, each with its own share of the values. -/
inductive SplicesEach (lexer : Lexer Mode) (literal : Value → Text) :
    List Text → List Value → List Text → Prop where
  | nil : SplicesEach lexer literal [] [] []
  | cons {sql text : Text} {values : List Value} {parts shown : List Text} {others : List Value}
      (head : Splices lexer literal sql values text)
      (tail : SplicesEach lexer literal parts others shown) :
      SplicesEach lexer literal (sql :: parts) (values ++ others) (text :: shown)

namespace SplicesEach

variable {lexer : Lexer Mode} {literal : Value → Text}

theorem single (head : Splices lexer literal sql values text) :
    SplicesEach lexer literal [sql] values [text] := by
  have listed : SplicesEach lexer literal [sql] (values ++ []) [text] := cons head nil
  rwa [List.append_nil] at listed

theorem append {first second firstShown secondShown : List Text} {others : List Value}
    (left : SplicesEach lexer literal first values firstShown)
    (right : SplicesEach lexer literal second others secondShown) :
    SplicesEach lexer literal (first ++ second) (values ++ others)
      (firstShown ++ secondShown) := by
  induction left with
  | nil => exact right
  | cons head tail ih =>
    rw [List.append_assoc]
    exact cons head ih

/-- Texts without placeholders. -/
theorem of_inert (inert : ∀ part ∈ parts, Splices lexer literal part [] part) :
    SplicesEach lexer literal parts [] parts := by
  induction parts with
  | nil => exact nil
  | cons part parts ih =>
    have rest := ih (fun other listed => inert other (List.mem_cons_of_mem _ listed))
    exact cons (inert part List.mem_cons_self) rest

/-- The joined text takes the values of its parts in order. -/
theorem join {separator : Text} (inert : Splices lexer literal separator [] separator)
    (each : SplicesEach lexer literal parts values shown) :
    Splices lexer literal (joinWith separator parts) values (joinWith separator shown) := by
  induction each with
  | nil => exact Splices.nil
  | cons head tail ih =>
    cases tail with
    | nil => simpa [joinWith] using head
    | cons second later => exact (head.followed inert).append ih

/-- The same change to every text and to what it becomes. -/
theorem map {change : Text → Text} (keeps : ∀ sql values text, Splices lexer literal sql values text →
      Splices lexer literal (change sql) values (change text))
    (each : SplicesEach lexer literal parts values shown) :
    SplicesEach lexer literal (parts.map change) values (shown.map change) := by
  induction each with
  | nil => exact nil
  | cons head tail ih => exact cons (keeps _ _ _ head) ih

/-- Texts side by side that take no values. -/
theorem of_texts
    (each : List.Forall₂ (fun sql text => Splices lexer literal sql [] text) parts shown) :
    SplicesEach lexer literal parts [] shown := by
  induction each with
  | nil => exact nil
  | cons head tail ih => exact cons head ih

/-- Fragments side by side. -/
theorem of_fragments {coded shown : List (Fragment Value)}
    (each : List.Forall₂ (SplicesTo lexer literal) coded shown) :
    SplicesEach lexer literal (coded.map Fragment.sql) (coded.flatMap Fragment.params)
      (shown.map Fragment.sql) := by
  induction each with
  | nil => exact nil
  | cons head tail ih => exact cons head.sql ih

theorem length_eq (each : SplicesEach lexer literal parts values shown) :
    shown.length = parts.length := by
  induction each with
  | nil => rfl
  | cons head tail ih => simp only [List.length_cons, ih]

end SplicesEach

theorem params_of_fragments {coded shown : List (Fragment Value)}
    (each : List.Forall₂ (SplicesTo lexer literal) coded shown) :
    shown.flatMap Fragment.params = coded.flatMap Fragment.params := by
  induction each with
  | nil => rfl
  | cons head tail ih =>
    simp only [List.flatMap_cons, head.params, ih]

/-- Clauses that become other clauses with the same values. -/
structure ClausesTo (lexer : Lexer Mode) (literal : Value → Text) (coded shown : Clauses Value) :
    Prop where
  params : shown.params = coded.params
  parts : SplicesEach lexer literal coded.parts coded.params shown.parts

end Snekql.Splicing
