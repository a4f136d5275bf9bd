import Mathlib
import Snekql.MariadbBodies

/-!
# The validator against the server

In a plain body every restricted word that the server reads is a token of the validator. The
proof follows both scanners through the text. Inside an executable comment the validator
reads only the part before the first closing mark, so the invariant names that part and the
text after it.
-/

namespace Snekql.MariadbMigrations

open Snekql.Splicing (Text)
open Snekql.Migrations (isSpace Migration)
open Snekql.Scanning

/-! ## Characters -/

theorem isAlpha_iff (char : Char) : char.isAlpha = true ↔
    (65 ≤ char.toNat ∧ char.toNat ≤ 90) ∨ (97 ≤ char.toNat ∧ char.toNat ≤ 122) := by
  simp only [Char.isAlpha, Char.isUpper, Char.isLower, Bool.or_eq_true, Bool.and_eq_true,
    decide_eq_true_eq, ge_iff_le, UInt32.le_iff_toNat_le]
  exact Iff.rfl

theorem isDigit_iff (char : Char) :
    char.isDigit = true ↔ 48 ≤ char.toNat ∧ char.toNat ≤ 57 := by
  simp only [Char.isDigit, Bool.and_eq_true, decide_eq_true_eq, ge_iff_le, UInt32.le_iff_toNat_le]
  exact Iff.rfl

variable {inWord : Bool} {char : Char} {content text rest after body : Text}

/-- Spaces are below the letters or outside ASCII. -/
theorem code_of_isSpace (space : isSpace char = true) : char.toNat ≤ 32 ∨ 128 ≤ char.toNat := by
  simp only [isSpace, Bool.or_eq_true, decide_eq_true_eq, beq_iff_eq] at space
  omega

theorem ne_of_code {left right : Char} (different : left.toNat ≠ right.toNat) : left ≠ right := by
  rintro rfl
  exact different rfl

/-- Only letters and underscores become capitals and underscores. -/
theorem letter_of_toUpper
    (upper : (65 ≤ char.toUpper.toNat ∧ char.toUpper.toNat ≤ 90) ∨ char.toUpper = '_') :
    char.isAlpha = true ∨ char = '_' := by
  by_cases lower : 'a'.val ≤ char.val ∧ char.val ≤ 'z'.val
  · left
    simp only [Char.isAlpha, Char.isLower, Bool.or_eq_true, Bool.and_eq_true, decide_eq_true_eq]
    exact Or.inr lower
  · have kept : char.toUpper = char := by
      unfold Char.toUpper
      rw [dif_neg lower]
    rw [kept] at upper
    obtain capital | underscore := upper
    · exact Or.inl ((isAlpha_iff char).mpr (Or.inl capital))
    · exact Or.inr underscore

theorem toUpper_eq_mark (char : Char) : (char.toUpper == '@') = (char == '@') := by
  by_cases lower : 'a'.val ≤ char.val ∧ char.val ≤ 'z'.val
  · have left : char.toUpper ≠ '@' := by
      intro same
      have value := Char.ext_iff.mp same
      simp only [Char.toUpper, dif_pos lower] at value
      have back : char.val + ('A'.val - 'a'.val) + ('a'.val - 'A'.val) = char.val := by
        rw [UInt32.add_assoc]
        exact UInt32.add_zero _
      rw [value] at back
      rw [← back] at lower
      exact absurd lower.1 (by decide)
    have right : char ≠ '@' := by
      rintro rfl
      exact absurd lower.1 (by decide)
    rw [beq_eq_false_iff_ne.mpr left, beq_eq_false_iff_ne.mpr right]
  · unfold Char.toUpper
    rw [dif_neg lower]

/-- A word is restricted whatever its case. -/
def IsRestricted (word : Text) : Prop := word.map Char.toUpper ∈ restrictedBodyTokens

theorem restricted_letters : ∀ token ∈ restrictedBodyTokens,
    token ≠ [] ∧ ∀ char ∈ token, (65 ≤ char.toNat ∧ char.toNat ≤ 90) ∨ char = '_' := by
  simp [restrictedBodyTokens]

theorem IsRestricted.letters {word : Text} (restricted : IsRestricted word) :
    ∀ char ∈ word, char.isAlpha = true ∨ char = '_' := by
  intro char listed
  exact letter_of_toUpper
    ((restricted_letters _ restricted).2 _ (List.mem_map.mpr ⟨char, listed, rfl⟩))

/-! ## Extents of joined texts -/

theorem commentParts_nil_of_cons (unclosed : commentParts (char :: rest) = none) :
    commentParts rest = none := by
  unfold commentParts at unclosed
  split at unclosed
  · cases unclosed
  · exact Option.map_eq_none_iff.mp unclosed

theorem commentParts_suffix {later : Text} (suffix : later <:+ content)
    (unclosed : commentParts content = none) : commentParts later = none := by
  obtain ⟨read, rfl⟩ := suffix
  induction read with
  | nil => exact unclosed
  | cons char rest ih =>
    exact ih (commentParts_nil_of_cons unclosed)

/-- A text without closing mark ends at the mark that follows it. -/
theorem commentParts_append (after : Text) (unclosed : commentParts content = none) :
    commentParts (content ++ '*' :: '/' :: after) = some (content, after) := by
  induction content with
  | nil => simp [commentParts]
  | cons char rest ih =>
    have later := ih (commentParts_nil_of_cons unclosed)
    have ahead : ¬(char = '*' ∧ (rest ++ '*' :: '/' :: after).head? = some '/') := by
      rintro ⟨rfl, next⟩
      cases rest with
      | nil => simp at next
      | cons second rest =>
        have closing : second = '/' := by simpa using next
        simp [commentParts, closing] at unclosed
    rw [List.cons_append, commentParts, if_neg ahead, later]
    rfl

/-- No closing mark stands before the first one. -/
theorem commentParts_before (parts : commentParts text = some (content, after)) :
    commentParts content = none := by
  induction text generalizing content with
  | nil => cases parts
  | cons char rest ih =>
    unfold commentParts at parts
    split at parts
    · cases parts
      rfl
    · rename_i ahead
      rw [Option.map_eq_some_iff] at parts
      obtain ⟨⟨inner, last⟩, found, same⟩ := parts
      cases same
      have start : inner.head? = some '/' → rest.head? = some '/' := by
        intro next
        rw [commentParts_eq found, List.head?_append, next]
        rfl
      rw [commentParts, if_neg (fun closing => ahead ⟨closing.1, start closing.2⟩),
        ih found]
      rfl

theorem afterLine_append {line : Text} (kept : after.length ≤ (afterLine (line ++ after)).length) :
    afterLine (line ++ after) = afterLine line ++ after := by
  induction line with
  | nil =>
    cases after with
    | nil => rfl
    | cons char rest =>
      have shorter : (afterLine (char :: rest)).length ≤ rest.length := by
        unfold afterLine
        split
        · exact Nat.le_refl _
        · exact (afterLine_suffix rest).length_le
      simp only [List.nil_append, List.length_cons] at kept
      omega
  | cons char rest ih =>
    simp only [List.cons_append, afterLine] at kept ⊢
    split
    · rfl
    · rename_i other
      rw [if_neg other] at kept
      exact ih kept

/-- What follows the text that the validator reads: nothing, or a closing mark. -/
def IsEnding (after : Text) : Prop := after = [] ∨ ∃ rest, after = '*' :: '/' :: rest

theorem IsEnding.head (ending : IsEnding after) (first : after.head? = some char) : char = '*' := by
  obtain rfl | ⟨rest, rfl⟩ := ending
  · cases first
  · cases first
    rfl

/-- At least the first character is read. -/
theorem afterQuoted_shorter (quote char : Char) (rest : Text) :
    (Server.afterQuoted quote (char :: rest)).length ≤ rest.length := by
  unfold Server.afterQuoted
  split
  · cases rest with
    | nil => exact Nat.le_refl _
    | cons escaped rest =>
      have suffix := (Server.afterQuoted_suffix quote rest).length_le
      simp only [List.length_cons]
      omega
  · split
    · exact (Server.afterQuoted_suffix quote rest).length_le
    · cases rest with
      | nil => exact Nat.le_refl _
      | cons next rest =>
        have suffix := (Server.afterQuoted_suffix quote rest).length_le
        simp only [List.length_cons]
        split
        · omega
        · exact Nat.le_refl _

theorem afterQuoted_append {quote : Char} (ending : IsEnding after) (other : quote ≠ '*')
    (kept : after.length ≤ (Server.afterQuoted quote (text ++ after)).length) :
    Server.afterQuoted quote (text ++ after) = Server.afterQuoted quote text ++ after := by
  have nothing (kept : after.length ≤ (Server.afterQuoted quote after).length) : after = [] := by
    cases after with
    | nil => rfl
    | cons char rest =>
      have shorter := afterQuoted_shorter quote char rest
      simp only [List.length_cons] at kept
      omega
  fun_induction Server.afterQuoted quote text with
  | case1 =>
    obtain rfl := nothing kept
    rfl
  | case2 char escape =>
    cases after with
    | nil => simp [Server.afterQuoted, escape]
    | cons next rest =>
      have suffix := (Server.afterQuoted_suffix quote rest).length_le
      rw [List.singleton_append, Server.afterQuoted, if_pos escape] at kept
      simp only [List.length_cons] at kept
      omega
  | case3 char escape escaped rest ih =>
    rw [List.cons_append, List.cons_append, Server.afterQuoted, if_pos escape] at kept ⊢
    exact ih kept
  | case4 char rest escape different ih =>
    have onward : Server.afterQuoted quote (char :: (rest ++ after)) =
        Server.afterQuoted quote (rest ++ after) := by
      rw [Server.afterQuoted.eq_def]
      simp only [escape, if_false]
      exact if_pos different
    rw [List.cons_append, onward] at kept ⊢
    exact ih kept
  | case5 char escape same =>
    cases after with
    | nil => simp [Server.afterQuoted, escape, same]
    | cons next rest =>
      have different : next ≠ quote := by
        rintro rfl
        exact other (ending.head rfl)
      simp [Server.afterQuoted, escape, same, different]
  | case6 char escape same rest ih =>
    rw [List.cons_append, List.cons_append, Server.afterQuoted, if_neg escape, if_neg same] at kept ⊢
    simp only [if_true] at kept ⊢
    exact ih kept
  | case7 char escape same next rest different =>
    simp only [List.cons_append, Server.afterQuoted, escape, same, different, if_false]

theorem readQuoted_after (quote : Char) (text : Text) :
    (readQuoted quote text).2 = Server.afterQuoted quote text := by
  fun_induction readQuoted quote text with
  | case1 => rfl
  | case2 char escape => simp [Server.afterQuoted, escape]
  | case3 char escape escaped rest read ih =>
    rw [Server.afterQuoted, if_pos escape]
    exact ih
  | case4 char rest escape different read ih =>
    rw [Server.afterQuoted.eq_def]
    simp only [escape, if_false]
    rw [if_pos different]
    exact ih
  | case5 char escape same => simp [Server.afterQuoted, escape, same]
  | case6 char escape same rest read ih =>
    rw [Server.afterQuoted, if_neg escape, if_neg same, if_pos rfl]
    exact ih
  | case7 char escape same next rest different =>
    rw [Server.afterQuoted, if_neg escape, if_neg same, if_neg different]

/-! ## Tokens -/

section Tokens

variable (python : CharacterData)

theorem executableSql_length {sql : Text} (executed : executableSql content = some sql) :
    sql.length ≤ content.length := by
  unfold executableSql at executed
  rw [Option.map_eq_some_iff] at executed
  obtain ⟨body, marked, rfl⟩ := executed
  exact ((((List.dropWhile_suffix _).trans (List.dropWhile_suffix _)).trans
    (List.dropWhile_suffix _)).trans (executableBody_suffix marked)).length_le

/-- The tokens of a text, from those of the shorter texts. -/
def firstTokens (tokens : Text → List Text) (char : Char) (rest : Text) : List Text :=
  if isSpace char then tokens rest
  else if char == '#' then tokens (afterLine rest)
  else if startsDashComment char rest then tokens (afterLine rest.tail)
  else if startsComment char rest then
    match commentParts rest.tail with
    | none => []
    | some (content, after) =>
      (match executableSql content with
        | some sql => tokens sql
        | none => []) ++ tokens after
  else if char == backtick then
    python.upper (readQuoted char rest).1 :: tokens (readQuoted char rest).2
  else if char == stringQuote || char == '"' then tokens (readQuoted char rest).2
  else if startsToken python char then
    (python.upper (char :: rest.takeWhile (continuesToken python))).dropWhile (· == '@') ::
      tokens (rest.dropWhile (continuesToken python))
  else if char == ';' then [';'] :: tokens rest
  else tokens rest

theorem sqlTokensFor_succ {fuel : Nat} {tokens : Text → List Text}
    (same : ∀ later : Text, later.length ≤ rest.length →
      sqlTokensFor python fuel later = tokens later) :
    sqlTokensFor python (fuel + 1) (char :: rest) = firstTokens python tokens char rest := by
  have tail : rest.tail.length ≤ rest.length := (List.tail_suffix rest).length_le
  have quoted : (readQuoted char rest).2.length ≤ rest.length := by
    rw [readQuoted_after]
    exact (Server.afterQuoted_suffix char rest).length_le
  rw [sqlTokensFor, same _ (Nat.le_refl _), same _ (afterLine_suffix rest).length_le,
    same _ ((afterLine_suffix rest.tail).length_le.trans tail), same _ quoted,
    same _ (List.dropWhile_suffix _).length_le, firstTokens]
  cases parts : commentParts rest.tail with
  | none => rfl
  | some found =>
    obtain ⟨content, after⟩ := found
    have closed := congrArg List.length (commentParts_eq parts)
    simp only [List.length_append, List.length_cons] at closed
    have later : after.length ≤ rest.length := by omega
    cases executed : executableSql content with
    | none => simp only [executed, same _ later]
    | some sql =>
      have inner := executableSql_length executed
      have executable : sql.length ≤ rest.length := by omega
      simp only [executed, same _ later, same _ executable]

/-- More fuel than characters changes nothing. -/
theorem sqlTokensFor_eq {fuel : Nat} {sql : Text} (enough : sql.length ≤ fuel) :
    sqlTokensFor python fuel sql = sqlTokens python sql := by
  induction fuel using Nat.strong_induction_on generalizing sql with
  | _ fuel ih =>
    cases sql with
    | nil => cases fuel <;> rfl
    | cons char rest =>
      simp only [List.length_cons] at enough
      obtain ⟨fuel, rfl⟩ := Nat.exists_eq_succ_of_ne_zero (show fuel ≠ 0 by omega)
      have more (later : Text) (shorter : later.length ≤ rest.length) :
          sqlTokensFor python fuel later = sqlTokens python later :=
        ih fuel (by omega) (by omega)
      have exactly (later : Text) (shorter : later.length ≤ rest.length) :
          sqlTokensFor python rest.length later = sqlTokens python later :=
        ih rest.length (by omega) shorter
      rw [sqlTokens, List.length_cons, sqlTokensFor_succ python more,
        sqlTokensFor_succ python exactly]

/-- The tokens of a comment: those of the SQL it executes and those after it. -/
def commentTokens (rest : Text) : List Text :=
  match commentParts rest with
  | none => []
  | some (content, after) =>
    (match executableSql content with
      | some sql => sqlTokens python sql
      | none => []) ++ sqlTokens python after

theorem sqlTokens_cons (char : Char) (rest : Text) :
    sqlTokens python (char :: rest) = firstTokens python (sqlTokens python) char rest := by
  rw [sqlTokens, List.length_cons]
  exact sqlTokensFor_succ python (fun _ shorter => sqlTokensFor_eq python shorter)

/-- Leading spaces and digits are skipped. -/
theorem sqlTokens_dropWhile {skips : Char → Bool}
    (skipped : ∀ char rest, skips char = true →
      sqlTokens python (char :: rest) = sqlTokens python rest) (sql : Text) :
    sqlTokens python (sql.dropWhile skips) = sqlTokens python sql := by
  induction sql with
  | nil => rfl
  | cons char rest ih =>
    rw [List.dropWhile_cons]
    split
    · rename_i skip
      rw [ih, skipped char rest skip]
    · rfl

variable {python}

/-- A character that starts nothing is skipped, unless it is a token of its own. -/
theorem sqlTokens_subset_cons (hash : char ≠ '#') (dash : startsDashComment char rest = false)
    (comment : startsComment char rest = false) (quote : isQuote char = false)
    (token : startsToken python char = false) :
    sqlTokens python rest ⊆ sqlTokens python (char :: rest) := by
  simp only [isQuote, Bool.or_eq_false_iff] at quote
  rw [sqlTokens_cons, firstTokens]
  simp only [beq_iff_eq, hash, dash, comment, quote, token, Bool.or_false, Bool.false_eq_true,
    if_false]
  split
  · exact List.Subset.refl _
  · split
    · exact List.subset_cons_self _ _
    · exact List.Subset.refl _

theorem sqlTokens_space (space : isSpace char = true) :
    sqlTokens python (char :: rest) = sqlTokens python rest := by
  rw [sqlTokens_cons, firstTokens, if_pos space]

theorem sqlTokens_digit (digit : char.isDigit = true) :
    sqlTokens python (char :: rest) = sqlTokens python rest := by
  have code := (isDigit_iff char).mp digit
  have other (mark : Char) (outside : mark.toNat < 48 ∨ 57 < mark.toNat) : char ≠ mark :=
    ne_of_code (by omega)
  have space : isSpace char = false := by
    rw [Bool.eq_false_iff]
    intro space
    have range := code_of_isSpace space
    omega
  have letter : python.isAlpha char = false := by
    rw [python.isAlpha_ascii char (by omega), Bool.eq_false_iff]
    intro alpha
    have range := (isAlpha_iff char).mp alpha
    omega
  rw [sqlTokens_cons, firstTokens]
  simp [space, letter, startsDashComment, startsComment, startsToken, other '#' (by decide),
    other '-' (by decide), other '/' (by decide), other backtick (by decide),
    other stringQuote (by decide), other '"' (by decide), other '_' (by decide),
    other '@' (by decide), other ';' (by decide)]

end Tokens

/-! ## The server's steps -/

section Steps

variable {place : Server.Place} {char : Char} {rest : Text} {tokens : List Text}

/-- Every restricted word is among the tokens. -/
def Shown (words tokens : List Text) : Prop :=
  ∀ word ∈ words, IsRestricted word → word.map Char.toUpper ∈ tokens

theorem Shown.mono {words tokens more : List Text} (shown : Shown words tokens)
    (subset : tokens ⊆ more) : Shown words more :=
  fun word listed restricted => subset (shown word listed restricted)

/-- The server reads a character that starts nothing as part of a word or as none. -/
theorem server_step (hash : char ≠ '#') (dash : Server.startsDashComment char rest = false)
    (comment : startsComment char rest = false)
    (closing : (place.executable && char == '*' && rest.head? == some '/') = false)
    (quote : isQuote char = false) :
    Server.step place char rest =
      ⟨if Server.isIdentifierChar char && !place.inWord then
          [char :: rest.takeWhile Server.isIdentifierChar] else [],
        { place with inWord := Server.isIdentifierChar char }, rest⟩ := by
  unfold Server.step
  simp only [beq_iff_eq, hash, dash, comment, closing, quote, Bool.false_eq_true, if_false]
  cases Server.isIdentifierChar char with
  | false => simp
  | true => cases place.inWord <;> simp

/-- A step that reads no word. -/
theorem shown_step {next : Server.Place} {remaining : Text}
    (step : Server.step place char rest = ⟨[], next, remaining⟩)
    (later : Shown (scan Server.scanner next remaining) tokens) :
    Shown (scan Server.scanner place (char :: rest)) tokens := by
  have read : Server.scanner.step place char rest = ⟨[], next, remaining⟩ := step
  rw [scan_cons, read]
  exact later

/-- A word that does not start with a letter is not restricted. -/
theorem shown_cons (hash : char ≠ '#') (dash : Server.startsDashComment char rest = false)
    (comment : startsComment char rest = false)
    (closing : (place.executable && char == '*' && rest.head? == some '/') = false)
    (quote : isQuote char = false) (letter : char.isAlpha = false) (underscore : char ≠ '_')
    (later : ∀ inWord, Shown (scan Server.scanner { place with inWord } rest) tokens) :
    Shown (scan Server.scanner place (char :: rest)) tokens := by
  rw [scan_cons]
  have step : Server.scanner.step place char rest = _ :=
    server_step hash dash comment closing quote
  rw [step]
  intro word listed restricted
  obtain here | there := List.mem_append.mp listed
  · dsimp only at here
    split at here
    · obtain rfl := List.mem_singleton.mp here
      obtain alpha | same := restricted.letters char List.mem_cons_self
      · rw [letter] at alpha
        cases alpha
      · exact absurd same underscore
    · cases here
  · exact later _ word there restricted

variable {python : CharacterData}

/-- A token holds none of the marks that the server looks for. -/
theorem ne_mark (inToken : continuesToken python char = true) (mark : Char)
    (ascii : mark.toNat < 128) (noLetter : mark.isAlphanum = false)
    (other : mark ≠ '_' ∧ mark ≠ '@') : char ≠ mark := by
  rintro rfl
  simp [continuesToken, python.isAlnum_ascii char ascii, noLetter, other] at inToken

/-- The server's step inside a token of the validator. -/
theorem server_step_token (inToken : continuesToken python char = true) :
    Server.step place char rest =
      ⟨if Server.isIdentifierChar char && !place.inWord then
          [char :: rest.takeWhile Server.isIdentifierChar] else [],
        { place with inWord := Server.isIdentifierChar char }, rest⟩ := by
  have mark (mark : Char) := ne_mark inToken mark
  apply server_step
  · exact mark '#' (by decide) (by decide) (by decide)
  · simp [Server.startsDashComment, mark '-' (by decide) (by decide) (by decide)]
  · simp [startsComment, mark '/' (by decide) (by decide) (by decide)]
  · simp [mark '*' (by decide) (by decide) (by decide)]
  · simp [isQuote, mark backtick (by decide) (by decide) (by decide),
      mark stringQuote (by decide) (by decide) (by decide),
      mark '"' (by decide) (by decide) (by decide)]

theorem isIdentifierChar_of_token (inToken : continuesToken python char = true)
    (other : char ≠ '@') : Server.isIdentifierChar char = true := by
  by_cases ascii : char.toNat < 128
  · simp only [continuesToken, python.isAlnum_ascii char ascii, Bool.or_eq_true, beq_iff_eq, other,
      or_false] at inToken
    simp only [Server.isIdentifierChar, Bool.or_eq_true, beq_iff_eq]
    tauto
  · simp only [Server.isIdentifierChar, Bool.or_eq_true, decide_eq_true_eq]
    omega

/-- A restricted word ends where the token does. -/
theorem continuesToken_of_letter (letter : char.isAlpha = true ∨ char = '_') :
    continuesToken python char = true := by
  obtain alpha | rfl := letter
  · have code := (isAlpha_iff char).mp alpha
    have alnum : char.isAlphanum = true := by simp [Char.isAlphanum, alpha]
    simp [continuesToken, python.isAlnum_ascii char (by omega), alnum]
  · simp [continuesToken]

/-- The rest of a word adds nothing. -/
theorem scan_word {executable : Bool} {word : Text}
    (inToken : ∀ char ∈ word, continuesToken python char = true) (noMark : '@' ∉ word) :
    scan Server.scanner { executable, inWord := true } (word ++ rest) =
      scan Server.scanner { executable, inWord := true } rest := by
  induction word with
  | nil => rfl
  | cons char word ih =>
    have here := inToken char List.mem_cons_self
    have identifier := isIdentifierChar_of_token here
      (fun mark => noMark (mark ▸ List.mem_cons_self))
    have step : Server.scanner.step { executable, inWord := true } char (word ++ rest) = _ :=
      server_step_token here
    rw [List.cons_append, scan_cons, step, identifier]
    exact ih (fun char listed => inToken char (List.mem_cons_of_mem _ listed))
      (fun listed => noMark (List.mem_cons_of_mem _ listed))

/-- A token without marks after its first characters is at most one word. -/
theorem shown_token {executable : Bool} {token : Text}
    (inToken : ∀ char ∈ token, continuesToken python char = true)
    (stops : ∀ char, rest.head? = some char → continuesToken python char = false)
    (unglued : '@' ∉ token.dropWhile (· == '@')) (own : IsRestricted (token.dropWhile (· == '@')) →
      (token.dropWhile (· == '@')).map Char.toUpper ∈ tokens)
    (later : ∀ inWord, Shown (scan Server.scanner { executable, inWord } rest) tokens) :
    Shown (scan Server.scanner { executable, inWord } (token ++ rest)) tokens := by
  induction token generalizing inWord with
  | nil => exact later inWord
  | cons char token ih =>
    have here := inToken char List.mem_cons_self
    have step : Server.scanner.step { executable, inWord } char (token ++ rest) = _ :=
      server_step_token here
    by_cases mark : char = '@'
    · subst mark
      rw [List.cons_append, scan_cons, step]
      exact ih (fun char listed => inToken char (List.mem_cons_of_mem _ listed))
        unglued own
    · have kept : (char :: token).dropWhile (· == '@') = char :: token := by
        rw [List.dropWhile_cons_of_neg]
        simpa using mark
      rw [kept] at unglued own
      have identifier := isIdentifierChar_of_token here mark
      have whole : char :: (token ++ rest).takeWhile Server.isIdentifierChar =
          char :: token ++ rest.takeWhile Server.isIdentifierChar := by
        rw [List.takeWhile_append_of_pos]
        · rfl
        · intro other listed
          exact isIdentifierChar_of_token (inToken other (List.mem_cons_of_mem _ listed))
            (fun same => unglued (same ▸ List.mem_cons_of_mem _ listed))
      rw [List.cons_append, scan_cons, step, identifier]
      intro word listed restricted
      obtain first | further := List.mem_append.mp listed
      · dsimp only at first
        split at first
        · obtain rfl := List.mem_singleton.mp first
          rw [whole] at restricted ⊢
          have ends : rest.takeWhile Server.isIdentifierChar = [] := by
            cases rest with
            | nil => rfl
            | cons next rest =>
              by_cases joins : Server.isIdentifierChar next = true
              · have inWord : next ∈ char :: token ++
                    (next :: rest).takeWhile Server.isIdentifierChar := by
                  simp [joins]
                have continues : continuesToken python next = true :=
                  continuesToken_of_letter (restricted.letters next inWord)
                rw [stops next rfl] at continues
                cases continues
              · exact List.takeWhile_cons_of_neg joins
          rw [ends, List.append_nil] at restricted ⊢
          exact own restricted
        · cases first
      · rw [scan_word (fun char listed => inToken char (List.mem_cons_of_mem _ listed))
          (fun listed => unglued (List.mem_cons_of_mem _ listed))] at further
        exact later true word further restricted

end Steps

/-! ## Following both scanners -/

section Coverage

variable {python : CharacterData}

/-- The text that the validator reads now, what the server finds after it, and the tokens of
what the validator reads later. -/
inductive Frame (python : CharacterData) : Region → Text → Text → List Text → Prop where
  | outer (content : Text) : Frame python .outer content [] []
  | resumed (content : Text) : Frame python .resumed content [] []
  | executable {content : Text} (after : Text) (unclosed : commentParts content = none) :
      Frame python (.executable after.length) content ('*' :: '/' :: after)
        (sqlTokens python after)

/-- No check fails from here on. -/
def Passes (python : CharacterData) (region : Region) (text : Text) : Prop :=
  (scan (plainScanner python) region text).all id = true

/-- Every restricted word of the server is a token of the validator. -/
def Covered (python : CharacterData) (region : Region) (content after : Text)
    (tokens : List Text) : Prop :=
  ∀ inWord, Shown
    (scan Server.scanner { executable := region != .outer, inWord } (content ++ after))
    (sqlTokens python content ++ tokens)

/-- Every shorter text is covered. -/
def CoveredBelow (python : CharacterData) (bound : Nat) : Prop :=
  ∀ region content after tokens, (content ++ after).length < bound →
    Frame python region content after tokens → Passes python region (content ++ after) →
    Covered python region content after tokens

/-- Both scanners have come to a text of which all that is shorter is covered. -/
structure Reached (python : CharacterData) (region : Region) (content after : Text)
    (tokens : List Text) : Prop where
  below : CoveredBelow python (content ++ after).length
  frame : Frame python region content after tokens
  passes : Passes python region (content ++ after)

variable {region : Region} {content after rest : Text} {tokens : List Text} {char : Char}

theorem Frame.ending (frame : Frame python region content after tokens) : IsEnding after := by
  cases frame with
  | outer => exact Or.inl rfl
  | resumed => exact Or.inl rfl
  | executable after _ => exact Or.inr ⟨after, rfl⟩

theorem Frame.suffix {later : Text} (frame : Frame python region content after tokens)
    (suffix : later <:+ content) : Frame python region later after tokens := by
  cases frame with
  | outer => exact .outer later
  | resumed => exact .resumed later
  | executable after unclosed => exact .executable after (commentParts_suffix suffix unclosed)

theorem Frame.kept {remaining : Text} (frame : Frame python region content after tokens)
    (reaches : region.reaches remaining = true) : after.length ≤ remaining.length := by
  cases frame with
  | outer | resumed => exact Nat.zero_le _
  | executable after _ =>
    simp only [Region.reaches, decide_eq_true_eq] at reaches
    omega

theorem passes_cons (passes : Passes python region (char :: rest)) :
    (plainStep python region char rest).output.all id = true ∧
      Passes python (plainStep python region char rest).state
        (plainStep python region char rest).remaining := by
  unfold Passes at passes
  rw [scan_cons, List.all_append, Bool.and_eq_true] at passes
  exact passes

theorem Reached.passes_cons (reached : Reached python region (char :: rest) after tokens) :
    Passes python region (char :: (rest ++ after)) := reached.passes

/-- A suffix of the rest is covered, for the tokens of the whole text. -/
theorem Reached.later {later : Text} (reached : Reached python region (char :: rest) after tokens)
    (suffix : later <:+ rest) (passes : Passes python region (later ++ after))
    (subset : sqlTokens python later ⊆ sqlTokens python (char :: rest)) (inWord : Bool) :
    Shown (scan Server.scanner { executable := region != .outer, inWord } (later ++ after))
      (sqlTokens python (char :: rest) ++ tokens) := by
  have shorter : (later ++ after).length < (char :: rest ++ after).length := by
    have length := suffix.length_le
    simp only [List.length_append, List.length_cons]
    omega
  have covered := reached.below region later after tokens shorter
    (reached.frame.suffix (suffix.trans (List.suffix_cons char rest))) passes
  exact (covered inWord).mono (List.append_subset.mpr
    ⟨List.subset_append_of_subset_left tokens subset, List.subset_append_right _ _⟩)

/-- Both scanners go on at the same place of the text that the validator reads. -/
theorem covered_advance {later : Text}
    (reached : Reached python region (char :: rest) after tokens) (suffix : later <:+ rest)
    (step : ∀ inWord, Server.step { executable := region != .outer, inWord } char (rest ++ after) =
      ⟨[], { executable := region != .outer, inWord := false }, later ++ after⟩)
    (passes : Passes python region (later ++ after))
    (subset : sqlTokens python later ⊆ sqlTokens python (char :: rest)) :
    Covered python region (char :: rest) after tokens :=
  fun inWord => shown_step (step inWord) (reached.later suffix passes subset false)

theorem covered_hash (reached : Reached python region ('#' :: rest) after tokens) :
    Covered python region ('#' :: rest) after tokens := by
  have space : isSpace '#' = false := by decide
  have checked := passes_cons reached.passes_cons
  simp only [plainStep, space, beq_self_eq_true, if_true, Bool.false_eq_true, if_false,
    List.all_cons, List.all_nil, id_eq, Bool.and_true] at checked
  have kept := afterLine_append (reached.frame.kept checked.1)
  apply covered_advance reached (afterLine_suffix rest)
  · simp [Server.step, kept]
  · rw [← kept]
    exact checked.2
  · rw [sqlTokens_cons, firstTokens, space]
    simp

/-- Where no check fails, both see the same `--` comments. -/
theorem dash_agrees (space : isSpace char = false) (hash : char ≠ '#')
    (passes : Passes python region (char :: rest)) :
    startsDashComment char rest = Server.startsDashComment char rest := by
  by_contra differ
  have checked := (passes_cons passes).1
  have differs : (startsDashComment char rest != Server.startsDashComment char rest) = true := by
    simpa using differ
  rw [plainStep, if_neg (by simp [space]), if_neg (by simpa using hash), if_pos differs] at checked
  cases checked

/-- A `--` comment, where both see one. -/
theorem covered_dash (starts : startsDashComment '-' ('-' :: (rest ++ after)) = true)
    (reached : Reached python region ('-' :: '-' :: rest) after tokens) :
    Covered python region ('-' :: '-' :: rest) after tokens := by
  have space : isSpace '-' = false := by decide
  have passes : Passes python region ('-' :: '-' :: (rest ++ after)) := reached.passes
  have own : startsDashComment '-' ('-' :: rest) = true := by
    cases rest with
    | nil => rfl
    | cons third rest => exact starts
  have both : Server.startsDashComment '-' ('-' :: (rest ++ after)) = true :=
    (dash_agrees space (by decide) passes).symm.trans starts
  have checked := passes_cons passes
  rw [plainStep, if_neg (by simp [space]), if_neg (by decide), if_neg (by simp [starts, both]),
    if_pos starts] at checked
  simp only [List.all_cons, List.all_nil, id_eq, Bool.and_true, List.tail_cons] at checked
  have kept := afterLine_append (reached.frame.kept checked.1)
  apply covered_advance reached ((afterLine_suffix rest).trans (List.suffix_cons '-' rest))
  · simp [Server.step, both, kept]
  · rw [← kept]
    exact checked.2
  · rw [sqlTokens_cons, firstTokens, space, own]
    simp

/-- The checks at a character that starts no space, line comment or `--` comment. -/
theorem passes_mark (space : isSpace char = false) (hash : char ≠ '#')
    (dash : startsDashComment char rest = false) (passes : Passes python region (char :: rest)) :
    (plainMark python region char rest).output.all id = true ∧
      Passes python (plainMark python region char rest).state
        (plainMark python region char rest).remaining := by
  have agrees := dash_agrees space hash passes
  have checked := passes_cons passes
  rw [plainStep, if_neg (by simp [space]), if_neg (by simpa using hash), if_neg (by simp [agrees]),
    if_neg (by simp [dash])] at checked
  exact checked

theorem covered_quoted (quote : isQuote char = true)
    (reached : Reached python region (char :: rest) after tokens) :
    Covered python region (char :: rest) after tokens := by
  have marks : isSpace char = false ∧ char ≠ '#' ∧ char ≠ '-' ∧ char ≠ '/' ∧ char ≠ '*' := by
    simp only [isQuote, Bool.or_eq_true, beq_iff_eq] at quote
    obtain (rfl | rfl) | rfl := quote <;> decide
  obtain ⟨space, hash, dash, slash, star⟩ := marks
  have checked := passes_mark space hash (by simp [startsDashComment, dash]) reached.passes_cons
  rw [plainMark, if_neg (by simp [startsComment, slash]), if_neg (by simp [star]),
    if_pos quote] at checked
  simp only [List.all_cons, List.all_nil, id_eq, Bool.and_true] at checked
  have kept := afterQuoted_append reached.frame.ending star (reached.frame.kept checked.1)
  apply covered_advance reached (Server.afterQuoted_suffix char rest)
  · simp [Server.step, hash, Server.startsDashComment, dash, startsComment, slash, star, quote, kept]
  · rw [← kept]
    exact checked.2
  · rw [sqlTokens_cons, firstTokens, readQuoted_after]
    simp only [isQuote, Bool.or_eq_true, beq_iff_eq] at quote
    obtain (rfl | rfl) | rfl := quote
    · simp [space, startsDashComment, startsComment, hash, dash, slash]
    · simp [space, startsDashComment, startsComment, hash, dash, slash,
        show stringQuote ≠ backtick by decide]
    · simp [space, startsDashComment, startsComment, show '"' ≠ backtick by decide]

/-- The validator's form of a token that is a restricted word. -/
theorem upper_token {token : Text} (restricted : IsRestricted (token.dropWhile (· == '@'))) :
    (python.upper token).dropWhile (· == '@') =
      (token.dropWhile (· == '@')).map Char.toUpper := by
  have ascii : ∀ char ∈ token, char.toNat < 128 := by
    intro char listed
    rw [← List.takeWhile_append_dropWhile (p := (· == '@')) (l := token)] at listed
    obtain mark | letter := List.mem_append.mp listed
    · have same : char = '@' := by simpa using List.mem_takeWhile_imp mark
      rw [same]
      decide
    · obtain alpha | rfl := restricted.letters char letter
      · have code := (isAlpha_iff char).mp alpha
        omega
      · decide
  have marks : (fun char : Char => char == '@') ∘ Char.toUpper = (· == '@') :=
    funext toUpper_eq_mark
  rw [python.upper_ascii token ascii, List.dropWhile_map, marks]

/-- No token reaches over the end of the text that the validator reads. -/
theorem stops_at_ending (ending : IsEnding after) (first : after.head? = some char) :
    continuesToken python char = false := by
  obtain rfl := ending.head first
  simp [continuesToken, python.isAlnum_ascii '*' (by decide), show '*'.isAlphanum = false by decide]

theorem takeWhile_append_ending (ending : IsEnding after) :
    (rest ++ after).takeWhile (continuesToken python) =
      rest.takeWhile (continuesToken python) := by
  induction rest with
  | nil =>
    cases after with
    | nil => rfl
    | cons char after =>
      exact List.takeWhile_cons_of_neg (by rw [stops_at_ending ending rfl]; decide)
  | cons char rest ih =>
    simp only [List.cons_append, List.takeWhile_cons, ih]

theorem dropWhile_append_ending (ending : IsEnding after) :
    (rest ++ after).dropWhile (continuesToken python) =
      rest.dropWhile (continuesToken python) ++ after := by
  induction rest with
  | nil =>
    cases after with
    | nil => rfl
    | cons char after =>
      exact List.dropWhile_cons_of_neg (by rw [stops_at_ending ending rfl]; decide)
  | cons char rest ih =>
    simp only [List.cons_append, List.dropWhile_cons, ih]
    split <;> rfl

/-- A token of the validator, in which no `@` follows other characters. -/
theorem covered_token (space : isSpace char = false) (starts : startsToken python char = true)
    (reached : Reached python region (char :: rest) after tokens) :
    Covered python region (char :: rest) after tokens := by
  intro inWord
  have inToken : continuesToken python char = true := by
    simp only [startsToken, Bool.or_eq_true] at starts
    simp only [continuesToken, Bool.or_eq_true]
    obtain (alpha | underscore) | mark := starts
    · exact Or.inl (Or.inl (python.isAlnum_of_isAlpha char alpha))
    · exact Or.inl (Or.inr underscore)
    · exact Or.inr mark
  have mark (mark : Char) := ne_mark inToken mark
  have hash := mark '#' (by decide) (by decide) (by decide)
  have dash := mark '-' (by decide) (by decide) (by decide)
  have slash := mark '/' (by decide) (by decide) (by decide)
  have star := mark '*' (by decide) (by decide) (by decide)
  have quote : isQuote char = false := by
    simp [isQuote, mark backtick (by decide) (by decide) (by decide),
      mark stringQuote (by decide) (by decide) (by decide),
      mark '"' (by decide) (by decide) (by decide)]
  have checked := passes_mark space hash (by simp [startsDashComment, dash]) reached.passes_cons
  rw [plainMark, if_neg (by simp [startsComment, slash]), if_neg (by simp [star]),
    if_neg (by simp [quote]), if_pos starts, takeWhile_append_ending reached.frame.ending,
    dropWhile_append_ending reached.frame.ending] at checked
  simp only [List.all_cons, List.all_nil, id_eq, Bool.and_true, Bool.not_eq_true',
    List.contains_eq_mem, decide_eq_false_iff_not] at checked
  have read : sqlTokens python (char :: rest) =
      (python.upper (char :: rest.takeWhile (continuesToken python))).dropWhile (· == '@') ::
        sqlTokens python (rest.dropWhile (continuesToken python)) := by
    simp only [isQuote, Bool.or_eq_false_iff] at quote
    rw [sqlTokens_cons, firstTokens]
    simp [space, startsDashComment, startsComment, hash, dash, slash, quote, starts]
  have whole : char :: rest ++ after = (char :: rest.takeWhile (continuesToken python)) ++
      (rest.dropWhile (continuesToken python) ++ after) := by
    simp [← List.append_assoc, List.takeWhile_append_dropWhile]
  have all : ∀ other ∈ char :: rest.takeWhile (continuesToken python),
      continuesToken python other = true := by
    intro other listed
    obtain rfl | later := List.mem_cons.mp listed
    · exact inToken
    · exact List.mem_takeWhile_imp later
  have stops : ∀ next, (rest.dropWhile (continuesToken python) ++ after).head? = some next →
      continuesToken python next = false := by
    intro next first
    cases left : rest.dropWhile (continuesToken python) with
    | nil =>
      rw [left] at first
      exact stops_at_ending reached.frame.ending first
    | cons other more =>
      rw [left] at first
      cases first
      have head := List.head?_dropWhile_not (continuesToken python) rest
      rw [left] at head
      simpa using head
  have subset : sqlTokens python (rest.dropWhile (continuesToken python)) ⊆
      sqlTokens python (char :: rest) := by
    rw [read]
    exact List.subset_cons_self _ _
  rw [whole]
  apply shown_token all stops checked.1
  · intro restricted
    rw [← upper_token restricted, read]
    exact List.mem_cons_self
  · exact reached.later (List.dropWhile_suffix _) checked.2 subset

/-- A character that starts nothing. -/
theorem covered_skip (hash : char ≠ '#')
    (dash : Server.startsDashComment char (rest ++ after) = false)
    (comment : startsComment char (rest ++ after) = false)
    (closing : (region != .outer && char == '*' && (rest ++ after).head? == some '/') = false)
    (quote : isQuote char = false) (letter : char.isAlpha = false) (underscore : char ≠ '_')
    (reached : Reached python region (char :: rest) after tokens)
    (passes : Passes python region (rest ++ after))
    (subset : sqlTokens python rest ⊆ sqlTokens python (char :: rest)) :
    Covered python region (char :: rest) after tokens := by
  intro inWord
  apply shown_cons hash dash comment closing quote letter underscore
  exact reached.later (List.suffix_refl rest) passes subset

theorem startsToken_mark (mark : Char)
    (plain : mark.toNat < 128 ∧ mark.isAlpha = false ∧ mark ≠ '_' ∧ mark ≠ '@') :
    startsToken python mark = false := by
  simp [startsToken, python.isAlpha_ascii mark plain.1, plain]

/-- The closing mark of an executable comment that an ordinary comment interrupted. -/
theorem covered_closing (inside : region ≠ .outer)
    (reached : Reached python region ('*' :: '/' :: rest) after tokens) :
    Covered python region ('*' :: '/' :: rest) after tokens := by
  intro inWord
  have passes : Passes python region ('*' :: '/' :: (rest ++ after)) := reached.passes
  cases reached.frame with
  | outer => exact absurd rfl inside
  | executable after unclosed => simp [commentParts] at unclosed
  | resumed =>
    have checked := passes_mark (by decide) (by decide) rfl passes
    rw [plainMark, if_neg (by simp [startsComment]), if_pos (by simp)] at checked
    simp only [Region.isExecutable, Bool.false_or, List.all_cons, List.all_nil, id_eq,
      Bool.and_true, List.tail_cons, List.append_nil, bne_iff_ne] at checked
    have step : Server.step { executable := Region.resumed != .outer, inWord } '*'
        ('/' :: (rest ++ [])) =
          ⟨[], { executable := Region.outer != .outer, inWord := false }, rest ++ []⟩ := rfl
    have covered := reached.below .outer rest [] []
      (by simp only [List.append_nil, List.length_cons]; omega) (.outer rest)
      (by rw [List.append_nil]; exact checked.2)
    have slash : sqlTokens python rest ⊆ sqlTokens python ('/' :: rest) := by
      apply sqlTokens_subset_cons (by decide) rfl _ (by decide) (startsToken_mark '/' (by decide))
      simpa [startsComment] using checked.1
    have star : sqlTokens python ('/' :: rest) ⊆ sqlTokens python ('*' :: '/' :: rest) :=
      sqlTokens_subset_cons (by decide) rfl rfl (by decide) (startsToken_mark '*' (by decide))
    apply shown_step step
    apply (covered false).mono
    rw [List.append_nil, List.append_nil]
    exact List.Subset.trans slash star

theorem commentParts_cons (star : char ≠ '*') :
    commentParts (char :: rest) =
      (commentParts rest).map (fun parts => (char :: parts.1, parts.2)) := by
  rw [commentParts, if_neg (fun closing => star closing.1)]

/-- The comment that the validator finds where the server opens an executable one. -/
theorem commentParts_executable {inner last : Text} (marked : executableBody text = some body)
    (parts : commentParts body = some (inner, last)) :
    ∃ content, commentParts text = some (content, last) ∧ executableBody content = some inner := by
  unfold executableBody at marked
  split at marked
  · rename_i bang
    cases marked
    cases text with
    | nil => cases bang
    | cons first text =>
      cases bang
      exact ⟨'!' :: inner, by rw [commentParts_cons (by decide)]; simp_all, rfl⟩
  · split at marked
    · rename_i maria
      cases marked
      match text, maria with
      | first :: second :: text, maria =>
        cases maria
        refine ⟨'M' :: '!' :: inner, ?_, rfl⟩
        rw [commentParts_cons (by decide), commentParts_cons (by decide)]
        simp_all
    · cases marked

/-- The version digits belong to the comment. -/
theorem commentParts_digits {digits inner last : Text}
    (all : ∀ digit ∈ digits, digit.isDigit = true)
    (parts : commentParts (digits ++ text) = some (inner, last)) :
    ∃ later, inner = digits ++ later ∧ commentParts text = some (later, last) := by
  induction digits generalizing inner with
  | nil => exact ⟨inner, rfl, parts⟩
  | cons digit digits ih =>
    have star : digit ≠ '*' := by
      rintro rfl
      exact absurd (all '*' List.mem_cons_self) (by decide)
    rw [List.cons_append, commentParts_cons star, Option.map_eq_some_iff] at parts
    obtain ⟨found, parts, same⟩ := parts
    cases same
    obtain ⟨later, inner, parts⟩ := ih
      (fun digit listed => all digit (List.mem_cons_of_mem _ listed)) parts
    exact ⟨later, congrArg (digit :: ·) inner, parts⟩

theorem sqlTokens_digits {digits : Text} (all : ∀ digit ∈ digits, digit.isDigit = true) :
    sqlTokens python (digits ++ text) = sqlTokens python text := by
  induction digits with
  | nil => rfl
  | cons digit digits ih =>
    rw [List.cons_append, sqlTokens_digit (all digit List.mem_cons_self)]
    exact ih (fun digit listed => all digit (List.mem_cons_of_mem _ listed))

variable (python) in
/-- The validator skips the version of an executable comment, with other digits and spaces. -/
theorem executable_tokens {version inner : Text}
    (marked : executableBody content = some (version ++ inner))
    (digits : ∀ digit ∈ version, digit.isDigit = true) :
    ∃ sql, executableSql content = some sql ∧ sqlTokens python sql = sqlTokens python inner := by
  refine ⟨_, by rw [executableSql, marked]; rfl, ?_⟩
  rw [sqlTokens_dropWhile python (fun _ _ => sqlTokens_space),
    sqlTokens_dropWhile python (fun _ _ => sqlTokens_digit),
    sqlTokens_dropWhile python (fun _ _ => sqlTokens_space), sqlTokens_digits digits]

/-- An executable comment, which the validator reads up to the first closing mark. -/
theorem covered_executable (marked : executableBody rest = some body)
    (outside : region.isExecutable = false)
    (below : CoveredBelow python ('/' :: '*' :: rest).length)
    (passes : Passes python region ('/' :: '*' :: rest)) :
    Shown (scan Server.scanner { executable := region != .outer, inWord } ('/' :: '*' :: rest))
      (commentTokens python rest) := by
  have checked := passes_mark (by decide) (by decide) rfl passes
  rw [plainMark, if_pos (by simp [startsComment])] at checked
  cases parts : commentParts body with
  | none => simp [plainComment, marked, parts] at checked
  | some found =>
    obtain ⟨inner, last⟩ := found
    simp only [List.tail_cons, plainComment, marked, parts] at checked
    obtain ⟨content, validated, executed⟩ := commentParts_executable marked parts
    obtain ⟨digits, version, all⟩ := Server.afterVersion_eq body
    rw [version] at parts
    obtain ⟨later, rfl, inside⟩ := commentParts_digits all parts
    obtain ⟨sql, stripped, sameTokens⟩ := executable_tokens python executed all
    have step : Server.step { executable := region != .outer, inWord } '/' ('*' :: rest) =
        ⟨[], { executable := Region.executable last.length != .outer, inWord := false },
          later ++ '*' :: '/' :: last⟩ := by
      rw [← commentParts_eq inside]
      simp [Server.step, Server.startsDashComment, startsComment, marked]
    have shorter : (later ++ '*' :: '/' :: last).length < ('/' :: '*' :: rest).length := by
      have length := (executableBody_suffix marked).length_le
      rw [← commentParts_eq inside, List.length_cons, List.length_cons]
      have version := congrArg List.length version
      rw [List.length_append] at version
      omega
    have covered := below _ later _ _ shorter (.executable last (commentParts_before inside))
      (by rw [← commentParts_eq inside]; exact checked.2)
    apply shown_step step
    rw [commentTokens, validated]
    dsimp only
    rw [stripped]
    dsimp only
    rw [sameTokens]
    exact covered false

/-- A comment outside executable comments. -/
theorem covered_comment (outside : region.isExecutable = false)
    (below : CoveredBelow python ('/' :: '*' :: rest).length)
    (frame : ∀ content, Frame python region content [] [])
    (passes : Passes python region ('/' :: '*' :: rest)) :
    Shown (scan Server.scanner { executable := region != .outer, inWord } ('/' :: '*' :: rest))
      (sqlTokens python ('/' :: '*' :: rest)) := by
  have read : sqlTokens python ('/' :: '*' :: rest) = commentTokens python rest := by
    rw [sqlTokens_cons, firstTokens]
    rfl
  rw [read]
  cases marked : executableBody rest with
  | some body => exact covered_executable marked outside below passes
  | none =>
    have checked := passes_mark (by decide) (by decide) rfl passes
    rw [plainMark, if_pos (by simp [startsComment])] at checked
    cases parts : commentParts rest with
    | none =>
      have step : Server.step { executable := region != .outer, inWord } '/' ('*' :: rest) =
          ⟨[], { executable := region != .outer, inWord := false }, []⟩ := by
        simp [Server.step, Server.startsDashComment, startsComment, marked, parts]
      apply shown_step step
      intro word listed
      cases listed
    | some found =>
      obtain ⟨content, last⟩ := found
      have step : Server.step { executable := region != .outer, inWord } '/' ('*' :: rest) =
          ⟨[], { executable := region != .outer, inWord := false }, last⟩ := by
        simp [Server.step, Server.startsDashComment, startsComment, marked, parts]
      have shorter : (last ++ []).length < ('/' :: '*' :: rest).length := by
        have closed := congrArg List.length (commentParts_eq parts)
        simp only [List.length_append, List.length_cons] at closed
        simp only [List.append_nil, List.length_cons]
        omega
      simp only [List.tail_cons, plainComment, marked, parts, outside] at checked
      have covered := below region last [] [] shorter (frame last)
        (by rw [List.append_nil]; exact checked.2)
      apply shown_step step
      rw [commentTokens, parts]
      rw [Covered, List.append_nil, List.append_nil] at covered
      exact (covered false).mono (List.subset_append_right _ _)

/-- An ordinary comment inside an executable one. The validator takes its closing mark for the
end of the executable comment, and goes on after it like the server. -/
theorem covered_nested {last : Text}
    (below : CoveredBelow python ('/' :: '*' :: rest ++ '*' :: '/' :: last).length)
    (unclosed : commentParts ('/' :: '*' :: rest) = none) (passes : Passes python (.executable last.length)
      ('/' :: '*' :: (rest ++ '*' :: '/' :: last))) : Shown (scan Server.scanner { executable := true, inWord }
      ('/' :: '*' :: (rest ++ '*' :: '/' :: last))) (sqlTokens python last) := by
  have parts : commentParts (rest ++ '*' :: '/' :: last) = some (rest, last) :=
    commentParts_append last (commentParts_nil_of_cons (commentParts_nil_of_cons unclosed))
  have checked := passes_mark (by decide) (by decide) rfl passes
  rw [plainMark, if_pos (by simp [startsComment])] at checked
  cases marked : executableBody (rest ++ '*' :: '/' :: last) with
  | some body =>
    simp only [List.tail_cons, plainComment, marked] at checked
    split at checked <;> simp [Region.isExecutable] at checked
  | none =>
    simp only [List.tail_cons, plainComment, marked, parts] at checked
    have step : Server.step { executable := true, inWord } '/'
        ('*' :: (rest ++ '*' :: '/' :: last)) =
          ⟨[], { executable := Region.resumed != .outer, inWord := false }, last ++ []⟩ := by
      rw [List.append_nil]
      simp [Server.step, Server.startsDashComment, startsComment, marked, parts]
    have covered := below .resumed last [] []
      (by simp only [List.append_nil, List.length_append, List.length_cons]; omega) (.resumed last)
      (by rw [List.append_nil]; exact checked.2)
    apply shown_step step
    have shown := covered false
    rw [List.append_nil (sqlTokens python last)] at shown
    exact shown

/-- The closing mark that ends the text of the validator. -/
theorem covered_nil (reached : Reached python region [] after tokens) :
    Covered python region [] after tokens := by
  intro inWord
  have passes : Passes python region after := reached.passes
  cases reached.frame with
  | outer | resumed =>
    intro word listed
    cases listed
  | executable last _ =>
    have checked := passes_mark (by decide) (by decide) rfl passes
    rw [plainMark, if_neg (by simp [startsComment]), if_pos (by simp)] at checked
    have step : Server.step { executable := Region.executable last.length != .outer, inWord } '*'
        ('/' :: last) =
          ⟨[], { executable := Region.outer != .outer, inWord := false }, last ++ []⟩ := by
      rw [List.append_nil]
      rfl
    have covered := reached.below .outer last [] []
      (by simp only [List.append_nil, List.length_append, List.length_cons]; omega) (.outer last)
      (by rw [List.append_nil]; exact checked.2)
    apply shown_step step
    have shown := covered false
    rw [List.append_nil (sqlTokens python last)] at shown
    exact shown

theorem covered_space (space : isSpace char = true)
    (reached : Reached python region (char :: rest) after tokens) :
    Covered python region (char :: rest) after tokens := by
  have other (mark : Char) (visible : isSpace mark = false) : char ≠ mark := by
    rintro rfl
    rw [space] at visible
    cases visible
  have letter : char.isAlpha = false := by
    rw [Bool.eq_false_iff]
    intro alpha
    have code := (isAlpha_iff char).mp alpha
    have range := code_of_isSpace space
    omega
  have checked := passes_cons reached.passes_cons
  rw [plainStep, if_pos space] at checked
  apply covered_skip (other '#' (by decide)) _ _ _ _ letter (other '_' (by decide)) reached
    checked.2
  · rw [sqlTokens_space space]
    exact List.Subset.refl _
  · simp [Server.startsDashComment, other '-' (by decide)]
  · simp [startsComment, other '/' (by decide)]
  · simp [other '*' (by decide)]
  · simp [isQuote, other backtick (by decide), other stringQuote (by decide),
      other '"' (by decide)]

/-- A character that both scanners skip. The validator may see a comment in two dashes before
the closing mark, but nothing follows them. -/
theorem covered_other (space : isSpace char = false) (hash : char ≠ '#')
    (dash : startsDashComment char (rest ++ after) = false)
    (comment : startsComment char (rest ++ after) = false)
    (closing : (region != .outer && char == '*' && (rest ++ after).head? == some '/') = false)
    (quote : isQuote char = false) (token : startsToken python char = false)
    (reached : Reached python region (char :: rest) after tokens) :
    Covered python region (char :: rest) after tokens := by
  have checked := passes_mark space hash dash reached.passes_cons
  rw [plainMark, if_neg (by simp [comment]), if_neg (by rw [closing]; exact Bool.false_ne_true),
    if_neg (by simp [quote]), if_neg (by simp [token])] at checked
  have agrees := (dash_agrees space hash reached.passes_cons).symm.trans dash
  simp only [startsToken, Bool.or_eq_false_iff, beq_eq_false_iff_ne] at token
  have letter : char.isAlpha = false := by
    rw [Bool.eq_false_iff]
    intro alpha
    have code := (isAlpha_iff char).mp alpha
    rw [← python.isAlpha_ascii char (by omega), token.1.1] at alpha
    cases alpha
  apply covered_skip hash agrees comment closing quote letter token.1.2 reached checked.2
  have noComment : startsComment char rest = false := by
    cases rest with
    | nil => simp [startsComment]
    | cons next rest => exact comment
  by_cases own : startsDashComment char rest = true
  · have dashes : rest = ['-'] := by
      match rest with
      | [] => simp [startsDashComment] at own
      | [next] => simp_all [startsDashComment]
      | next :: third :: rest =>
        rw [List.cons_append, List.cons_append] at dash
        exact absurd own (by rw [Bool.not_eq_true]; exact dash)
    have nothing : sqlTokens python ['-'] = [] := by
      rw [sqlTokens_cons, firstTokens, startsToken_mark '-' (by decide)]
      rfl
    rw [dashes, nothing]
    exact List.nil_subset _
  · rw [Bool.not_eq_true] at own
    apply sqlTokens_subset_cons hash own noComment quote
    simp [startsToken, token]

/-- A character that cannot follow the text belongs to it. -/
theorem cons_of_head (ending : IsEnding after) (first : (rest ++ after).head? = some char)
    (star : char ≠ '*') : ∃ later, rest = char :: later := by
  cases rest with
  | nil => exact absurd (ending.head first) star
  | cons next later =>
    cases first
    exact ⟨later, rfl⟩

theorem dashes_of_comment (ending : IsEnding after)
    (dash : startsDashComment char (rest ++ after) = true) :
    char = '-' ∧ ∃ later, rest = '-' :: later := by
  simp only [startsDashComment, Bool.and_eq_true, beq_iff_eq] at dash
  exact ⟨dash.1.1, cons_of_head ending dash.1.2 (by decide)⟩

/-- Any comment. No closing mark overlaps its start. -/
theorem covered_slash (star : (rest ++ after).head? = some '*')
    (reached : Reached python region ('/' :: rest) after tokens) :
    Covered python region ('/' :: rest) after tokens := by
  intro inWord
  obtain ⟨below, frame, passes⟩ := reached
  rw [List.cons_append] at passes
  cases rest with
  | nil =>
    cases frame with
    | outer => cases star
    | resumed => cases star
    | executable last _ =>
      have checked := (passes_mark (by decide) (by decide) rfl passes).1
      rw [plainMark, if_pos (by simp [startsComment])] at checked
      have ordinary : executableBody ('/' :: last) = none := by
        simp [executableBody]
      simp only [List.nil_append, List.tail_cons, plainComment, ordinary] at checked
      split at checked <;> simp [Region.isExecutable] at checked
  | cons next later =>
    cases star
    cases frame with
    | outer =>
      rw [List.append_nil] at below passes ⊢
      rw [List.append_nil]
      exact covered_comment rfl below .outer passes
    | resumed =>
      rw [List.append_nil] at below passes ⊢
      rw [List.append_nil]
      exact covered_comment rfl below .resumed passes
    | executable last unclosed =>
      exact (covered_nested below unclosed passes).mono (List.subset_append_right _ _)

/-- By induction on the length of the text: whatever stands at its front, both scanners go on
at places that the invariant relates. -/
theorem covered_of_passes (bound : Nat) : CoveredBelow python bound := by
  induction bound with
  | zero =>
    intro region content after tokens shorter
    exact absurd shorter (Nat.not_lt_zero _)
  | succ bound ih =>
    intro region content after tokens shorter frame passes inWord
    have below : CoveredBelow python (content ++ after).length := by
      intro region content after tokens smaller
      exact ih region content after tokens (by omega)
    have reached : Reached python region content after tokens := ⟨below, frame, passes⟩
    cases content with
    | nil => exact covered_nil reached inWord
    | cons char rest =>
      by_cases space : isSpace char = true
      · exact covered_space space reached inWord
      · rw [Bool.not_eq_true] at space
        by_cases hash : char = '#'
        · subst hash
          exact covered_hash reached inWord
        · by_cases dash : startsDashComment char (rest ++ after) = true
          · obtain ⟨rfl, later, rfl⟩ := dashes_of_comment frame.ending dash
            exact covered_dash dash reached inWord
          · by_cases comment : startsComment char (rest ++ after) = true
            · simp only [startsComment, Bool.and_eq_true, beq_iff_eq] at comment
              obtain ⟨rfl, star⟩ := comment
              exact covered_slash star reached inWord
            · by_cases closing :
                  (region != .outer && char == '*' && (rest ++ after).head? == some '/') = true
              · simp only [Bool.and_eq_true, bne_iff_ne, beq_iff_eq] at closing
                obtain ⟨⟨inside, rfl⟩, slash⟩ := closing
                obtain ⟨later, rfl⟩ := cons_of_head frame.ending slash (by decide)
                exact covered_closing inside reached inWord
              · by_cases quote : isQuote char = true
                · exact covered_quoted quote reached inWord
                · by_cases token : startsToken python char = true
                  · exact covered_token space token reached inWord
                  · rw [Bool.not_eq_true] at dash comment closing quote token
                    exact covered_other space hash dash comment closing quote token reached
                      inWord

/-- In a plain body the validator sees every restricted word of the server. -/
theorem shown_of_isPlain (plain : isPlain python body = true) :
    Shown (Server.words body) (sqlTokens python body) := by
  have covered := covered_of_passes ((body ++ []).length + 1) .outer body [] []
    (Nat.lt_succ_self _) (.outer body) (by rw [List.append_nil]; exact plain) false
  rw [List.append_nil, List.append_nil] at covered
  exact covered

end Coverage

instance (word : Text) : Decidable (IsRestricted word) :=
  inferInstanceAs (Decidable (_ ∈ restrictedBodyTokens))

theorem isRestricted_of_shown {python : CharacterData} {words : List Text}
    (shown : Shown words (sqlTokens python body)) (occurs : ∃ word ∈ words, IsRestricted word) :
    isRestricted python body = true := by
  obtain ⟨word, listed, restricted⟩ := occurs
  simp only [isRestricted, Bool.or_eq_true, List.any_eq_true]
  exact Or.inl ⟨word.map Char.toUpper, restricted,
    List.contains_iff_mem.mpr (shown word listed restricted)⟩

theorem validate_rejects {python : CharacterData} {plan : List Migration} {migration : Migration}
    (listed : migration ∈ plan) (restricted : isRestricted python migration.sql.toList = true) :
    ∃ failure, validateMariadbMigrations python plan = .error failure := by
  induction plan with
  | nil => cases listed
  | cons first rest ih =>
    rw [validateMariadbMigrations]
    split
    · exact ⟨_, rfl⟩
    · rename_i accepted
      obtain rfl | later := List.mem_cons.mp listed
      · exact absurd restricted accepted
      · exact ih later

/-- A plan is rejected when a plain body in it holds a restricted word under the lexical rules
of the server. -/
theorem restricted_words_are_rejected {python : CharacterData} {plan : List Migration}
    {migration : Migration} (listed : migration ∈ plan)
    (plain : isPlain python migration.sql.toList = true)
    (occurs : ∃ word ∈ Server.words migration.sql.toList, IsRestricted word) :
    ∃ failure, validateMariadbMigrations python plan = .error failure :=
  validate_rejects listed (isRestricted_of_shown (shown_of_isPlain plain) occurs)

/-- Python's classes on ASCII; nothing else counts as a letter. -/
def asciiCharacters : CharacterData where
  isAlpha := Char.isAlpha
  isAlnum := Char.isAlphanum
  upper := List.map Char.toUpper
  isAlnum_of_isAlpha := by
    intro char alpha
    simp [Char.isAlphanum, alpha]
  isAlpha_ascii := fun _ _ => rfl
  isAlnum_ascii := fun _ _ => rfl
  upper_ascii := fun _ _ => rfl

/-- One migration with the given body. -/
def bodyPlan (sql : String) : List Migration :=
  [{ position := 1, name := "first", checksum := "", sql }]

/-- A version comment with a nested comment and strings. -/
theorem restricted_word_in_comment_is_rejected :
    ∃ failure, validateMariadbMigrations asciiCharacters
      (bodyPlan "/*!50000 SET /* it's */ @@sql_mode = '' */") = .error failure :=
  restricted_words_are_rejected List.mem_cons_self (by decide +kernel) (by decide +kernel)

/-- The server reads a restricted word in the body, which the validator accepts. -/
def HidesWord (body : String) : Prop :=
  (∃ word ∈ Server.words body.toList, IsRestricted word) ∧
    validateMariadbMigrations asciiCharacters (bodyPlan body) = .ok ()

instance (body : String) : Decidable (HidesWord body) := inferInstanceAs (Decidable (_ ∧ _))

/-- Each construct that a plain body excludes can hide a restricted word from the validator. -/
theorem hidden_words_are_accepted :
    HidesWord "SET@@sql_mode=''" ∧
      ∀ body ∈ ["--\x01'\nCOMMIT#'", "--\u00a0 COMMIT", "/*! COMMIT", "/*! /*! COMMIT */",
        "/*! '*/' COMMIT */", "/*! # */ '\nCOMMIT'", "/*! /*/ ' */ COMMIT'",
        "/*! /* */ */* COMMIT */"], HidesWord body := by
  decide +kernel

end Snekql.MariadbMigrations
