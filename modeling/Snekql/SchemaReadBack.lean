import Snekql.SchemaParts

/-!
# Reading table definitions back

The scanner of table definitions reads a compiled `CREATE TABLE` statement. It splits the
statement into the definitions it was compiled from, whatever their names, defaults and checks
contain. `AUTOINCREMENT` and the checks are read as declared. The collations are kept under
case-folded names, so that columns whose names fold alike are given the collation of the last one.
-/

namespace Snekql.Schema

open Snekql.Checks
open Snekql.Splicing (Text)

/-! ## Tokens of one definition -/

/-- Balanced tokens with commas in parentheses only. -/
inductive Level : List Token → Prop where
  | nil : Level []
  | plain {token : Token} {rest : List Token} (unopened : token ≠ openingToken)
      (unclosed : token ≠ closingToken) (unsplit : token ≠ commaToken) (level : Level rest) :
      Level (token :: rest)
  | group {inside rest : List Token} (inner : Balanced inside) (level : Level rest) :
      Level (openingToken :: (inside ++ closingToken :: rest))

section ReadBack

variable {words : List String} {tokens first second : List Token} {depth : Nat}
  {planned : PlannedModel} {text : String} {token : Token}

theorem Level.append (level : Level first) (others : Level second) : Level (first ++ second) := by
  induction level with
  | nil => exact others
  | plain unopened unclosed unsplit _ ih =>
    exact .plain unopened unclosed unsplit ih
  | group inner _ ih =>
    rw [List.cons_append, List.append_assoc, List.cons_append]
    exact .group inner ih

theorem Level.balanced (level : Level tokens) : Balanced tokens := by
  induction level with
  | nil => exact .nil
  | plain unopened unclosed _ _ ih =>
    exact .plain unopened unclosed ih
  | group inner _ ih => exact .group inner ih

theorem Level.single (kind : token.kind ≠ .symbol) : Level [token] := by
  refine .plain ?_ ?_ ?_ .nil <;> rintro rfl <;> exact kind rfl

theorem relevant_opening : relevant openingToken = true := by decide

theorem relevant_closing : relevant closingToken = true := by decide

theorem relevant_comma : relevant commaToken = true := by decide

theorem filter_group (inside rest : List Token) :
    (openingToken :: (inside ++ closingToken :: rest)).filter relevant =
      openingToken :: (inside.filter relevant ++ closingToken :: rest.filter relevant) := by
  rw [List.filter_cons_of_pos relevant_opening, List.filter_append,
    List.filter_cons_of_pos relevant_closing]

theorem balanced_filter (balanced : Balanced tokens) : Balanced (tokens.filter relevant) := by
  induction balanced with
  | nil => exact .nil
  | plain unopened unclosed _ ih =>
    rw [List.filter_cons]
    split
    · exact .plain unopened unclosed ih
    · exact ih
  | group _ _ innerBalanced restBalanced =>
    rw [filter_group]
    exact .group innerBalanced restBalanced

/-- The scanner keeps the structure of a definition. -/
theorem Level.filter (level : Level tokens) : Level (tokens.filter relevant) := by
  induction level with
  | nil => exact .nil
  | plain unopened unclosed unsplit _ ih =>
    rw [List.filter_cons]
    split
    · exact .plain unopened unclosed unsplit ih
    · exact ih
  | group inner _ ih =>
    rw [filter_group]
    exact .group (balanced_filter inner) ih

/-- Every word among the tokens is one of the given words. -/
def Uses (words : List String) (tokens : List Token) : Prop :=
  ∀ token ∈ tokens, token.kind = .word → ∃ text ∈ words, token = word text

theorem Uses.append (uses : Uses words first) (others : Uses words second) :
    Uses words (first ++ second) := by
  intro token listed isWord
  obtain before | after := List.mem_append.mp listed
  · exact uses token before isWord
  · exact others token after isWord

theorem Uses.single (kind : token.kind ≠ .word) : Uses words [token] := by
  intro other listed isWord
  rw [List.mem_singleton.mp listed] at isWord
  exact absurd isWord kind

theorem Uses.filter (uses : Uses words tokens) : Uses words (tokens.filter relevant) :=
  fun token listed => uses token (List.mem_of_mem_filter listed)

/-- The token is the given word, in upper or lower case. -/
def IsWord (characters : Characters) (text : String) (token : Token) : Prop :=
  token.kind = .word ∧ characters.upper token.text = text.toList

/-- The words, in upper case, are not the given one. -/
def Avoids (words : List String) (text : String) : Prop :=
  ∀ other ∈ words, (word other).isAscii = true ∧ other.toList.map Char.toUpper ≠ text.toList

instance (words : List String) (text : String) : Decidable (Avoids words text) :=
  inferInstanceAs (Decidable (∀ _ ∈ _, _ ∧ _))

theorem Uses.lacks (characters : Characters) (uses : Uses words tokens) (avoids : Avoids words text)
    :
    ∀ token ∈ tokens, ¬IsWord characters text token := by
  rintro token listed ⟨isWord, upper⟩
  obtain ⟨other, isListed, rfl⟩ := uses token listed isWord
  obtain ⟨ascii, differs⟩ := avoids other isListed
  exact differs ((upper_eq characters ascii).symm.trans upper)

/-- Tokens with the given words that may stand in parentheses. -/
structure Inside (words : List String) (tokens : List Token) : Prop where
  balanced : Balanced tokens
  uses : Uses words tokens

theorem Inside.append (inside : Inside words first) (others : Inside words second) :
    Inside words (first ++ second) :=
  ⟨inside.balanced.append others.balanced, inside.uses.append others.uses⟩

theorem Inside.comma : Inside words [commaToken] :=
  ⟨.plain (by decide) (by decide) .nil, .single (by decide)⟩

/-- Tokens of one definition with the given words. -/
structure Fits (words : List String) (tokens : List Token) : Prop where
  level : Level tokens
  uses : Uses words tokens

namespace Fits

theorem nil : Fits words [] := by
  refine ⟨.nil, ?_⟩
  intro token listed
  cases listed

theorem append (fits : Fits words first) (others : Fits words second) :
    Fits words (first ++ second) :=
  ⟨fits.level.append others.level, fits.uses.append others.uses⟩

theorem word (listed : text ∈ words) : Fits words [Checks.word text] := by
  refine ⟨.single (by simp), ?_⟩
  intro token isToken _
  exact ⟨text, listed, List.mem_singleton.mp isToken⟩

theorem other (notSymbol : token.kind ≠ .symbol) (notWord : token.kind ≠ .word) :
    Fits words [token] := ⟨.single notSymbol, .single notWord⟩

theorem inside (fits : Fits words tokens) : Inside words tokens := ⟨fits.level.balanced, fits.uses⟩

theorem grouped (inside : Inside words tokens) :
    Fits words (openingToken :: tokens ++ [closingToken]) := by
  refine ⟨.group inside.balanced .nil, ?_⟩
  have opened : Uses words [openingToken] := .single (by simp [openingToken])
  have closed : Uses words [closingToken] := .single (by simp [closingToken])
  exact (opened.append inside.uses).append closed

end Fits

/-! ## Splitting -/

/-- Definitions with commas between them. -/
def commaTokens : List (List Token) → List Token
  | [] => []
  | first :: rest => first ++ rest.flatMap (commaToken :: ·)

theorem splitDefinitions_opening (depth : Nat) (current rest : List Token) :
    splitDefinitions depth current (openingToken :: rest) =
      splitDefinitions (depth + 1) (current ++ [openingToken]) rest := by
  rw [splitDefinitions.eq_def]
  simp only [if_true]

theorem splitDefinitions_closing (depth : Nat) (current rest : List Token) :
    splitDefinitions (depth + 1) current (closingToken :: rest) =
      splitDefinitions depth (current ++ [closingToken]) rest := by
  rw [splitDefinitions.eq_def]
  simp only [if_neg openingToken_ne_closingToken.symm, if_true]

/-- Parentheses hide commas. -/
theorem splitDefinitions_balanced (balanced : Balanced tokens) (depth : Nat)
    (current rest : List Token) :
    splitDefinitions (depth + 1) current (tokens ++ rest) =
      splitDefinitions (depth + 1) (current ++ tokens) rest := by
  induction balanced generalizing depth current rest with
  | nil => rw [List.nil_append, List.append_nil]
  | plain unopened unclosed _ ih =>
    rw [List.cons_append, splitDefinitions, if_neg unopened, if_neg unclosed,
      if_neg (fun both => Nat.succ_ne_zero depth both.2), ih, List.append_assoc]
    rfl
  | group _ _ innerSplit restSplit =>
    rw [List.cons_append, List.append_assoc, List.cons_append, splitDefinitions_opening,
      innerSplit, splitDefinitions_closing, restSplit]
    simp only [List.append_assoc, List.cons_append, List.nil_append]

theorem splitDefinitions_level (level : Level tokens) (current rest : List Token) :
    splitDefinitions 0 current (tokens ++ rest) = splitDefinitions 0 (current ++ tokens) rest := by
  induction level generalizing current with
  | nil => rw [List.nil_append, List.append_nil]
  | plain unopened unclosed unsplit _ ih =>
    rw [List.cons_append, splitDefinitions, if_neg unopened, if_neg unclosed,
      if_neg (fun both => unsplit both.1), ih, List.append_assoc]
    rfl
  | group inner _ ih =>
    rw [List.cons_append, List.append_assoc, List.cons_append, splitDefinitions_opening,
      splitDefinitions_balanced inner, splitDefinitions_closing, ih]
    simp only [List.append_assoc, List.cons_append, List.nil_append]

/-- Definitions are split at the commas between them. -/
theorem splitDefinitions_commaTokens {definitions : List (List Token)}
    (level : ∀ definition ∈ definitions, Level definition ∧ definition ≠ []) (rest : List Token) :
    splitDefinitions 0 [] (commaTokens definitions ++ closingToken :: rest) = definitions := by
  have closes (current : List Token) : splitDefinitions 0 current (closingToken :: rest) =
      if current.isEmpty then [] else [current] := by
    rw [splitDefinitions, if_neg openingToken_ne_closingToken.symm, if_pos rfl]
  have separate : commaToken ≠ openingToken ∧ commaToken ≠ closingToken := by decide
  have splits {current : List Token} (present : current ≠ []) {others : List (List Token)}
      (level : ∀ definition ∈ others, Level definition ∧ definition ≠ []) :
      splitDefinitions 0 current (others.flatMap (commaToken :: ·) ++ closingToken :: rest) =
        current :: others := by
    induction others generalizing current with
    | nil =>
      rw [List.flatMap_nil, List.nil_append, closes, List.isEmpty_eq_false_iff.mpr present]
      rfl
    | cons first others ih =>
      rw [List.forall_mem_cons] at level
      rw [List.flatMap_cons, List.cons_append, List.cons_append, List.append_assoc,
        splitDefinitions, if_neg separate.1, if_neg separate.2, if_pos ⟨rfl, rfl⟩,
        splitDefinitions_level level.1.1, List.nil_append,
        ih level.1.2 level.2]
  cases definitions with
  | nil => rw [commaTokens, List.nil_append, closes]; rfl
  | cons first others =>
    rw [List.forall_mem_cons] at level
    rw [commaTokens, List.append_assoc, splitDefinitions_level level.1.1, List.nil_append,
      splits level.1.2 level.2]

/-! ## The definitions of a statement -/

/-- The tokens of parts. -/
def tokensOf (parts : List Part) : List Token := parts.flatMap Part.tokens

theorem tokensOf_append (first second : List Part) :
    tokensOf (first ++ second) = tokensOf first ++ tokensOf second := List.flatMap_append

theorem tokensOf_wordParts (words : List String) : tokensOf (wordParts words) = words.map word := by
  induction words with
  | nil => rfl
  | cons text rest ih =>
    change word text :: tokensOf (wordParts rest) = _
    rw [ih, List.map_cons]

theorem tokensOf_commaSeparated (definitions : List (List Part)) :
    tokensOf (commaSeparated definitions) = commaTokens (definitions.map tokensOf) := by
  have others (definitions : List (List Part)) :
      tokensOf (definitions.flatMap (fun definition => .mark ',' :: .blank :: definition)) =
        (definitions.map tokensOf).flatMap (commaToken :: ·) := by
    induction definitions with
    | nil => rfl
    | cons first rest ih =>
      rw [List.flatMap_cons, tokensOf_append, ih, List.map_cons,
        List.flatMap_cons]
      rfl
  cases definitions with
  | nil => rfl
  | cons first rest => rw [commaSeparated, tokensOf_append, others, List.map_cons, commaTokens]

theorem filter_words (words : List String) :
    (words.map word).filter relevant = words.map word := by
  refine List.filter_eq_self.mpr (fun token listed => ?_)
  obtain ⟨text, _, rfl⟩ := List.mem_map.mp listed
  rfl

theorem filter_commaTokens (definitions : List (List Token)) :
    (commaTokens definitions).filter relevant =
      commaTokens (definitions.map (List.filter relevant)) := by
  have others (definitions : List (List Token)) :
      (definitions.flatMap (commaToken :: ·)).filter relevant =
        (definitions.map (List.filter relevant)).flatMap (commaToken :: ·) := by
    induction definitions with
    | nil => rfl
    | cons first rest ih =>
      rw [List.flatMap_cons, List.filter_append, List.filter_cons_of_pos relevant_comma,
        ih, List.map_cons, List.flatMap_cons]
  cases definitions with
  | nil => rfl
  | cons first rest => rw [commaTokens, List.filter_append, others, List.map_cons, commaTokens]

section Definitions

theorem fits_wordParts {texts : List String} (listed : texts ⊆ words) :
    Fits words (tokensOf (wordParts texts)) := by
  rw [tokensOf_wordParts]
  induction texts with
  | nil => exact .nil
  | cons text rest ih =>
    rw [List.cons_subset] at listed
    exact (Fits.word listed.1).append (ih listed.2)

theorem fits_nameParts (name : Text) : Fits words (tokensOf (nameParts name)) :=
  .other (by simp [Part.tokens, textQuote]) (by simp [Part.tokens, textQuote])

theorem fits_nameListParts (names : List Text) : Fits words (tokensOf (nameListParts names)) := by
  have others (names : List Text) :
      Inside words (((names.map nameParts).map tokensOf).flatMap (commaToken :: ·)) := by
    induction names with
    | nil => exact Fits.nil.inside
    | cons name rest ih => exact (Inside.comma.append (fits_nameParts name).inside).append ih
  have inside : Inside words (tokensOf (commaSeparated (names.map nameParts))) := by
    rw [tokensOf_commaSeparated]
    cases names with
    | nil => exact Fits.nil.inside
    | cons name rest => exact (fits_nameParts name).inside.append (others rest)
  have split : tokensOf (nameListParts names) =
      openingToken :: tokensOf (commaSeparated (names.map nameParts)) ++ [closingToken] :=
    tokensOf_append (opening :: commaSeparated (names.map nameParts)) [closing]
  rw [split]
  exact .grouped inside

/-- The words of encoded texts. -/
def encodingWords : List String := ["CAST", "AS", "TEXT", "X"]

theorem fits_encodedParts (listed : encodingWords ⊆ words) (value : Text) :
    Fits words (tokensOf (encodedParts "CAST" "AS" "TEXT" value)) := by
  have inside : Fits words ([word "X"] ++ [{ kind := .literal, text := hexText value }] ++
      [word "AS"] ++ [word "TEXT"]) :=
    (((Fits.word (listed (by decide))).append (.other (by simp) (by simp))).append
      (.word (listed (by decide)))).append
      (.word (listed (by decide)))
  exact (Fits.word (listed (by decide))).append
    (.grouped inside.inside)

/-- The words of defaults. -/
def defaultWords : List String := encodingWords ++ ["NULL", "DEFAULT", "strftime"]

theorem fits_literalDefault (listed : defaultWords ⊆ words) (value : Option Literal) :
    Fits words (tokensOf (literalDefaultParts value)) := by
  match value with
  | none => exact .word (listed (by decide))
  | some (.integer (.ofNat value)) => exact .other (by simp [Part.tokens]) (by simp [Part.tokens])
  | some (.integer (.negSucc value)) =>
    have minus : Fits words [symbol "-"] :=
      ⟨.plain (by decide) (by decide) (by decide) .nil, .single (by simp [symbol])⟩
    exact minus.append (.other (by simp [Part.tokens]) (by simp [Part.tokens]))
  | some (.text value) =>
    have encoding : encodingWords ⊆ words :=
      fun text isListed => listed (List.mem_append_left _ isListed)
    by_cases holds : Char.ofNat 0 ∈ value
    · have parts : literalDefaultParts (some (.text value)) =
          opening :: encodedParts "CAST" "AS" "TEXT" value ++ [closing] := if_pos holds
      have inside := fits_encodedParts encoding value
      rw [parts, tokensOf_append]
      exact .grouped inside.inside
    · have parts : literalDefaultParts (some (.text value)) = [.quoted textQuote value] :=
        if_neg holds
      rw [parts]
      exact .other (by simp [Part.tokens]) (by simp [Part.tokens])

theorem fits_timestampParts (listed : defaultWords ⊆ words) :
    Fits words (tokensOf timestampParts) := by
  have literal (text : String) :
      Fits words [{ kind := .literal, text := text.toList }] := .other (by simp) (by simp)
  have bar : Fits words [symbol "|"] :=
    ⟨.plain (by decide) (by decide) (by decide) .nil, .single (by simp [symbol])⟩
  have arguments : Fits words (openingToken ::
      ([{ kind := .literal, text := "%Y-%m-%dT%H:%M:%f".toList }] ++ [commaToken] ++
        [{ kind := .literal, text := "now".toList }]) ++ [closingToken]) :=
    .grouped (((literal _).inside.append .comma).append (literal _).inside)
  have function : Fits words [word "strftime"] := .word (listed (by decide))
  have inside := (((function.append arguments).append bar).append bar).append (literal "000Z")
  exact .grouped inside.inside

theorem fits_defaultParts (listed : defaultWords ⊆ words) (default : ServerDefault) :
    Fits words (tokensOf (defaultParts default)) := by
  have introduced : Fits words [word "DEFAULT"] := .word (listed (by decide))
  cases default with
  | currentTimestamp => exact introduced.append (fits_timestampParts listed)
  | literal value => exact introduced.append (fits_literalDefault listed value)

/-- The words after the name, the storage class and the collation of a column, apart from
`AUTOINCREMENT`. -/
def clauseWords : List String := defaultWords ++ ["PRIMARY", "KEY", "NOT"]

theorem fits_columnClauses {planned : PlannedColumn} (listed : clauseWords ⊆ words)
    (counted : planned.column.autoIncrement = true → "AUTOINCREMENT" ∈ words) :
    Fits words (tokensOf (columnClauses planned)) := by
  have defaults : defaultWords ⊆ words :=
    fun text isListed => listed (List.mem_append_left _ isListed)
  have optional {holds : Bool} {texts : List String}
      (each : holds = true → texts ⊆ words) :
      Fits words (tokensOf (if holds then wordParts texts else [])) := by
    cases holds with
    | false => exact .nil
    | true => exact fits_wordParts (each rfl)
  have primary : Fits words (tokensOf
      (if planned.column.primaryKey && !planned.compositePk then wordParts ["PRIMARY", "KEY"]
        else [])) := by
    exact optional (fun _ => List.Subset.trans (by decide) listed)
  have increment : Fits words (tokensOf
      (if planned.column.autoIncrement then wordParts ["AUTOINCREMENT"] else [])) :=
    optional (fun declared => List.forall_mem_singleton.mpr (counted declared))
  have required : Fits words (tokensOf
      (if requiresNotNull planned then wordParts ["NOT", "NULL"] else [])) := by
    exact optional (fun _ => List.Subset.trans (by decide) listed)
  have default : Fits words
      (tokensOf (planned.column.serverDefault.toList.flatMap defaultParts)) := by
    cases planned.column.serverDefault with
    | none => exact .nil
    | some default =>
      simpa using fits_defaultParts defaults default
  rw [columnClauses, tokensOf_append, tokensOf_append, tokensOf_append]
  exact ((primary.append increment).append required).append default

/-- The words of the storage class and the collation. -/
def typeWords (column : Column) : List String :=
  column.storageClass.sql :: (match column.textCollation with
    | none | some .binary => []
    | some collation => ["COLLATE", collation.sql])

theorem tokensOf_columnParts (planned : PlannedColumn) :
    tokensOf (columnParts planned) =
      { kind := .identifier, text := planned.column.name } ::
        ((typeWords planned.column).map word ++ tokensOf (columnClauses planned)) := by
  have collate : collateParts planned.column =
      wordParts (typeWords planned.column).tail := by
    rw [collateParts, typeWords]
    cases planned.column.textCollation with
    | none => rfl
    | some collation => cases collation <;> rfl
  have named : tokensOf (nameParts planned.column.name) =
      [{ kind := .identifier, text := planned.column.name }] := by
    simp [tokensOf, nameParts, Part.tokens, textQuote]
  rw [columnParts, tokensOf_append, tokensOf_append, tokensOf_append, tokensOf_wordParts, collate,
    tokensOf_wordParts, named]
  rfl

/-- The words of columns, apart from `AUTOINCREMENT`. -/
def columnWords : List String :=
  clauseWords ++ ["INTEGER", "REAL", "BLOB", "COLLATE", "NOCASE", "RTRIM"]

/-- The words of storage classes and collations. -/
def storageWords : List String := ["INTEGER", "REAL", "TEXT", "BLOB", "COLLATE", "NOCASE", "RTRIM"]

theorem typeWords_subset (column : Column) : typeWords column ⊆ storageWords := by
  rw [typeWords]
  generalize column.storageClass = storage
  rcases column.textCollation with _ | _ | _ | _ <;> cases storage <;> decide

theorem storageWords_subset : storageWords ⊆ columnWords := by
  simp [storageWords, columnWords, clauseWords, defaultWords, encodingWords]

theorem fits_columnParts {planned : PlannedColumn} (listed : columnWords ⊆ words)
    (counted : planned.column.autoIncrement = true → "AUTOINCREMENT" ∈ words) :
    Fits words (tokensOf (columnParts planned)) := by
  have type : Fits words (tokensOf (wordParts (typeWords planned.column))) :=
    fits_wordParts (fun text isListed =>
      listed (storageWords_subset (typeWords_subset planned.column isListed)))
  have clauses : Fits words (tokensOf (columnClauses planned)) :=
    fits_columnClauses (fun text isListed => listed (List.mem_append_left _ isListed)) counted
  rw [tokensOf_wordParts] at type
  have named : Fits words [{ kind := .identifier, text := planned.column.name }] :=
    .other (by simp) (by simp)
  rw [tokensOf_columnParts]
  exact named.append (type.append clauses)

/-- The words of table constraints that are no checks. -/
def keyWords : List String :=
  ["PRIMARY", "KEY", "FOREIGN", "REFERENCES", "ON", "DELETE", "UPDATE", "CASCADE", "RESTRICT",
    "SET", "NULL", "NO", "ACTION"]

theorem fits_compositeParts (listed : keyWords ⊆ words) (columns : List PlannedColumn) :
    ∀ definition ∈ compositeParts columns, Fits words (tokensOf definition) := by
  intro definition isDefinition
  simp only [compositeParts] at isDefinition
  split at isDefinition
  · cases isDefinition
  · obtain rfl := List.mem_singleton.mp isDefinition
    exact ((Fits.word (listed (by decide))).append
      (.word (listed (by decide)))).append (fits_nameListParts _)

theorem fits_actionParts (listed : keyWords ⊆ words) {event : String}
    (isEvent : event ∈ ["DELETE", "UPDATE"]) (action : Option ReferentialAction) :
    Fits words (tokensOf (actionParts event action)) := by
  cases action with
  | none => exact .nil
  | some action =>
    have whole : actionParts event (some action) = wordParts (["ON", event] ++ actionWords action) :=
      List.append_nil _
    have events : ∀ event ∈ ["DELETE", "UPDATE"], event ∈ keyWords := by decide
    have actions : actionWords action ⊆ keyWords := by cases action <;> decide
    rw [whole]
    refine fits_wordParts (List.Subset.trans (List.append_subset.mpr ⟨?_, actions⟩) listed)
    exact List.cons_subset.mpr ⟨by decide, List.cons_subset.mpr ⟨events event isEvent, by simp⟩⟩

theorem fits_foreignKeyParts (listed : keyWords ⊆ words) (foreignKey : PlannedForeignKey) :
    Fits words (tokensOf (foreignKeyParts foreignKey)) := by
  have start : Fits words [word "FOREIGN", word "KEY"] :=
    (Fits.word (listed (by decide))).append (.word (listed (by decide)))
  have references : Fits words [word "REFERENCES"] := .word (listed (by decide))
  have actions : Fits words (tokensOf (actionParts "DELETE" foreignKey.onDelete ++
      actionParts "UPDATE" foreignKey.onUpdate)) := by
    rw [tokensOf_append]
    exact (fits_actionParts listed (by simp) _).append (fits_actionParts listed (by simp) _)
  have whole := (((start.append (fits_nameListParts foreignKey.columnNames)).append
    references).append (fits_nameParts foreignKey.targetTable)).append
      (fits_nameListParts foreignKey.targetColumns)
  have split : tokensOf (foreignKeyParts foreignKey) =
      [word "FOREIGN", word "KEY"] ++ tokensOf (nameListParts foreignKey.columnNames) ++
        [word "REFERENCES"] ++ tokensOf (nameParts foreignKey.targetTable) ++
        tokensOf (nameListParts foreignKey.targetColumns) ++
        tokensOf (actionParts "DELETE" foreignKey.onDelete ++
          actionParts "UPDATE" foreignKey.onUpdate) := by
    have blank : tokensOf [.blank] = [] := rfl
    simp only [foreignKeyParts, tokensOf_append, blank, List.append_nil]
    rfl
  rw [split]
  exact whole.append actions

theorem tokensOf_constraintParts (check : BoundCheck) :
    tokensOf (constraintParts check) =
      constraintTokens check.name (checkTokens .sqlite check.expression) := by
  simp only [constraintParts, tokensOf_append, constraintTokens]
  rfl

theorem level_constraintTokens (name : Text) (balanced : Balanced tokens) :
    Level (constraintTokens name tokens) := by
  have start : Level ([word "CONSTRAINT"] ++ [{ kind := .identifier, text := name }] ++
      [word "CHECK"]) :=
    ((Level.single (by simp)).append (.single (by simp))).append (.single (by simp))
  have whole := start.append (.group balanced .nil)
  simpa [constraintTokens] using whole

end Definitions

/-! ## What the scanner reads -/

/-- The definitions of a statement. -/
def definitionParts (planned : PlannedModel) : List (List Part) :=
  plainDefinitions planned ++ planned.checks.map constraintParts

/-- The words of the definitions that are no checks. -/
def plainWords : List String := columnWords ++ keyWords ++ ["AUTOINCREMENT"]

theorem columnWords_subset : columnWords ⊆ plainWords :=
  fun _ listed => List.mem_append_left _ (List.mem_append_left _ listed)

theorem keyWords_subset : keyWords ⊆ plainWords :=
  fun _ listed => List.mem_append_left _ (List.mem_append_right _ listed)

theorem fits_plainDefinitions (planned : PlannedModel) :
    ∀ definition ∈ plainDefinitions planned, Fits plainWords (tokensOf definition) := by
  intro definition listed
  simp only [plainDefinitions, List.mem_append, List.mem_map] at listed
  obtain (⟨column, _, rfl⟩ | composite) | ⟨foreignKey, _, rfl⟩ := listed
  · exact fits_columnParts columnWords_subset (fun _ => by simp [plainWords])
  · exact fits_compositeParts keyWords_subset _ definition composite
  · exact fits_foreignKeyParts keyWords_subset foreignKey

theorem level_definitionParts (declared : ∀ check ∈ planned.checks, Declared check.expression) :
    ∀ definition ∈ definitionParts planned, Level (tokensOf definition) := by
  intro definition listed
  obtain plain | constraint := List.mem_append.mp listed
  · exact (fits_plainDefinitions planned definition plain).level
  · obtain ⟨check, isCheck, rfl⟩ := List.mem_map.mp constraint
    rw [tokensOf_constraintParts]
    exact level_constraintTokens _ (balanced_checkTokens .sqlite (declared check isCheck))

/-- The definitions behind the columns. -/
def constraintDefinitions (planned : PlannedModel) : List (List Part) :=
  compositeParts planned.columns ++ planned.foreignKeys.map foreignKeyParts ++
    planned.checks.map constraintParts

theorem definitionParts_eq (planned : PlannedModel) :
    definitionParts planned = planned.columns.map columnParts ++ constraintDefinitions planned := by
  simp only [definitionParts, plainDefinitions, constraintDefinitions, List.append_assoc]

/-- The words that introduce constraints. -/
def constraintWords : List String := ["PRIMARY", "FOREIGN", "CONSTRAINT"]

theorem constraintDefinitions_start {definition : List Part}
    (listed : definition ∈ constraintDefinitions planned) :
    ∃ text ∈ constraintWords, ∃ rest, tokensOf definition = word text :: rest := by
  simp only [constraintDefinitions, List.mem_append, List.mem_map] at listed
  obtain (composite | ⟨foreignKey, _, rfl⟩) | ⟨check, _, rfl⟩ := listed
  · simp only [compositeParts] at composite
    split at composite
    · cases composite
    · obtain rfl := List.mem_singleton.mp composite
      exact ⟨"PRIMARY", by decide, _, rfl⟩
  · exact ⟨"FOREIGN", by decide, _, rfl⟩
  · exact ⟨"CONSTRAINT", by decide, _, rfl⟩

/-- A definition starts with a name or a word. -/
theorem definitionParts_start {definition : List Part}
    (listed : definition ∈ definitionParts planned) :
    ∃ token rest, tokensOf definition = token :: rest ∧ relevant token = true := by
  rw [definitionParts_eq, List.mem_append, List.mem_map] at listed
  obtain ⟨column, _, rfl⟩ | constraint := listed
  · exact ⟨_, _, tokensOf_columnParts column, rfl⟩
  · obtain ⟨text, _, rest, started⟩ := constraintDefinitions_start constraint
    exact ⟨word text, rest, started, rfl⟩

/-- The tokens of a statement. -/
theorem tokensOf_tableParts (planned : PlannedModel) :
    tokensOf (tableParts planned) =
      [word "CREATE", word "TABLE", { kind := .identifier, text := planned.tableName }] ++
        openingToken :: (commaTokens ((definitionParts planned).map tokensOf) ++
          [closingToken, word "STRICT"]) := by
  have start : tokensOf ([keyword "CREATE", .blank, keyword "TABLE", .blank] ++
      nameParts planned.tableName ++ [.blank, opening]) =
      [word "CREATE", word "TABLE", { kind := .identifier, text := planned.tableName }] ++
        [openingToken] := by
    simp only [tokensOf_append]
    rfl
  rw [tableParts, tokensOf_append, tokensOf_append, start, tokensOf_commaSeparated,
    List.append_assoc, List.append_assoc]
  rfl

section Reading

variable (characters : Characters)

/-- The scanner finds the definitions that were compiled. -/
theorem columnDefinitions_eq (declared : ∀ check ∈ planned.checks, Declared check.expression) :
    columnDefinitions characters (catalogParts.texts (tableParts planned)) =
      (definitionParts planned).map (fun definition => (tokensOf definition).filter relevant) := by
  have read : sqliteTokens characters (catalogParts.texts (tableParts planned)) =
      [word "CREATE", word "TABLE", { kind := .identifier, text := planned.tableName }] ++
        openingToken :: (commaTokens (((definitionParts planned).map tokensOf).map
          (List.filter relevant)) ++ closingToken :: [word "STRICT"]) := by
    rw [sqliteTokens_texts (spaced_tableParts declared)]
    change (tokensOf (tableParts planned)).filter relevant = _
    rw [tokensOf_tableParts, List.filter_append, List.filter_cons_of_pos relevant_opening,
      List.filter_append, filter_commaTokens, List.filter_cons_of_pos relevant_closing]
    rfl
  have body : (sqliteTokens characters (catalogParts.texts (tableParts planned))).dropWhile
      (· ≠ openingToken) = openingToken :: (commaTokens (((definitionParts planned).map
        tokensOf).map (List.filter relevant)) ++ closingToken :: [word "STRICT"]) := by
    rw [read, List.dropWhile_append_of_pos]
    · exact List.dropWhile_cons_of_neg (by simp)
    · simp [openingToken, word]
  rw [columnDefinitions, body]
  simp only
  rw [splitDefinitions_commaTokens, List.map_map]
  · rfl
  · intro definition listed
    rw [List.map_map] at listed
    obtain ⟨parts, isDefinition, rfl⟩ := List.mem_map.mp listed
    obtain ⟨token, rest, started, isRelevant⟩ := definitionParts_start isDefinition
    refine ⟨(level_definitionParts declared parts isDefinition).filter, ?_⟩
    simp only [Function.comp_apply]
    rw [started, List.filter_cons_of_pos isRelevant]
    exact List.cons_ne_nil _ _

/-! ### Collations -/

/-- The collation that a column declares. -/
def declaredCollation (column : Column) : Text :=
  (column.textCollation.getD .binary).sql.toList

theorem lastCollation_step (other : ¬IsWord characters "COLLATE" token) (depth : Int)
    (collation : Text) (rest : List Token) :
    ∃ later, lastCollation characters depth collation (token :: rest) =
      lastCollation characters later collation rest ∧
        (token.kind ≠ .symbol → later = depth) := by
  rw [lastCollation]
  by_cases opens : token = openingToken
  · rw [if_pos opens]
    exact ⟨_, rfl, fun kind => absurd (opens ▸ rfl) kind⟩
  · rw [if_neg opens]
    by_cases closes : token = closingToken
    · rw [if_pos closes]
      exact ⟨_, rfl, fun kind => absurd (closes ▸ rfl) kind⟩
    · have passed : depth ≠ 0 ∨ token.kind ≠ .word ∨
          characters.upper token.text ≠ "COLLATE".toList :=
        .inr (not_and_or.mp other)
      rw [if_neg closes, if_pos passed]
      exact ⟨depth, rfl, fun _ => rfl⟩

/-- Without the word `COLLATE` the collation stays as it is. -/
theorem lastCollation_lacking (lacking : ∀ token ∈ tokens, ¬IsWord characters "COLLATE" token)
    (depth : Int) (collation : Text) : lastCollation characters depth collation tokens = collation := by
  induction tokens generalizing depth with
  | nil => rfl
  | cons token rest ih =>
    rw [List.forall_mem_cons] at lacking
    obtain ⟨later, stepped, _⟩ := lastCollation_step characters lacking.1 depth collation rest
    rw [stepped, ih lacking.2]

theorem lastCollation_collate (listed : text ∈ upperWords) (collation : Text) (rest : List Token) :
    lastCollation characters 0 collation (word "COLLATE" :: word text :: rest) =
      lastCollation characters 0 text.toList (word text :: rest) := by
  have upper : characters.upper (word "COLLATE").text = "COLLATE".toList :=
    upper_spelled characters (spelled_word (by decide))
  have named : characters.upper (word text).text = text.toList :=
    upper_spelled characters (spelled_word listed)
  have symbols : word "COLLATE" ≠ openingToken ∧ word "COLLATE" ≠ closingToken := by
    simp [word, openingToken, closingToken]
  have found : ¬((0 : Int) ≠ 0 ∨ (word "COLLATE").kind ≠ .word ∨
      characters.upper (word "COLLATE").text ≠ "COLLATE".toList) := by
    simp [upper]
  rw [lastCollation, if_neg symbols.1, if_neg symbols.2, if_neg found]
  simp only [List.head?_cons, named]
  rfl

/-- The words of a column's clauses keep its collation. -/
theorem lastCollation_clauses (planned : PlannedColumn) (depth : Int) (collation : Text) :
    lastCollation characters depth collation
      ((tokensOf (columnClauses planned)).filter relevant) = collation := by
  have fits : Fits (clauseWords ++ ["AUTOINCREMENT"]) (tokensOf (columnClauses planned)) :=
    fits_columnClauses (List.subset_append_left _ _) (fun _ => by simp)
  exact lastCollation_lacking characters (fits.uses.filter.lacks characters (by decide)) _ _

theorem lastCollation_type (planned : PlannedColumn) :
    lastCollation characters 0 "BINARY".toList ((typeWords planned.column).map word ++
      (tokensOf (columnClauses planned)).filter relevant) = declaredCollation planned.column := by
  have other {text : String} (listed : text ∈ ["INTEGER", "REAL", "TEXT", "BLOB", "NOCASE",
      "RTRIM"]) (collation : Text) (rest : List Token) :
      lastCollation characters 0 collation (word text :: rest) =
        lastCollation characters 0 collation rest := by
    have uses : Uses ["INTEGER", "REAL", "TEXT", "BLOB", "NOCASE", "RTRIM"] [word text] :=
      (Fits.word listed).uses
    obtain ⟨later, stepped, kept⟩ := lastCollation_step characters
      (uses.lacks characters (by decide) _ List.mem_cons_self) 0 collation rest
    rw [stepped, kept (by simp)]
  have storage : planned.column.storageClass.sql ∈
      ["INTEGER", "REAL", "TEXT", "BLOB", "NOCASE", "RTRIM"] := by
    cases planned.column.storageClass <;> simp [StorageClass.sql]
  rw [typeWords, declaredCollation, List.map_cons, List.cons_append, other storage]
  generalize planned.column.textCollation = declared
  cases declared with
  | none => exact lastCollation_clauses characters planned 0 _
  | some collation =>
    cases collation with
    | binary => exact lastCollation_clauses characters planned 0 _
    | nocase =>
      have listed : "NOCASE" ∈ upperWords := by decide
      exact (lastCollation_collate characters listed _ _).trans
        ((other (by simp) _ _).trans (lastCollation_clauses characters planned 0 _))
    | rtrim =>
      have listed : "RTRIM" ∈ upperWords := by decide
      exact (lastCollation_collate characters listed _ _).trans
        ((other (by simp) _ _).trans (lastCollation_clauses characters planned 0 _))

/-- The scanner reads the name and the collation of a column. -/
theorem definitionCollation_column (casefold : Text → Text) (planned : PlannedColumn) :
    definitionCollation characters casefold
        ((tokensOf (columnParts planned)).filter relevant) =
      some (casefold planned.column.name, declaredCollation planned.column) := by
  rw [tokensOf_columnParts, List.filter_cons_of_pos rfl, List.filter_append, filter_words,
    definitionCollation, lastCollation_type]
  rfl

theorem definitionCollation_constraint (casefold : Text → Text) (listed : text ∈ constraintWords)
    (rest : List Token) : definitionCollation characters casefold (word text :: rest) = none := by
  have known : ∀ text ∈ constraintWords,
      text ∈ upperWords ∧ tableConstraintStarts.contains text.toList = true := by decide
  obtain ⟨upper, starts⟩ := known text listed
  rw [definitionCollation, upper_spelled characters (spelled_word upper), starts]
  rfl

/-- The items from which the collations are looked up. -/
theorem columnCollations_eq (casefold : Text → Text)
    (declared : ∀ check ∈ planned.checks, Declared check.expression) :
    columnCollations characters casefold (catalogParts.texts (tableParts planned)) =
      Dictionary.ofItems (planned.columns.map (fun planned =>
        (casefold planned.column.name, declaredCollation planned.column))) := by
  have constraints : (constraintDefinitions planned).filterMap (fun definition =>
      definitionCollation characters casefold ((tokensOf definition).filter relevant)) = [] := by
    refine List.filterMap_eq_nil_iff.mpr (fun definition listed => ?_)
    obtain ⟨text, starts, rest, tokens⟩ := constraintDefinitions_start listed
    rw [tokens, List.filter_cons_of_pos rfl]
    exact definitionCollation_constraint characters casefold starts _
  rw [columnCollations, columnDefinitions_eq characters declared, List.filterMap_map,
    definitionParts_eq, List.filterMap_append, List.filterMap_map]
  simp only [Function.comp_def, definitionCollation_column, constraints, List.append_nil]
  rw [← List.filterMap_eq_map]
  rfl

/-- Columns whose names fold alike declare the same collation. -/
def CollationsAgree (casefold : Text → Text) (columns : List Column) : Prop :=
  ∀ first ∈ columns, ∀ second ∈ columns, casefold first.name = casefold second.name →
    declaredCollation first = declaredCollation second

/-- The collations are read as declared exactly if no two of them are kept under one name. -/
theorem reportedCollation_iff (casefold : Text → Text)
    (declared : ∀ check ∈ planned.checks, Declared check.expression) :
    (∀ column ∈ planned.columns.map PlannedColumn.column,
      reportedCollation characters casefold (catalogParts.texts (tableParts planned))
        column.name = declaredCollation column) ↔
      CollationsAgree casefold (planned.columns.map PlannedColumn.column) := by
  have reported (column : Column) :
      reportedCollation characters casefold (catalogParts.texts (tableParts planned))
        column.name = (Dictionary.get (Dictionary.ofItems ((planned.columns.map
          PlannedColumn.column).map (fun column => (casefold column.name,
            declaredCollation column)))) (casefold column.name)).getD "BINARY".toList := by
    rw [reportedCollation, columnCollations_eq characters casefold declared, List.map_map]
    rfl
  constructor
  · intro exact first isFirst second isSecond same
    rw [← exact first isFirst, ← exact second isSecond, reported, reported, same]
  · intro agree column listed
    have item : (casefold column.name, declaredCollation column) ∈
        (planned.columns.map PlannedColumn.column).map (fun column => (casefold column.name,
          declaredCollation column)) := List.mem_map.mpr ⟨column, listed, rfl⟩
    obtain ⟨value, found⟩ := Dictionary.get_ofItems_of_mem item
    have kept := Dictionary.forall_ofItems (fun item listed => listed) _
      (Dictionary.mem_of_get found)
    obtain ⟨other, isOther, same⟩ := List.mem_map.mp kept
    obtain ⟨name, rfl⟩ := Prod.mk.injEq _ _ _ _ ▸ same
    rw [reported, found]
    exact agree other isOther column listed name

/-! ### AUTOINCREMENT -/

theorem topLevelWords_word (listed : text ∈ upperWords) (rest : List Token) :
    topLevelWords characters 0 (word text :: rest) =
      text.toList :: topLevelWords characters 0 rest := by
  have symbols : word text ≠ openingToken ∧ word text ≠ closingToken := by
    constructor <;> (intro same; cases congrArg Token.kind same)
  rw [topLevelWords, if_neg symbols.1, if_neg symbols.2, if_pos ⟨rfl, rfl⟩,
    upper_spelled characters (spelled_word listed)]

theorem topLevelWords_words {texts : List String} (listed : ∀ text ∈ texts, text ∈ upperWords)
    (rest : List Token) :
    topLevelWords characters 0 (texts.map word ++ rest) =
      texts.map String.toList ++ topLevelWords characters 0 rest := by
  induction texts with
  | nil => rfl
  | cons text others ih =>
    rw [List.forall_mem_cons] at listed
    rw [List.map_cons, List.cons_append, topLevelWords_word characters listed.1,
      ih listed.2]
    rfl

/-- Every word that counts is a word among the tokens. -/
theorem exists_of_mem_topLevelWords {depth : Int}
    (listed : text.toList ∈ topLevelWords characters depth tokens) :
    ∃ token ∈ tokens, IsWord characters text token := by
  induction tokens generalizing depth with
  | nil => cases listed
  | cons token rest ih =>
    have later {depth : Int} (listed : text.toList ∈ topLevelWords characters depth rest) :
        ∃ found ∈ token :: rest, IsWord characters text found := by
      obtain ⟨other, isOther, isWord⟩ := ih listed
      exact ⟨other, List.mem_cons_of_mem _ isOther, isWord⟩
    rw [topLevelWords] at listed
    split at listed
    · exact later listed
    split at listed
    · exact later listed
    split at listed
    · rename_i counted
      obtain here | there := List.mem_cons.mp listed
      · exact ⟨token, List.mem_cons_self, counted.2, here.symm⟩
      · exact later there
    · exact later listed

/-- Nothing in parentheses counts. -/
theorem topLevelWords_balanced (balanced : Balanced tokens) {depth : Int} (positive : 0 < depth)
    (rest : List Token) :
    topLevelWords characters depth (tokens ++ rest) = topLevelWords characters depth rest := by
  induction balanced generalizing depth rest with
  | nil => rfl
  | plain unopened unclosed _ ih =>
    rw [List.cons_append, topLevelWords, if_neg unopened, if_neg unclosed,
      if_neg (fun both => absurd both.1 (by omega)), ih positive]
  | group _ _ innerPassed restPassed =>
    rw [List.cons_append, List.append_assoc, List.cons_append, topLevelWords, if_pos rfl,
      innerPassed (by omega), topLevelWords, if_neg openingToken_ne_closingToken.symm, if_pos rfl,
      Int.add_sub_cancel, restPassed positive]

theorem mem_of_afterWord {words rest : List Text} (found : afterWord text words = some rest) :
    text.toList ∈ words ∧ rest ⊆ words := by
  induction words with
  | nil => cases found
  | cons first others ih =>
    rw [afterWord] at found
    split at found
    · rename_i same
      cases found
      exact ⟨same ▸ List.mem_cons_self, List.subset_cons_self _ _⟩
    · obtain ⟨listed, subset⟩ := ih found
      exact ⟨List.mem_cons_of_mem _ listed, List.subset_cons_of_subset _ subset⟩

theorem afterWord_append {before : List Text} (absent : text.toList ∉ before) (rest : List Text) :
    afterWord text (before ++ text.toList :: rest) = some rest := by
  induction before with
  | nil => rw [List.nil_append, afterWord, if_pos rfl]
  | cons first others ih =>
    rw [List.mem_cons, not_or] at absent
    rw [List.cons_append, afterWord, if_neg (Ne.symm absent.1), ih absent.2]

theorem afterWord_head (text : String) (rest : List Text) :
    afterWord text (text.toList :: rest) = some rest := by
  rw [afterWord, if_pos rfl]

/-- A definition without the word does not declare `AUTOINCREMENT`. -/
theorem declaresAutoincrement_lacking
    (lacking : "AUTOINCREMENT".toList ∉ topLevelWords characters 0 tokens) :
    declaresAutoincrement characters tokens = false := by
  rw [declaresAutoincrement]
  cases primary : afterWord "PRIMARY" (topLevelWords characters 0 tokens) with
  | none => rfl
  | some afterPrimary =>
    cases key : afterWord "KEY" afterPrimary with
    | none => simp [key]
    | some afterKey =>
      cases increment : afterWord "AUTOINCREMENT" afterKey with
      | none => simp [key, increment]
      | some rest =>
        exact absurd ((mem_of_afterWord primary).2 ((mem_of_afterWord key).2
          (mem_of_afterWord increment).1)) lacking

theorem lacking_of_uses (uses : Uses words tokens) (avoids : Avoids words "AUTOINCREMENT") :
    declaresAutoincrement characters (tokens.filter relevant) = false := by
  refine declaresAutoincrement_lacking characters (fun listed => ?_)
  obtain ⟨token, isToken, isWord⟩ := exists_of_mem_topLevelWords characters listed
  exact uses.filter.lacks characters avoids token isToken isWord

theorem declaresAutoincrement_constraint (name : Text) (balanced : Balanced tokens) :
    declaresAutoincrement characters ((constraintTokens name tokens).filter relevant) = false := by
  have listed : "CONSTRAINT" ∈ upperWords ∧ "CHECK" ∈ upperWords := by
    simp [upperWords, sqlWords]
  have kept : (constraintTokens name tokens).filter relevant =
      word "CONSTRAINT" :: { kind := .identifier, text := name } :: word "CHECK" ::
        openingToken :: (tokens.filter relevant ++ closingToken :: []) := by
    have split : constraintTokens name tokens =
        [word "CONSTRAINT", { kind := .identifier, text := name }, word "CHECK"] ++
          openingToken :: (tokens ++ closingToken :: []) := by
      simp [constraintTokens]
    rw [split, List.filter_append, filter_group]
    rfl
  have words : topLevelWords characters 0 ((constraintTokens name tokens).filter relevant) =
      ["CONSTRAINT".toList, "CHECK".toList] := by
    have named : ({ kind := .identifier, text := name } : Token) ≠ openingToken ∧
        ({ kind := .identifier, text := name } : Token) ≠ closingToken := by
      simp [openingToken, closingToken]
    rw [kept, topLevelWords_word characters listed.1, topLevelWords, if_neg named.1,
      if_neg named.2, if_neg (by simp), topLevelWords_word characters listed.2, topLevelWords,
      if_pos rfl, topLevelWords_balanced characters (balanced_filter balanced) (by decide),
      topLevelWords, if_neg openingToken_ne_closingToken.symm, if_pos rfl]
    rfl
  refine declaresAutoincrement_lacking characters ?_
  rw [words]
  simp

/-- What the planner keeps about `AUTOINCREMENT`. -/
def Countable (planned : PlannedColumn) : Prop :=
  planned.column.autoIncrement = true → planned.column.primaryKey = true ∧
    planned.compositePk = false

/-- A column is read as declared. -/
theorem declaresAutoincrement_column {planned : PlannedColumn} (countable : Countable planned) :
    declaresAutoincrement characters ((tokensOf (columnParts planned)).filter relevant) =
      planned.column.autoIncrement := by
  cases declared : planned.column.autoIncrement with
  | false =>
    have fits : Fits columnWords (tokensOf (columnParts planned)) :=
      fits_columnParts (List.Subset.refl _) (fun isDeclared => by simp [declared] at isDeclared)
    exact lacking_of_uses characters fits.uses (by decide)
  | true =>
    obtain ⟨primaryKey, single⟩ := countable declared
    obtain ⟨rest, clauses⟩ : ∃ rest, (tokensOf (columnClauses planned)).filter relevant =
        word "PRIMARY" :: word "KEY" :: word "AUTOINCREMENT" :: rest := by
      refine ⟨(tokensOf ((if requiresNotNull planned then wordParts ["NOT", "NULL"] else []) ++
        planned.column.serverDefault.toList.flatMap defaultParts)).filter relevant, ?_⟩
      simp only [columnClauses, primaryKey, single, declared, Bool.not_false, Bool.and_true,
        if_true, tokensOf_append, tokensOf_wordParts, List.append_assoc, List.filter_append]
      rfl
    have upper : storageWords ⊆ upperWords := by simp [storageWords, upperWords, sqlWords]
    have absent : "PRIMARY".toList ∉ (typeWords planned.column).map String.toList := by
      intro listed
      obtain ⟨text, isText, same⟩ := List.mem_map.mp listed
      obtain rfl := String.toList_inj.mp same
      exact absurd (typeWords_subset planned.column isText) (by simp [storageWords])
    have listed : "PRIMARY" ∈ upperWords ∧ "KEY" ∈ upperWords ∧ "AUTOINCREMENT" ∈ upperWords := by
      simp [upperWords, sqlWords]
    have words : topLevelWords characters 0 ((tokensOf (columnParts planned)).filter relevant) =
        (typeWords planned.column).map String.toList ++ "PRIMARY".toList :: "KEY".toList :: "AUTOINCREMENT".toList ::
          topLevelWords characters 0 rest := by
      have named : ({ kind := .identifier, text := planned.column.name } : Token) ≠ openingToken ∧
          ({ kind := .identifier, text := planned.column.name } : Token) ≠ closingToken := by
        simp [openingToken, closingToken]
      rw [tokensOf_columnParts, List.filter_cons_of_pos rfl, List.filter_append, filter_words, clauses,
        topLevelWords, if_neg named.1, if_neg named.2, if_neg (by simp),
        topLevelWords_words characters
          (fun text isText => upper (typeWords_subset planned.column isText)), topLevelWords_word characters listed.1, topLevelWords_word characters listed.2.1,
        topLevelWords_word characters listed.2.2]
    rw [declaresAutoincrement, words, afterWord_append absent]
    simp only [Option.bind_eq_bind, Option.bind_some, afterWord_head, Option.isSome_some]

/-- `AUTOINCREMENT` is reported if and only if a column declares it. -/
theorem tableUsesAutoincrement_iff (declared : ∀ check ∈ planned.checks, Declared check.expression)
    (countable : ∀ column ∈ planned.columns, Countable column) :
    tableUsesAutoincrement characters (catalogParts.texts (tableParts planned)) = true ↔
      ∃ column ∈ planned.columns.map PlannedColumn.column, column.autoIncrement = true := by
  rw [tableUsesAutoincrement, columnDefinitions_eq characters declared, List.any_eq_true]
  constructor
  · rintro ⟨tokens, listed, declares⟩
    obtain ⟨definition, isDefinition, rfl⟩ := List.mem_map.mp listed
    simp only [definitionParts, plainDefinitions, List.mem_append, List.mem_map] at isDefinition
    obtain ((⟨column, isColumn, rfl⟩ | composite) | ⟨foreignKey, _, rfl⟩) | ⟨check, isCheck, rfl⟩ :=
      isDefinition
    · rw [declaresAutoincrement_column characters (countable column isColumn)] at declares
      exact ⟨column.column, List.mem_map.mpr ⟨column, isColumn, rfl⟩, declares⟩
    · have fits := fits_compositeParts (List.Subset.refl keyWords) _ definition composite
      rw [lacking_of_uses characters fits.uses (by decide)] at declares
      cases declares
    · have fits := fits_foreignKeyParts (List.Subset.refl keyWords) foreignKey
      rw [lacking_of_uses characters fits.uses (by decide)] at declares
      cases declares
    · rw [tokensOf_constraintParts, declaresAutoincrement_constraint characters _
        (balanced_checkTokens .sqlite (declared check isCheck))] at declares
      cases declares
  · rintro ⟨column, listed, increments⟩
    obtain ⟨planned, isPlanned, rfl⟩ := List.mem_map.mp listed
    refine ⟨(tokensOf (columnParts planned)).filter relevant, ?_, ?_⟩
    · refine List.mem_map.mpr ⟨columnParts planned, ?_, rfl⟩
      simp only [definitionParts, plainDefinitions, List.mem_append, List.mem_map]
      exact .inl (.inl (.inl ⟨planned, isPlanned, rfl⟩))
    · rw [declaresAutoincrement_column characters (countable planned isPlanned), increments]

/-! ### Checks -/

/-- The search for checks reads the tokens, finds the given checks and goes on. -/
def Finds (depth : Nat) (tokens : List Token) (shapes : List CheckShape) : Prop :=
  ∀ fuel before more, (tokens ++ more).length ≤ fuel →
    ∃ left later, more.length ≤ left ∧
      findChecks characters depth fuel 1 before (tokens ++ more) =
        (findChecks characters depth left 1 later more).map (shapes ++ ·)

theorem Finds.append {shapes others : List CheckShape} (finds : Finds characters depth first shapes)
    (next : Finds characters depth second others) :
    Finds characters depth (first ++ second) (shapes ++ others) := by
  intro fuel before more enough
  rw [List.append_assoc] at enough ⊢
  obtain ⟨left, middle, remains, found⟩ := finds fuel before (second ++ more) enough
  obtain ⟨last, later, ends, rest⟩ := next left middle more remains
  refine ⟨last, later, ends, ?_⟩
  rw [found, rest, Option.map_map]
  simp only [Function.comp_def, List.append_assoc]

theorem sum_nesting (balanced : Balanced tokens) : (tokens.map nesting).sum = 0 := by
  have opened : nesting openingToken = 1 := rfl
  have closed : nesting closingToken = -1 := by decide
  induction balanced with
  | nil => rfl
  | plain unopened unclosed _ ih =>
    rw [List.map_cons, List.sum_cons, ih, nesting, if_neg unopened,
      if_neg unclosed, Int.add_zero]
  | group _ _ innerSum restSum =>
    rw [List.map_cons, List.sum_cons, List.map_append, List.sum_append, List.map_cons,
      List.sum_cons, innerSum, restSum, opened, closed]
    rfl

/-- Balanced tokens without the word `CHECK` are passed over. -/
theorem Finds.nothing (balanced : Balanced tokens)
    (lacking : ∀ token ∈ tokens, ¬IsCheck characters token) : Finds characters depth tokens [] := by
  intro fuel before more enough
  rw [List.length_append] at enough
  refine ⟨fuel - tokens.length, tokens.reverse ++ before, by omega, ?_⟩
  have skipped := findChecks_skip characters depth lacking (fuel - tokens.length) 1 before more
  rw [sum_nesting balanced, Int.add_zero, Nat.add_sub_of_le (by omega)] at skipped
  rw [skipped]
  simp only [List.nil_append, Option.map_id']

theorem Finds.constraint (name : Text) (balanced : Balanced tokens) {expression : CheckExpression}
    (parsed : parse characters depth tokens = .ok expression) :
    Finds characters depth (constraintTokens name tokens)
      [{ name := some name, expression := some expression }] :=
  finds_constraint characters depth name balanced parsed

/-- The shape of a declared check. -/
def checkShape (check : BoundCheck) : CheckShape :=
  { name := some check.name, expression := some check.expression }

theorem finds_commaTokens {Item : Type} {items : List Item} {tokens : Item → List Token}
    {shapes : Item → List CheckShape}
    (finds : ∀ item ∈ items, Finds characters depth (tokens item) (shapes item)) :
    Finds characters depth (commaTokens (items.map tokens)) (items.flatMap shapes) := by
  have comma : Finds characters depth [commaToken] [] :=
    .nothing characters (.plain (by decide) (by decide) .nil) (by
      rw [List.forall_mem_singleton]
      exact not_isCheck_other characters (by decide))
  have empty : Finds characters depth [] [] := .nothing characters .nil (by simp)
  have others {items : List Item}
      (finds : ∀ item ∈ items, Finds characters depth (tokens item) (shapes item)) :
      Finds characters depth ((items.map tokens).flatMap (commaToken :: ·))
        (items.flatMap shapes) := by
    induction items with
    | nil => exact empty
    | cons first rest ih =>
      rw [List.forall_mem_cons] at finds
      exact (comma.append characters finds.1).append characters (ih finds.2)
  cases items with
  | nil => exact empty
  | cons first rest =>
    rw [List.forall_mem_cons] at finds
    exact finds.1.append characters (others finds.2)

/-- A stack that is deep enough for every check. -/
theorem parse_checks {checks : List BoundCheck}
    (declared : ∀ check ∈ checks, Declared check.expression) :
    ∃ enough, ∀ depth ≥ enough, ∀ check ∈ checks,
      parse characters depth (checkTokens .sqlite check.expression) = .ok check.expression := by
  induction checks with
  | nil => exact ⟨0, fun _ _ check listed => by cases listed⟩
  | cons first rest ih =>
    rw [List.forall_mem_cons] at declared
    obtain ⟨one, parsed⟩ := parse_checkTokens characters .sqlite declared.1
    obtain ⟨other, parsedRest⟩ := ih declared.2
    refine ⟨max one other, fun depth large => ?_⟩
    rw [List.forall_mem_cons]
    exact ⟨parsed depth (by omega), parsedRest depth (by omega)⟩

/-- The definitions of a statement with the checks that are found in them. -/
theorem finds_definitionParts (parsed : ∀ check ∈ planned.checks,
      parse characters depth (checkTokens .sqlite check.expression) = .ok check.expression)
    (declared : ∀ check ∈ planned.checks, Declared check.expression) :
    Finds characters depth (commaTokens ((definitionParts planned).map tokensOf))
      (planned.checks.map checkShape) := by
  let items : List (List Part × List CheckShape) :=
    (plainDefinitions planned).map (fun definition => (definition, [])) ++
      planned.checks.map (fun check => (constraintParts check, [checkShape check]))
  have finds : ∀ item ∈ items, Finds characters depth (tokensOf item.1) item.2 := by
    intro item listed
    obtain plain | constraint := List.mem_append.mp listed
    · obtain ⟨definition, isDefinition, rfl⟩ := List.mem_map.mp plain
      have fits := fits_plainDefinitions planned definition isDefinition
      exact .nothing characters fits.level.balanced (fits.uses.lacks characters (by decide))
    · obtain ⟨check, isCheck, rfl⟩ := List.mem_map.mp constraint
      simp only
      rw [tokensOf_constraintParts]
      exact .constraint characters check.name
        (balanced_checkTokens .sqlite (declared check isCheck)) (parsed check isCheck)
  have tokens : items.map (fun item => tokensOf item.1) =
      (definitionParts planned).map tokensOf := by
    simp only [items, definitionParts, List.map_append, List.map_map, Function.comp_def]
  have shapes : items.flatMap Prod.snd = planned.checks.map checkShape := by
    simp only [items, List.flatMap_append, List.flatMap_map]
    rw [List.map_eq_flatMap]
    simp
  have found := finds_commaTokens characters finds
  rw [tokens, shapes] at found
  exact found

/-- The checks of a statement are read back in order. -/
theorem sqliteChecks_tableParts (declared : ∀ check ∈ planned.checks, Declared check.expression) :
    ∃ enough, ∀ depth ≥ enough,
      sqliteChecks characters depth (catalogParts.texts (tableParts planned)) =
        some (planned.checks.map checkShape) := by
  obtain ⟨enough, parsed⟩ := parse_checks characters declared
  refine ⟨enough, fun depth large => ?_⟩
  have read : tokens characters false (catalogParts.texts (tableParts planned)) =
      .ok ([word "CREATE", word "TABLE", { kind := .identifier, text := planned.tableName },
        openingToken] ++ (commaTokens ((definitionParts planned).map tokensOf) ++
          [closingToken, word "STRICT"])) := by
    rw [tokens_texts (spaced_tableParts declared)]
    exact congrArg Except.ok (tokensOf_tableParts planned)
  exact sqliteChecks_table characters read
    (finds_definitionParts characters (parsed depth large) declared)

end Reading

/-! ## Accepted models -/

section Planner

variable {Value : Type} {characters : Characters} {casefold : Text → Text}

/-- The bound checks are the declared ones in order. -/
def Binds (binder : CheckBinder Value) (declaration : CheckConstraint Value)
    (check : BoundCheck) : Prop :=
  check.name = declaration.name ∧ binder.bind declaration.predicate = .ok check.expression

theorem binds_of_bindChecks {binder : CheckBinder Value} {names : List Text}
    {declarations : List (CheckConstraint Value)} {checks : List BoundCheck}
    (bound : bindChecks characters casefold binder names declarations = .ok checks) :
    List.Forall₂ (Binds binder) declarations checks := by
  induction declarations generalizing names checks with
  | nil =>
    cases bound
    exact .nil
  | cons declaration rest ih =>
    rw [bindChecks] at bound
    obtain ⟨_, bound⟩ := Outcomes.guarded_eq_ok.mp bound
    obtain ⟨_, bound⟩ := Outcomes.guarded_eq_ok.mp bound
    obtain ⟨expression, isBound, bound⟩ := Outcomes.bind_eq_ok.mp bound
    obtain ⟨others, boundRest, returned⟩ := Outcomes.bind_eq_ok.mp bound
    cases returned
    refine .cons ⟨rfl, ?_⟩ (ih boundRest)
    cases result : binder.bind declaration.predicate with
    | error failure =>
      rw [result] at isBound
      cases isBound
    | ok bound =>
      rw [result] at isBound
      cases isBound
      rfl

theorem declared_of_binds {binder : CheckBinder Value}
    {declarations : List (CheckConstraint Value)} {checks : List BoundCheck}
    (binds : List.Forall₂ (Binds binder) declarations checks) :
    ∀ check ∈ checks, Declared check.expression := by
  induction binds with
  | nil => simp
  | cons bound _ ih =>
    exact List.forall_mem_cons.mpr
      ⟨CheckBinder.declared_of_bind _ bound.2, ih⟩

theorem forM_ok {Item : Type} {check : Item → Except DeclarationError Unit} {items : List Item}
    (passed : items.forM check = .ok ()) : ∀ item ∈ items, check item = .ok () := by
  induction items with
  | nil => simp
  | cons first rest ih =>
    obtain ⟨⟨⟩, here, later⟩ := Outcomes.bind_eq_ok.mp passed
    exact List.forall_mem_cons.mpr ⟨here, ih later⟩

theorem primaryKey_of_valid {column : Column}
    (valid : validateColumnDeclaration column = .ok ())
    (increments : column.autoIncrement = true) : column.primaryKey = true := by
  rw [validateColumnDeclaration] at valid
  obtain ⟨_, valid⟩ := Outcomes.guarded_eq_ok.mp valid
  obtain ⟨_, valid⟩ := Outcomes.guarded_eq_ok.mp valid
  obtain ⟨_, valid⟩ := Outcomes.guarded_eq_ok.mp valid
  obtain ⟨allowed, _⟩ := Outcomes.guarded_eq_ok.mp valid
  by_contra absent
  simp [increments, absent] at allowed

/-- The planner keeps the columns, and counts one that is the whole primary key. -/
theorem planColumns_spec {tableName : Text} {columns : List Column}
    {planned : List PlannedColumn} (accepted : planColumns tableName columns = .ok planned)
    (keyed : ∀ column ∈ columns, column.autoIncrement = true → column.primaryKey = true) :
    planned.map PlannedColumn.column = columns ∧ ∀ column ∈ planned, Countable column := by
  have kept (composite : Bool) : (columns.map (fun column =>
      PlannedColumn.mk column (composite && column.primaryKey))).map PlannedColumn.column =
      columns := by
    rw [List.map_map]
    exact List.map_id _
  cases composite : decide ((columns.filter Column.primaryKey).length > 1) with
  | false =>
    simp only [planColumns, composite, Bool.false_eq_true, if_false] at accepted
    cases accepted
    refine ⟨kept false, fun column listed increments => ?_⟩
    obtain ⟨source, isSource, rfl⟩ := List.mem_map.mp listed
    exact ⟨keyed source isSource increments, rfl⟩
  | true =>
    simp only [planColumns, composite, if_true] at accepted
    obtain ⟨⟨⟩, checked, returned⟩ := Outcomes.bind_eq_ok.mp accepted
    cases returned
    refine ⟨kept true, fun column listed increments => ?_⟩
    obtain ⟨source, isSource, rfl⟩ := List.mem_map.mp listed
    have refused := forM_ok checked source isSource
    rw [keyed source isSource increments, if_pos rfl] at refused
    exact absurd increments (Outcomes.guarded_eq_ok.mp refused).1

/-- What the declaration rules and the planner establish. -/
theorem planModel_spec {model : Model Value}
    (accepted : planModel characters casefold model = .ok planned) :
    planned.columns.map PlannedColumn.column = model.columns ∧
      (∀ column ∈ planned.columns, Countable column) ∧
      List.Forall₂ (Binds model.binder) model.checks planned.checks := by
  rw [planModel] at accepted
  obtain ⟨_, accepted⟩ := Outcomes.guarded_eq_ok.mp accepted
  obtain ⟨⟨⟩, bound, accepted⟩ := Outcomes.bind_eq_ok.mp accepted
  obtain ⟨checks, boundChecks, accepted⟩ := Outcomes.bind_eq_ok.mp accepted
  obtain ⟨columns, plannedColumns, returned⟩ := Outcomes.bind_eq_ok.mp accepted
  cases returned
  have keyed : ∀ column ∈ model.columns,
      column.autoIncrement = true → column.primaryKey = true := by
    intro column listed
    obtain ⟨_, valid⟩ := Outcomes.guarded_eq_ok.mp (forM_ok bound column listed)
    exact primaryKey_of_valid valid
  obtain ⟨same, countable⟩ := planColumns_spec plannedColumns keyed
  exact ⟨same, countable, binds_of_bindChecks boundChecks⟩

/-- The statement's reader gives back what the model declares: the collation of every column,
`AUTOINCREMENT`, and the checks in order. -/
structure ReadBack (characters : Characters) (casefold : Text → Text) (depth : Nat)
    (model : Model Value) (sql : Text) : Prop where
  collations : ∀ column ∈ model.columns,
    reportedCollation characters casefold sql column.name = declaredCollation column
  autoincrement : tableUsesAutoincrement characters sql = true ↔
    ∃ column ∈ model.columns, column.autoIncrement = true
  checks : ∃ bound, List.Forall₂ (Binds model.binder) model.checks bound ∧
    sqliteChecks characters depth sql = some (bound.map checkShape)

end Planner

end ReadBack

namespace Accents

/-- Letters with one accented pair beside those of ASCII. -/
def characters : Characters where
  isAlpha char := char.isAlpha || char == 'é' || char == 'É'
  isAlnum char := char.isAlphanum || char == 'é' || char == 'É'
  upper := List.map Char.toUpper
  isAlpha_ascii := by
    intro char ascii
    have small : char ≠ 'é' ∧ char ≠ 'É' := by
      constructor <;> (rintro rfl; revert ascii; decide)
    rw [beq_eq_false_iff_ne.mpr small.1, beq_eq_false_iff_ne.mpr small.2, Bool.or_false,
      Bool.or_false]
  isAlnum_ascii := by
    intro char ascii
    have small : char ≠ 'é' ∧ char ≠ 'É' := by
      constructor <;> (rintro rfl; revert ascii; decide)
    rw [beq_eq_false_iff_ne.mpr small.1, beq_eq_false_iff_ne.mpr small.2, Bool.or_false,
      Bool.or_false]
  upper_ascii := upper_unchanged

def casefold : Text → Text := List.map (fun char => if char = 'É' then 'é' else char)

def text (name : Char) (collation : Collation) : Column where
  name := [name]
  storageClass := .text
  storageTypeName := "Text"
  textCollation := some collation
  primaryKey := false
  autoIncrement := false
  unique := false
  index := false
  nullable := some true
  isGenerated := false
  hasDefaultFactory := false
  serverDefault := none

def model (first second : Collation) : Model Text where
  tableName := ['t']
  columns := [text 'é' first, text 'É' second]
  distinct := by simp [text]
  foreignKeys := []
  binder := QuotedText.binder
  checks := []

def planned (first second : Collation) : PlannedModel where
  columns := [⟨text 'é' first, false⟩, ⟨text 'É' second, false⟩]
  foreignKeys := []
  tableName := ['t']
  checks := []

theorem planModel_model (first second : Collation) :
    planModel characters casefold (model first second) = .ok (planned first second) := by
  rfl

theorem no_checks (first second : Collation) :
    ∀ check ∈ (planned first second).checks, Declared check.expression := by
  simp [planned]

end Accents

end Snekql.Schema
