import Snekql.Outcomes
import Snekql.RecordedCompile

/-!
# Reading compiled packages

The entries of a package are read back as transitions of the recorded state: the statements
of an operation as that operation, a contraction as the replacement of its table. The route
of a draft is cut into steps accordingly. Adoptions, relinquishments and checkpoints emit
nothing and are read at their place. The reading passes through the same states as the
draft replayed one operation at a time.
-/

namespace Snekql.Recorded

open Snekql.Splicing (Text joinWith)
open Snekql.Outcomes

variable {grammar : Grammar}

/-! ## Table transitions keep the name -/

theorem asPackage_eq_ok {α : Type} {outcome : Except MigrationError α} {result : α} :
    asPackage outcome = .ok result ↔ outcome = .ok result := by
  cases outcome with
  | ok value => rfl
  | error failure =>
    cases failure with
    | schema message => simp [asPackage]
    | value | index | stopIteration | package => rfl

section Replay

variable {backend : Backend} {change : ColumnChange} {emission next : Emission}
  {table after : TableState} {tables : Tables} {name : Text}

theorem contractTable_name (changed : contractTable grammar table change backend = .ok after) :
    after.name = table.name := by
  unfold contractTable at changed
  split at changed
  · cases changed
  · dsimp only at changed
    split at changed
    · cases changed
    · obtain ⟨columns, _, changed⟩ := bind_eq_ok.mp changed
      split at changed
      · cases changed
      · cases changed
        rfl

theorem addColumn_name {column : ColumnState} (changed : addColumn grammar table column = .ok after)
    :
    after.name = table.name := by
  unfold addColumn at changed
  dsimp only at changed
  split at changed
  · cases changed
  · split at changed
    · cases changed
    · split at changed
      · cases changed
      · cases changed
        rfl

theorem auxiliaryChange_name {change : AuxiliaryChange}
    (changed : auxiliaryChange grammar table change backend = .ok after) :
    after.name = table.name := by
  cases change with
  | addCheck definition =>
    simp only [auxiliaryChange, addCheck, asPackage_eq_ok] at changed
    obtain ⟨name, _, changed⟩ := bind_eq_ok.mp changed
    obtain ⟨stream, _, changed⟩ := bind_eq_ok.mp changed
    split at changed
    · cases changed
    · obtain ⟨parts, _, changed⟩ := bind_eq_ok.mp changed
      cases changed
      rfl
  | dropCheck name =>
    simp only [auxiliaryChange, dropCheck, asPackage_eq_ok] at changed
    obtain ⟨parts, _, changed⟩ := bind_eq_ok.mp changed
    obtain ⟨selected, _, changed⟩ := bind_eq_ok.mp changed
    obtain ⟨stream, _, changed⟩ := bind_eq_ok.mp changed
    split at changed
    · cases changed
      rfl
    · cases changed
  | createIndex sql =>
    simp only [auxiliaryChange, addIndex] at changed
    obtain ⟨name, _, changed⟩ := bind_eq_ok.mp changed
    obtain ⟨names, _, changed⟩ := bind_eq_ok.mp changed
    split at changed
    · cases changed
    · cases changed
      rfl
  | dropIndex name =>
    simp only [auxiliaryChange, dropIndex] at changed
    obtain ⟨named, _, changed⟩ := bind_eq_ok.mp changed
    split at changed
    · cases changed
      rfl
    · cases changed

theorem managedTable_eq_ok :
    managedTable tables name = .ok table ↔ Dictionary.get tables name = some table := by
  unfold managedTable
  cases Dictionary.get tables name with
  | none => simp
  | some found => simp

/-! ## Dictionaries of tables -/

/-- Every table stands under its own name. -/
def Keyed (tables : Tables) : Prop := ∀ item ∈ tables, item.2.name = item.1

theorem keyed_byName (state : State) : Keyed state.byName := by
  apply Dictionary.forall_ofItems
  intro item listed
  obtain ⟨table, _, rfl⟩ := List.mem_map.mp listed
  rfl

theorem Keyed.name_eq (keyed : Keyed tables) (managed : Dictionary.get tables name = some table) :
    table.name = name :=
  keyed _ (Dictionary.mem_of_get managed)

theorem Keyed.set (keyed : Keyed tables) (named : table.name = name) :
    Keyed (Dictionary.set tables name table) :=
  Dictionary.forall_set keyed named

theorem Keyed.replayOperation {next : Tables} (keyed : Keyed tables) {operation : Operation}
    (replayed : replayOperation grammar backend tables operation = .ok next) : Keyed next := by
  cases operation with
  | createTable | adoptTable =>
    cases replayed
    exact keyed.set rfl
  | auxiliary name change =>
    obtain ⟨table, managed, replayed⟩ := bind_eq_ok.mp replayed
    obtain ⟨after, changed, replayed⟩ := bind_eq_ok.mp replayed
    cases replayed
    exact keyed.set ((auxiliaryChange_name changed).trans
      (keyed.name_eq (managedTable_eq_ok.mp managed)))
  | addColumn name column =>
    obtain ⟨table, managed, replayed⟩ := bind_eq_ok.mp replayed
    obtain ⟨after, changed, replayed⟩ := bind_eq_ok.mp replayed
    cases replayed
    exact keyed.set ((addColumn_name changed).trans
      (keyed.name_eq (managedTable_eq_ok.mp managed)))
  | contract name change =>
    obtain ⟨table, managed, replayed⟩ := bind_eq_ok.mp replayed
    obtain ⟨after, changed, replayed⟩ := bind_eq_ok.mp replayed
    cases replayed
    exact keyed.set ((contractTable_name changed).trans
      (keyed.name_eq (managedTable_eq_ok.mp managed)))
  | relinquishTable name =>
    simp only [Recorded.replayOperation, relinquish] at replayed
    split at replayed
    · cases replayed
      intro item listed
      exact keyed item (List.mem_of_mem_filter listed)
    · cases replayed
  | checkpoint | dataChange =>
    cases replayed
    exact keyed

/-! ## Steps -/

/-- A stretch of the draft with the entries emitted for it. -/
inductive Step where
  /-- The statements of one operation. -/
  | statements (operation : Operation) (entries : List Entry)
  /-- One entry for the column changes or the check of one table. -/
  | contraction (operations : List Operation) (statement : Option Text) (merged : Contraction)
  /-- An operation without an entry. -/
  | silent (operation : Operation)

def Step.operations : Step → List Operation
  | .statements operation _ => [operation]
  | .contraction operations _ _ => operations
  | .silent operation => [operation]

def Step.entries : Step → List Entry
  | .statements _ entries => entries
  | .contraction _ statement merged => [Entry.ofContraction statement merged]
  | .silent _ => []

/-- Read a step as a transition of the recorded tables. A contraction replaces its table
where it stands as recorded before. -/
def Step.read (grammar : Grammar) (backend : Backend) (tables : Tables) : Step → Option Tables
  | .statements operation _ => (replayOperation grammar backend tables operation).toOption
  | .contraction _ _ merged =>
    if Dictionary.get tables merged.before.name = some merged.before then
      some (Dictionary.set tables merged.before.name merged.after)
    else none
  | .silent operation => (replayOperation grammar backend tables operation).toOption

/-- The statements emitted for an operation that is not grouped. -/
def statementsFor (backend : Backend) (tables : Tables) : Operation → Option (List Entry)
  | .createTable table =>
    some ((table.sql :: table.indexes).map (Entry.ofStatement · [] false))
  | .auxiliary name (.dropIndex index) =>
    (Dictionary.get tables name).map
      (fun table => [Entry.ofStatement (dropIndexSql backend table index) [] false])
  | .auxiliary _ (.createIndex sql) => some [Entry.ofStatement sql [] false]
  | .addColumn name column =>
    (Dictionary.get tables name).map
      (fun table => [Entry.ofStatement (addColumnSql table column) [] false])
  | .dataChange change => some [Entry.ofStatement change.sql change.params true]
  | _ => none

/-- The contraction that lists the columns of the changes, by kind and in order. -/
def Contraction.grouped (before after : TableState) (changes : List ColumnChange) :
    Contraction where
  before := before
  after := after
  required := changes.filterMap (fun | .requireNotNull name => some name | _ => none)
  dropped := changes.filterMap (fun | .dropColumn name => some name | _ => none)
  defaults := changes.filterMap (fun | .changeDefault column => some column.name | _ => none)
  relaxed := changes.filterMap (fun | .allowNull name => some name | _ => none)
  removedChecks := []
  addedChecks := []

/-- The operations grouped into a contraction: column changes of its table, or one check. -/
inductive Groups (contraction : Contraction) : List Operation → Prop where
  | changes {changes : List ColumnChange} (some_change : changes ≠ [])
      (listed : contraction = .grouped contraction.before contraction.after changes) :
      Groups contraction (changes.map (Operation.contract contraction.before.name))
  | check {change : AuxiliaryChange}
      (listed : contraction = checkContraction contraction.before contraction.after change)
      (isCheck : ∃ text, change = .addCheck text ∨ change = .dropCheck text) :
      Groups contraction [.auxiliary contraction.before.name change]

/-- The entries of a step are those of its operations. -/
inductive Step.Emitted (grammar : Grammar) (backend : Backend) (tables : Tables) :
    Step → Prop where
  | statements {operation : Operation} {entries : List Entry}
      (emitted : statementsFor backend tables operation = some entries) :
      Emitted grammar backend tables (.statements operation entries)
  | contraction {operations : List Operation} {contraction : Contraction} {clauses : List Text}
      (groups : Groups contraction operations)
      (compiled : contractionClauses grammar backend contraction = .ok clauses) :
      Emitted grammar backend tables
        (.contraction operations (contractionStatement backend contraction clauses) contraction)
  | adoption (table : TableState) : Emitted grammar backend tables (.silent (.adoptTable table))
  | relinquishment (name : Text) :
      Emitted grammar backend tables (.silent (.relinquishTable name))
  | checkpoint (name : Text) : Emitted grammar backend tables (.silent (.checkpoint name))

/-- The steps read one after the other. Each is read as a transition from the tables reached
so far, to the tables that its operations give when applied one by one. -/
inductive Reading (grammar : Grammar) (backend : Backend) (start : Tables) :
    List Step → Tables → Prop where
  | nil : Reading grammar backend start [] start
  | step {steps : List Step} {tables next : Tables} {step : Step}
      (earlier : Reading grammar backend start steps tables)
      (emitted : step.Emitted grammar backend tables)
      (read : step.read grammar backend tables = some next)
      (replayed : replay grammar backend tables step.operations = .ok next) :
      Reading grammar backend start (steps ++ [step]) next

theorem replay_singleton (backend : Backend) (tables : Tables) (operation : Operation) :
    replay grammar backend tables [operation] =
      replayOperation grammar backend tables operation := by
  simp [replay]

theorem replay_append {middle : Tables} {first : List Operation} (rest : List Operation)
    (replayed : replay grammar backend tables first = .ok middle) :
    replay grammar backend tables (first ++ rest) = replay grammar backend middle rest := by
  unfold replay at replayed ⊢
  rw [List.foldlM_append, replayed]
  rfl

/-! ## Emission -/

/-- An emission with nothing waiting, in which given entries were added. -/
structure Emission.Adds (emission next : Emission) (entries : List Entry) : Prop where
  backend : next.backend = emission.backend
  entries : next.entries = emission.entries ++ entries
  pending : next.pending = none

/-- The entry of what waits. -/
inductive Flushes (grammar : Grammar) (backend : Backend) :
    Option Contraction → List Entry → Prop where
  | nothing : Flushes grammar backend none []
  | contraction {contraction : Contraction} {clauses : List Text}
      (compiled : contractionClauses grammar backend contraction = .ok clauses) :
      Flushes grammar backend (some contraction)
        [Entry.ofContraction (contractionStatement backend contraction clauses) contraction]

theorem flush_adds (flushed : emission.flush grammar = .ok next) :
    ∃ entries, Flushes grammar emission.backend emission.pending entries ∧
      emission.Adds next entries := by
  unfold Emission.flush at flushed
  split at flushed
  · rename_i waiting
    cases flushed
    rw [waiting]
    exact ⟨[], .nothing, rfl, (List.append_nil _).symm, waiting⟩
  · rename_i contraction waiting
    obtain ⟨used, _, flushed⟩ := bind_eq_ok.mp flushed
    obtain ⟨clauses, compiled, flushed⟩ := bind_eq_ok.mp flushed
    obtain ⟨total, _, flushed⟩ := bind_eq_ok.mp flushed
    cases flushed
    rw [waiting]
    exact ⟨_, .contraction compiled, rfl, rfl, rfl⟩

/-- A statement follows what was waiting. -/
theorem emit_adds {sql : Text} {params : List Parameter} {transactional : Bool}
    (emitted : emission.emit grammar sql params transactional = .ok next) :
    ∃ entries, Flushes grammar emission.backend emission.pending entries ∧
      emission.Adds next (entries ++ [Entry.ofStatement sql params transactional]) := by
  obtain ⟨flushed, done, emitted⟩ := bind_eq_ok.mp emitted
  obtain ⟨entries, flushes, adds⟩ := flush_adds done
  obtain ⟨used, _, emitted⟩ := bind_eq_ok.mp emitted
  cases emitted
  refine ⟨entries, flushes, adds.backend, ?_, adds.pending⟩
  rw [← List.append_assoc, ← adds.entries]

/-- Statements in a row. -/
theorem emit_all_adds {first : Text} {rest : List Text} (emitted : (first :: rest).foldlM
      (fun emission sql => Emission.emit grammar emission sql [] false) emission = .ok next) :
    ∃ entries, Flushes grammar emission.backend emission.pending entries ∧
      emission.Adds next
        (entries ++ (first :: rest).map (Entry.ofStatement · [] false)) := by
  induction rest generalizing emission first with
  | nil =>
    rw [List.foldlM_cons] at emitted
    obtain ⟨last, emitted, returned⟩ := bind_eq_ok.mp emitted
    cases returned
    exact emit_adds emitted
  | cons second rest ih =>
    rw [List.foldlM_cons] at emitted
    obtain ⟨middle, head, tail⟩ := bind_eq_ok.mp emitted
    obtain ⟨entries, flushes, adds⟩ := emit_adds head
    obtain ⟨more, nothing, continued⟩ := ih tail
    rw [adds.pending] at nothing
    cases nothing
    refine ⟨entries, flushes, continued.backend.trans adds.backend, ?_, continued.pending⟩
    rw [continued.entries, adds.entries]
    simp

theorem grouped_extend (before middle after : TableState) (changes : List ColumnChange)
    (change : ColumnChange) :
    (Contraction.grouped before middle changes).extend after change =
      .grouped before after (changes ++ [change]) := by
  cases change with
  | requireNotNull | allowNull | dropColumn | changeDefault =>
    simp [Contraction.extend, Contraction.grouped]

/-- What waits for another table is flushed. -/
theorem flushOther_cases (flushed : emission.flushOther grammar name = .ok next) :
    (∃ merged, emission.pending = some merged ∧ merged.before.name = name ∧ next = emission) ∨
      ∃ entries, Flushes grammar emission.backend emission.pending entries ∧
        emission.Adds next entries := by
  unfold Emission.flushOther at flushed
  split at flushed
  · rename_i merged waiting
    split at flushed
    · exact Or.inr (flush_adds flushed)
    · rename_i sameTable
      cases flushed
      exact Or.inl ⟨merged, waiting, not_not.mp sameTable, rfl⟩
  · rename_i waiting
    cases flushed
    right
    rw [waiting]
    exact ⟨[], .nothing, rfl, (List.append_nil _).symm, waiting⟩

/-! ## The invariant of the route -/

/-- The operations whose changes wait, from the tables that the entries have reached. -/
inductive Waiting (grammar : Grammar) (backend : Backend) (base : Tables) :
    Option Contraction → List Operation → Tables → Prop where
  | nothing : Waiting grammar backend base none [] base
  | changes {merged : Contraction} {changes : List ColumnChange} (some_change : changes ≠ [])
      (listed : merged = .grouped merged.before merged.after changes)
      (managed : Dictionary.get base merged.before.name = some merged.before)
      (replayed : replay grammar backend base
        (changes.map (Operation.contract merged.before.name)) =
          .ok (Dictionary.set base merged.before.name merged.after)) :
      Waiting grammar backend base (some merged)
        (changes.map (Operation.contract merged.before.name))
        (Dictionary.set base merged.before.name merged.after)

/-- A first change of a table. -/
theorem Waiting.start {before : TableState}
    (managed : Dictionary.get tables before.name = some before) (replayed : replayOperation grammar backend tables (.contract before.name change) =
      .ok (Dictionary.set tables before.name after)) :
    Waiting grammar backend tables (some ((Contraction.between before after).extend after change))
      [.contract before.name change] (Dictionary.set tables before.name after) := by
  have opened : (Contraction.between before after).extend after change =
      .grouped before after [change] := grouped_extend before after after [] change
  rw [opened]
  rw [← replay_singleton] at replayed
  exact .changes (List.cons_ne_nil change []) rfl managed replayed

/-- A further change of the same table. -/
theorem Waiting.extend {base : Tables} {merged : Contraction} {waiting : List Operation}
    (waits : Waiting grammar backend base (some merged) waiting tables) (replayed : replayOperation grammar backend tables
      (.contract merged.before.name change) =
        .ok (Dictionary.set tables merged.before.name after)) :
    Waiting grammar backend base (some (merged.extend after change))
      (waiting ++ [.contract merged.before.name change])
      (Dictionary.set tables merged.before.name after) := by
  cases waits with
  | @changes _ changes some_change listed managed earlier =>
    have extended : merged.extend after change =
        .grouped merged.before after (changes ++ [change]) := by
      rw [listed]
      exact grouped_extend _ _ _ _ _
    have onward : replay grammar backend base
        ((changes ++ [change]).map (Operation.contract merged.before.name)) =
          .ok (Dictionary.set base merged.before.name after) := by
      rw [List.map_append, replay_append _ earlier, List.map_singleton, replay_singleton, replayed,
        Dictionary.set_set]
    rw [extended, Dictionary.set_set, ← List.map_singleton, ← List.map_append]
    exact .changes (List.append_ne_nil_of_right_ne_nil changes (List.cons_ne_nil change [])) rfl
      managed onward

/-- The entries so far are read as the given operations. -/
def Settled (grammar : Grammar) (draft : Draft) (operations : List Operation) (tables : Tables)
    (entries : List Entry) : Prop :=
  ∃ steps, Reading grammar draft.target.backend draft.before.byName steps tables ∧
    steps.flatMap Step.operations = operations ∧ steps.flatMap Step.entries = entries

section Route

variable {draft : Draft} {operations : List Operation} {tables : Tables} {entries : List Entry}

theorem Settled.step (settled : Settled grammar draft operations tables entries) {step : Step}
    {next : Tables} (emitted : step.Emitted grammar draft.target.backend tables)
    (read : step.read grammar draft.target.backend tables = some next)
    (replayed : replay grammar draft.target.backend tables step.operations = .ok next) :
    Settled grammar draft (operations ++ step.operations) next (entries ++ step.entries) := by
  obtain ⟨steps, reading, rfl, rfl⟩ := settled
  exact ⟨steps ++ [step], reading.step emitted read replayed, by simp, by simp⟩

/-- What waited is read as one contraction. -/
theorem Settled.flush (settled : Settled grammar draft operations tables entries)
    {pending : Option Contraction} {waiting : List Operation} {reached : Tables}
    {flushed : List Entry}
    (waits : Waiting grammar draft.target.backend tables pending waiting reached)
    (flushes : Flushes grammar draft.target.backend pending flushed) :
    Settled grammar draft (operations ++ waiting) reached (entries ++ flushed) := by
  cases waits with
  | nothing =>
    cases flushes
    rw [List.append_nil, List.append_nil]
    exact settled
  | @changes merged changes some_change listed managed replayed =>
    cases flushes with
    | @contraction _ clauses compiled =>
      exact settled.step (.contraction (.changes some_change listed) compiled)
        (if_pos managed) replayed

/-- Where the compilation of a route stands after its first operations. -/
structure Followed (grammar : Grammar) (draft : Draft) (earlier : List Operation)
    (state : Compilation) : Prop where
  backend : state.emission.backend = draft.target.backend
  keyed : Keyed state.tables
  replayed : replay grammar draft.target.backend draft.before.byName earlier = .ok state.tables
  read : ∃ settled base waiting, Settled grammar draft settled base state.emission.entries ∧
    Waiting grammar draft.target.backend base state.emission.pending waiting state.tables ∧
    settled ++ waiting = earlier
  recorded : ∀ before name after, earlier = before ++ .checkpoint name :: after →
    .checkpoint name ∉ before ∧
      ∃ tables, replay grammar draft.target.backend draft.before.byName before = .ok tables ∧
        Dictionary.get state.checkpoints name =
          some (stateDigest grammar draft.target.backend tables)

theorem followed_initial (grammar : Grammar) (draft : Draft) (sqlBytes : Nat) :
    Followed grammar draft [] (.initial draft sqlBytes) where
  backend := rfl
  keyed := keyed_byName _
  replayed := rfl
  read := ⟨[], draft.before.byName, [], ⟨[], .nil, rfl, rfl⟩, .nothing, rfl⟩
  recorded := by
    intro before name after split
    cases before with
    | nil | cons => cases split

/-- An operation that emits what waits and then its own entries. -/
def Emits (grammar : Grammar) (draft : Draft) (state : Compilation) (operation : Operation)
    (next : Compilation) : Prop :=
  ∃ (step : Step) (flushed : List Entry), step.operations = [operation] ∧
    Flushes grammar draft.target.backend state.emission.pending flushed ∧
    state.emission.Adds next.emission (flushed ++ step.entries) ∧
    step.Emitted grammar draft.target.backend state.tables ∧
    step.read grammar draft.target.backend state.tables = some next.tables

/-- A checkpoint is recorded under a fresh name with the digest of the tables; no other
operation touches the checkpoints. -/
def Marks (grammar : Grammar) (draft : Draft) (state : Compilation) (operation : Operation)
    (next : Compilation) : Prop :=
  match operation with
  | .checkpoint name => Dictionary.get state.checkpoints name = none ∧
      next.checkpoints = Dictionary.set state.checkpoints name
        (stateDigest grammar draft.target.backend state.tables)
  | _ => next.checkpoints = state.checkpoints

variable {state next : Compilation} {operation : Operation} {flushed : List Entry}

theorem emits_statements {own : List Entry}
    (flushes : Flushes grammar state.emission.backend state.emission.pending flushed)
    (backend : state.emission.backend = draft.target.backend)
    (adds : state.emission.Adds next.emission (flushed ++ own))
    (emitted : statementsFor draft.target.backend state.tables operation = some own)
    (replayed : replayOperation grammar draft.target.backend state.tables operation =
      .ok next.tables) : Emits grammar draft state operation next := by
  rw [backend] at flushes
  refine ⟨.statements operation own, flushed, rfl, flushes, adds, .statements emitted, ?_⟩
  rw [Step.read, replayed]
  rfl

theorem emits_silent
    (flushes : Flushes grammar state.emission.backend state.emission.pending flushed)
    (backend : state.emission.backend = draft.target.backend)
    (adds : state.emission.Adds next.emission flushed)
    (emitted : (Step.silent operation).Emitted grammar draft.target.backend state.tables)
    (replayed : replayOperation grammar draft.target.backend state.tables operation =
      .ok next.tables) : Emits grammar draft state operation next := by
  rw [backend] at flushes
  rw [← List.append_nil flushed] at adds
  refine ⟨.silent operation, flushed, rfl, flushes, adds, emitted, ?_⟩
  rw [Step.read, replayed]
  rfl

/-- The replay of a change of one table. -/
theorem replay_auxiliary (change : AuxiliaryChange) (managed : managedTable tables name = .ok table)
    (changed : auxiliaryChange grammar table change backend = .ok after) :
    replayOperation grammar backend tables (.auxiliary name change) =
      .ok (Dictionary.set tables name after) :=
  bind_eq_ok.mpr ⟨table, managed, bind_eq_ok.mpr ⟨after, changed, rfl⟩⟩

theorem checkContraction_between (before after : TableState) (change : AuxiliaryChange) :
    (checkContraction before after change).before = before ∧
      (checkContraction before after change).after = after := by
  cases change with
  | addCheck | dropCheck | createIndex | dropIndex => exact ⟨rfl, rfl⟩

/-- A check is emitted at once, as a contraction of its own. -/
theorem emits_check {change : AuxiliaryChange}
    (backend : state.emission.backend = draft.target.backend) (keyed : Keyed state.tables)
    (isCheck : ∃ text, change = .addCheck text ∨ change = .dropCheck text)
    (before : state.emission.flush grammar = .ok emission)
    (managed : managedTable state.tables name = .ok table) (own : { emission with pending := some (checkContraction table after change) }.flush grammar =
      .ok next.emission) (reached : next.tables = Dictionary.set state.tables name after) :
    Emits grammar draft state (.auxiliary name change) next := by
  obtain ⟨flushed, flushes, adds⟩ := flush_adds before
  obtain ⟨entries, flushesOwn, addsOwn⟩ := flush_adds own
  have between := checkContraction_between table after change
  have named : (checkContraction table after change).before.name = name := by
    rw [between.1]
    exact keyed.name_eq (managedTable_eq_ok.mp managed)
  cases flushesOwn with
  | @contraction _ clauses compiled =>
    rw [adds.backend, backend] at compiled
    rw [backend] at flushes
    refine ⟨.contraction [.auxiliary (checkContraction table after change).before.name change]
      (contractionStatement draft.target.backend (checkContraction table after change) clauses)
      (checkContraction table after change), flushed, ?_, flushes, ⟨?_, ?_, addsOwn.pending⟩,
      .contraction (.check ?_ isCheck) compiled, ?_⟩
    · rw [named]
      rfl
    · exact addsOwn.backend.trans adds.backend
    · rw [addsOwn.entries, adds.entries, List.append_assoc, adds.backend, backend]
      rfl
    · rw [between.1, between.2]
    · rw [Step.read, named, between.1, between.2, if_pos (managedTable_eq_ok.mp managed), reached]

/-- Every operation but a column change emits what waits before its own entries. -/
theorem compileOperation_emits (backend : state.emission.backend = draft.target.backend)
    (keyed : Keyed state.tables)
    (ungrouped : ∀ name change, operation ≠ .contract name change)
    (compiled : compileOperation grammar draft state operation = .ok next) :
    Emits grammar draft state operation next ∧
      replayOperation grammar draft.target.backend state.tables operation = .ok next.tables ∧
      Marks grammar draft state operation next := by
  cases operation with
  | relinquishTable name =>
    obtain ⟨emission, flushed, compiled⟩ := bind_eq_ok.mp compiled
    obtain ⟨tables, replayed, compiled⟩ := bind_eq_ok.mp compiled
    cases compiled
    obtain ⟨entries, flushes, adds⟩ := flush_adds flushed
    exact ⟨emits_silent flushes backend ⟨adds.backend, adds.entries, adds.pending⟩
      (.relinquishment name) replayed, replayed, rfl⟩
  | contract name change => exact absurd rfl (ungrouped name change)
  | checkpoint name =>
    obtain ⟨emission, flushed, compiled⟩ := bind_eq_ok.mp compiled
    obtain ⟨entries, flushes, adds⟩ := flush_adds flushed
    dsimp only at compiled
    split at compiled
    · cases compiled
    · rename_i fresh
      simp only [Bool.or_eq_true, not_or, Option.not_isSome_iff_eq_none] at fresh
      cases compiled
      exact ⟨emits_silent flushes backend adds (.checkpoint name) rfl, rfl, fresh.2, rfl⟩
  | dataChange change =>
    obtain ⟨_, _, compiled⟩ := bind_eq_ok.mp compiled
    obtain ⟨emission, emitted, compiled⟩ := bind_eq_ok.mp compiled
    cases compiled
    obtain ⟨entries, flushes, adds⟩ := emit_adds emitted
    exact ⟨emits_statements flushes backend adds rfl rfl, rfl, rfl⟩
  | addColumn name column =>
    simp only [compileOperation] at compiled
    split at compiled
    · cases compiled
    · rename_i current managed
      obtain ⟨after, changed, compiled⟩ := bind_eq_ok.mp compiled
      obtain ⟨emission, emitted, compiled⟩ := bind_eq_ok.mp compiled
      cases compiled
      obtain ⟨entries, flushes, adds⟩ := emit_adds emitted
      have replayed : replayOperation grammar draft.target.backend state.tables
          (.addColumn name column) = .ok (Dictionary.set state.tables name after) :=
        bind_eq_ok.mpr ⟨current, managedTable_eq_ok.mpr managed,
          bind_eq_ok.mpr ⟨after, changed, rfl⟩⟩
      refine ⟨emits_statements flushes backend adds ?_ replayed, replayed, rfl⟩
      rw [statementsFor, managed]
      rfl
  | auxiliary name change =>
    cases change with
    | addCheck definition =>
      obtain ⟨emission, flushed, compiled⟩ := bind_eq_ok.mp compiled
      obtain ⟨table, managed, compiled⟩ := bind_eq_ok.mp compiled
      obtain ⟨after, changed, compiled⟩ := bind_eq_ok.mp compiled
      obtain ⟨last, own, compiled⟩ := bind_eq_ok.mp compiled
      cases compiled
      obtain ⟨_, _, adds⟩ := flush_adds flushed
      rw [adds.backend, backend] at changed
      exact ⟨emits_check backend keyed ⟨definition, Or.inl rfl⟩ flushed managed own rfl,
        replay_auxiliary _ managed changed, rfl⟩
    | dropCheck check =>
      obtain ⟨emission, flushed, compiled⟩ := bind_eq_ok.mp compiled
      obtain ⟨table, managed, compiled⟩ := bind_eq_ok.mp compiled
      obtain ⟨after, changed, compiled⟩ := bind_eq_ok.mp compiled
      obtain ⟨last, own, compiled⟩ := bind_eq_ok.mp compiled
      cases compiled
      obtain ⟨_, _, adds⟩ := flush_adds flushed
      rw [adds.backend, backend] at changed
      exact ⟨emits_check backend keyed ⟨check, Or.inr rfl⟩ flushed managed own rfl,
        replay_auxiliary _ managed changed, rfl⟩
    | createIndex sql =>
      obtain ⟨table, managed, compiled⟩ := bind_eq_ok.mp compiled
      obtain ⟨after, changed, compiled⟩ := bind_eq_ok.mp compiled
      obtain ⟨emission, emitted, compiled⟩ := bind_eq_ok.mp compiled
      cases compiled
      obtain ⟨entries, flushes, adds⟩ := emit_adds emitted
      rw [backend] at changed
      have replayed := replay_auxiliary (.createIndex sql) managed changed
      exact ⟨emits_statements flushes backend adds rfl replayed, replayed, rfl⟩
    | dropIndex index =>
      obtain ⟨table, managed, compiled⟩ := bind_eq_ok.mp compiled
      obtain ⟨after, changed, compiled⟩ := bind_eq_ok.mp compiled
      obtain ⟨emission, emitted, compiled⟩ := bind_eq_ok.mp compiled
      cases compiled
      obtain ⟨entries, flushes, adds⟩ := emit_adds emitted
      rw [backend] at changed adds
      have replayed := replay_auxiliary (.dropIndex index) managed changed
      refine ⟨emits_statements flushes backend adds ?_ replayed, replayed, rfl⟩
      rw [statementsFor, managedTable_eq_ok.mp managed]
      rfl
  | createTable table =>
    simp only [compileOperation, emitCreation] at compiled
    split at compiled
    · cases compiled
    · split at compiled
      · cases compiled
      · obtain ⟨emission, emitted, compiled⟩ := bind_eq_ok.mp compiled
        cases compiled
        obtain ⟨entries, flushes, adds⟩ := emit_all_adds emitted
        exact ⟨emits_statements flushes backend adds rfl rfl, rfl, rfl⟩
  | adoptTable table =>
    simp only [compileOperation, emitAdoption] at compiled
    split at compiled
    · cases compiled
    · split at compiled
      · cases compiled
      · obtain ⟨emission, flushed, compiled⟩ := bind_eq_ok.mp compiled
        cases compiled
        obtain ⟨entries, flushes, adds⟩ := flush_adds flushed
        exact ⟨emits_silent flushes backend adds (.adoption table) rfl, rfl, rfl⟩

/-- A column change waits with those of the same table, and after what waited for another. -/
theorem contract_waits {base : Tables} {waiting : List Operation} {before : TableState}
    (backend : state.emission.backend = draft.target.backend) (keyed : Keyed state.tables)
    (settled : Settled grammar draft operations base state.emission.entries)
    (waits : Waiting grammar draft.target.backend base state.emission.pending waiting state.tables)
    (managed : managedTable state.tables name = .ok before) (replayed : replayOperation grammar draft.target.backend state.tables
      (.contract name change) = .ok (Dictionary.set state.tables name after))
    (contracted : state.emission.contract grammar before after change = .ok emission) :
    emission.backend = draft.target.backend ∧
      ∃ settled base rest, Settled grammar draft settled base emission.entries ∧
        Waiting grammar draft.target.backend base emission.pending rest
          (Dictionary.set state.tables name after) ∧
        settled ++ rest = operations ++ waiting ++ [.contract name change] := by
  have managed := managedTable_eq_ok.mp managed
  obtain rfl : before.name = name := keyed.name_eq managed
  obtain ⟨ready, flushed, contracted⟩ := bind_eq_ok.mp contracted
  dsimp only at contracted
  split at contracted
  · cases contracted
  · cases contracted
    obtain ⟨merged, pending, sameTable, rfl⟩ | ⟨entries, flushes, adds⟩ := flushOther_cases flushed
    · rw [pending] at waits
      rw [← sameTable] at replayed ⊢
      refine ⟨backend, operations, base, _, settled, ?_, (List.append_assoc _ _ _).symm⟩
      rw [pending]
      exact waits.extend replayed
    · rw [backend] at flushes
      refine ⟨adds.backend.trans backend, operations ++ waiting, state.tables, _, ?_, ?_, rfl⟩
      · have all := settled.flush waits flushes
        rw [← adds.entries] at all
        exact all
      · rw [adds.pending]
        exact .start managed replayed

/-- A further operation keeps the digests of the checkpoints passed. -/
theorem Followed.recorded_append {earlier : List Operation}
    (followed : Followed grammar draft earlier state)
    (marks : Marks grammar draft state operation next) (before : List Operation) (name : Text)
    (after : List Operation)
    (split : earlier ++ [operation] = before ++ .checkpoint name :: after) :
    .checkpoint name ∉ before ∧
      ∃ tables, replay grammar draft.target.backend draft.before.byName before = .ok tables ∧
        Dictionary.get next.checkpoints name =
          some (stateDigest grammar draft.target.backend tables) := by
  obtain rfl | ⟨rest, last, rfl⟩ := after.eq_nil_or_concat
  · obtain ⟨rfl, last⟩ := List.append_inj' split rfl
    cases last
    constructor
    · intro passed
      obtain ⟨sooner, later, split⟩ := List.append_of_mem passed
      obtain ⟨_, tables, _, kept⟩ := followed.recorded sooner name later split
      rw [marks.1] at kept
      cases kept
    · refine ⟨state.tables, followed.replayed, ?_⟩
      rw [marks.2, Dictionary.get_set_self]
  · have regrouped : earlier ++ [operation] = (before ++ .checkpoint name :: rest) ++ [last] := by
      rw [split]
      simp
    obtain ⟨passed, _⟩ := List.append_inj' regrouped rfl
    obtain ⟨first, tables, reached, kept⟩ := followed.recorded before name rest passed
    refine ⟨first, tables, reached, ?_⟩
    cases operation with
    | checkpoint other =>
      have different : other ≠ name := by
        rintro rfl
        rw [marks.1] at kept
        cases kept
      rw [marks.2, Dictionary.get_set, if_neg different]
      exact kept
    | createTable | adoptTable | auxiliary | addColumn | contract | relinquishTable | dataChange =>
      exact (congrArg (Dictionary.get · name) marks).trans kept

/-- One operation of the route keeps the invariant. -/
theorem Followed.step {earlier : List Operation} (followed : Followed grammar draft earlier state)
    (compiled : compileOperation grammar draft state operation = .ok next) :
    Followed grammar draft (earlier ++ [operation]) next := by
  obtain ⟨settledOps, base, waiting, settled, waits, rfl⟩ := followed.read
  have step (replayed : replayOperation grammar draft.target.backend state.tables operation =
        .ok next.tables)
      (marks : Marks grammar draft state operation next)
      (read : next.emission.backend = draft.target.backend ∧
        ∃ settled base rest, Settled grammar draft settled base next.emission.entries ∧
          Waiting grammar draft.target.backend base next.emission.pending rest next.tables ∧
          settled ++ rest = settledOps ++ waiting ++ [operation]) :
      Followed grammar draft (settledOps ++ waiting ++ [operation]) next :=
    { backend := read.1
      keyed := followed.keyed.replayOperation replayed
      replayed := by rw [replay_append _ followed.replayed, replay_singleton, replayed]
      read := read.2
      recorded := followed.recorded_append marks }
  by_cases grouped : ∃ name change, operation = .contract name change
  · obtain ⟨name, change, rfl⟩ := grouped
    obtain ⟨before, managed, compiled⟩ := bind_eq_ok.mp compiled
    obtain ⟨after, changed, compiled⟩ := bind_eq_ok.mp compiled
    obtain ⟨emission, contracted, compiled⟩ := bind_eq_ok.mp compiled
    cases compiled
    have replayed : replayOperation grammar draft.target.backend state.tables
        (.contract name change) = .ok (Dictionary.set state.tables name after) :=
      bind_eq_ok.mpr ⟨before, managed, bind_eq_ok.mpr ⟨after, changed, rfl⟩⟩
    exact step replayed rfl (contract_waits followed.backend followed.keyed settled waits managed
      replayed contracted)
  · push_neg at grouped
    obtain ⟨emits, replayed, marks⟩ :=
      compileOperation_emits followed.backend followed.keyed grouped compiled
    obtain ⟨taken, flushed, own, flushes, adds, emitted, read⟩ := emits
    apply step replayed marks
    refine ⟨adds.backend.trans followed.backend, settledOps ++ waiting ++ [operation], next.tables,
      [], ?_, ?_, List.append_nil _⟩
    · rw [← own, adds.entries, ← List.append_assoc]
      apply (settled.flush waits flushes).step emitted read
      rw [own, replay_singleton]
      exact replayed
    · rw [adds.pending]
      exact .nothing

/-- Every accepted route keeps the invariant to its end. -/
theorem followed_of_compileRoute {route : Compilation}
    (compiled : compileRoute grammar draft = .ok route) :
    Followed grammar draft draft.operations route := by
  obtain ⟨sqlBytes, _, compiled⟩ := bind_eq_ok.mp compiled
  obtain ⟨_, _, compiled⟩ := bind_eq_ok.mp compiled
  exact foldlM_invariant
    (fun _ _ _ _ followed compiled => followed.step compiled)
    (followed_initial grammar draft sqlBytes) compiled

end Route

/-- A digest is taken at the first checkpoint of its name. -/
theorem digestAt_append {point : Text} {before : List Operation} {reached : Tables}
    (after : List Operation) (first : Operation.checkpoint point ∉ before)
    (replayed : replay grammar backend tables before = .ok reached) :
    digestAt grammar backend point tables (before ++ .checkpoint point :: after) =
      .ok (stateDigest grammar backend reached) := by
  induction before generalizing tables with
  | nil =>
    cases replayed
    exact if_pos rfl
  | cons operation rest ih =>
    rw [replay, List.foldlM_cons] at replayed
    obtain ⟨next, stepped, replayed⟩ := bind_eq_ok.mp replayed
    have other : operation ≠ .checkpoint point := by
      rintro rfl
      exact first List.mem_cons_self
    rw [List.cons_append, digestAt, if_neg other, stepped]
    exact ih (fun later => first (List.mem_cons_of_mem _ later)) replayed

/-- The entries of an accepted draft are those of steps that its operations fall into. -/
theorem steps_of_compiled {draft : Draft} {package : Package}
    (compiled : compileV1 grammar draft = .ok package) :
    ∃ steps tables,
      steps.flatMap Step.operations = draft.operations ∧
      steps.flatMap Step.entries = package.entries ∧
      Reading grammar draft.target.backend draft.before.byName steps tables ∧
      replay grammar draft.target.backend draft.before.byName draft.operations = .ok tables ∧
      ∀ name, Dictionary.get tables name = Dictionary.get draft.target.byName name := by
  obtain ⟨route, routed, compiled⟩ := bind_eq_ok.mp compiled
  have followed := followed_of_compileRoute routed
  obtain ⟨same, compiled⟩ := guarded_eq_ok.mp compiled
  obtain ⟨emission, flushed, compiled⟩ := bind_eq_ok.mp compiled
  cases compiled
  obtain ⟨operations, base, waiting, settled, waits, route_eq⟩ := followed.read
  obtain ⟨entries, flushes, adds⟩ := flush_adds flushed
  rw [followed.backend] at flushes
  obtain ⟨steps, reading, ops, emitted⟩ := settled.flush waits flushes
  refine ⟨steps, route.tables, ops.trans route_eq, emitted.trans adds.entries.symm, reading,
    followed.replayed, ?_⟩
  rw [Bool.not_eq_true, Bool.not_eq_false'] at same
  exact Dictionary.same_iff.mp same

/-- The entries of an accepted draft, with its adoptions and relinquishments at their places,
are read from the recorded state before to the target state. Each contraction finds its table
as recorded, every step reaches the tables that its operations reach one by one, and the
digest at each checkpoint is the one that replaying the draft computes. -/
theorem compiled_entries_read_to_target {draft : Draft} {package : Package}
    (compiled : compileV1 grammar draft = .ok package) :
    (∃ steps tables,
      steps.flatMap Step.operations = draft.operations ∧
      steps.flatMap Step.entries = package.entries ∧
      Reading grammar draft.target.backend draft.before.byName steps tables ∧
      replay grammar draft.target.backend draft.before.byName draft.operations = .ok tables ∧
      ∀ name, Dictionary.get tables name = Dictionary.get draft.target.byName name) ∧
    ∃ route, compileRoute grammar draft = .ok route ∧
      ∀ before name after, draft.operations = before ++ .checkpoint name :: after →
        ∃ tables, replay grammar draft.target.backend draft.before.byName before = .ok tables ∧
          Dictionary.get route.checkpoints name =
            some (stateDigest grammar draft.target.backend tables) ∧
          contractDigest grammar draft name =
            .ok (stateDigest grammar draft.target.backend tables) := by
  refine ⟨steps_of_compiled compiled, ?_⟩
  obtain ⟨route, routed, _⟩ := bind_eq_ok.mp compiled
  refine ⟨route, routed, ?_⟩
  intro before name after split
  obtain ⟨first, tables, replayed, recorded⟩ :=
    (followed_of_compileRoute routed).recorded before name after split
  refine ⟨tables, replayed, recorded, ?_⟩
  rw [contractDigest, split]
  exact digestAt_append after first replayed

end Replay

/-! A table that loses one column and requires the other, and one that is relinquished. -/

namespace Notes

/-- ASCII rules, no further claims, and a digest that shows the construction of the tables. -/
def asciiGrammar : Grammar where
  unicode := {
    isAlnum := Char.isAlphanum
    casefold := asciiLower
    upper := List.map Char.toUpper }
  mariadbDefaultParts := fun definition => .ok (definition, none)
  boundedCheckExpression := fun _ _ => .error (.package "unsupported" [])
  tableClaims := []
  columnClaims := []
  digest := fun state => String.ofList (state.tables.flatMap TableState.sql)

def column (name definition : String) (nullable : Bool) : ColumnState where
  name := name.toList
  definition := definition.toList
  nullable := nullable
  queryType := none
  storage := "TEXT".toList

def table (sql : String) (columns : List ColumnState) : TableState where
  name := "notes".toList
  sql := sql.toList
  indexes := []
  columns := columns
  quotedName := "\"notes\"".toList

def wide : TableState :=
  table "CREATE TABLE \"notes\" (\"title\" TEXT, \"old\" TEXT)"
    [column "title" "\"title\" TEXT" true, column "old" "\"old\" TEXT" true]

def narrow : TableState :=
  table "CREATE TABLE \"notes\" (\"title\" TEXT NOT NULL)"
    [column "title" "\"title\" TEXT NOT NULL" false]

/-- Require one column and drop the other, after a checkpoint. -/
def draft : Draft where
  revision := "2".toList
  predecessor := some "1"
  before := { backend := .sqlite, tables := [wide] }
  target := { backend := .sqlite, tables := [narrow] }
  operations := [.checkpoint "wide".toList,
    .contract "notes".toList (.requireNotNull "title".toList),
    .contract "notes".toList (.dropColumn "old".toList)]
  unresolved := []

def package : Package where
  version := 2
  draft := draft
  entries := [Entry.ofContraction none
    { Contraction.between wide narrow with
      required := ["title".toList], dropped := ["old".toList] }]

/-- Stop managing the table. -/
def relinquishing : Draft where
  revision := "2".toList
  predecessor := some "1"
  before := { backend := .sqlite, tables := [narrow] }
  target := { backend := .sqlite, tables := [] }
  operations := [.relinquishTable "notes".toList]
  unresolved := []

theorem compiled : compileV1 asciiGrammar draft = .ok package := by
  decide +kernel

/-- The two changes are read as one contraction, and the tables are the narrow ones. -/
theorem package_reads_to_target :
    compileV1 asciiGrammar draft = .ok package ∧
      ∃ steps tables, steps.flatMap Step.operations = draft.operations ∧
        steps.flatMap Step.entries = package.entries ∧
        Reading asciiGrammar .sqlite draft.before.byName steps tables ∧
        Dictionary.get tables "notes".toList = some narrow := by
  obtain ⟨⟨steps, tables, operations, entries, reading, _, reached⟩, _⟩ :=
    compiled_entries_read_to_target compiled
  refine ⟨compiled, steps, tables, operations, entries, reading, ?_⟩
  rw [reached]
  decide

/-- A relinquished table leaves the recorded state without any entry. -/
theorem relinquishment_has_no_entry :
    compileV1 asciiGrammar relinquishing =
        .ok { version := 2, draft := relinquishing, entries := [] } ∧
      Dictionary.get relinquishing.before.byName "notes".toList = some narrow ∧
      Dictionary.get relinquishing.target.byName "notes".toList = none := by
  decide +kernel

end Notes

end Snekql.Recorded
