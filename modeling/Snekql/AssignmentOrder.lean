import Mathlib.Algebra.Order.BigOperators.Group.List
import Mathlib.Algebra.Order.Ring.Nat
import Snekql.Assignments
import Snekql.ExpressionMeaning
import Snekql.WriteCompile

/-!
# The order of the assignments of an update

SQLite evaluates the assignments of an update at once on the old row; MariaDB evaluates them
one after another on the row that the earlier ones left. The compiler refuses an expression
that reads a column which another assignment object sets.

The same object may be listed twice. If its expression reads its own column, the second
evaluation in order sees the result of the first, and the backends give different rows. This
is the only way in which they can differ.
-/

namespace Snekql.Query

open Snekql.Outcomes Snekql.Assignments Snekql.Splicing

variable {Value Cell : Type}

/-! ## Assignments on rows -/

/-- The cell that an assignment gives its column, before it is stored. -/
def AssignedValue.evaluate (meaning : Meaning Value Cell) (column : ColumnRef)
    (row : ColumnRef → Cell) : AssignedValue Value → Cell
  | .literal value => meaning.encoded column value
  | .expression computed => computed.evaluate meaning row
  -- The row that is being inserted exists in a conflict update only.
  | .inserted => row column
  | .currentTimestamp => meaning.now column

/-- An assignment as a change of one column of a row. -/
def Assignment.write (meaning : Meaning Value Cell) (assignment : Assignment Value) :
    Write ColumnRef Cell where
  key := assignment.column
  value row := meaning.stored assignment.column
    (assignment.value.evaluate meaning assignment.column row)

/-- SQLite: each assignment reads the old row. -/
def assignAtOnce (meaning : Meaning Value Cell) (assignments : List (Assignment Value))
    (row : ColumnRef → Cell) : ColumnRef → Cell :=
  atOnce (assignments.map (Assignment.write meaning)) row

/-- MariaDB: each assignment reads the row that the earlier ones left. -/
def assignInOrder (meaning : Meaning Value Cell) (assignments : List (Assignment Value))
    (row : ColumnRef → Cell) : ColumnRef → Cell :=
  inOrder (assignments.map (Assignment.write meaning)) row

/-- The expression computes its column from the column itself. Copying the column is no
computation. -/
def Assignment.rereads (assignment : Assignment Value) : Bool :=
  match assignment.value with
  | .expression (.column _ _) => false
  | .expression expression => expression.referencedColumns.contains assignment.column
  | _ => false

/-- No assignment object that computes its column from the column itself is listed twice. -/
def ListedOnce (assignments : List (Assignment Value)) : Prop :=
  assignments.Pairwise fun earlier later => earlier.ident = later.ident → later.rereads = false

/-- The number of an assignment stands for one object. -/
def SameObjects (assignments : List (Assignment Value)) : Prop :=
  ∀ one ∈ assignments, ∀ other ∈ assignments, one.ident = other.ident → one = other

/-- The expressions of the assignments were built. -/
def Assignment.Built (assignment : Assignment Value) : Prop :=
  ∀ expression, assignment.value = .expression expression → expression.Built

/-! ## What compilation checks -/

theorem ensureEach_eq_ok {α : Type} {check : α → Except QueryError Unit} {elements : List α} :
    ensureEach check elements = .ok () ↔ ∀ element ∈ elements, check element = .ok () := by
  induction elements with
  | nil => simp [ensureEach]
  | cons first rest ih =>
    rw [ensureEach, bind_eq_ok, List.forall_mem_cons, ← ih]
    exact ⟨fun ⟨_, checked, others⟩ => ⟨checked, others⟩, fun ⟨checked, others⟩ =>
      ⟨(), checked, others⟩⟩

theorem exists_of_compileEach {α β : Type} {compile : α → Except QueryError β}
    {elements : List α} {results : List β} (compiled : compileEach compile elements = .ok results)
    {element : α} (member : element ∈ elements) : ∃ result, compile element = .ok result := by
  induction elements generalizing results with
  | nil => cases member
  | cons first rest ih =>
    obtain ⟨head, headCompiled, compiled⟩ := bind_eq_ok.mp compiled
    obtain ⟨tail, tailCompiled, _⟩ := bind_eq_ok.mp compiled
    obtain rfl | member := List.mem_cons.mp member
    · exact ⟨head, headCompiled⟩
    · exact ih tailCompiled member

/-- A column that an expression reads is set by the same object or not at all. -/
theorem same_object_of_checked {assignments : List (Assignment Value)}
    (checked : ensureExpressionAssignmentDependencies assignments = .ok ())
    {setter reader : Assignment Value} (setterListed : setter ∈ assignments)
    (readerListed : reader ∈ assignments) {expression : ValueExpression Value}
    (reads : reader.value = .expression expression)
    (read : setter.column ∈ expression.referencedColumns) : setter.ident = reader.ident := by
  have passed := ensureEach_eq_ok.mp checked reader readerListed
  simp only [reads] at passed
  split at passed
  · cases passed
  · rename_i unread
    simp only [List.any_eq_true, not_exists, not_and, Bool.and_eq_true, beq_iff_eq,
      bne_iff_ne, not_not] at unread
    exact unread setter.column read setter setterListed rfl

section Compiled

variable {heap : Heap Value} {casefold : String → String} {dialect : QueryDialect}
  {encoders : Encoders Value} {mark : Option Value → Text} {state : UpdateState Value}
  {fragment : Fragment (Option Value)}

section

variable (compiled : compileUpdate heap casefold dialect encoders mark state = .ok fragment)
include compiled

/-- An update that compiles has passed the check of its dependencies, and each of its
assignments compiles. -/
theorem checked_of_compileUpdate :
    ensureExpressionAssignmentDependencies state.assignments = .ok () ∧
      ∃ parts, compileEach (compileAssignment heap casefold dialect encoders mark state.model)
        state.assignments = .ok parts := by
  unfold compileUpdate at compiled
  dsimp only at compiled
  split at compiled
  · cases compiled
  split at compiled
  · cases compiled
  obtain ⟨_, checked, compiled⟩ := bind_eq_ok.mp compiled
  obtain ⟨parts, compiledParts, _⟩ := bind_eq_ok.mp compiled
  exact ⟨checked, parts, compiledParts⟩

/-- No assignment of an update that compiles takes the inserted value. -/
theorem not_inserted_of_compileUpdate {assignment : Assignment Value}
    (listed : assignment ∈ state.assignments) : assignment.value ≠ .inserted := by
  obtain ⟨_, parts, compiledParts⟩ := checked_of_compileUpdate compiled
  obtain ⟨part, compiledPart⟩ := exists_of_compileEach compiledParts listed
  intro inserted
  unfold compileAssignment at compiledPart
  obtain ⟨_, _, compiledPart⟩ := bind_eq_ok.mp compiledPart
  simp only [inserted] at compiledPart
  cases compiledPart

/-! ## Once listed, the order does not matter -/

/-- An assignment disturbs a later one only if it is the same object and computes its column
from the column itself. -/
theorem undisturbed_of_listed_once (objects : SameObjects state.assignments)
    (meaning : Meaning Value Cell) {earlier later : Assignment Value}
    (earlierListed : earlier ∈ state.assignments) (laterListed : later ∈ state.assignments)
    (built : later.Built) (once : earlier.ident = later.ident → later.rereads = false) :
    Undisturbed (earlier.write meaning) (later.write meaning) := by
  cases assigned : later.value with
  | literal | currentTimestamp =>
    exact Undisturbed.of_ignores (fun row cell => by
      simp only [Assignment.write, assigned, AssignedValue.evaluate])
  | inserted => exact absurd assigned (not_inserted_of_compileUpdate compiled laterListed)
  | expression computed =>
    by_cases read : earlier.column ∈ computed.referencedColumns
    · -- The setter is the reader itself, and what it computes is a copy of its own column.
      have sameObject : earlier.ident = later.ident :=
        same_object_of_checked (checked_of_compileUpdate compiled).1 earlierListed laterListed
          assigned read
      obtain rfl := objects earlier earlierListed later laterListed sameObject
      have copies := once rfl
      cases computed with
      | column column facts =>
        obtain rfl := List.mem_singleton.mp read
        intro row
        simp only [Assignment.write, assigned, AssignedValue.evaluate, ValueExpression.evaluate,
          Write.perform, Function.update_self, meaning.stored_stored]
      | case | binary | function =>
        simp only [Assignment.rereads, assigned, List.contains_eq_mem,
          decide_eq_false_iff_not] at copies
        exact absurd read copies
    · refine Undisturbed.of_ignores (fun row cell => ?_)
      simp only [Assignment.write, assigned, AssignedValue.evaluate]
      rw [computed.evaluate_congr meaning (built computed assigned)]
      intro column member
      refine Function.update_of_ne ?_ _ _
      rintro rfl
      exact read member

/-- If no object that computes its column from the column itself is listed twice, both
backends give the same row. -/
theorem assignInOrder_eq_assignAtOnce (objects : SameObjects state.assignments)
    (built : ∀ assignment ∈ state.assignments, assignment.Built)
    (once : ListedOnce state.assignments) (meaning : Meaning Value Cell) (row : ColumnRef → Cell) :
    assignInOrder meaning state.assignments row = assignAtOnce meaning state.assignments row := by
  apply inOrder_eq_atOnce
  rw [List.pairwise_map]
  exact once.imp_of_mem (fun earlierListed laterListed onceListed =>
    undisturbed_of_listed_once compiled objects meaning earlierListed laterListed
      (built _ laterListed) onceListed)

end

/-- An update leaves the columns alone that it does not set. What it sets depends only on the
columns that its expressions reference. -/
theorem updates_read_their_references
    (compiled : compileUpdate heap casefold dialect encoders mark state = .ok fragment)
    (built : ∀ assignment ∈ state.assignments, assignment.Built)
    (meaning : Meaning Value Cell) {row other : ColumnRef → Cell}
    (agree : ∀ assignment ∈ state.assignments, ∀ expression,
      assignment.value = .expression expression → AgreeOn expression.referencedColumns row other)
    (column : ColumnRef) :
    ((∀ assignment ∈ state.assignments, assignment.column ≠ column) →
      assignAtOnce meaning state.assignments row column = row column ∧
        assignInOrder meaning state.assignments row column = row column) ∧
    ((∃ assignment ∈ state.assignments, assignment.column = column) →
      assignAtOnce meaning state.assignments row column =
        assignAtOnce meaning state.assignments other column) := by
  constructor
  · intro others
    have written : ∀ write ∈ state.assignments.map (Assignment.write meaning), write.key ≠ column :=
      List.forall_mem_map.mpr others
    exact ⟨foldl_perform_of_ne (fun _ => row) written row, foldl_perform_of_ne id written row⟩
  · rintro ⟨assignment, listed, rfl⟩
    have assigned : ∃ write ∈ state.assignments.map (Assignment.write meaning),
        write.key = assignment.column := ⟨_, List.mem_map_of_mem listed, rfl⟩
    obtain ⟨earlier, last, later, split, same, others⟩ := exists_last assigned
    obtain ⟨assignment, listed, rfl⟩ := List.mem_map.mp (split ▸ List.mem_append_cons_self)
    rw [assignAtOnce, assignAtOnce, split, ← same, atOnce_of_last others, atOnce_of_last others]
    simp only [Assignment.write]
    cases value : assignment.value with
    | literal | currentTimestamp => rfl
    | inserted => exact absurd value (not_inserted_of_compileUpdate compiled listed)
    | expression computed =>
      exact congrArg (meaning.stored _)
        (computed.evaluate_congr meaning (built _ listed _ value) (agree _ listed _ value))

end Compiled

/-! ## Listed twice, it does -/

mutual

/-- The expression has no `CASE`. -/
def ValueExpression.caseFree : ValueExpression Value → Bool
  | .column _ _ => true
  | .case _ _ _ _ _ => false
  | .binary _ left right _ => left.caseFree && right.caseFree
  | .function _ argument _ => argument.caseFree

def ValueOperand.caseFree : ValueOperand Value → Bool
  | .expression expression => expression.caseFree
  | .literal _ => true

end

/-- No assignment has a `CASE`. -/
def Assignment.caseFree (assignment : Assignment Value) : Bool :=
  match assignment.value with
  | .expression expression => expression.caseFree
  | _ => true

/-- A meaning that counts: every operation adds one to the sum of its operands. -/
def counting : Meaning Value Nat where
  bound _ := 0
  binary _ left right := left + right + 1
  function _ argument := argument + 1
  atom _ _ := none
  foreign _ _ := 0
  nested _ _ := none
  encoded _ _ := 0
  now _ := 0
  stored _ cell := cell
  stored_stored _ _ := rfl

mutual

/-- Under the counting meaning an expression is its value on zeros plus what it reads. -/
theorem ValueExpression.evaluate_counting (row : ColumnRef → Nat) :
    (expression : ValueExpression Value) → expression.caseFree = true →
    expression.evaluate counting row =
      expression.evaluate counting (fun _ => 0) + (expression.referencedColumns.map row).sum
  | .column column _, _ => by
    simp [ValueExpression.evaluate, ValueExpression.referencedColumns]
  | .binary operator left right _, free => by
    obtain ⟨leftFree, rightFree⟩ := Bool.and_eq_true_iff.mp free
    have leftValue := left.evaluate_counting row leftFree
    have rightValue := right.evaluate_counting row rightFree
    simp only [ValueExpression.evaluate, ValueExpression.referencedColumns, counting,
      List.map_append, List.sum_append] at leftValue rightValue ⊢
    omega
  | .function function argument _, free => by
    have value := argument.evaluate_counting row free
    simp only [ValueExpression.evaluate, ValueExpression.referencedColumns, counting] at value ⊢
    omega

theorem ValueOperand.evaluate_counting (row : ColumnRef → Nat) :
    (operand : ValueOperand Value) → operand.caseFree = true →
    operand.evaluate counting row =
      operand.evaluate counting (fun _ => 0) + (operand.referencedColumns.map row).sum
  | .expression expression, free => expression.evaluate_counting row free
  | .literal _, _ => rfl

end

/-- A computation from its own column reads the column. -/
theorem mem_referencedColumns_of_rereads {assignment : Assignment Value}
    (rereads : assignment.rereads = true) :
    ∃ expression, assignment.value = .expression expression ∧
      assignment.column ∈ expression.referencedColumns := by
  unfold Assignment.rereads at rereads
  split at rereads
  · cases rereads
  · rename_i computed _ assigned
    exact ⟨computed, assigned, List.contains_iff_mem.mp rereads⟩
  · cases rereads

/-- A computation without `CASE` from its own column counts itself. -/
theorem one_le_of_rereads {assignment : Assignment Value} (rereads : assignment.rereads = true)
    (free : assignment.caseFree = true) (row : ColumnRef → Nat) :
    1 ≤ (assignment.write counting).value row := by
  unfold Assignment.rereads at rereads
  unfold Assignment.caseFree at free
  split at rereads
  · cases rereads
  · rename_i computed notCopy assigned
    cases computed with
    | column column facts => exact absurd rfl (notCopy column facts)
    | case => simp [assigned, ValueExpression.caseFree] at free
    | binary | function =>
      simp only [Assignment.write, assigned, AssignedValue.evaluate, ValueExpression.evaluate,
        counting]
      omega
  · cases rereads

/-- An assignment that computes its column from the column itself grows with the column. -/
theorem lt_value_of_rereads {assignment : Assignment Value} (rereads : assignment.rereads = true)
    (free : assignment.caseFree = true) {row : ColumnRef → Nat}
    (positive : 1 ≤ row assignment.column) :
    (assignment.write counting).value (fun _ => 0) < (assignment.write counting).value row := by
  obtain ⟨computed, assigned, reads⟩ := mem_referencedColumns_of_rereads rereads
  have read : row assignment.column ≤ (computed.referencedColumns.map row).sum :=
    List.le_sum_of_mem (List.mem_map_of_mem reads)
  simp only [Assignment.caseFree, assigned] at free
  have value := computed.evaluate_counting row free
  simp only [Assignment.write, assigned, AssignedValue.evaluate]
  simp only [counting] at value ⊢
  omega

/-- Two listed assignments that are not in a relation, with the list around the second. -/
theorem exists_of_not_pairwise {α : Type} {related : α → α → Prop} {elements : List α}
    (unrelated : ¬ elements.Pairwise related) :
    ∃ before second after, elements = before ++ second :: after ∧
      ∃ first ∈ before, ¬ related first second := by
  rw [List.pairwise_iff_getElem] at unrelated
  push Not at unrelated
  obtain ⟨i, j, iBound, jBound, less, unrelated⟩ := unrelated
  refine ⟨elements.take j, elements[j], elements.drop (j + 1), ?_, elements[i], ?_, unrelated⟩
  · rw [List.cons_getElem_drop_succ, List.take_append_drop]
  · rw [List.mem_take_iff_getElem]
    exact ⟨i, by omega, rfl⟩

/-- An object without `CASE` that computes its column from the column itself, listed twice,
gives different cells under the counting meaning. -/
theorem differ_of_listed_twice {assignments : List (Assignment Value)}
    (checked : ensureExpressionAssignmentDependencies assignments = .ok ())
    (objects : SameObjects assignments)
    (free : ∀ assignment ∈ assignments, assignment.caseFree = true)
    (twice : ¬ ListedOnce assignments) :
    assignInOrder counting assignments (fun _ => 0) ≠
      assignAtOnce counting assignments (fun _ => 0) := by
  obtain ⟨before, second, after, listed, first, firstBefore, unrelated⟩ :=
    exists_of_not_pairwise twice
  simp only [Classical.not_imp, Bool.not_eq_false] at unrelated
  obtain ⟨sameIdent, rereads⟩ := unrelated
  have secondListed : second ∈ assignments :=
    listed ▸ List.mem_append_right _ List.mem_cons_self
  have firstListed : first ∈ assignments := listed ▸ List.mem_append_left _ firstBefore
  obtain rfl := objects first firstListed second secondListed sameIdent
  -- The object is the only one that sets its column.
  have onlySetter : ∀ write ∈ assignments.map (Assignment.write counting),
      write.key = first.column → write = first.write counting := by
    intro write member sameColumn
    obtain ⟨setter, setterListed, rfl⟩ := List.mem_map.mp member
    obtain ⟨expression, assigned, read⟩ := mem_referencedColumns_of_rereads rereads
    have read : setter.column ∈ expression.referencedColumns := by
      rw [show setter.column = first.column from sameColumn]
      exact read
    have sameObject := same_object_of_checked checked setterListed firstListed assigned read
    rw [objects setter setterListed first firstListed sameObject]
  have assigned : ∃ write ∈ (first :: after).map (Assignment.write counting),
      write.key = first.column := ⟨first.write counting, List.mem_cons_self, rfl⟩
  obtain ⟨between, last, later, split, lastColumn, others⟩ := exists_last assigned
  have writes : assignments.map (Assignment.write counting) =
      (before.map (Assignment.write counting) ++ between) ++ last :: later := by
    rw [listed, List.map_append, split, List.append_assoc]
  have lastIs : last = first.write counting :=
    onlySetter last (writes ▸ List.mem_append_right _ List.mem_cons_self) lastColumn
  intro same
  have sameCell := congrFun same last.key
  rw [assignInOrder, assignAtOnce, writes, inOrder_of_last others, atOnce_of_last others,
    lastIs] at sameCell
  refine absurd sameCell (Nat.ne_of_gt (lt_value_of_rereads rereads (free first firstListed) ?_))
  apply inOrder_ensures (fun cell => 1 ≤ cell)
  · exact ⟨first.write counting,
      List.mem_append_left _ (List.mem_map_of_mem firstBefore), rfl⟩
  · intro write member sameColumn row
    rw [onlySetter write (writes ▸ List.mem_append_left _ member) sameColumn]
    exact one_le_of_rereads rereads (free first firstListed) row

section Compiled

variable {heap : Heap Value} {casefold : String → String} {dialect : QueryDialect}
  {encoders : Encoders Value} {mark : Option Value → Text} {state : UpdateState Value}
  {fragment : Fragment (Option Value)}

/-- An update that compiles gives the same row on both backends, if no assignment object that
computes its column from the column itself is listed twice. Without `CASE` the condition is
also needed: some operators tell the two evaluations of a repeated object apart. -/
theorem backends_update_alike
    (compiled : compileUpdate heap casefold dialect encoders mark state = .ok fragment)
    (objects : SameObjects state.assignments)
    (built : ∀ assignment ∈ state.assignments, assignment.Built) :
    (ListedOnce state.assignments →
      ∀ (Cell : Type) (meaning : Meaning Value Cell) (row : ColumnRef → Cell),
        assignInOrder meaning state.assignments row =
          assignAtOnce meaning state.assignments row) ∧
    ((∀ assignment ∈ state.assignments, assignment.caseFree = true) →
      (∀ (Cell : Type) (meaning : Meaning Value Cell) (row : ColumnRef → Cell),
        assignInOrder meaning state.assignments row =
          assignAtOnce meaning state.assignments row) →
      ListedOnce state.assignments) := by
  constructor
  · intro once Cell meaning row
    exact assignInOrder_eq_assignAtOnce compiled objects built once meaning row
  · intro free alike
    by_contra twice
    exact differ_of_listed_twice (checked_of_compileUpdate compiled).1 objects free twice
      (alike Nat counting _)

end Compiled

/-! A table of counters. The meaning is that of whole numbers with `NULL`. -/

namespace Counters

def integer (name : String) : Column where
  name := name
  nullable := true
  storageType := "Integer"
  logical := [.int]
  native := some .int
  datetimePrecision := wholeSeconds

def counters : Table where
  ident := 0
  name := "counters"
  backend := .mariadb
  columns := [integer "hits", integer "streak"]

def hits : ColumnRef := .attr (.table counters) (integer "hits")

def streak : ColumnRef := .attr (.table counters) (integer "streak")

def facts : ValueFacts where
  nullable := true
  valueType := .int
  owner := .table counters

def integers : Meaning Int (Option Int) where
  bound := id
  binary
    | .add, left, right => do return (← left) + (← right)
    | .sub, left, right => do return (← left) - (← right)
    | .mul, left, right => do return (← left) * (← right)
    | .coalesce, left, right => left <|> right
  function _ argument := argument
  atom
    | .comparison _ .gt value, [cell] => do return decide ((← cell) > (← value))
    | _, _ => none
  foreign _ _ := none
  nested _ _ := none
  encoded _ value := value
  now _ := none
  stored _ cell := cell
  stored_stored _ _ := rfl

/-- `hits + 1`, assigned to `hits`. -/
def increment : Assignment Int where
  ident := 0
  column := hits
  value := .expression (.binary .add (.column hits facts) (.literal (some 1)) facts)

/-- `streak + 1` if `streak` is positive and else `1`, assigned to `streak`. -/
def prolong : Assignment Int where
  ident := 1
  column := streak
  value := .expression (.case (.comparison (.column streak) .gt (some 0)) [streak]
    (.expression (.binary .add (.column streak facts) (.literal (some 1)) facts))
    (.literal (some 1)) facts)

def update (assignments : List (Assignment Int)) : UpdateState Int where
  model := counters
  assignments := assignments
  explicitAll := true

def encoders : Encoders Int where
  comparison := fun _ value => .ok value
  write := fun _ value => .ok value

def compiled (dialect : QueryDialect) (assignments : List (Assignment Int)) :
    Except QueryError (Fragment (Option Int)) :=
  compileUpdate { states := [], definitions := [] } id dialect encoders
    (fun _ => dialect.placeholder) (update assignments)

end Counters

/-- An increment that is listed twice compiles for both backends and counts once on SQLite,
twice on MariaDB. -/
theorem increment_listed_twice_counts_twice :
    (Counters.compiled Sqlite.queryDialect [Counters.increment, Counters.increment]).isOk = true ∧
    (Counters.compiled Mariadb.queryDialect [Counters.increment, Counters.increment]).isOk =
      true ∧
    assignAtOnce Counters.integers [Counters.increment, Counters.increment]
      (fun _ => some 1) Counters.hits = some 2 ∧
    assignInOrder Counters.integers [Counters.increment, Counters.increment]
      (fun _ => some 1) Counters.hits = some 3 := by
  decide

/-- An increment and a `CASE` on another column, each listed once. -/
theorem backends_update_counters_alike :
    assignInOrder Counters.integers [Counters.increment, Counters.prolong] (fun _ => some 4) =
      assignAtOnce Counters.integers [Counters.increment, Counters.prolong] (fun _ => some 4) := by
  have returned : (Counters.compiled Mariadb.queryDialect
      [Counters.increment, Counters.prolong]).isOk = true := by
    decide
  cases compiled : Counters.compiled Mariadb.queryDialect
      [Counters.increment, Counters.prolong] with
  | error failure =>
    rw [compiled] at returned
    cases returned
  | ok fragment =>
    refine (backends_update_alike compiled ?_ ?_).1 ?_ _ Counters.integers _
    · simp [SameObjects, Counters.update, Counters.increment, Counters.prolong]
    · intro assignment listed expression assigned
      simp only [Counters.update, List.mem_cons, List.not_mem_nil, or_false] at listed
      obtain rfl | rfl := listed
      · cases assigned
        exact ⟨trivial, trivial⟩
      · cases assigned
        exact ⟨rfl, trivial, ⟨trivial, trivial⟩, trivial⟩
    · simp [ListedOnce, Counters.update, Counters.increment, Counters.prolong]

/-- An increment does not depend on another column. -/
theorem increment_reads_its_column :
    assignAtOnce Counters.integers [Counters.increment] (fun _ => some 1) Counters.hits =
      assignAtOnce Counters.integers [Counters.increment]
        (Function.update (fun _ => some 1) Counters.streak none) Counters.hits := by
  obtain ⟨_, compiled⟩ : ∃ fragment,
      Counters.compiled Mariadb.queryDialect [Counters.increment] = .ok fragment := ⟨_, rfl⟩
  refine (updates_read_their_references compiled ?_ Counters.integers ?_ Counters.hits).2
    ⟨_, List.mem_singleton_self _, rfl⟩
  · rintro _ (_ | ⟨_, ⟨⟩⟩) _ ⟨⟩
    exact ⟨trivial, trivial⟩
  · rintro _ (_ | ⟨_, ⟨⟩⟩) _ ⟨⟩
    exact List.forall_mem_singleton.mpr rfl

end Snekql.Query
