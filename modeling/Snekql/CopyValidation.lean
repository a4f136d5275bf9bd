import Snekql.RecordedConcurrency

/-!
# Copied rows of a rebuilt table

A rebuild copies a table and compares the copy with its source before the source is dropped. It
counts the rows, and for every batch of columns it asks whether a row of the source, seen through
its identity and the batch, is missing in the copy. Here the engine's answers to these queries come
from the rows that the two tables hold. Only one inclusion is asked for in each batch. Distinct
identities glue the batches together, and the equal counts turn the inclusion around.
-/

namespace Snekql.RecordedTarget

open Snekql.Splicing (Text joinWith)
open Snekql.Recorded
open Snekql.Programs

/-! ## Tables of SQLite -/

/-- `typeof`. -/
inductive CellType where
  | null
  | integer
  | real
  | text
  | blob
deriving DecidableEq, Repr

/-- A stored value. Reals are a parameter, equal when SQLite compares them as equal. -/
inductive Cell (Real : Type) where
  | null
  | integer (value : Int)
  | real (value : Real)
  | text (value : Text)
  | blob (value : List UInt8)
deriving DecidableEq, Repr

variable {Real : Type}

def Cell.typeof : Cell Real → CellType
  | .null => .null
  | .integer _ => .integer
  | .real _ => .real
  | .text _ => .text
  | .blob _ => .blob

/-- What `EXCEPT` takes for equal under `COLLATE BINARY`: nulls are equal, and numbers are compared
by their numeric value. -/
def Cell.matches [DecidableEq Real] (numeric : Int → Real → Bool) : Cell Real → Cell Real → Bool
  | .null, .null => true
  | .integer left, .integer right => left == right
  | .real left, .real right => left == right
  | .integer left, .real right => numeric left right
  | .real left, .integer right => numeric right left
  | .text left, .text right => left == right
  | .blob left, .blob right => left == right
  | _, _ => false

structure StoredRow (Real : Type) where
  rowid : Int
  values : List (Cell Real)

/-- The names under which a rowid can be read. -/
def rowidNames : List Text := ["_rowid_".toList, "rowid".toList, "oid".toList]

/-- The columns of a table with their place in the primary key, which is 0 outside of it. -/
abbrev Columns := List (Text × Nat)

def primaryKey (columns : Columns) : List Text :=
  (columns.filter (fun column => column.2 != 0)).map Prod.fst

/-- The value that a name stands for. A column hides a name of the rowid. -/
def cellIn (columns : Columns) (withoutRowid : Bool) (row : StoredRow Real) (name : Text) :
    Option (Cell Real) :=
  match ((columns.map Prod.fst).zip row.values).find?
      (fun column => asciiLower column.1 == asciiLower name) with
  | some column => some column.2
  | none =>
    if !withoutRowid && rowidNames.contains (asciiLower name) then some (.integer row.rowid)
    else none

/-- The identity of a row: its rowid, or its primary key. -/
def identityIn (columns : Columns) (withoutRowid : Bool) (row : StoredRow Real) :
    List (Option (Cell Real)) :=
  if withoutRowid then (primaryKey columns).map (cellIn columns withoutRowid row)
  else [some (.integer row.rowid)]

/-- A table whose rows have distinct identities. -/
structure StoredTable (Real : Type) where
  name : Text
  columns : Columns
  withoutRowid : Bool
  rows : List (StoredRow Real)
  identified : (rows.map (identityIn columns withoutRowid)).Nodup

namespace StoredTable

variable (table : StoredTable Real)

def cell (row : StoredRow Real) (name : Text) : Option (Cell Real) :=
  cellIn table.columns table.withoutRowid row name

def identity (row : StoredRow Real) : List (Option (Cell Real)) :=
  identityIn table.columns table.withoutRowid row

def columnNames : List Text := table.columns.map Prod.fst

/-- A query can read the name. -/
def Reads (name : Text) : Prop :=
  name ∈ table.columnNames ∨ table.withoutRowid = false ∧ name ∈ rowidNames

end StoredTable

/-- One column of the two projections agrees, in its type and in its value. -/
def sameTyped [DecidableEq Real] (numeric : Int → Real → Bool) :
    Option (Cell Real) → Option (Cell Real) → Bool
  | some left, some right => left.typeof == right.typeof && left.matches numeric right
  | none, none => true
  | _, _ => false

/-- A row of the first projection is none of the second. -/
def hasMismatch [DecidableEq Real] (numeric : Int → Real → Bool)
    (source destination : StoredTable Real) (names : List Text) : Bool :=
  source.rows.any (fun row => !destination.rows.any (fun other =>
    names.all (fun name => sameTyped numeric (source.cell row name) (destination.cell other name))))

/-- `SELECT 1 FROM (SELECT … EXCEPT SELECT …) LIMIT 1`. -/
def exceptQuery (source destination : Text) (names : List Text) : Text :=
  "SELECT 1 FROM (SELECT ".toList ++ typedProjection names ++
    " FROM ".toList ++ quotedName source ++ " EXCEPT SELECT ".toList ++ typedProjection names ++
    " FROM ".toList ++ quotedName destination ++ ") LIMIT 1".toList

/-- The engine answers the queries of the comparison from the rows of the two tables. -/
structure Answers [DecidableEq Real] (numeric : Int → Real → Bool) (engine : Engine)
    (log : List Statement) (source destination : StoredTable Real) : Prop where
  columns : engine.ask log "SELECT name, pk FROM pragma_table_xinfo(?)".toList
      [.text source.name] =
    source.columns.map (fun column => [.text column.1, .integer column.2])
  storage : engine.ask log
      "SELECT wr FROM pragma_table_list WHERE schema='main' AND name=?".toList
      [.text source.name] =
    [[.integer (if source.withoutRowid then 1 else 0)]]
  count : engine.ask log ("SELECT COUNT(*) FROM ".toList ++ quotedName destination.name) [] =
    [[.integer destination.rows.length]]
  mismatch : ∀ names, (∀ name ∈ names, source.Reads name ∧ destination.Reads name) →
    engine.ask log (exceptQuery source.name destination.name names) [] =
    if hasMismatch numeric source destination names then [[.integer 1]] else []

/-- The columns of the source that are not dropped. -/
def retainedColumns (source : StoredTable Real) (dropped : List Text) : List Text :=
  source.columnNames.filter (fun name => !dropped.contains name)

/-- What the planner ensures about a rebuilt table: the copy has the retained columns and the same
storage, and the identity of the rows can be read and is retained. -/
structure Rebuilt (source destination : StoredTable Real) (dropped : List Text) : Prop where
  retained : destination.columnNames = retainedColumns source dropped
  storage : destination.withoutRowid = source.withoutRowid
  rowid : source.withoutRowid = false →
    ∃ name ∈ rowidNames, name ∉ source.columnNames.map asciiLower
  keyed : source.withoutRowid = true → primaryKey source.columns ≠ [] ∧
    primaryKey source.columns ⊆ retainedColumns source dropped ∧
    primaryKey destination.columns = primaryKey source.columns

/-- The tables hold the same map from identities to the values of the retained columns. -/
def SameMapping (source destination : StoredTable Real) (dropped : List Text) : Prop :=
  ∀ identity values,
    (∃ row ∈ source.rows, source.identity row = identity ∧
      (retainedColumns source dropped).map (source.cell row) = values) ↔
    (∃ row ∈ destination.rows, destination.identity row = identity ∧
      (retainedColumns source dropped).map (destination.cell row) = values)

/-! ## The comparison of one batch -/

section Comparison

variable [DecidableEq Real] {numeric : Int → Real → Bool} {source destination : StoredTable Real}

/-- The type separates numbers that are equal as values. -/
theorem sameTyped_iff {left right : Option (Cell Real)} :
    sameTyped numeric left right = true ↔ left = right := by
  cases left with
  | none => cases right <;> simp [sameTyped]
  | some left =>
    cases right with
    | none => simp [sameTyped]
    | some right => cases left <;> cases right <;> simp [sameTyped, Cell.typeof, Cell.matches]

theorem hasMismatch_eq_false {names : List Text} :
    hasMismatch numeric source destination names = false ↔
      ∀ row ∈ source.rows, ∃ other ∈ destination.rows,
        ∀ name ∈ names, source.cell row name = destination.cell other name := by
  simp only [hasMismatch, List.any_eq_false, Bool.not_eq_true', Bool.not_eq_false,
    List.any_eq_true, List.all_eq_true, sameTyped_iff]
  push_neg
  rfl

end Comparison

/-! ## Names of the identity -/

section Identity

variable {source destination : StoredTable Real} {dropped : List Text}

theorem asciiLower_rowidNames {name : Text} (listed : name ∈ rowidNames) :
    asciiLower name = name := by
  have all : ∀ name ∈ rowidNames, asciiLower name = name := by decide
  exact all name listed

/-- A name that no column hides stands for the rowid. -/
theorem cellIn_rowid {columns : Columns} {name : Text} (listed : name ∈ rowidNames)
    (visible : name ∉ (columns.map Prod.fst).map asciiLower) (row : StoredRow Real) :
    cellIn columns false row name = some (.integer row.rowid) := by
  have absent : ((columns.map Prod.fst).zip row.values).find?
      (fun column => asciiLower column.1 == asciiLower name) = none := by
    rw [List.find?_eq_none]
    intro column isColumn same
    rw [beq_iff_eq, asciiLower_rowidNames listed] at same
    exact visible (List.mem_map.mpr ⟨column.1, (List.of_mem_zip isColumn).1, same⟩)
  rw [cellIn, absent]
  simp only [asciiLower_rowidNames listed, Bool.not_false, Bool.true_and,
    List.contains_iff_mem.mpr listed, if_true]

/-- The names through which the comparison reads the identity of rows. -/
structure Identifies (names : List Text) (source destination : StoredTable Real) : Prop where
  readable : ∀ name ∈ names, source.Reads name ∧ destination.Reads name
  source : ∀ row, names.map (source.cell row) = source.identity row
  destination : ∀ row, names.map (destination.cell row) = destination.identity row

theorem identifies_rowid (rebuilt : Rebuilt source destination dropped)
    (storage : source.withoutRowid = false) {name : Text} (listed : name ∈ rowidNames)
    (visible : name ∉ source.columnNames.map asciiLower) :
    Identifies [name] source destination := by
  have copied : destination.withoutRowid = false := rebuilt.storage.trans storage
  have visibleCopy : name ∉ destination.columnNames.map asciiLower := by
    rw [rebuilt.retained]
    intro hidden
    obtain ⟨column, isColumn, same⟩ := List.mem_map.mp hidden
    exact visible (List.mem_map.mpr ⟨column, List.mem_of_mem_filter isColumn, same⟩)
  constructor
  · rw [List.forall_mem_singleton]
    exact ⟨.inr ⟨storage, listed⟩, .inr ⟨copied, listed⟩⟩
  · intro row
    rw [StoredTable.identity, identityIn, storage]
    simp only [Bool.false_eq_true, if_false, List.map_cons, List.map_nil, StoredTable.cell, storage,
      cellIn_rowid listed visible]
  · intro row
    rw [StoredTable.identity, identityIn, copied]
    simp only [Bool.false_eq_true, if_false, List.map_cons, List.map_nil, StoredTable.cell, copied,
      cellIn_rowid listed visibleCopy]

theorem identifies_primaryKey (rebuilt : Rebuilt source destination dropped)
    (storage : source.withoutRowid = true) :
    Identifies (primaryKey source.columns) source destination := by
  obtain ⟨_, kept, same⟩ := rebuilt.keyed storage
  constructor
  · intro name listed
    have inCopy : name ∈ destination.columnNames := rebuilt.retained ▸ kept listed
    exact ⟨.inl (List.mem_of_mem_filter (kept listed)), .inl inCopy⟩
  · intro row
    rw [StoredTable.identity, identityIn, if_pos storage]
    rfl
  · intro row
    rw [StoredTable.identity, identityIn, if_pos (rebuilt.storage.trans storage), same]
    rfl

/-- The metadata of the source as the engine returns it. -/
def columnRows (columns : Columns) : List (Text × Parameter) :=
  columns.map (fun column => (column.1, .integer column.2))

theorem columnRows_names (columns : Columns) :
    (columnRows columns).map Prod.fst = columns.map Prod.fst := by
  rw [columnRows, List.map_map]
  rfl

theorem named_columnRows (columns : Columns) :
    named (columns.map (fun column => [.text column.1, .integer column.2])) =
      .ok (columnRows columns) := by
  induction columns with
  | nil => rfl
  | cons column rest ih =>
    rw [List.map_cons, named, ih]
    rfl

theorem columnRows_key (columns : Columns) :
    ((columnRows columns).filter (fun column =>
      column.2 != .integer 0 && column.2 != .null)).map Prod.fst = primaryKey columns := by
  have same : (fun column : Text × Parameter =>
      column.2 != .integer 0 && column.2 != .null) ∘
        (fun column : Text × Nat => (column.1, Parameter.integer column.2)) =
      fun column => column.2 != 0 := by
    funext column
    rw [Bool.eq_iff_iff]
    simp
  rw [columnRows, List.filter_map, List.map_map, same, primaryKey]
  rfl

/-- The comparison finds names for the identity. -/
theorem rowIdentity_ok (rebuilt : Rebuilt source destination dropped) :
    ∃ names, rowIdentity (columnRows source.columns) (retainedColumns source dropped)
        [[.integer (if source.withoutRowid then 1 else 0)]] = .ok names ∧
      Identifies names source destination := by
  cases storage : source.withoutRowid with
  | false =>
    obtain ⟨name, listed, visible⟩ := rebuilt.rowid storage
    have folded : (columnRows source.columns).map (fun column => asciiLower column.1) =
        source.columnNames.map asciiLower := by
      rw [StoredTable.columnNames, ← columnRows_names, List.map_map]
      rfl
    obtain ⟨found, search⟩ : ∃ found, rowidNames.find? (fun name =>
        !(source.columnNames.map asciiLower).contains name) = some found := by
      rw [← Option.isSome_iff_exists, List.find?_isSome]
      exact ⟨name, listed, by simpa using visible⟩
    refine ⟨[found], ?_, identifies_rowid rebuilt storage (List.mem_of_find?_eq_some search) ?_⟩
    · have choice : ["_rowid_".toList, "rowid".toList, "oid".toList].find? (fun name =>
          !(source.columnNames.map asciiLower).contains name) = some found := search
      rw [rowIdentity, folded]
      simp only [choice]
      rfl
    · simpa using List.find?_some search
  | true =>
    obtain ⟨present, kept, _⟩ := rebuilt.keyed storage
    refine ⟨primaryKey source.columns, ?_, identifies_primaryKey rebuilt storage⟩
    have all : (primaryKey source.columns).all
        (fun name => (retainedColumns source dropped).contains name) = true :=
      List.all_eq_true.mpr (fun name listed => List.contains_iff_mem.mpr (kept listed))
    rw [rowIdentity, columnRows_key]
    simp only [all, List.isEmpty_eq_false_iff.mpr present, Bool.not_true, Bool.or_self,
      Bool.false_eq_true, if_false, if_true]
    rfl

end Identity

/-! ## Batches -/

theorem flatten_toChunks {α : Type} (size : Nat) (elements : List α) :
    (elements.toChunks size).flatten = elements := by
  have collected (rest : List α) (current : Array α) (done : Array (List α)) :
      (List.toChunks.go size rest current done).flatten =
        done.toList.flatten ++ current.toList ++ rest := by
    induction rest generalizing current done with
    | nil => simp [List.toChunks.go]
    | cons first rest ih =>
      rw [List.toChunks.go]
      split
      · rw [ih]
        simp
      · rw [ih]
        simp
  cases elements with
  | nil => cases size <;> rfl
  | cons first rest =>
    cases size with
    | zero => exact List.append_nil _
    | succ size => exact collected rest #[first] #[]

/-- The batches of the comparison. -/
def batchesOf (names : List Text) : List (List Text) :=
  if names.isEmpty then [[]] else names.toChunks 64

/-- There is a batch, and every column is in one. -/
theorem batchesOf_covers (names : List Text) :
    batchesOf names ≠ [] ∧ (batchesOf names).flatten = names := by
  cases names with
  | nil => exact ⟨List.cons_ne_nil _ _, rfl⟩
  | cons name rest =>
    have whole : (batchesOf (name :: rest)).flatten = name :: rest :=
      flatten_toChunks 64 (name :: rest)
    refine ⟨fun empty => ?_, whole⟩
    rw [empty] at whole
    cases whole

/-! ## Gluing -/

section Gluing

variable {source destination : StoredTable Real} {dropped names : List Text}

/-- The rows of the copy have distinct identities, so that a row is known by its identity. -/
theorem StoredTable.eq_of_identity {table : StoredTable Real} {row other : StoredRow Real}
    (listed : row ∈ table.rows) (isOther : other ∈ table.rows)
    (same : table.identity row = table.identity other) : row = other :=
  List.inj_on_of_nodup_map table.identified listed isOther same

/-- One row of the copy answers all batches. -/
theorem glue {batches : List (List Text)} (identifies : Identifies names source destination)
    (present : batches ≠ [])
    (each : ∀ batch ∈ batches, ∀ row ∈ source.rows, ∃ other ∈ destination.rows,
      ∀ name ∈ names ++ batch, source.cell row name = destination.cell other name) :
    ∀ row ∈ source.rows, ∃ other ∈ destination.rows,
      destination.identity other = source.identity row ∧
      ∀ name ∈ names ++ batches.flatten, source.cell row name = destination.cell other name := by
  have identity {row other : StoredRow Real} {batch : List Text}
      (agree : ∀ name ∈ names ++ batch, source.cell row name = destination.cell other name) :
      destination.identity other = source.identity row := by
    rw [← identifies.source, ← identifies.destination]
    exact List.map_congr_left (fun name listed =>
      (agree name (List.mem_append_left _ listed)).symm)
  intro row listed
  obtain ⟨first, isFirst⟩ := List.exists_mem_of_ne_nil batches present
  obtain ⟨other, isOther, agree⟩ := each first isFirst row listed
  refine ⟨other, isOther, identity agree, ?_⟩
  intro name isName
  obtain inIdentity | inBatches := List.mem_append.mp isName
  · exact agree name (List.mem_append_left _ inIdentity)
  · obtain ⟨batch, isBatch, inBatch⟩ := List.mem_flatten.mp inBatches
    obtain ⟨second, isSecond, agreeSecond⟩ := each batch isBatch row listed
    have same : second = other := StoredTable.eq_of_identity isSecond isOther
      ((identity agreeSecond).trans (identity agree).symm)
    rw [← same]
    exact agreeSecond name (List.mem_append_right _ inBatch)

/-- With as many rows in the copy, every row of it has its row in the source. -/
theorem exists_source (counts : destination.rows.length = source.rows.length)
    (covered : ∀ row ∈ source.rows, ∃ other ∈ destination.rows,
      destination.identity other = source.identity row) :
    ∀ other ∈ destination.rows, ∃ row ∈ source.rows,
      source.identity row = destination.identity other := by
  have subset : source.rows.map source.identity ⊆ destination.rows.map destination.identity := by
    intro identity listed
    obtain ⟨row, isRow, rfl⟩ := List.mem_map.mp listed
    obtain ⟨other, isOther, same⟩ := covered row isRow
    exact List.mem_map.mpr ⟨other, isOther, same⟩
  have permuted : (source.rows.map source.identity).Perm
      (destination.rows.map destination.identity) := by
    refine (List.subperm_of_subset source.identified subset).perm_of_length_le ?_
    rw [List.length_map, List.length_map, counts]
  intro other isOther
  have listed := permuted.mem_iff.mpr (List.mem_map_of_mem isOther)
  obtain ⟨row, isRow, same⟩ := List.mem_map.mp listed
  exact ⟨row, isRow, same⟩

/-- The counts and one inclusion for each batch decide whether the mappings are the same. -/
theorem sameMapping_iff {batches : List (List Text)}
    (identifies : Identifies names source destination) (present : batches ≠ [])
    (inside : batches.flatten ⊆ retainedColumns source dropped)
    (whole : retainedColumns source dropped ⊆ names ++ batches.flatten) :
    (destination.rows.length = source.rows.length ∧
      ∀ batch ∈ batches, ∀ row ∈ source.rows, ∃ other ∈ destination.rows,
        ∀ name ∈ names ++ batch, source.cell row name = destination.cell other name) ↔
      SameMapping source destination dropped := by
  constructor
  · rintro ⟨counts, each⟩ identity values
    have glued := glue identifies present each
    have agree {row other : StoredRow Real}
        (same : ∀ name ∈ names ++ batches.flatten,
          source.cell row name = destination.cell other name) :
        (retainedColumns source dropped).map (source.cell row) =
          (retainedColumns source dropped).map (destination.cell other) :=
      List.map_congr_left (fun name listed => same name (whole listed))
    constructor
    · rintro ⟨row, listed, rfl, rfl⟩
      obtain ⟨other, isOther, same, cells⟩ := glued row listed
      exact ⟨other, isOther, same, (agree cells).symm⟩
    · rintro ⟨other, isOther, rfl, rfl⟩
      obtain ⟨row, listed, same⟩ := exists_source counts
        (fun row listed => (glued row listed).imp (fun _ found => ⟨found.1, found.2.1⟩))
        other isOther
      obtain ⟨copy, isCopy, sameCopy, cells⟩ := glued row listed
      have copied : copy = other :=
        StoredTable.eq_of_identity isCopy isOther (sameCopy.trans same)
      rw [copied] at cells
      exact ⟨row, listed, same, agree cells⟩
  · intro mapping
    have toCopy : ∀ row ∈ source.rows, ∃ other ∈ destination.rows,
        destination.identity other = source.identity row ∧
        (retainedColumns source dropped).map (destination.cell other) =
          (retainedColumns source dropped).map (source.cell row) :=
      fun row listed => (mapping _ _).mp ⟨row, listed, rfl, rfl⟩
    have toSource : ∀ other ∈ destination.rows, ∃ row ∈ source.rows,
        source.identity row = destination.identity other ∧
        (retainedColumns source dropped).map (source.cell row) =
          (retainedColumns source dropped).map (destination.cell other) :=
      fun other listed => (mapping _ _).mpr ⟨other, listed, rfl, rfl⟩
    constructor
    · have permuted : (destination.rows.map destination.identity).Perm
          (source.rows.map source.identity) := by
        refine (List.perm_ext_iff_of_nodup destination.identified source.identified).mpr ?_
        intro identity
        constructor
        · intro listed
          obtain ⟨other, isOther, rfl⟩ := List.mem_map.mp listed
          obtain ⟨row, isRow, same, _⟩ := toSource other isOther
          exact List.mem_map.mpr ⟨row, isRow, same⟩
        · intro listed
          obtain ⟨row, isRow, rfl⟩ := List.mem_map.mp listed
          obtain ⟨other, isOther, same, _⟩ := toCopy row isRow
          exact List.mem_map.mpr ⟨other, isOther, same⟩
      simpa using permuted.length_eq
    · intro batch isBatch row listed
      obtain ⟨other, isOther, same, cells⟩ := toCopy row listed
      refine ⟨other, isOther, fun name isName => ?_⟩
      obtain inIdentity | inBatch := List.mem_append.mp isName
      · rw [← identifies.source, ← identifies.destination] at same
        exact (List.map_inj_left.mp same name inIdentity).symm
      · exact (List.map_inj_left.mp cells name
          (inside (List.mem_flatten.mpr ⟨batch, isBatch, inBatch⟩))).symm

end Gluing

/-! ## The routine -/

/-- How an action ends if the database answers every call. -/
def reading {α : Type} (database : Database) (action : Action α) : Except Stop α :=
  action.outcome (fun _ => .returned database)

section Routine

variable (engine : Engine) (database : Database)

theorem reading_bind {α β : Type} (action : Action α) (rest : α → Action β) :
    reading database (action >>= rest) =
      reading database action >>= fun value => reading database (rest value) :=
  Routine.outcome_bind _ action rest

theorem reading_query (sql : Text) (params : List Parameter) :
    reading database (query engine sql params) = .ok (engine.ask database.log sql params) := rfl

theorem reading_lift {α : Type} (value : α) :
    reading database (lift (.ok value)) = .ok value := rfl

theorem reading_demand {condition : Bool} {message : String} {about : List Text} :
    reading database (demand condition message about) = .ok () ↔ condition = true := by
  cases condition with
  | false =>
    constructor
    · intro returned
      cases returned
    · intro impossible
      cases impossible
  | true => exact ⟨fun _ => rfl, fun _ => rfl⟩

theorem reading_demand_bind {condition : Bool} {message : String} {about : List Text}
    (rest : Unit → Action Unit) :
    reading database (demand condition message about >>= rest) = .ok () ↔
      condition = true ∧ reading database (rest ()) = .ok () := by
  cases condition with
  | false =>
    constructor
    · intro returned
      cases returned
    · rintro ⟨impossible, _⟩
      cases impossible
  | true => exact ⟨fun returned => ⟨rfl, returned⟩, And.right⟩

variable [DecidableEq Real] {numeric : Int → Real → Bool} {source destination : StoredTable Real}
  {dropped : List Text}

/-- The comparison of the values passes if and only if no batch shows a row of the source that is
missing in the copy. -/
theorem validateCopiedValues_iff
    (answers : Answers numeric engine database.log source destination)
    (rebuilt : Rebuilt source destination dropped) {names : List Text}
    (identifies : Identifies names source destination)
    (identity : rowIdentity (columnRows source.columns) (retainedColumns source dropped)
      [[.integer (if source.withoutRowid then 1 else 0)]] = .ok names) :
    reading database (validateCopiedValues engine (source.name, destination.name) dropped) =
        .ok () ↔
      ∀ batch ∈ batchesOf ((retainedColumns source dropped).filter
        (fun name => !names.contains name)),
        hasMismatch numeric source destination (names ++ batch) = false := by
  have retained : ((columnRows source.columns).map Prod.fst).filter
      (fun name => !dropped.contains name) = retainedColumns source dropped := by
    rw [columnRows_names]
    rfl
  have loop : reading database
      (validateCopiedValues engine (source.name, destination.name) dropped) =
      reading database (Routine.each (fun batch => do
        let mismatch ← query engine
          (exceptQuery source.name destination.name (names ++ batch)) []
        demand mismatch.isEmpty
          "rebuild did not preserve copied values; completion not recorded" [])
        (batchesOf ((retainedColumns source dropped).filter
          (fun name => !names.contains name)))) := by
    rw [validateCopiedValues, reading_bind, reading_query, answers.columns, Outcomes.ok_bind,
      named_columnRows, reading_bind, reading_lift, Outcomes.ok_bind, reading_bind, reading_query,
      answers.storage, Outcomes.ok_bind, retained, identity, reading_bind, reading_lift,
      Outcomes.ok_bind]
    rfl
  rw [loop]
  refine (Routine.outcome_each_eq_ok _ _ _).trans (forall₂_congr (fun batch isBatch => ?_))
  have round : reading database (do
      let mismatch ← query engine (exceptQuery source.name destination.name (names ++ batch)) []
      demand mismatch.isEmpty
        "rebuild did not preserve copied values; completion not recorded" []) = .ok () ↔
      (engine.ask database.log
        (exceptQuery source.name destination.name (names ++ batch)) []).isEmpty = true := by
    rw [reading_bind, reading_query, Outcomes.ok_bind, reading_demand]
  have readable : ∀ name ∈ names ++ batch, source.Reads name ∧ destination.Reads name := by
    intro name listed
    obtain inIdentity | inBatch := List.mem_append.mp listed
    · exact identifies.readable name inIdentity
    · have kept : name ∈ retainedColumns source dropped := by
        have inAll := List.mem_flatten.mpr ⟨batch, isBatch, inBatch⟩
        rw [(batchesOf_covers _).2] at inAll
        exact List.mem_of_mem_filter inAll
      have inCopy : name ∈ destination.columnNames := rebuilt.retained ▸ kept
      exact ⟨.inl (List.mem_of_mem_filter kept), .inl inCopy⟩
  refine round.trans ?_
  rw [answers.mismatch _ readable]
  cases hasMismatch numeric source destination (names ++ batch) <;> simp

/-- The check after the copying statement passes if and only if source and copy hold the same
mapping from the identity of rows to the values of all retained columns. -/
theorem copy_validation_is_exact
    (answers : Answers numeric engine database.log source destination)
    (rebuilt : Rebuilt source destination dropped) {step : ExecutionStep} {position : Nat}
    (tables : step.copyTables = some (source.name, destination.name))
    (copied : step.copyAt = some position) (columns : step.droppedColumns = dropped) :
    reading database
        (checkCopy engine step (some (.integer source.rows.length)) position) = .ok () ↔
      SameMapping source destination dropped := by
  obtain ⟨names, identity, identifies⟩ := rowIdentity_ok rebuilt
  obtain ⟨present, whole⟩ := batchesOf_covers
    ((retainedColumns source dropped).filter (fun name => !names.contains name))
  have inside : (batchesOf ((retainedColumns source dropped).filter
      (fun name => !names.contains name))).flatten ⊆ retainedColumns source dropped := by
    rw [whole]
    exact List.filter_subset' _
  have covers : retainedColumns source dropped ⊆ names ++ (batchesOf
      ((retainedColumns source dropped).filter
        (fun name => !names.contains name))).flatten := by
    rw [whole]
    intro name listed
    by_cases isIdentity : name ∈ names
    · exact List.mem_append_left _ isIdentity
    · exact List.mem_append_right _ (List.mem_filter.mpr ⟨listed, by simpa using isIdentity⟩)
  have values := validateCopiedValues_iff engine database answers rebuilt identifies identity
  have counted : reading database
      (checkCopy engine step (some (.integer source.rows.length)) position) = .ok () ↔
      destination.rows.length = source.rows.length ∧ reading database
        (validateCopiedValues engine (source.name, destination.name) dropped) = .ok () := by
    have checked : checkCopy engine step (some (.integer source.rows.length)) position =
        (do
          let rows ← query engine
            ("SELECT COUNT(*) FROM ".toList ++ quotedName destination.name) []
          let found ← lift (firstCell rows)
          demand (some found == some (.integer source.rows.length))
            "rebuild did not preserve row count" []
          validateCopiedValues engine (source.name, destination.name) dropped) := by
      rw [checkCopy, tables]
      simp only [copied, columns, ne_eq, not_true_eq_false, if_false]
    rw [checked, reading_bind, reading_query, answers.count, Outcomes.ok_bind]
    refine (reading_demand_bind database (fun _ =>
      validateCopiedValues engine (source.name, destination.name) dropped)).trans ?_
    simp
  rw [counted, values, ← sameMapping_iff identifies present inside covers]
  simp only [hasMismatch_eq_false]

end Routine

namespace Notes

def columns : Columns := [("body".toList, 0), ("note".toList, 0)]

def row : StoredRow Unit where
  rowid := 7
  values := [.text "first".toList, .null]

/-- A table of one row, and its copy. -/
def table (name : String) : StoredTable Unit where
  name := name.toList
  columns := columns
  withoutRowid := false
  rows := [row]
  identified := List.nodup_singleton _

/-- Answers by the first letter of what is selected. -/
def engine : Engine :=
  { plainEngine with
    ask := fun _ sql _ =>
      match sql[7]? with
      | some 'C' => [[.integer 1]]
      | some 'n' => columns.map (fun column => [.text column.1, .integer column.2])
      | some 'w' => [[.integer 0]]
      | _ => [] }

def step : ExecutionStep where
  statements := []
  bindings := []
  transactional := true
  required := []
  rebuild := true
  sequenceTable := none
  copyTables := some ("notes".toList, "staged".toList)
  copyAt := some 0
  copyColumns := ["body".toList, "note".toList]
  droppedColumns := []
  validateTriggers := true

end Notes

/-- The copy of a row with a null passes. -/
theorem copied_note_passes :
    reading { history := .absent, log := [] }
      (checkCopy Notes.engine Notes.step (some (.integer 1)) 0) = .ok () := by
  have equal (names : List Text) : hasMismatch (fun _ _ => false) (Notes.table "notes")
      (Notes.table "staged") names = false := by
    refine hasMismatch_eq_false.mpr (fun row listed => ⟨row, listed, fun name _ => rfl⟩)
  have answers : Answers (fun _ _ => false) Notes.engine [] (Notes.table "notes")
      (Notes.table "staged") := by
    refine ⟨rfl, rfl, rfl, fun names _ => ?_⟩
    rw [equal]
    rfl
  have rebuilt : Rebuilt (Notes.table "notes") (Notes.table "staged") [] := by
    refine ⟨rfl, rfl, fun _ => ⟨"_rowid_".toList, List.mem_cons_self, by decide⟩, ?_⟩
    intro withoutRowid
    cases withoutRowid
  have exact : reading { history := .absent, log := [] }
      (checkCopy Notes.engine Notes.step (some (.integer 1)) 0) = .ok () ↔
      SameMapping (Notes.table "notes") (Notes.table "staged") [] :=
    copy_validation_is_exact Notes.engine _ answers rebuilt rfl rfl rfl
  refine exact.mpr (fun identity values => ?_)
  rfl

end Snekql.RecordedTarget
