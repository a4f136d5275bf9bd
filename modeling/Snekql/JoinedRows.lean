import Mathlib.Data.List.Forall2
import Snekql.Outcomes
import Snekql.QueryCompile

/-!
# Joined rows

A joined select lists the columns of its sources one after the other, and behind those of a source
that may be all `NULL` a hidden column that never is. The same spans cut the rows that come back:
each source gets its own cells, and a source is missing exactly if its join found no row.
-/

namespace Snekql.Query

open Snekql.Outcomes

abbrev Row (Cell : Type) := List (Option Cell)

/-- `SourceRowShape`: the visible columns, and the name of the hidden one behind them. -/
structure SourceRowShape where
  payload : List ColumnRef
  presence : Option String

/-- `_RowSpan`. -/
structure RowSpan where
  nullable : Bool
  offset : Nat
  shape : SourceRowShape

variable {Value Cell : Type}

namespace SourceRowShape

variable (shape : SourceRowShape)

@[simp] def width : Nat := shape.payload.length + shape.presence.toList.length

/-- `materialize`, up to the decoding of the payload. -/
@[simp] def materialize (row : Row Cell) (nullable : Bool) : Option (Row Cell) :=
  let absent := if shape.presence.isSome then row.getLast?.any Option.isNone
    else row.all Option.isNone
  if nullable && absent then none else some (row.take shape.payload.length)

/-- What the database returns for a source: its row and the hidden column, or only `NULL`. -/
@[simp] def cells (present : Cell) : Option (Row Cell) → Row Cell
  | some payload => payload ++ shape.presence.toList.map (fun _ => some present)
  | none => List.replicate shape.width none

end SourceRowShape

variable (heap : Heap Value) (casefold : String → String)

/-- `SourceRowShape.for_source` with presence. -/
def Heap.forSource (source : Relation) : Except QueryError SourceRowShape :=
  match source.physical, heap.definitionState source with
  | some table, _ =>
    .ok { payload := table.columns.map (.attr source), presence := table.presenceMarker casefold }
  | none, none => .error .dangling
  | none, some state =>
    if state.namedProjection.isSome then .ok {
      payload := (List.range state.fields.length).map (.output source)
      presence := some (heap.presenceName casefold source) }
    else .error (.compilation "CTE row requires a named result contract")

/-- The loop of `JoinedRowShape.for_sources`. -/
def Heap.forSources (offset : Nat) : List (Relation × Bool) → Except QueryError (List RowSpan)
  | [] => .ok []
  | (source, nullable) :: rest => do
      let shape ← heap.forSource casefold source
      let spans ← Heap.forSources (offset + shape.width) rest
      return { nullable, offset, shape } :: spans

/-- `JoinedRowShape.for_sources`. -/
def Heap.joinedRowShape (state : SelectState Value) : Except QueryError (List RowSpan) :=
  heap.forSources casefold 0 ((state.model, false) ::
    state.joins.map (fun join => (join.model, decide (join.joinType = .left))))

/-- `JoinedRowShape.materialize`. -/
def materializeJoined (spans : List RowSpan) (row : Row Cell) : List (Option (Row Cell)) :=
  spans.map fun span =>
    span.shape.materialize ((row.drop span.offset).take span.shape.width) span.nullable

def joinedRow (present : Cell) (spans : List RowSpan) (contents : List (Option (Row Cell))) :
    Row Cell :=
  (List.zipWith (fun span => span.shape.cells present) spans contents).flatten

/-- A declared column that is not nullable. -/
def ColumnRef.required : ColumnRef → Bool
  | .attr _ column => !column.nullable
  | .output _ _ => false

/-- A row of the source that keeps `NOT NULL`, or none where the join allows it. -/
def RowSpan.Holds (span : RowSpan) : Option (Row Cell) → Prop
  | some payload => List.Forall₂ (fun column cell => column.required = true → cell ≠ none)
      span.shape.payload payload
  | none => span.nullable = true

variable {heap casefold}

/-- Without a hidden column some visible one is never `NULL`. -/
theorem Heap.required_of_forSource {source : Relation} {shape : SourceRowShape}
    (shaped : heap.forSource casefold source = .ok shape) (unmarked : shape.presence = none) :
    ∃ column ∈ shape.payload, column.required = true := by
  unfold Heap.forSource at shaped
  split at shaped
  · cases shaped
    simp only [Table.presenceMarker, ite_eq_right_iff, reduceCtorEq, imp_false, List.all_eq_true,
      not_forall] at unmarked
    obtain ⟨column, listed, required⟩ := unmarked
    exact ⟨_, List.mem_map_of_mem listed, by simpa [ColumnRef.required] using required⟩
  · cases shaped
  · split at shaped <;> cases shaped
    cases unmarked

/-- The cells of a source have its width and materialize to its row. -/
theorem RowSpan.materialize_cells {span : RowSpan} {content : Option (Row Cell)} (present : Cell)
    (held : span.Holds content)
    (unmarked : span.shape.presence = none →
      ∃ column ∈ span.shape.payload, column.required = true) :
    (span.shape.cells present content).length = span.shape.width ∧
      span.shape.materialize (span.shape.cells present content) span.nullable = content := by
  cases content with
  | none =>
    have nullable : span.nullable = true := held
    cases marker : span.shape.presence <;> simp [marker, nullable, List.getLast?_replicate]
  | some payload =>
    have length := List.Forall₂.length_eq held
    cases marker : span.shape.presence with
    | none =>
      -- The required column is not `NULL` in the row.
      obtain ⟨column, listed, required⟩ := unmarked marker
      obtain ⟨index, inside, rfl⟩ := List.mem_iff_getElem.mp listed
      have each := (List.forall₂_iff_get.mp held).2 index inside (length ▸ inside) required
      have found : payload.all Option.isNone = false :=
        List.all_eq_false.mpr ⟨_, List.getElem_mem _, by simpa using each⟩
      simp [marker, found, length]
    | some name => simp [marker, length]

theorem materializeJoined_forSources (present : Cell) {sources : List (Relation × Bool)}
    {spans : List RowSpan} {contents : List (Option (Row Cell))} (front : Row Cell)
    (shaped : heap.forSources casefold front.length sources = .ok spans)
    (held : List.Forall₂ RowSpan.Holds spans contents) :
    materializeJoined spans (front ++ joinedRow present spans contents) = contents := by
  induction sources generalizing front spans contents with
  | nil =>
    cases shaped
    cases held
    rfl
  | cons first rest ih =>
    obtain ⟨shape, isShape, shaped⟩ := bind_eq_ok.mp shaped
    obtain ⟨later, isLater, ⟨⟩⟩ := bind_eq_ok.mp shaped
    cases held with
    | @cons _ content _ contents one others =>
      obtain ⟨length, same⟩ :=
        RowSpan.materialize_cells present one (heap.required_of_forSource isShape)
      have after := ih (front ++ shape.cells present content) (by rwa [List.length_append, length])
        others
      rw [joinedRow, List.zipWith_cons_cons, List.flatten_cons, ← List.append_assoc]
      refine congrArg₂ List.cons ?_ after
      simpa only [List.append_assoc, List.drop_left, List.take_left' length] using same

/-- Whatever the joins found, cutting the returned row gives back the row of each source, and
nothing for a source without one. -/
theorem joined_rows_are_split {state : SelectState Value} {spans : List RowSpan} (present : Cell)
    {contents : List (Option (Row Cell))} (shaped : heap.joinedRowShape casefold state = .ok spans)
    (held : List.Forall₂ RowSpan.Holds spans contents) :
    materializeJoined spans (joinedRow present spans contents) = contents :=
  materializeJoined_forSources present [] shaped held

/-! A table whose only column is nullable, joined to itself. -/

namespace SelfJoin

def table : Table where
  ident := 0
  name := "t"
  backend := .sqlite
  columns := [{
    name := "a", nullable := true, storageType := "Integer", logical := [.int], native := some .int,
    datetimePrecision := wholeSeconds }]

def state : SelectState Unit where
  model := .table table
  fields := []
  joins := [{ model := .alias 1 table 0 "u", joinType := .left, predicate := .existence 0 false }]

/-- A matched row of `NULL` stays a row. -/
theorem null_row_is_split :
    ∃ spans, Heap.joinedRowShape ⟨[], []⟩ id state = .ok spans ∧
      materializeJoined spans (joinedRow 1 spans [some [none], none]) = [some [none], none] := by
  obtain ⟨spans, shaped, held⟩ : ∃ spans, Heap.joinedRowShape ⟨[], []⟩ id state = .ok spans ∧
      List.Forall₂ RowSpan.Holds spans [some [none], (none : Option (Row Nat))] := by
    refine ⟨_, rfl, .cons ?_ (.cons ?_ .nil)⟩
    · exact List.Forall₂.cons (by simp [ColumnRef.required]) .nil
    · rfl
  exact ⟨spans, shaped, joined_rows_are_split 1 shaped held⟩

end SelfJoin

/-! ## Hidden names -/

/-- With each underscore fewer names are left that are long enough to be in the way. -/
theorem freshName_free (grows : ∀ name, (casefold name).length < (casefold (name ++ "_")).length)
    {taken : List String} {fuel : Nat} {name : String}
    (few : (taken.filter ((casefold name).length ≤ ·.length)).length ≤ fuel) :
    casefold (freshName casefold taken fuel name) ∉ taken := by
  induction fuel generalizing name with
  | zero =>
    intro used
    have none := List.filter_eq_nil_iff.mp (List.eq_nil_of_length_eq_zero (Nat.le_zero.mp few))
    exact none _ used (by simp [freshName])
  | succ fuel ih =>
    rw [freshName]
    split
    · next used =>
      have longer := grows name
      have nested : taken.filter ((casefold (name ++ "_")).length ≤ ·.length) =
          (taken.filter ((casefold name).length ≤ ·.length)).filter
            ((casefold (name ++ "_")).length ≤ ·.length) := by
        rw [List.filter_filter]
        exact List.filter_congr (fun other _ => by simp; omega)
      apply ih
      rw [nested]
      -- The name itself is taken, and too short for the next one.
      exact Nat.le_of_lt_succ (Nat.lt_of_lt_of_le (List.length_filter_lt_length_iff_exists.mpr
        ⟨casefold name, by simp [used], by simpa using longer⟩) few)
    · next free => exact free

/-- The hidden column of a source has a name that none of its columns has, whatever their case. -/
theorem presence_names_are_free
    (grows : ∀ name, (casefold name).length < (casefold (name ++ "_")).length)
    (names : List String) : casefold (presenceNameAmong casefold names) ∉ names.map casefold := by
  apply freshName_free grows
  simpa using List.length_filter_le _ (names.map casefold)

theorem presence_names_are_free_underscored :
    presenceNameAmong id ["__snekql_present"] = "__snekql_present_" ∧
      "__snekql_present_" ∉ ["__snekql_present"] :=
  ⟨rfl, @presence_names_are_free id (by simp; decide) ["__snekql_present"]⟩

end Snekql.Query
