import Mathlib.Data.List.Dedup
import Mathlib.Data.List.Perm.Subperm

/-!
# Migration declarations and history comparison

A declaration is a dictionary from migration names to SQL bodies; preparing it
numbers the migrations from one. A history is compared with a declaration either
row by row, when it has positions and checksums, or as a set of names, when it is
the older unordered kind. Both comparisons accept exactly a prefix of the
declaration. The digest of a body is a parameter.
-/

namespace Snekql.Migrations

structure Migration where
  position : Nat
  name : String
  checksum : String
  sql : String
deriving DecidableEq, Repr

/-- The correctness-bearing fields of one history row. -/
structure MigrationRecord where
  position : Nat
  name : String
  checksum : String
deriving DecidableEq, Repr

def Migration.historyRecord (migration : Migration) : MigrationRecord :=
  { position := migration.position, name := migration.name, checksum := migration.checksum }

inductive DeclarationError where
  | emptyName (position : Nat)
  | longName (name : String)
  | blankBody (name : String)
  | nul (name : String)
deriving DecidableEq, Repr

inductive HistoryError where
  | tooLong (recorded declared : Nat)
  | invalidPosition (recorded expected : Nat)
  | diverges (ordinal : Nat) (recorded declared : String)
  | behind (next : String)
  | legacyTooLong
  | legacyDiverges
  | consentRequired
  | unexpectedStaging
  | unknownSchema
deriving DecidableEq, Repr

/-- `str.isspace` for one character. -/
def isSpace (char : Char) : Bool :=
  let code := char.toNat
  decide (9 ≤ code ∧ code ≤ 13) || decide (28 ≤ code ∧ code ≤ 32) || code == 0x85 || code == 0xa0 ||
    code == 0x1680 || decide (0x2000 ≤ code ∧ code ≤ 0x200a) || code == 0x2028 || code == 0x2029 ||
    code == 0x202f || code == 0x205f || code == 0x3000

/-- The checks of one dictionary item. The exact types and the UTF-8 encodability
that the source also checks hold of every Lean string. -/
def prepareMigration (checksum : String → String) (position : Nat) (name sql : String) :
    Except DeclarationError Migration :=
  if name.isEmpty then .error (.emptyName position)
  else if 255 < name.length then .error (.longName name)
  else if sql.toList.all isSpace then .error (.blankBody name)
  else if name.toList.contains '\x00' || sql.toList.contains '\x00' then .error (.nul name)
  else .ok { position := position, name := name, checksum := checksum sql, sql := sql }

/-- `prepare_migrations` on the items of a dictionary, from a given position on. -/
def prepareFrom (checksum : String → String) : Nat → List (String × String) →
    Except DeclarationError (List Migration)
  | _, [] => .ok []
  | position, (name, sql) :: rest => do
      let migration ← prepareMigration checksum position name sql
      let later ← prepareFrom checksum (position + 1) rest
      return migration :: later

def prepareMigrations (checksum : String → String) (items : List (String × String)) :
    Except DeclarationError (List Migration) :=
  prepareFrom checksum 1 items

/-- The loop of `validate_history_prefix`, from a given ordinal on. The declaration
is never exhausted first, because its length was checked before. -/
def validateRecords : Nat → List MigrationRecord → List Migration → Except HistoryError Unit
  | _, [], _ => .ok ()
  | ordinal, record :: rest, expected =>
    if record.position ≠ ordinal then .error (.invalidPosition record.position ordinal)
    else
      match expected with
      | [] => .error (.tooLong ordinal 0)
      | migration :: later =>
        if record ≠ migration.historyRecord then
          .error (.diverges ordinal record.name migration.name)
        else validateRecords (ordinal + 1) rest later

/-- `validate_history_prefix`. -/
def validateHistoryPrefix (actual : List MigrationRecord) (expected : List Migration)
    (requireHead : Bool) (minimumApplied : Nat) : Except HistoryError Unit :=
  if expected.length < actual.length then .error (.tooLong actual.length expected.length)
  else do
    validateRecords 1 actual expected
    let minimum := if requireHead then expected.length else minimumApplied
    if actual.length < minimum then
      match expected[actual.length]? with
      | some next => .error (.behind next.name)
      | none => .error (.tooLong actual.length expected.length)
    else .ok ()

/-- `validate_legacy_history`: the set of recorded names is the set of names of the
declared prefix of that size. -/
def validateLegacyHistory (names : List String) (expected : List Migration) :
    Except HistoryError Nat :=
  let recorded := names.dedup
  let declared := (expected.take recorded.length).map Migration.name
  if expected.length < recorded.length then .error .legacyTooLong
  else if recorded.all declared.contains && declared.all recorded.contains then
    .ok recorded.length
  else .error .legacyDiverges

/-- What preparation guarantees: positions count from one and names are distinct. -/
structure Prepared (plan : List Migration) : Prop where
  numbered : ∀ index migration, plan[index]? = some migration → migration.position = index + 1
  distinct : (plan.map Migration.name).Nodup

/-- A prefix of a prepared plan is prepared. -/
theorem Prepared.take {chain : List Migration} (prepared : Prepared chain) (length : Nat) :
    Prepared (chain.take length) := by
  constructor
  · intro index migration found
    rw [List.getElem?_take] at found
    split at found
    · exact prepared.numbered index migration found
    · cases found
  · rw [List.map_take]
    exact prepared.distinct.sublist (List.take_sublist _ _)

section Preparation

variable {checksum : String → String}

theorem prepareMigration_ok {position : Nat} {name sql : String} {migration : Migration}
    (prepared : prepareMigration checksum position name sql = .ok migration) :
    migration = { position := position, name := name, checksum := checksum sql, sql := sql } := by
  unfold prepareMigration at prepared
  split at prepared
  · cases prepared
  split at prepared
  · cases prepared
  split at prepared
  · cases prepared
  split at prepared
  · cases prepared
  · cases prepared
    rfl

/-- Each item becomes the migration at its place, with its own name. -/
theorem prepareFrom_ok {start : Nat} {items : List (String × String)} {plan : List Migration}
    (prepared : prepareFrom checksum start items = .ok plan) :
    plan.map Migration.name = items.map Prod.fst ∧
      ∀ index migration, plan[index]? = some migration → migration.position = start + index := by
  induction items generalizing start plan with
  | nil =>
    cases prepared
    simp
  | cons item rest ih =>
    obtain ⟨name, sql⟩ := item
    simp only [prepareFrom, bind, Except.bind] at prepared
    split at prepared
    · cases prepared
    · next migration first =>
      split at prepared
      · cases prepared
      · next later following =>
        cases prepared
        obtain ⟨names, positions⟩ := ih following
        rw [prepareMigration_ok first]
        refine ⟨by simp [names], ?_⟩
        intro index found present
        cases index with
        | zero =>
          cases present
          rfl
        | succ index =>
          have place := positions index found (by simpa using present)
          omega

/-- Every successful preparation of a dictionary is a prepared plan. -/
theorem prepareMigrations_prepared {items : List (String × String)} {plan : List Migration}
    (keys : (items.map Prod.fst).Nodup) (prepared : prepareMigrations checksum items = .ok plan) :
    Prepared plan := by
  obtain ⟨names, positions⟩ := prepareFrom_ok prepared
  constructor
  · intro index migration found
    have place := positions index migration found
    omega
  · rw [names]
    exact keys

end Preparation

section Comparison

/-- The row comparison accepts exactly the prefixes of the declaration's rows. -/
theorem validateRecords_ok_iff {ordinal : Nat} {actual : List MigrationRecord}
    {expected : List Migration}
    (numbered : ∀ index migration, expected[index]? = some migration →
      migration.position = ordinal + index) :
    validateRecords ordinal actual expected = .ok () ↔
      actual <+: expected.map Migration.historyRecord := by
  induction actual generalizing ordinal expected with
  | nil => simp [validateRecords]
  | cons record rest ih =>
    cases expected with
    | nil =>
      simp only [validateRecords, List.map_nil, List.prefix_nil, reduceCtorEq, iff_false]
      split <;> simp
    | cons migration later =>
      have position : migration.position = ordinal := numbered 0 migration rfl
      have shifted : ∀ index found, later[index]? = some found →
          found.position = ordinal + 1 + index := by
        intro index found present
        have place := numbered (index + 1) found (by simpa using present)
        omega
      simp only [validateRecords, List.map_cons, List.cons_prefix_cons,
        ← ih shifted]
      by_cases same : record = migration.historyRecord
      · simp [same, Migration.historyRecord, position]
      · simp only [ne_eq, same, not_false_eq_true, ↓reduceIte, false_and, iff_false]
        split <;> simp

/-- Without a mandatory minimum, `validate_history_prefix` accepts exactly prefixes. -/
theorem validateHistoryPrefix_ok_iff {actual : List MigrationRecord} {expected : List Migration}
    (numbered : ∀ index migration, expected[index]? = some migration →
      migration.position = index + 1) :
    validateHistoryPrefix actual expected false 0 = .ok () ↔
      actual <+: expected.map Migration.historyRecord := by
  have records : validateRecords 1 actual expected = .ok () ↔
      actual <+: expected.map Migration.historyRecord :=
    validateRecords_ok_iff (fun index migration found => by
      rw [numbered index migration found, Nat.add_comm])
  unfold validateHistoryPrefix
  split
  · next longer =>
    simp only [reduceCtorEq, false_iff]
    intro inside
    have short := inside.length_le
    rw [List.length_map] at short
    omega
  · rw [← records]
    cases outcome : validateRecords 1 actual expected <;> simp [bind, Except.bind]

/-- A legacy history is accepted exactly when its names are those of a declared prefix. -/
theorem validateLegacyHistory_ok_iff {names : List String} {expected : List Migration}
    (distinct : (expected.map Migration.name).Nodup) (length : Nat) :
    validateLegacyHistory names expected = .ok length ↔
      length = names.dedup.length ∧ length ≤ expected.length ∧
        names.dedup.Perm ((expected.take length).map Migration.name) := by
  have declared : ((expected.take names.dedup.length).map Migration.name).Nodup := by
    rw [List.map_take]
    exact distinct.sublist (List.take_sublist _ _)
  simp only [validateLegacyHistory]
  split
  · next longer =>
    simp only [reduceCtorEq, false_iff]
    rintro ⟨rfl, short, -⟩
    omega
  · next short =>
    have same : ((names.dedup.all
          ((expected.take names.dedup.length).map Migration.name).contains &&
        ((expected.take names.dedup.length).map Migration.name).all names.dedup.contains) = true) ↔
        names.dedup.Perm ((expected.take names.dedup.length).map Migration.name) := by
      rw [List.perm_ext_iff_of_nodup (List.nodup_dedup names) declared]
      simp only [Bool.and_eq_true, List.all_eq_true, List.contains_iff_mem]
      constructor
      · rintro ⟨recorded, written⟩ name
        exact ⟨recorded name, written name⟩
      · intro equivalent
        exact ⟨fun name => (equivalent name).mp, fun name => (equivalent name).mpr⟩
    split
    · next agree =>
      simp only [Except.ok.injEq]
      constructor
      · rintro rfl
        exact ⟨rfl, by omega, same.mp agree⟩
      · exact fun described => described.1.symm
    · next differ =>
      simp only [reduceCtorEq, false_iff]
      rintro ⟨rfl, -, agree⟩
      exact differ (same.mpr agree)

end Comparison

end Snekql.Migrations
