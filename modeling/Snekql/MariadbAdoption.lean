import Snekql.MariadbHistory

/-!
# Legacy adoption on MariaDB is resumable

The adoption of a legacy history passes through three recognised formats. Each interrupted run
leaves the table in one of them, with every legacy row still in place, and each later run goes
on from there. A declaration that does not fit the rows is refused before anything is written.
-/

namespace Snekql.MariadbHistory

open Snekql.Migrations
open Snekql.Interruption

/-! ## Declared rows -/

/-- A checksum as the server's constraint wants it. -/
def isDigest (checksum : String) : Bool :=
  decide (checksum.length = 64) &&
    checksum.toList.all (fun char => char.isDigit || "abcdef".toList.contains char)

/-- The row of a declared migration. -/
def declaredRow (migration : Migration) (appliedAt : String) : HistoryRow :=
  { position := migration.position, name := migration.name, checksum := migration.checksum,
    appliedAt }

/-- A plan whose rows the final table takes. -/
structure Declared (plan : List Migration) : Prop extends Prepared plan where
  admitted : ∀ migration ∈ plan, ∀ appliedAt, (declaredRow migration appliedAt).admitted = true

variable {plan : List Migration} {migration : Migration} {promise : Promise Server Failure Unit}
  {before : Server → Prop}

section

variable {checksum : String → String}

theorem prepareMigration_admitted (digest : ∀ sql, isDigest (checksum sql) = true) {position : Nat}
    {name sql : String} (positive : 0 < position)
    (prepared : prepareMigration checksum position name sql = .ok migration) (appliedAt : String) :
    (declaredRow migration appliedAt).admitted = true := by
  have digits := digest sql
  rw [prepareMigration_ok prepared]
  unfold prepareMigration at prepared
  split at prepared
  · cases prepared
  split at prepared
  · cases prepared
  · rename_i named short
    have nonempty : 1 ≤ name.length := by
      rw [Nat.one_le_iff_ne_zero, Ne, String.length_eq_zero_iff]
      rintro rfl
      exact named rfl
    simp only [isDigest, Bool.and_eq_true] at digits
    simp only [HistoryRow.admitted, declaredRow, Bool.and_eq_true]
    exact ⟨⟨⟨decide_eq_true positive, decide_eq_true ⟨nonempty, by omega⟩⟩, digits.1⟩, digits.2⟩

theorem prepareFrom_admitted (digest : ∀ sql, isDigest (checksum sql) = true) {start : Nat}
    {items : List (String × String)} (positive : 0 < start)
    (prepared : prepareFrom checksum start items = .ok plan) :
    ∀ migration ∈ plan, ∀ appliedAt, (declaredRow migration appliedAt).admitted = true := by
  induction items generalizing start plan with
  | nil =>
    cases prepared
    nofun
  | cons item rest ih =>
    obtain ⟨name, sql⟩ := item
    simp only [prepareFrom, bind, Except.bind] at prepared
    split at prepared
    · cases prepared
    · rename_i first found
      split at prepared
      · cases prepared
      · rename_i later following
        cases prepared
        intro migration listed appliedAt
        obtain rfl | behind := List.mem_cons.mp listed
        · exact prepareMigration_admitted digest positive found appliedAt
        · exact ih (Nat.succ_pos start) following migration behind appliedAt

/-- Preparation with a digest yields a plan that the final table takes. -/
theorem prepareMigrations_declared (digest : ∀ sql, isDigest (checksum sql) = true)
    {items : List (String × String)} (keys : (items.map Prod.fst).Nodup)
    (prepared : prepareMigrations checksum items = .ok plan) :
    Declared plan where
  toPrepared := prepareMigrations_prepared keys prepared
  admitted := prepareFrom_admitted digest Nat.one_pos prepared

end

/-! ## The order of the history -/

theorem increasing (prepared : Prepared plan) :
    plan.Pairwise (fun first second => first.position < second.position) := by
  rw [List.pairwise_iff_getElem]
  intro one other oneBound otherBound before
  rw [prepared.numbered one _ (List.getElem?_eq_getElem oneBound),
    prepared.numbered other _ (List.getElem?_eq_getElem otherBound)]
  omega

/-- Rows with the records of a declared prefix, in any order, are read in declared order. -/
theorem historyOf_eq (prepared : Prepared plan) {rows : List HistoryRow}
    (same : (rows.map HistoryRow.record).Perm (plan.map Migration.historyRecord)) :
    historyOf rows = plan.map Migration.historyRecord := by
  have sorted : (historyOf rows).Pairwise
      (fun first second => decide (first.position ≤ second.position) = true) := by
    refine List.pairwise_mergeSort ?_ ?_ _
    · intro first second third
      simp only [decide_eq_true_eq]
      omega
    · intro first second
      simp only [Bool.or_eq_true, decide_eq_true_eq]
      omega
  refine List.Perm.eq_of_pairwise ?_ sorted
    (List.pairwise_map.mpr ((increasing prepared).imp
      (fun before => decide_eq_true (Nat.le_of_lt before))))
    ((List.mergeSort_perm _ _).trans same)
  intro one other listed declared below above
  have place : one.position = other.position :=
    Nat.le_antisymm (of_decide_eq_true below) (of_decide_eq_true above)
  have listed : one ∈ plan.map Migration.historyRecord :=
    same.mem_iff.mp ((List.mergeSort_perm _ _).mem_iff.mp listed)
  obtain ⟨first, firstPlanned, rfl⟩ := List.mem_map.mp listed
  obtain ⟨second, secondPlanned, rfl⟩ := List.mem_map.mp declared
  obtain ⟨firstIndex, firstFound⟩ := List.mem_iff_getElem?.mp firstPlanned
  obtain ⟨secondIndex, secondFound⟩ := List.mem_iff_getElem?.mp secondPlanned
  have firstPlace := prepared.numbered firstIndex first firstFound
  have secondPlace := prepared.numbered secondIndex second secondFound
  simp only [Migration.historyRecord] at place
  obtain rfl : firstIndex = secondIndex := by omega
  rw [firstFound] at secondFound
  cases secondFound
  rfl

/-- The history holds the records of the rows. -/
theorem historyOf_perm (rows : List HistoryRow) :
    (historyOf rows).Perm (rows.map HistoryRow.record) :=
  List.mergeSort_perm _ _

/-- A table whose history is a declared prefix records the names of that prefix. -/
theorem recorded_of_historyOf {rows : List HistoryRow}
    (history : historyOf rows = plan.map Migration.historyRecord) :
    (Table.v2 rows).recorded.Perm (plan.map Migration.name) := by
  have names := (historyOf_perm rows).map MigrationRecord.name
  rw [history, List.map_map, List.map_map] at names
  exact names.symm

/-! ## Adopted rows -/

/-- The row with the values of its migration. -/
def StagingRow.filled (plan : List Migration) (row : StagingRow) : StagingRow :=
  match expectedByName plan row.name with
  | some migration =>
    { row with position := some migration.position, checksum := some migration.checksum }
  | none => row

/-- The final row of a legacy row; its time stays. -/
def adoptedRow (plan : List Migration) (row : LegacyRow) : HistoryRow :=
  match expectedByName plan row.name with
  | some migration => declaredRow migration row.appliedAt
  | none => { position := 0, name := row.name, checksum := "", appliedAt := row.appliedAt }

theorem expectedByName_some {name : String} (found : expectedByName plan name = some migration) :
    migration ∈ plan ∧ migration.name = name := by
  refine ⟨List.mem_of_find?_eq_some found, ?_⟩
  have named := List.find?_some found
  exact beq_iff_eq.mp named

theorem expectedByName_mem (distinct : (plan.map Migration.name).Nodup) (planned : migration ∈ plan)
    :
    expectedByName plan migration.name = some migration := by
  cases found : expectedByName plan migration.name with
  | none =>
    have absent := List.find?_eq_none.mp found migration planned
    exact absurd (beq_self_eq_true _) absent
  | some other =>
    obtain ⟨listed, named⟩ := expectedByName_some found
    rw [List.inj_on_of_nodup_map distinct listed planned named]

/-- The legacy names are those of the declared prefix of the given length. -/
def Fits (plan : List Migration) (legacy : List LegacyRow) (length : Nat) : Prop :=
  validateLegacyHistory (legacy.map LegacyRow.name) plan = .ok length

section

variable {plan : List Migration} (declared : Declared plan) {legacy : List LegacyRow}
  (distinct : (legacy.map LegacyRow.name).Nodup) {length : Nat} (fits : Fits plan legacy length)

include declared distinct fits

theorem Fits.names : (legacy.map LegacyRow.name).Perm ((plan.take length).map Migration.name) := by
  have described := (validateLegacyHistory_ok_iff declared.distinct length).mp fits
  rw [distinct.dedup] at described
  exact described.2.2

theorem Fits.length_le : length ≤ plan.length :=
  ((validateLegacyHistory_ok_iff declared.distinct length).mp fits).2.1

theorem Fits.found {row : LegacyRow} (listed : row ∈ legacy) :
    ∃ migration, expectedByName (plan.take length) row.name = some migration := by
  have named : row.name ∈ (plan.take length).map Migration.name :=
    (Fits.names declared distinct fits).mem_iff.mp (List.mem_map_of_mem listed)
  obtain ⟨migration, planned, same⟩ := List.mem_map.mp named
  rw [← same]
  exact ⟨migration, expectedByName_mem (declared.toPrepared.take length).distinct planned⟩

/-- The adopted rows carry exactly the declared records. -/
theorem Fits.records :
    ((legacy.map (adoptedRow (plan.take length))).map HistoryRow.record).Perm
      ((plan.take length).map Migration.historyRecord) := by
  let recordOf (name : String) : MigrationRecord :=
    match expectedByName (plan.take length) name with
    | some migration => migration.historyRecord
    | none => { position := 0, name, checksum := "" }
  have adopted : (legacy.map (adoptedRow (plan.take length))).map HistoryRow.record =
      (legacy.map LegacyRow.name).map recordOf := by
    rw [List.map_map, List.map_map]
    refine List.map_congr_left (fun row _ => ?_)
    simp only [Function.comp, adoptedRow, recordOf]
    cases expectedByName (plan.take length) row.name <;> rfl
  have written : (plan.take length).map Migration.historyRecord =
      ((plan.take length).map Migration.name).map recordOf := by
    rw [List.map_map]
    refine List.map_congr_left (fun migration planned => ?_)
    simp only [Function.comp, recordOf]
    rw [expectedByName_mem (declared.toPrepared.take length).distinct planned]
  rw [adopted, written]
  exact (Fits.names declared distinct fits).map recordOf

theorem Fits.history :
    historyOf (legacy.map (adoptedRow (plan.take length))) =
      (plan.take length).map Migration.historyRecord :=
  historyOf_eq (declared.toPrepared.take length) (Fits.records declared distinct fits)

theorem Fits.admissible :
    admissible (legacy.map (adoptedRow (plan.take length))) = true := by
  have records := Fits.records declared distinct fits
  have positions := records.map MigrationRecord.position
  have names := records.map MigrationRecord.name
  have numbered : ((plan.take length).map Migration.position).Nodup :=
    List.pairwise_map.mpr ((increasing (declared.toPrepared.take length)).imp
      (fun before => Nat.ne_of_lt before))
  rw [List.map_map, List.map_map (f := Migration.historyRecord)] at positions names
  simp only [MariadbHistory.admissible, Bool.and_eq_true, decide_eq_true_eq, List.all_eq_true,
    List.mem_map, forall_exists_index, and_imp, forall_apply_eq_imp_iff₂]
  refine ⟨⟨?_, ?_⟩, ?_⟩
  · intro row listed
    obtain ⟨migration, found⟩ := Fits.found declared distinct fits listed
    rw [adoptedRow, found]
    exact declared.admitted migration
      (List.mem_of_mem_take (expectedByName_some found).1) row.appliedAt
  · exact positions.nodup_iff.mpr numbered
  · exact names.nodup_iff.mpr (declared.toPrepared.take length).distinct

/-- The filled staging table becomes the adopted one. -/
theorem Fits.finalize {rows : List StagingRow} (same : rows.map StagingRow.legacy = legacy) :
    finalizeStaging (.staging (rows.map (StagingRow.filled (plan.take length)))) =
      .ok (.v2 (legacy.map (adoptedRow (plan.take length)))) := by
  have final : (rows.map (StagingRow.filled (plan.take length))).mapM StagingRow.final =
      some (legacy.map (adoptedRow (plan.take length))) := by
    have found : ∀ row ∈ rows, ∃ migration,
        expectedByName (plan.take length) row.name = some migration := fun row listed =>
      Fits.found declared distinct fits (same ▸ List.mem_map_of_mem listed)
    rw [← same]
    clear same
    induction rows with
    | nil => rfl
    | cons row rest ih =>
      obtain ⟨migration, known⟩ := found row List.mem_cons_self
      have later := ih
        (fun next listed => found next (List.mem_cons_of_mem row listed))
      have first : (row.filled (plan.take length)).final =
          some (adoptedRow (plan.take length) row.legacy) := by
        simp only [StagingRow.filled, adoptedRow, StagingRow.legacy, known, StagingRow.final,
          declaredRow, (expectedByName_some known).2]
      simp only [List.map_cons, List.mapM_cons, first, later]
      rfl
  rw [finalizeStaging, final]
  simp only [Fits.admissible declared distinct fits, if_true]

end

/-! ## Statements keep the committed table -/

/-- The same promise however the program ends early. -/
def stopping {α : Type} (returned : α → Server → Prop) (stopped : Server → Prop) :
    Promise Server Failure α :=
  { returned, raised := fun _ => stopped, interrupted := stopped }

theorem query_triple {α : Type} {read : Table → Except Failure α}
    {promise : Promise Server Failure α}
    (stays : ∀ server, before server → promise.interrupted server) (returns : ∀ server value, before server → read server.working = .ok value →
      promise.returned value server) (raises : ∀ server failure, before server → read server.working = .error failure →
      promise.raised failure server) : Triple before (query read) promise :=
  Triple.step stays returns raises

theorem rowStatement_triple {update : Table → Except Failure Table}
    (stays : ∀ server, before server → promise.interrupted server) (returns : ∀ server table, before server → update server.working = .ok table →
      promise.returned () { server with working := table }) (raises : ∀ server failure, before server → update server.working = .error failure →
      promise.raised failure server) : Triple before (rowStatement update) promise := by
  refine Triple.step stays ?_ ?_
  · intro server value start ended
    cases updated : update server.working with
    | ok table =>
      simp only [updated]
      exact returns server table start updated
    | error failure => simp only [updated] at ended; cases ended
  · intro server failure start ended
    cases updated : update server.working with
    | ok table => simp only [updated] at ended; cases ended
    | error other =>
      simp only [updated] at ended ⊢
      cases ended
      exact raises server failure start updated

theorem schemaStatement_triple {update : Table → Except Failure Table}
    (stays : ∀ server, before server → promise.interrupted server) (returns : ∀ server table, before server → update server.working = .ok table →
      promise.returned () { server with committed := table, working := table }) (raises : ∀ server failure, before server → update server.working = .error failure →
      promise.raised failure server.commit) : Triple before (schemaStatement update) promise := by
  refine Triple.step stays ?_ ?_
  · intro server value start ended
    cases updated : update server.working with
    | ok table =>
      simp only [updated]
      exact returns server table start updated
    | error failure => simp only [updated] at ended; cases ended
  · intro server failure start ended
    cases updated : update server.working with
    | ok table => simp only [updated] at ended; cases ended
    | error other =>
      simp only [updated] at ended ⊢
      cases ended
      exact raises server failure start updated

theorem commit_triple (stays : ∀ server, before server → promise.interrupted server)
    (returns : ∀ server, before server → promise.returned () server.commit) :
    Triple before commit promise := by
  refine Triple.step stays ?_ ?_
  · intro server value start _
    exact returns server start
  · intro server failure _ ended
    cases ended

theorem checked_triple {α : Type} {outcome : Except HistoryError α}
    {promise : Promise Server Failure α} (returns : ∀ server value, before server → outcome = .ok value →
      promise.returned value server) (raises : ∀ server error, before server → outcome = .error error →
      promise.raised (.declaration error) server) : Triple before (checked outcome) promise := by
  cases outcome with
  | ok value => exact Triple.pure (fun server start => returns server value start rfl)
  | error error => exact Triple.fail (fun server start => raises server error start rfl)

theorem checked_ok {α β : Type} {value : α} {rest : α → Runner β}
    {promise : Promise Server Failure β} (later : Triple before (rest value) promise) :
    Triple before (checked (.ok value) >>= rest) promise := later

theorem expectV2_triple {failure : Failure}
    (stays : ∀ server, before server → promise.interrupted server)
    (returns : ∀ server, before server → server.working.shape = .v2 → promise.returned () server) (raises : ∀ server, before server → server.working.shape ≠ .v2 →
      promise.raised failure server) : Triple before (expectV2 failure) promise := by
  refine Triple.bind (fun shape server => before server ∧ shape = server.working.shape)
    (query_triple stays ?_ nofun) (fun shape => ?_)
  · intro server value start read
    cases read
    exact ⟨start, rfl⟩
  · by_cases final : shape = .v2
    · rw [if_neg (not_not_intro final)]
      exact Triple.pure (fun server reached =>
        returns server reached.1 (reached.2.symm.trans final))
    · rw [if_pos final]
      exact Triple.fail (fun server reached =>
        raises server reached.1 (fun same => final (reached.2.trans same)))

/-! ## Filling the staging table -/

/-- No new column is set. -/
def StagingRow.IsBlank (row : StagingRow) : Prop := row.position = none ∧ row.checksum = none

/-- The staged form of the legacy rows: each row is blank or has its declared values. -/
structure Staged (chosen : List Migration) (legacy : List LegacyRow) (rows : List StagingRow) :
    Prop where
  same : rows.map StagingRow.legacy = legacy
  each : ∀ row ∈ rows, row.IsBlank ∨ row.filled chosen = row

theorem legacy_names (rows : List StagingRow) :
    (rows.map StagingRow.legacy).map LegacyRow.name = rows.map StagingRow.name := by
  rw [List.map_map]
  rfl

theorem StagingRow.filled_legacy (chosen : List Migration) (row : StagingRow) :
    (row.filled chosen).legacy = row.legacy := by
  unfold StagingRow.filled
  split <;> rfl

theorem StagingRow.filled_filled (chosen : List Migration) (row : StagingRow) :
    (row.filled chosen).filled chosen = row.filled chosen := by
  have name : (row.filled chosen).name = row.name :=
    congrArg LegacyRow.name (row.filled_legacy chosen)
  cases known : expectedByName chosen row.name with
  | none | some => simp only [StagingRow.filled, known]

/-- A filled table is still staged. -/
theorem Staged.fill {chosen : List Migration} {legacy : List LegacyRow} {rows : List StagingRow}
    (staged : Staged chosen legacy rows) :
    Staged chosen legacy (rows.map (StagingRow.filled chosen)) where
  same := by
    rw [List.map_map, ← staged.same]
    exact List.map_congr_left (fun row _ => row.filled_legacy chosen)
  each := by
    intro row listed
    obtain ⟨first, _, rfl⟩ := List.mem_map.mp listed
    exact Or.inr (first.filled_filled chosen)

/-- The update touches only the row of that name. -/
theorem updated_eq {chosen : List Migration} {row : StagingRow}
    (known : expectedByName chosen row.name = some migration) (blank : row.IsBlank)
    {before rest : List StagingRow} (apart : ∀ other ∈ before ++ rest, other.name ≠ row.name) :
    (before ++ row :: rest).map (StagingRow.updated migration row.name) =
      before ++ row.filled chosen :: rest := by
  have others (part : List StagingRow) (inside : ∀ other ∈ part, other ∈ before ++ rest) :
      part.map (StagingRow.updated migration row.name) = part := by
    refine (List.map_congr_left (fun other listed => ?_)).trans (List.map_id part)
    exact if_neg (fun both => apart other (inside other listed) both.1)
  have first : row.updated migration row.name = row.filled chosen := by
    rw [StagingRow.updated, if_pos ⟨rfl, blank.1, blank.2⟩, StagingRow.filled, known]
  rw [List.map_append, List.map_cons, first,
    others before (fun other listed => List.mem_append_left rest listed),
    others rest (fun other listed => List.mem_append_right before listed)]

/-- A server whose connection has changed staging rows. -/
def filling (table : Table) (completed : List String) (rows : List StagingRow) : Server :=
  { committed := table, working := .staging rows, completed }

section

variable {plan : List Migration} (declared : Declared plan) {legacy : List LegacyRow}
  (distinct : (legacy.map LegacyRow.name).Nodup) {length : Nat} (fits : Fits plan legacy length)

include declared distinct fits

/-- The loop fills the rows one by one in the connection's view, and never fails. -/
theorem fillRows_triple (before rest : List StagingRow)
    (staged : Staged (plan.take length) legacy (before ++ rest)) (table : Table)
    (completed : List String) :
    Triple
      (fun server => server = filling table completed
        (before.map (StagingRow.filled (plan.take length)) ++ rest))
      (fillRows (expectedByName (plan.take length)) rest)
      { returned := fun _ server => server = filling table completed
          ((before ++ rest).map (StagingRow.filled (plan.take length)))
        raised := fun _ _ => False
        interrupted := fun server => server.committed = table ∧ server.completed = completed } := by
  induction rest generalizing before with
  | nil =>
    refine Triple.pure (fun server start => ?_)
    rw [List.append_nil] at start ⊢
    exact start
  | cons row rest ih =>
    have regroup : before ++ row :: rest = (before ++ [row]) ++ rest := by simp
    have later := ih (before ++ [row]) (regroup ▸ staged)
    rw [← regroup, List.map_append, List.append_assoc] at later
    have listed : row ∈ before ++ row :: rest := by simp
    obtain ⟨migration, known⟩ := Fits.found declared distinct fits
      (staged.same ▸ List.mem_map_of_mem (f := StagingRow.legacy) listed)
    have known : expectedByName (plan.take length) row.name = some migration := known
    unfold fillRows
    simp only [known]
    obtain blank | set := staged.each row listed
    · have apart : ∀ other ∈ before.map (StagingRow.filled (plan.take length)) ++ rest,
          other.name ≠ row.name := by
        have names : (before.map (StagingRow.filled (plan.take length)) ++ row :: rest).map
            StagingRow.name = legacy.map LegacyRow.name := by
          have kept : (before.map (StagingRow.filled (plan.take length))).map StagingRow.legacy =
              before.map StagingRow.legacy := by
            rw [List.map_map]
            exact List.map_congr_left (fun other _ => other.filled_legacy (plan.take length))
          rw [← staged.same, ← legacy_names, List.map_append (f := StagingRow.legacy), kept,
            ← List.map_append]
        have nodup := names ▸ distinct
        rw [List.map_append, List.map_cons, List.nodup_middle, List.nodup_cons,
          ← List.map_append] at nodup
        intro other inside same
        exact nodup.1 (List.mem_map.mpr ⟨other, inside, same⟩)
      have updated := updated_eq known blank apart
      obtain ⟨position, checksum⟩ := blank
      simp only [position, checksum]
      refine Triple.bind (fun _ server => server = filling table completed
        (before.map (StagingRow.filled (plan.take length)) ++
          row.filled (plan.take length) :: rest))
        (rowStatement_triple ?_ ?_ ?_) (fun _ => later)
      · rintro server rfl
        exact ⟨rfl, rfl⟩
      · rintro server table' rfl read
        simp only [filling, updateStaging, updated] at read
        cases read
        rfl
      · rintro server failure rfl read
        cases read
    · have position : row.position = some migration.position := by
        rw [← set, StagingRow.filled, known]
      have checksum : row.checksum = some migration.checksum := by
        rw [← set, StagingRow.filled, known]
      simp only [position, checksum, ne_eq, not_true_eq_false, or_self, if_false]
      simp only [List.map_cons, set, List.map_nil, List.cons_append, List.nil_append] at later
      exact later

/-- From a staged table to the adopted one. -/
theorem fillStagingHistory_triple {rows : List StagingRow}
    (staged : Staged (plan.take length) legacy rows) (completed : List String) :
    Triple (fun server => server = { Server.at (.staging rows) with completed })
      (fillStagingHistory plan)
      { returned := fun _ server => server =
          { Server.at (.v2 (legacy.map (adoptedRow (plan.take length)))) with completed }
        raised := fun _ _ => False
        interrupted := fun server => server.completed = completed ∧
          ((∃ rows, server.committed = .staging rows ∧ Staged (plan.take length) legacy rows) ∨
            server.committed = .v2 (legacy.map (adoptedRow (plan.take length)))) } := by
  have names : rows.map StagingRow.name = legacy.map LegacyRow.name := by
    rw [← staged.same, legacy_names]
  have validated : validateLegacyHistory (rows.map StagingRow.name) plan = .ok length := by
    rw [names]
    exact fits
  have final := Fits.finalize declared distinct fits staged.same
  refine Triple.step_at rfl ⟨rfl, Or.inl ⟨rows, rfl, staged⟩⟩ ?_
  rw [validated]
  refine checked_ok (Triple.bind (fun _ server => server = filling (.staging rows) completed
      (rows.map (StagingRow.filled (plan.take length)))) ?_ (fun _ => ?_))
  · refine (fillRows_triple declared distinct fits [] rows staged (.staging rows) completed).weaken
      (fun _ start => start) (fun _ _ reached => reached) (fun _ _ impossible => impossible) ?_
    rintro server ⟨committed, kept⟩
    exact ⟨kept, Or.inl ⟨rows, committed, staged⟩⟩
  refine Triple.step_at rfl ⟨rfl, Or.inl ⟨rows, rfl, staged⟩⟩ ?_
  refine Triple.bind (fun _ server => server =
      { Server.at (.v2 (legacy.map (adoptedRow (plan.take length)))) with completed })
    (schemaStatement_triple ?_ ?_ ?_) (fun _ => ?_)
  · rintro server rfl
    exact ⟨rfl, Or.inl ⟨_, rfl, staged.fill⟩⟩
  · rintro server table rfl finalized
    obtain rfl := Except.ok.inj (finalized.symm.trans final)
    rfl
  · rintro server failure rfl refused
    exact absurd (refused.symm.trans final) nofun
  refine Triple.bind (fun _ server => server =
      { Server.at (.v2 (legacy.map (adoptedRow (plan.take length)))) with completed })
    (expectV2_triple ?_ ?_ ?_) (fun _ => Triple.pure (fun server reached => reached))
  · rintro server rfl
    exact ⟨rfl, Or.inr rfl⟩
  · rintro server rfl _
    rfl
  · rintro server rfl other
    exact other rfl

end

/-! ## Stages of the adoption -/

/-- The tables on the way, given the number of legacy rows. In the first two formats every
legacy row is in place, once. In the final format the history is a declared prefix that covers
the legacy rows. -/
inductive Stage (plan : List Migration) (legacy : List LegacyRow) (length : Nat) : Table → Prop
  | legacy : Stage plan legacy length (.v1 legacy)
  | staging (rows : List StagingRow) (staged : Staged (plan.take length) legacy rows) :
      Stage plan legacy length (.staging rows)
  | final (rows : List HistoryRow) (count : Nat) (longer : length ≤ count)
      (history : historyOf rows = (plan.take count).map Migration.historyRecord) :
      Stage plan legacy length (.v2 rows)

/-- What an uninterrupted adoption makes of a table on the way. -/
def adoptedTable (plan : List Migration) (legacy : List LegacyRow) (length : Nat) : Table → Table
  | .v2 rows => .v2 rows
  | _ => .v2 (legacy.map (adoptedRow (plan.take length)))

/-- A server without open transaction. -/
def settled (table : Table) (completed : List String) : Server :=
  { Server.at table with completed }

section

variable {plan : List Migration} (declared : Declared plan) {legacy : List LegacyRow}
  (distinct : (legacy.map LegacyRow.name).Nodup) {length : Nat} (fits : Fits plan legacy length)

include declared distinct fits

/-- The blank staging table is staged. -/
theorem stageLegacy_triple (adoptLegacy : Bool) (completed : List String) :
    Triple (fun server => server = settled (.v1 legacy) completed)
      (stageLegacy plan adoptLegacy)
      { returned := fun _ server => ∃ rows, server = settled (.staging rows) completed ∧
          Staged (plan.take length) legacy rows
        raised := fun _ server => adoptLegacy = false ∧ server = settled (.v1 legacy) completed
        interrupted := fun server => server = settled (.v1 legacy) completed } := by
  have blank : Staged (plan.take length) legacy (legacy.map (fun row =>
      { name := row.name, appliedAt := row.appliedAt, position := none, checksum := none })) := by
    constructor
    · rw [List.map_map]
      exact List.map_id legacy
    · intro row listed
      obtain ⟨first, _, rfl⟩ := List.mem_map.mp listed
      exact Or.inl ⟨rfl, rfl⟩
  have validated : validateLegacyHistory (legacy.map LegacyRow.name) plan = .ok length := fits
  refine Triple.step_at rfl rfl ?_
  by_cases refused : legacy ≠ [] ∧ adoptLegacy = false
  · rw [if_pos refused]
    refine Triple.bind (fun _ _ => False) (Triple.fail ?_) (fun _ _ impossible => impossible.elim)
    rintro server rfl
    exact ⟨refused.2, rfl⟩
  · rw [if_neg refused, validated]
    refine checked_ok (schemaStatement_triple ?_ ?_ ?_)
    · rintro server rfl
      rfl
    · rintro server table rfl added
      cases added
      exact ⟨_, rfl, blank⟩
    · rintro server failure rfl refused
      cases refused

/-- An adoption goes on from any stage, and an interruption leaves it at a stage. -/
theorem ensureV2History_triple (adoptLegacy : Bool) {table : Table}
    (stage : Stage plan legacy length table) (completed : List String) :
    Triple (fun server => server = settled table completed) (ensureV2History plan adoptLegacy)
      { returned := fun _ server =>
          server = settled (adoptedTable plan legacy length table) completed
        raised := fun _ server => adoptLegacy = false ∧ server = settled table completed
        interrupted := fun server =>
          server.completed = completed ∧ Stage plan legacy length server.committed } := by
  have filled {rows : List StagingRow} (staged : Staged (plan.take length) legacy rows) :
      Triple (fun server => server = settled (.staging rows) completed) (fillStagingHistory plan)
        { returned := fun _ server =>
            server = settled (.v2 (legacy.map (adoptedRow (plan.take length)))) completed
          raised := fun _ server => adoptLegacy = false ∧ server = settled table completed
          interrupted := fun server =>
            server.completed = completed ∧ Stage plan legacy length server.committed } := by
    refine (fillStagingHistory_triple declared distinct fits staged completed).weaken
      (fun server start => start) (fun _ _ reached => reached)
      (fun _ _ impossible => impossible.elim) ?_
    rintro server ⟨kept, ⟨rows, committed, staged⟩ | committed⟩
    · exact ⟨kept, committed.symm ▸ .staging rows staged⟩
    · exact ⟨kept, committed.symm ▸
        .final _ length (Nat.le_refl _) (Fits.history declared distinct fits)⟩
  unfold ensureV2History fetchHistoryShape
  refine Triple.step_at rfl ⟨rfl, stage⟩ ?_
  cases stage with
  | legacy =>
    refine Triple.bind (fun _ server => ∃ rows, server = settled (.staging rows) completed ∧
        Staged (plan.take length) legacy rows) ?_ (fun _ => ?_)
    · refine (stageLegacy_triple declared distinct fits adoptLegacy completed).weaken
        (fun _ start => start) (fun _ _ reached => reached) (fun _ _ reached => reached) ?_
      rintro server rfl
      exact ⟨rfl, .legacy⟩
    · rintro process ⟨rows, start, staged⟩
      exact filled staged process start
  | staging rows staged => exact filled staged
  | final rows count longer history => exact Triple.pure (fun server start => start)

end

end Snekql.MariadbHistory
