import Snekql.RecordedTarget

/-!
# Recovery of interrupted recorded migrations

On MariaDB an interrupted execution leaves a row that is not complete. `assessRecovery` compares
the observed catalog with the one of the last acknowledgement, and `reconcile` and `resume` act on
such an assessment only if it is still the current one. A structural change without its
acknowledgement is recognised by projecting it on the recorded catalog.
-/

namespace Snekql.RecordedTarget

open Snekql.Splicing (Text joinWith)
open Snekql.Recorded
open Snekql.Programs

/-! ## Structural postconditions -/

/-- Tokens of one rendering, with quoted text byte for byte. -/
def renderingSignature (unicode : Unicode) (sql : Text) :
    Except MigrationError (List (Kind × Text)) := do
  let stream ← tokens unicode sql true
  return stream.map (fun token =>
    let source := slice sql token.start token.stop
    (token.kind, if token.kind == .word then unicode.casefold source else source))

/-- The span of an outermost `DEFAULT NULL`. -/
def nullDefaultSpan (unicode : Unicode) : Int → List Token → Option (Nat × Nat)
  | depth, left :: right :: rest =>
    if left.isPunct '(' then nullDefaultSpan unicode (depth + 1) (right :: rest)
    else if left.isPunct ')' then nullDefaultSpan unicode (depth - 1) (right :: rest)
    else if depth == 0 && left.kind == .word && right.kind == .word &&
        unicode.casefold left.value == "default".toList &&
        unicode.casefold right.value == "null".toList then
      some (left.start, right.stop)
    else nullDefaultSpan unicode depth (right :: rest)
  | _, _ => none

/-- `_remove_null_default`. -/
def removeNullDefault (unicode : Unicode) (sql : Text) : Except MigrationError Text := do
  match nullDefaultSpan unicode 0 (← tokens unicode sql true) with
  | some (start, stop) => return strip (sql.take start ++ sql.drop stop)
  | none => return sql

/-- One declaration in `_project`, or nothing if its column is dropped. -/
def projectPart (unicode : Unicode) (change : Contraction) (part : Text) :
    Except MigrationError (Option Text) := do
  let name ← columnName unicode part true
  if (change.dropped.map some).contains name then return none
  else if (change.required.map some).contains name then
    let intended := (← namedColumn change.after.columns (name.getD [])).definition
    let source ← if (← removeNullDefault unicode intended) = intended then
        removeNullDefault unicode part
      else pure part
    return some (← requiredDefinition unicode source true)
  else return some part

/-- `_project`. -/
def projectContraction (unicode : Unicode) (change : Contraction) (sql : Text) :
    Except MigrationError Text := do
  let split ← splitTable unicode sql true
  let columns ← split.parts.mapM (columnName unicode · true)
  if !(change.required ++ change.dropped).all (fun name => columns.contains (some name)) then
    throw (.schema "observed contraction columns are missing")
  else
    let revised ← split.parts.mapM (projectPart unicode change)
    return split.withParts (revised.filterMap id)

/-- A row as the comparison sees it. -/
def signedRow (unicode : Unicode) (row : CatalogRow) (sql : Text) :
    Except MigrationError (Text × Text × List (Kind × Text)) := do
  return (row.kind, row.name, ← renderingSignature unicode sql)

/-- The row that a contraction changes. -/
def isContracted (change : Contraction) (row : CatalogRow) : Bool :=
  row.kind == "BASE TABLE".toList && row.name == change.before.name

/-- The comparison of `matches_contraction`, which may not understand a rendering. -/
def comparesContraction (unicode : Unicode) (change : Contraction) (before after : Catalog) :
    Except MigrationError Bool := do
  let projected ← before.mapM (fun row => do
    let sql := row.sql.getD []
    let sql ← if isContracted change row then projectContraction unicode change sql else pure sql
    signedRow unicode row sql)
  let actual ← after.mapM (fun row => signedRow unicode row (row.sql.getD []))
  return before.any (isContracted change) && projected.isPerm actual

/-- `matches_contraction`. -/
def matchesContraction (unicode : Unicode) (change : Option Contraction)
    (before after : Catalog) : Bool :=
  match change with
  | none => false
  | some change =>
    change.defaults.isEmpty && change.relaxed.isEmpty && change.addedChecks.isEmpty &&
      change.removedChecks.isEmpty &&
      (comparesContraction unicode change before after).toOption.getD false

/-! ## Assessment -/

inductive Disposition where
  | retryRemaining
  | finish
  | ambiguous
  | reconcileStructural
deriving DecidableEq, Repr

structure Recovery where
  prepared : Prepared
  acknowledgedSteps : Nat
  catalogDigest : String
  disposition : Disposition
  explanation : Text
  beforeCatalog : Catalog
  observedCatalog : Catalog
  beforeProfile : List Text
  observedProfile : List Text
deriving DecidableEq, Repr

variable (engine : Engine)

/-- `_require_recovery_access`. -/
def requireRecoveryAccess (prepared : Prepared) (excluded : Bool) : Action Unit := do
  requireExecutionEpoch prepared.executionEpoch
  demand (!engine.sqlite && excluded)
    "recovery requires MariaDB with external schema writers excluded" []
  demand (prepared.targetId == engine.targetId && prepared.package.draft.target.backend == .mariadb)
    "recovery plan belongs to another target" []
  let _ ← lift (loadPackage engine prepared.package)
  pure ()

/-- The incomplete row of the plan. -/
def pendingRow (prepared : Prepared) (rows : List Row) : Except MigrationError Row :=
  let missing : MigrationError :=
    .package "no unique incomplete execution matches this package" []
  match rows.filter (fun row => row.phase ≠ .complete) with
  | [row] =>
    if row.digest ≠ engine.packageDigest prepared.package then .error missing
    else if row.plan ≠ engine.planDigest prepared then
      .error (.package "recovery requires the original reviewed prepared plan" [])
    else .ok row
  | _ => .error missing

/-- The catalog is the one of the last acknowledgement. -/
def assessMatching (prepared : Prepared) (acknowledged : Nat) (observation : Catalog) :
    Action (Disposition × Text) := do
  checkRemovalAuthority engine prepared.package (some acknowledged)
  if ← transactionalObstacles engine then
    return (.ambiguous,
      "transactional recovery is not proven with non-InnoDB tables, triggers or stored routines".toList)
  else
    let explanation :=
      "catalog matches the last durable acknowledgement; transactional updates and their markers commit together".toList
    if acknowledged ≠ prepared.steps.length then return (.retryRemaining, explanation)
    else
      indexRemovalEnvironment engine prepared.package
      let database ← io .read
      match engine.mariadbPresenceObstacle prepared.package database.log observation with
      | some obstacle => return (.ambiguous, obstacle)
      | none => return (.finish, explanation)

/-- The catalog is another one. -/
def assessDiffering (prepared : Prepared) (row : Row) (observation : Catalog)
    (profile : List Text) : Action (Disposition × Text) := do
  let ambiguous : Disposition × Text := (.ambiguous,
    "catalog differs from the last acknowledgement; structural completion needs reconciliation".toList)
  if row.acknowledged < prepared.steps.length &&
      !((profile[1]?.getD []).splitOn ',').contains "NO_BACKSLASH_ESCAPES".toList then
    if ← transactionalObstacles engine then return ambiguous
    else if matchesContraction engine.grammar.unicode
        (prepared.package.entries[row.acknowledged]?.bind Entry.contraction)
        row.observation.catalog observation then
      return (.reconcileStructural,
        "the entire observed catalog matches exactly the next planned contraction; explicit acceptance is required".toList)
    else return ambiguous
  else return ambiguous

/-- The classification in `_assess_recovery`. -/
def classify (prepared : Prepared) (row : Row) (observation : Catalog) (profile : List Text) :
    Action (Disposition × Text) :=
  match engine.mariadbDeclarationObstacle prepared.package.draft.target with
  | some obstacle => return (.ambiguous, obstacle)
  | none =>
    if row.observation.profile ≠ profile then
      return (.ambiguous,
        "server/session rendering profile differs from the acknowledged observation".toList)
    else if engine.catalogDigest observation = row.catalog then
      assessMatching engine prepared row.acknowledged observation
    else assessDiffering engine prepared row observation profile

/-- `_assess_recovery`. -/
def assessRecovery (prepared : Prepared) : Action Recovery := do
  let rows ← history engine
  let row ← lift (pendingRow engine prepared rows)
  let _ ← lift (checkHistory engine prepared.package
    (rows.filter (fun row => row.phase = .complete)))
  indexRemovalEnvironment engine prepared.package
  checkAdditionEnvironment engine prepared.package
  let observation ← catalog engine
  let profile ← renderingProfile engine
  demand (engine.catalogDigest row.observation.catalog == row.catalog)
    "recorded observation does not match the acknowledged catalog" []
  demand (row.total == prepared.steps.length && row.acknowledged ≤ prepared.steps.length)
    "invalid recorded progress" []
  let (disposition, explanation) ← classify engine prepared row observation profile
  return {
    prepared
    acknowledgedSteps := row.acknowledged
    catalogDigest := engine.catalogDigest observation
    disposition
    explanation
    beforeCatalog := row.observation.catalog
    observedCatalog := observation
    beforeProfile := row.observation.profile
    observedProfile := profile }

/-- `inspect_recovery`. -/
def inspectRecovery (prepared : Prepared) (schemaWritersExcluded : Bool) : Action Recovery := do
  requireOpen
  requireRecoveryAccess engine prepared schemaWritersExcluded
  coordinated engine false (assessRecovery engine prepared)

/-- The acceptance of a structural postcondition, in a transaction of its own. -/
def acceptStructure (current : Recovery) (reason : Text) : Action Unit := do
  let digest := engine.packageDigest current.prepared.package
  let rows ← history engine
  let row ← lift (match rows.find? (fun row => row.digest == digest) with
    | some row => .ok row
    | none => .error .stopIteration)
  let observation ← catalog engine
  let acceptance : Reconciliation :=
    { step := current.acknowledgedSteps + 1
      reason := strip reason
      beforeDigest := row.catalog
      afterDigest := current.catalogDigest
      beforeCatalog := current.beforeCatalog
      afterCatalog := current.observedCatalog
      renderingProfile := current.observedProfile }
  perform .begin
  let recorded ← recordObservation engine observation
  record false (updateRows digest (fun updated => { updated with
    acknowledged := acceptance.step
    catalog := current.catalogDigest
    observation := recorded
    reconciliations := row.reconciliations ++ [acceptance] }))
  perform .commit

/-- `reconcile`. -/
def reconcile (recovery : Recovery) (reason : Text) (schemaWritersExcluded : Bool) :
    Action Recovery := do
  demand (!isBlank reason) "reconciliation requires a nonempty review reason" []
  requireOpen
  requireRecoveryAccess engine recovery.prepared schemaWritersExcluded
  coordinated engine false do
    let current ← assessRecovery engine recovery.prepared
    demand (current == recovery && current.disposition == .reconcileStructural)
      "reconciliation evidence is stale or does not prove a supported structural transition" []
    acceptStructure engine current reason
    assessRecovery engine recovery.prepared

/-- `resume`. -/
def resume (recovery : Recovery) (schemaWritersExcluded : Bool) : Action Unit := do
  requireOpen
  requireRecoveryAccess engine recovery.prepared schemaWritersExcluded
  coordinated engine false do
    let current ← assessRecovery engine recovery.prepared
    demand (current == recovery &&
        (current.disposition == .retryRemaining || current.disposition == .finish))
      "recovery evidence is stale or ambiguous; inspect before continuing" []
    executePackage engine recovery.prepared (some current.acknowledgedSteps)

/-! ## The methods of a target -/

inductive Operation where
  | prepare (package : Package) (schemaWritersExcluded preserveUnmanaged : Bool)
  | apply (prepared : Prepared)
  | inspectRecovery (prepared : Prepared) (schemaWritersExcluded : Bool)
  | reconcile (recovery : Recovery) (reason : Text) (schemaWritersExcluded : Bool)
  | resume (recovery : Recovery) (schemaWritersExcluded : Bool)
deriving DecidableEq, Repr

inductive Result where
  | prepared (plan : Prepared)
  | applied (now : Bool)
  | assessed (recovery : Recovery)
deriving DecidableEq, Repr

def method : Operation → Action Result
  | .prepare package excluded preserve => do
      return .prepared (← prepare engine package excluded preserve)
  | .apply prepared => do return .applied (← apply engine prepared)
  | .inspectRecovery prepared excluded => do
      return .assessed (← inspectRecovery engine prepared excluded)
  | .reconcile recovery reason excluded => do
      return .assessed (← reconcile engine recovery reason excluded)
  | .resume recovery excluded => do
      resume engine recovery excluded
      return .applied true

end Snekql.RecordedTarget
