import Snekql.RecordedRecovery

/-!
# The checks of a target only read

Between its writes a target asks the engine whether it may go on. Such a routine makes no calls
but reads, and raises as soon as one of them fails. So on either backend it leaves the database
as it is.
-/

namespace Snekql.RecordedTarget

open Snekql.Splicing (Text)
open Snekql.Recorded
open Snekql.Programs
open Snekql.Sessions (Call Reply)

variable {α β : Type}

/-- The routine only reads, and gives up when a read fails. -/
def Reads : Action α → Prop
  | .ret _ => True
  | .raise _ => True
  | .call request next =>
    request = .read ∧ (∀ database, Reads (next (.returned database))) ∧
      ∀ reply, (∀ database, reply ≠ .returned database) → ∃ stop, next reply = .raise stop

namespace Reads

theorem bind {action : Action α} {rest : α → Action β} (first : Reads action)
    (second : ∀ value, Reads (rest value)) : Reads (action >>= rest) := by
  induction action with
  | ret value => exact second value
  | raise stop => trivial
  | call request next ih =>
    obtain ⟨isRead, reads, fails⟩ := first
    refine ⟨isRead, fun database => ih _ (reads database), ?_⟩
    intro reply failed
    obtain ⟨stop, raised⟩ := fails reply failed
    exact ⟨stop, congrArg (Routine.bind · rest) raised⟩

theorem read : Reads (io .read) := by
  refine ⟨rfl, fun _ => trivial, ?_⟩
  rintro (database | _) failed
  · exact absurd rfl (failed database)
  all_goals exact ⟨_, rfl⟩

theorem demand {condition : Bool} {message : String} {about : List Text} :
    Reads (RecordedTarget.demand condition message about) := by
  cases condition <;> trivial

theorem lift {outcome : Except MigrationError α} : Reads (RecordedTarget.lift outcome) := by
  cases outcome <;> trivial

theorem onlyIf {condition : Bool} {action : Action Unit} (reads : Reads action) :
    Reads (RecordedTarget.onlyIf condition action) := by
  cases condition with
  | false => trivial
  | true => exact reads

theorem each {ι : Type} {body : ι → Action Unit} (reads : ∀ element, Reads (body element))
    (elements : List ι) : Reads (Routine.each body elements) := by
  induction elements with
  | nil => trivial
  | cons first rest ih => exact bind (reads first) (fun _ => ih)

end Reads

variable (engine : Engine)

theorem query_reads (sql : Text) (params : List Parameter) : Reads (query engine sql params) :=
  Reads.read.bind (fun _ => trivial)

theorem catalog_reads : Reads (catalog engine) := Reads.read.bind (fun _ => Reads.lift)

theorem renderingProfile_reads : Reads (renderingProfile engine) := by
  unfold renderingProfile
  split
  · trivial
  · exact Reads.read.bind (fun _ => trivial)

theorem recordObservation_reads (catalog : Catalog) :
    Reads (recordObservation engine catalog) :=
  (renderingProfile_reads engine).bind (fun _ => trivial)

theorem history_reads : Reads (history engine) := by
  refine Reads.read.bind (fun database => ?_)
  split
  · trivial
  · refine Reads.read.bind (fun database => ?_)
    split
    · trivial
    · exact Reads.read.bind (fun _ => trivial)

theorem checkAdditionEnvironment_reads (package : Package) :
    Reads (checkAdditionEnvironment engine package) := by
  unfold checkAdditionEnvironment
  split
  · trivial
  · exact (query_reads engine _ _).bind (fun _ => Reads.demand)

theorem checkRemovalAuthority_reads (package : Package) (step : Option Nat) :
    Reads (checkRemovalAuthority engine package step) := by
  unfold checkRemovalAuthority
  split
  · trivial
  · exact Reads.each (fun change => Reads.each (fun name =>
      (query_reads engine _ _).bind (fun _ => Reads.demand)) _) _

theorem indexRemovalEnvironment_reads (package : Package) :
    Reads (indexRemovalEnvironment engine package) := by
  unfold indexRemovalEnvironment
  split
  · trivial
  · exact (query_reads engine _ _).bind (fun _ => (query_reads engine _ _).bind (fun _ =>
      (query_reads engine _ _).bind (fun _ => Reads.demand)))

theorem checkRequired_reads (step : ExecutionStep) : Reads (checkRequired engine step) :=
  (Reads.each (fun _ => (query_reads engine _ _).bind (fun _ => Reads.demand)) _).bind (fun _ =>
    Reads.onlyIf ((query_reads engine _ _).bind (fun _ => Reads.lift.bind (fun _ =>
      Reads.demand))))

theorem validateCopyContract_reads (step : ExecutionStep) :
    Reads (validateCopyContract engine step) := by
  unfold validateCopyContract
  split
  · trivial
  · exact (query_reads engine _ _).bind (fun _ => Reads.lift.bind (fun _ => Reads.demand))

theorem validateCopiedValues_reads (tables : Text × Text) (dropped : List Text) :
    Reads (validateCopiedValues engine tables dropped) :=
  (query_reads engine _ _).bind (fun _ => Reads.lift.bind (fun _ =>
    (query_reads engine _ _).bind (fun _ => Reads.lift.bind (fun _ =>
      Reads.each (fun _ => (query_reads engine _ _).bind (fun _ => Reads.demand)) _))))

theorem triggerProbe_reads (table : Text) (event : Option Text) :
    Reads (triggerProbe engine table event) := by
  unfold triggerProbe
  split
  · trivial
  · split
    · trivial
    · split
      · exact (query_reads engine _ _).bind (fun _ => trivial)
      · trivial

theorem validateTrigger_reads (owner : Text) (definition : Parameter) :
    Reads (validateTrigger engine owner definition) :=
  Reads.lift.bind (fun _ => Reads.lift.bind (fun _ => (triggerProbe_reads engine _ _).bind (fun _ =>
    (query_reads engine _ _).bind (fun _ => trivial))))

theorem validateTriggers_reads : Reads (validateTriggers engine) :=
  (query_reads engine _ _).bind (fun _ => Reads.lift.bind (fun _ =>
    Reads.each (fun _ => validateTrigger_reads engine _ _) _))

theorem checkCopy_reads (step : ExecutionStep) (count : Option Parameter) (position : Nat) :
    Reads (checkCopy engine step count position) := by
  unfold checkCopy
  split
  · trivial
  · split
    · trivial
    · exact (query_reads engine _ _).bind (fun _ => Reads.lift.bind (fun _ =>
        Reads.demand.bind (fun _ => validateCopiedValues_reads engine _ _)))

theorem readSequence_reads (table : Option Text) : Reads (readSequence engine table) := by
  unfold readSequence
  split
  · exact query_reads engine _ _
  · trivial

theorem countRows_reads (step : ExecutionStep) : Reads (countRows engine step) := by
  unfold countRows
  split
  · trivial
  · exact (query_reads engine _ _).bind (fun _ => Reads.lift.bind (fun _ => trivial))

theorem checkForeignKeys_reads (prepared : Prepared) : Reads (checkForeignKeys engine prepared) :=
  Reads.onlyIf ((query_reads engine _ _).bind (fun _ => Reads.demand))

theorem checkCompleted_reads (package : Package) (completed : Catalog) :
    Reads (checkCompleted engine package completed) := by
  unfold checkCompleted
  split
  · exact Reads.lift
  · refine (indexRemovalEnvironment_reads engine package).bind (fun _ =>
      Reads.read.bind (fun database => ?_))
    split <;> trivial

theorem admitPackage_reads (package : Package) (objects : Catalog) :
    Reads (admitPackage engine package objects) :=
  (indexRemovalEnvironment_reads engine package).bind (fun _ =>
    (checkAdditionEnvironment_reads engine package).bind (fun _ =>
      (checkRemovalAuthority_reads engine package none).bind (fun _ => Reads.lift)))

theorem admitPlan_reads (prepared : Prepared) (objects : Catalog) :
    Reads (admitPlan engine prepared objects) :=
  (admitPackage_reads engine _ objects).bind (fun _ => Reads.demand.bind (fun _ =>
    Reads.lift.bind (fun _ => Reads.demand)))

end Snekql.RecordedTarget
